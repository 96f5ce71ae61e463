import ToolGateway.Settings.Layer

/-!
# Layers are laid key by key

A setting is an entry of a table, and what a layer has to say about it are the values that it writes
there: those under its name in the table of its name, whichever case the names are in, and those of keys
that are paths to it (`writes`). When a layer is laid over others, each of these values is laid over what
the entry was, and nothing else happens to the entry (`held?_overlay`): the other entries of its table
keep what they have, and so do other tables.

This asks of a layer that it treats the table as one: where it gives the table a value, that is a table,
and no path leads through the table to anything but its entries (`Orderly`).
-/

namespace ToolGateway

namespace SettingValue

/-- A value that is a table. -/
def IsTable (value : SettingValue) : Prop := ∃ members, value = .table members

end SettingValue

namespace SettingLayer

open SettingValue (IsTable)

/-! ## Entries -/

/-- The value that a layer holds at an entry of a table. What is no table has no entries. -/
def held? (layer : SettingLayer) (table name : String) : Option SettingValue :=
  (Members.find? layer table).bind fun value => Members.find? value.members name

/-- The value of a name, if there is one, is a table. -/
def TableAt (layer : SettingLayer) (table : String) : Prop :=
  ∀ value, Members.find? layer table = some value → value.IsTable

/-- A value after others have been laid over it, one after the other. -/
def layAll (below : Option SettingValue) (values : List SettingValue) : Option SettingValue :=
  values.foldl (fun below value => some (overlayValue value below)) below

@[simp]
theorem layAll_nil (below : Option SettingValue) : layAll below [] = below := rfl

@[simp]
theorem layAll_cons (below : Option SettingValue) (value : SettingValue)
    (values : List SettingValue) :
    layAll below (value :: values) = layAll (some (overlayValue value below)) values := rfl

theorem layAll_append (below : Option SettingValue) (first second : List SettingValue) :
    layAll below (first ++ second) = layAll (layAll below first) second := List.foldl_append

/-! ## What a layer writes to an entry -/

/-- The values of a name in a table, whichever case the name is in. -/
def valuesOf (name : String) (members : List (String × SettingValue)) : List SettingValue :=
  (members.filter fun member => lowerKey member.1 = name).map Prod.snd

/-- The values that an assignment writes to an entry of a table. -/
def writesAt (table name : String) : SettingPath → SettingValue → List SettingValue
  | [.entry t], .table members => if lowerKey t = table then valuesOf name members else []
  | [.entry t, .entry e], value => if lowerKey t = table ∧ lowerKey e = name then [value] else []
  | _, _ => []

/-- The values that a layer writes to an entry of a table, in their order. -/
def writes (layer : SettingLayer) (table name : String) : List SettingValue :=
  layer.flatMap fun (key, value) => writesAt table name (SettingPath.ofKey (lowerKey key)) value

theorem writes_cons (key : String) (value : SettingValue) (layer : SettingLayer)
    (table name : String) : writes ((key, value) :: layer) table name =
      writesAt table name (SettingPath.ofKey (lowerKey key)) value ++ layer.writes table name :=
  List.flatMap_cons

/-- An assignment that treats a table as one, and the entry of a name as an entry. -/
inductive Orderly (table name : String) : SettingPath → SettingValue → Prop where
  | whole {t : String} {members : List (String × SettingValue)} :
      Orderly table name [.entry t] (.table members)
  | entry {t e : String} {value : SettingValue} : Orderly table name [.entry t, .entry e] value
  | beside {t e : String} {path : SettingPath} {value : SettingValue} (other : lowerKey e ≠ name) :
      Orderly table name (.entry t :: .entry e :: path) value
  | elsewhere {t : String} {path : SettingPath} {value : SettingValue} (other : lowerKey t ≠ table) :
      Orderly table name (.entry t :: path) value

/-! ## One assignment -/

theorem find?_overlayEntries (members : List (String × SettingValue)) (below : Members SettingValue)
    (name : String) : Members.find? (overlayEntries members below) name =
      layAll (Members.find? below name) (valuesOf name members) := by
  induction members generalizing below with
  | nil => rfl
  | cons member rest ih =>
    rw [overlayEntries, ih, Members.find?_put]
    by_cases same : lowerKey member.1 = name
    · subst same
      simp [valuesOf]
    · simp [valuesOf, same, Ne.symm same]

/-- A table laid over what is there adds its entries to those there. -/
theorem find?_members_overlayValue (members : List (String × SettingValue))
    (below : Option SettingValue) (name : String) :
    Members.find? (overlayValue (.table members) below).members name =
      layAll (below.bind fun value => Members.find? value.members name) (valuesOf name members) := by
  cases members with
  | nil => cases below <;> rfl
  | cons member rest =>
    rw [overlayValue]
    show Members.find? (overlayEntries _ _) name = _
    rw [find?_overlayEntries]
    cases below <;> rfl

theorem isTable_overlayValue {members : List (String × SettingValue)} {below : Option SettingValue}
    (tables : ∀ value, below = some value → value.IsTable) :
    (overlayValue (.table members) below).IsTable := by
  cases members with
  | nil =>
    cases below with
    | none => exact ⟨_, rfl⟩
    | some value => exact tables value rfl
  | cons member rest => exact ⟨_, rfl⟩

theorem held?_put (below : SettingLayer) (t : String) (value : SettingValue) (table name : String) :
    held? (Members.put below t value) table name =
      if table = t then Members.find? value.members name else below.held? table name := by
  rw [held?, Members.find?_put]
  split <;> rfl

/-- What is left of the layers below after an assignment. -/
def assign (below : SettingLayer) (path : SettingPath) (value : SettingValue) : SettingLayer :=
  (overlayAt value path (.table below)).members

theorem assign_name (below : SettingLayer) (t : String) (value : SettingValue) :
    below.assign [.entry t] value = Members.put below (lowerKey t)
      (overlayValue value (Members.find? below (lowerKey t))) := rfl

theorem assign_path (below : SettingLayer) (t : String) (step : SettingStep) (path : SettingPath)
    (value : SettingValue) :
    below.assign (.entry t :: step :: path) value = Members.put below (lowerKey t)
      (overlayAt value (step :: path) ((Members.find? below (lowerKey t)).getD .unset)) := rfl

/-- What a table, or something that is no table, holds under a name. -/
theorem find?_members_getD (below : Option SettingValue) (name : String) :
    Members.find? (below.getD .unset).members name =
      below.bind fun value => Members.find? value.members name := by
  cases below <;> rfl

/-- An assignment writes to an entry what it is said to write there, and nothing else. -/
theorem held?_assign {table name : String} {path : SettingPath} {value : SettingValue}
    (orderly : Orderly table name path value) (below : SettingLayer) :
    (below.assign path value).held? table name =
      layAll (below.held? table name) (writesAt table name path value) := by
  cases orderly with
  | @whole t members =>
    rw [assign_name, held?_put, writesAt]
    by_cases here : lowerKey t = table
    · rw [if_pos here.symm, if_pos here, here, find?_members_overlayValue, held?]
    · rw [if_neg (Ne.symm here), if_neg here, layAll_nil]
  | @entry t e value =>
    rw [assign_path, held?_put, overlayAt, writesAt]
    by_cases here : lowerKey t = table
    · rw [if_pos here.symm, here]
      show Members.find? (overlayEntries _ _) name = _
      rw [find?_overlayEntries, find?_members_getD, held?]
      by_cases same : lowerKey e = name <;> simp [valuesOf, same]
    · rw [if_neg (Ne.symm here), if_neg fun both => here both.1, layAll_nil]
  | @beside t e path value other =>
    -- however far the path goes, it only changes the entry that it leads through
    have unwritten : writesAt table name (.entry t :: .entry e :: path) value = [] := by
      cases path with
      | nil => rw [writesAt, if_neg fun both => other both.2]
      | cons step path => rfl
    rw [assign_path, held?_put, unwritten, layAll_nil]
    split
    next here =>
      subst here
      cases path with
      | nil =>
        show Members.find? (overlayEntries _ _) name = _
        rw [find?_overlayEntries, find?_members_getD, held?]
        simp [valuesOf, other]
      | cons step path =>
        show Members.find? (Members.put _ _ _) name = _
        rw [Members.find?_put, if_neg (Ne.symm other), find?_members_getD, held?]
    next => rfl
  | @elsewhere t path value other =>
    have unwritten : writesAt table name (.entry t :: path) value = [] := by
      unfold writesAt
      split
      next same =>
        obtain ⟨rfl, -⟩ : t = _ ∧ path = [] := by simpa using same
        exact if_neg other
      next same =>
        obtain ⟨rfl, -⟩ : t = _ ∧ path = _ := by simpa using same
        exact if_neg fun both => other both.1
      next => rfl
    rw [unwritten, layAll_nil]
    cases path with
    | nil => rw [assign_name, held?_put, if_neg (Ne.symm other)]
    | cons step path => rw [assign_path, held?_put, if_neg (Ne.symm other)]

theorem tableAt_put {below : SettingLayer} {table t : String} {value : SettingValue}
    (tables : below.TableAt table) (isTable : t = table → value.IsTable) :
    TableAt (Members.put below t value) table := by
  intro found placed
  rw [Members.find?_put] at placed
  split at placed
  next here =>
    obtain rfl := Option.some.inj placed
    exact isTable here.symm
  next => exact tables found placed

/-- A table stays a table. -/
theorem tableAt_assign {table name : String} {path : SettingPath} {value : SettingValue}
    (orderly : Orderly table name path value) {below : SettingLayer} (tables : below.TableAt table) :
    (below.assign path value).TableAt table := by
  cases orderly with
  | whole =>
    rw [assign_name]
    refine tableAt_put tables fun here => isTable_overlayValue ?_
    rw [here]
    exact tables
  | entry =>
    rw [assign_path]
    exact tableAt_put tables fun _ => ⟨_, rfl⟩
  | @beside t e path =>
    rw [assign_path]
    refine tableAt_put tables fun _ => ?_
    cases path with
    | nil | cons => exact ⟨_, rfl⟩
  | @elsewhere t path value other =>
    cases path with
    | nil =>
      rw [assign_name]
      exact tableAt_put tables fun here => absurd here other
    | cons =>
      rw [assign_path]
      exact tableAt_put tables fun here => absurd here other

/-! ## Layers -/

/-- Every assignment of a layer is orderly for an entry. -/
def OrderlyAt (layer : SettingLayer) (table name : String) : Prop :=
  ∀ member ∈ layer, Orderly table name (SettingPath.ofKey (lowerKey member.1)) member.2

theorem overlay_cons (key : String) (value : SettingValue) (layer below : SettingLayer) :
    overlay ((key, value) :: layer) below =
      overlay layer (below.assign (SettingPath.ofKey (lowerKey key)) value) := by
  rw [overlay, overlay, List.foldl_cons, assign]

/-- **Layers are laid key by key.** After a layer has been laid over others, an entry of a table is what
it was with the values laid over it that the layer writes there. -/
theorem held?_overlay {layer : SettingLayer} {table name : String}
    (orderly : layer.OrderlyAt table name) (below : SettingLayer) :
    (layer.overlay below).held? table name =
      layAll (below.held? table name) (layer.writes table name) := by
  induction layer generalizing below with
  | nil => rfl
  | cons member rest ih =>
    obtain ⟨first, others⟩ := List.forall_mem_cons.mp orderly
    rw [overlay_cons, ih others, held?_assign first]
    exact (layAll_append _ _ _).symm

theorem tableAt_overlay {layer : SettingLayer} {table name : String}
    (orderly : layer.OrderlyAt table name) {below : SettingLayer} (tables : below.TableAt table) :
    (layer.overlay below).TableAt table := by
  induction layer generalizing below with
  | nil => exact tables
  | cons member rest ih =>
    obtain ⟨first, others⟩ := List.forall_mem_cons.mp orderly
    rw [overlay_cons]
    exact ih others (tableAt_assign first tables)

/-- The value that a layer gives an entry of a table. -/
def value? (layer : SettingLayer) (table name : String) : Option SettingValue :=
  layAll none (layer.writes table name)

theorem held?_overlay_nil {layer : SettingLayer} {table name : String}
    (orderly : layer.OrderlyAt table name) :
    (layer.overlay []).held? table name = layer.value? table name :=
  held?_overlay orderly []

end SettingLayer

end ToolGateway
