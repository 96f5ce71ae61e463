import ToolGateway.Proofs.Members
import ToolGateway.Proofs.Settings.Keys

/-!
# Variables of the environment

Each of the seven settings has a variable of its own, whose name is the path to its entry. Where the
environment holds no others of this program, a setting with a variable is what the text of the variable
is guessed to be, and all other settings stay as the layers below have them
(`held?_overlay_environment`). It does not matter in which order the variables stand.
-/

namespace ToolGateway

namespace SettingKey

/-- The key that the variable of a setting sets. -/
def path (key : SettingKey) : String := key.table ++ "." ++ key.entry

theorem variableKey?_variableName (key : SettingKey) :
    SettingLayer.variableKey? key.variableName = some key.path := by
  cases key <;> decide +kernel

theorem ofKey_path (key : SettingKey) :
    SettingPath.ofKey (SettingLayer.lowerKey key.path) = [.entry key.table, .entry key.entry] := by
  cases key <;> decide +kernel

theorem lowerKey_table (key : SettingKey) : SettingLayer.lowerKey key.table = key.table := by
  cases key <;> decide +kernel

theorem lowerKey_entry (key : SettingKey) : SettingLayer.lowerKey key.entry = key.entry := by
  cases key <;> decide +kernel

theorem variableName_inj {key other : SettingKey} (same : key.variableName = other.variableName) :
    key = other := by
  have different : ∀ key ∈ all, ∀ other ∈ all, key.variableName = other.variableName →
      key = other := by decide
  exact different key key.mem_all other other.mem_all same

end SettingKey

/-- A guessed value takes the place of what is there. -/
theorem SettingLayer.overlayValue_guess (text : String) (below : Option SettingValue) :
    overlayValue (.guess text) below = .guess text := by
  unfold SettingValue.guess
  split
  · rfl
  split
  · rfl
  split <;> rfl

/-- The variables of this program are those of the seven settings, and no name stands twice. -/
structure Documented (environment : List (String × String)) : Prop where
  differ : (Members.names environment).Nodup
  known : ∀ assigned ∈ environment, (∃ key : SettingKey, assigned.1 = key.variableName) ∨
    SettingLayer.variableKey? assigned.1 = none

namespace Documented

variable {name text : String} {environment : List (String × String)}

theorem tail (documented : Documented ((name, text) :: environment)) : Documented environment :=
  ⟨(List.nodup_cons.mp documented.differ).2,
    fun _ member => documented.known _ (List.mem_cons_of_mem _ member)⟩

theorem fresh (documented : Documented ((name, text) :: environment)) :
    name ∉ Members.names environment :=
  (List.nodup_cons.mp documented.differ).1

end Documented

namespace SettingLayer

variable {environment : List (String × String)}

theorem ofEnvironment_cons_variable (key : SettingKey) (text : String) :
    ofEnvironment ((key.variableName, text) :: environment) =
      (key.path, .guess text) :: ofEnvironment environment := by
  simp [ofEnvironment, key.variableKey?_variableName]

theorem ofEnvironment_cons_other {name : String} (other : variableKey? name = none) (text : String) :
    ofEnvironment ((name, text) :: environment) = ofEnvironment environment := by
  simp [ofEnvironment, other]

/-- The variables only write to entries of tables. -/
theorem orderlyAt_ofEnvironment (documented : Documented environment) (table name : String) :
    (ofEnvironment environment).OrderlyAt table name := by
  intro member given
  obtain ⟨assigned, listed, set⟩ := List.mem_filterMap.mp given
  obtain ⟨path, named, rfl⟩ := Option.map_eq_some_iff.mp set
  rcases documented.known assigned listed with ⟨key, same⟩ | other
  · rw [same, key.variableKey?_variableName] at named
    obtain rfl := Option.some.inj named
    show Orderly table name (SettingPath.ofKey (lowerKey key.path)) _
    rw [key.ofKey_path]
    exact .entry
  · rw [other] at named
    cases named

theorem writesAt_path (key other : SettingKey) (value : SettingValue) :
    writesAt key.table key.entry (SettingPath.ofKey (lowerKey other.path)) value =
      if other = key then [value] else [] := by
  rw [other.ofKey_path, writesAt, other.lowerKey_table, other.lowerKey_entry]
  by_cases same : other = key
  · rw [same, if_pos ⟨rfl, rfl⟩, if_pos rfl]
  · rw [if_neg same, if_neg]
    rintro ⟨table, entry⟩
    exact same (SettingKey.eq_of_table_of_entry table entry)

/-- A setting is written to by its variable alone. -/
theorem writes_ofEnvironment (documented : Documented environment) (key : SettingKey) :
    (ofEnvironment environment).writes key.table key.entry =
      ((Members.find? environment key.variableName).map SettingValue.guess).toList := by
  induction environment with
  | nil => rfl
  | cons assigned rest ih =>
    obtain ⟨name, text⟩ := assigned
    have later := ih documented.tail
    rcases documented.known _ List.mem_cons_self with ⟨other, same⟩ | other
    · obtain rfl : name = other.variableName := same
      rw [ofEnvironment_cons_variable, writes_cons, writesAt_path, later]
      by_cases here : other = key
      · subst here
        simp [Members.find?, Members.find?_of_not_mem documented.fresh]
      · have different : other.variableName ≠ key.variableName :=
          fun same => here (SettingKey.variableName_inj same)
        simp [Members.find?, here, different]
    · have different : name ≠ key.variableName := by
        rintro rfl
        rw [key.variableKey?_variableName] at other
        cases other
      rw [ofEnvironment_cons_other other, later, Members.find?, if_neg different]

/-- **A setting with a variable is what its text is guessed to be.** All others stay as they are in the
layers below. -/
theorem held?_overlay_environment (documented : Documented environment) (below : SettingLayer)
    (key : SettingKey) :
    ((ofEnvironment environment).overlay below).held? key.table key.entry =
      ((Members.find? environment key.variableName).map SettingValue.guess).or
        (below.held? key.table key.entry) := by
  rw [held?_overlay (orderlyAt_ofEnvironment documented _ _), writes_ofEnvironment documented]
  cases Members.find? environment key.variableName with
  | none => rfl
  | some text => simp [overlayValue_guess]

/-- A variable makes a table of what its setting stands in. -/
theorem tableAt_overlay_variable (documented : Documented environment) {key : SettingKey}
    {text : String} (given : Members.find? environment key.variableName = some text)
    (below : SettingLayer) : ((ofEnvironment environment).overlay below).TableAt key.table := by
  induction environment generalizing below with
  | nil => cases given
  | cons assigned rest ih =>
    obtain ⟨name, found⟩ := assigned
    rw [Members.find?] at given
    split at given
    next here =>
      -- this variable makes the table, and the ones after it keep it one
      subst here
      rw [ofEnvironment_cons_variable, overlay_cons, key.ofKey_path]
      refine tableAt_overlay (orderlyAt_ofEnvironment documented.tail key.table key.entry) ?_
      intro value placed
      rw [assign_path, key.lowerKey_table, Members.find?_put, if_pos rfl] at placed
      exact ⟨_, (Option.some.inj placed).symm⟩
    next =>
      rcases documented.known _ List.mem_cons_self with ⟨other, same⟩ | other
      · obtain rfl : name = other.variableName := same
        rw [ofEnvironment_cons_variable, overlay_cons]
        exact ih documented.tail given _
      · rw [ofEnvironment_cons_other other]
        exact ih documented.tail given below

/-- What is there stays as it is where no setting in it has a variable. -/
theorem find?_overlay_environment (documented : Documented environment) {table : String}
    (unset : ∀ key : SettingKey, key.table = table →
      Members.find? environment key.variableName = none)
    (below : SettingLayer) : Members.find? ((ofEnvironment environment).overlay below) table =
      Members.find? below table := by
  induction environment generalizing below with
  | nil => rfl
  | cons assigned rest ih =>
    obtain ⟨name, text⟩ := assigned
    have later : ∀ key : SettingKey, key.table = table →
        name ≠ key.variableName ∧ Members.find? rest key.variableName = none := by
      intro key inside
      have none := unset key inside
      rw [Members.find?] at none
      split at none
      next => cases none
      next different => exact ⟨different, none⟩
    have ih := ih documented.tail fun key inside => (later key inside).2
    rcases documented.known _ List.mem_cons_self with ⟨other, same⟩ | other
    · obtain rfl : name = other.variableName := same
      have outside : table ≠ other.table := fun inside => (later other inside.symm).1 rfl
      rw [ofEnvironment_cons_variable, overlay_cons, ih, other.ofKey_path, assign_path,
        other.lowerKey_table, Members.find?_put, if_neg outside]
    · rw [ofEnvironment_cons_other other, ih]

end SettingLayer

/-! ## Loading -/

namespace Settings

/-- The layer of the file at a path, and an empty one if none is named. -/
def fileLayer (content : String → Except FileFault (List UInt8)) :
    Option String → Except SettingsError SettingLayer
  | some path => SettingsFile.find content path >>= SettingLayer.ofBytes
  | none => .ok []

theorem load_eq_ok_iff {content : String → Except FileFault (List UInt8)} {file : Option String}
    {environment : List (String × String)} {settings : Settings} :
    load content file environment = .ok settings ↔ ∃ layer, fileLayer content file = .ok layer ∧
      ofLayer? ((SettingLayer.ofEnvironment environment).overlay (layer.overlay [])) =
        some settings := by
  have split : load content file environment =
      fileLayer content file >>= fun layer => ofLayers layer environment := by
    cases file with
    | none => rfl
    | some path =>
      show (SettingsFile.find content path >>= _) = (SettingsFile.find content path >>= _) >>= _
      cases SettingsFile.find content path <;> rfl
  have made : ∀ layer, ofLayers layer environment = .ok settings ↔
      ofLayer? ((SettingLayer.ofEnvironment environment).overlay (layer.overlay [])) =
        some settings := by
    intro layer
    unfold ofLayers
    split
    next same => simp [same]
    next same => simp [same]
  rw [split]
  cases fileLayer content file with
  | error error => exact iff_of_false nofun nofun
  | ok layer =>
    refine (made layer).trans ⟨fun here => ⟨layer, rfl, here⟩, ?_⟩
    rintro ⟨_, ⟨⟩, here⟩
    exact here

end Settings

end ToolGateway
