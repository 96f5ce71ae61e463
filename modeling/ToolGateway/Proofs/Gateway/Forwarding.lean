import ToolGateway.Proofs.Gateway.Marshalling
import ToolGateway.Proofs.Gateway.Outcome

/-!
# What a backend is sent

The request that a backend gets holds what the caller gave: every argument once, with its value, and
nothing else. The fields of the method come first, in the order of their declaration, and then the
extra arguments (`dispatch_forwards`).

In which order the extra arguments come is another matter. A field that is moved to the front leaves a
gap, and the last argument fills it, so extra arguments change places. `Fills` follows them from gap to
gap, and `extras_in_order_iff` tells from it which arguments keep the order in which they were given.
-/

namespace ToolGateway

/-- The fields of a method that are given, in the order of their declaration. -/
def Method.givenFields (method : Method) (arguments : Json.Object) : List String :=
  (method.fields.map Field.name).filter (Members.names arguments).contains

/-- The names that are no fields of a method, in their order. -/
def Method.extras (method : Method) (arguments : Json.Object) : List String :=
  (Members.names arguments).filter fun name => !method.hasField name

theorem Method.mem_givenFields_iff {method : Method} {arguments : Json.Object} {name : String} :
    name ∈ method.givenFields arguments ↔
      method.hasField name = true ∧ name ∈ Members.names arguments := by
  simp [givenFields, hasField]

namespace Tool

/-- The arguments that are left when the fields have been moved to the front. -/
def leftover (tool : Tool) (arguments : Json.Object) : Json.Object :=
  (moveFields (tool.method.fields.map Field.name) [] arguments).2

variable {tool : Tool} {arguments : Json.Object}

theorem names_marshal (declared : tool.method.Declared)
    (differ : (Members.names arguments).Nodup) :
    Members.names (tool.marshal arguments) =
      tool.method.givenFields arguments ++ Members.names (tool.leftover arguments) := by
  have perm := moveFields_perm (tool.method.fields.map Field.name) [] arguments differ
  have joined : tool.marshal arguments = _ :=
    Members.putAll_of_nodup _ _ ((perm.map Prod.fst).nodup_iff.mpr differ)
  have moved := names_moveFields declared.nodup [] arguments differ
  rw [joined, Members.names, List.map_append]
  exact congrArg (· ++ Members.names (tool.leftover arguments)) moved

/-- No field is left behind. -/
theorem not_hasField_of_leftover (declared : tool.method.Declared)
    (differ : (Members.names arguments).Nodup) {name : String}
    (left : name ∈ Members.names (tool.leftover arguments)) :
    tool.method.hasField name = false := by
  have perm := (tool.marshal_perm differ).map Prod.fst
  have request : Members.names (tool.marshal arguments) = _ := names_marshal declared differ
  have once : (Members.names (tool.marshal arguments)).Nodup := perm.nodup_iff.mpr differ
  have given : name ∈ Members.names arguments := by
    refine perm.mem_iff.mp ?_
    rw [← Members.names, request]
    exact List.mem_append_right _ left
  rw [request, List.nodup_append] at once
  by_contra field
  have moved : name ∈ tool.method.givenFields arguments :=
    Method.mem_givenFields_iff.mpr ⟨by simpa using field, given⟩
  exact once.2.2 name moved name left rfl

/-- Behind the fields, the request holds the extra arguments. -/
theorem extras_marshal (declared : tool.method.Declared)
    (differ : (Members.names arguments).Nodup) :
    tool.method.extras (tool.marshal arguments) = Members.names (tool.leftover arguments) := by
  rw [Method.extras, names_marshal declared differ, List.filter_append]
  have fields : (tool.method.givenFields arguments).filter
      (fun name => !tool.method.hasField name) = [] := by
    rw [List.filter_eq_nil_iff]
    intro name member
    simp [(Method.mem_givenFields_iff.mp member).1]
  have extras : (Members.names (tool.leftover arguments)).filter
      (fun name => !tool.method.hasField name) = Members.names (tool.leftover arguments) := by
    rw [List.filter_eq_self]
    intro name member
    simp [not_hasField_of_leftover declared differ member]
  rw [fields, extras, List.nil_append]

theorem extras_perm (differ : (Members.names arguments).Nodup) :
    (tool.method.extras (tool.marshal arguments)).Perm (tool.method.extras arguments) :=
  ((tool.marshal_perm differ).map Prod.fst).filter _

end Tool

/-! ## Which extra argument fills which gap -/

/-- The name that comes to stand at a place when the names `moved` are taken out one after the other,
and the last name fills each gap. A name that stays stands where it stood. The gap of the name that is
taken out as number `turn`, counted from zero, is filled with what comes to stand at the place
`turn + 1` from the end. -/
inductive Fills (names moved : List String) : Nat → String → Prop where
  | stays {place : Nat} {name : String} (here : names[place]? = some name) (stays : name ∉ moved) :
      Fills names moved place name
  | gap {place turn : Nat} {taken name : String} (here : names[place]? = some taken)
      (turns : moved[turn]? = some taken) (last : Fills names moved (names.length - 1 - turn) name) :
      Fills names moved place name

namespace Fills

/-- Two names never fill the same place. -/
theorem unique {names moved : List String} (differ : moved.Nodup) {place : Nat} {name other : String}
    (first : Fills names moved place name) (second : Fills names moved place other) :
    name = other := by
  induction first with
  | stays here stays =>
    cases second with
    | stays hereToo => exact Option.some.inj (here.symm.trans hereToo)
    | gap hereToo turns =>
      obtain rfl := Option.some.inj (here.symm.trans hereToo)
      exact absurd (List.mem_of_getElem? turns) stays
  | gap here turns last ih =>
    cases second with
    | stays hereToo stays =>
      obtain rfl := Option.some.inj (here.symm.trans hereToo)
      exact absurd (List.mem_of_getElem? turns) stays
    | gap hereToo turnsToo lastToo =>
      obtain rfl := Option.some.inj (here.symm.trans hereToo)
      obtain rfl := (List.getElem?_inj (List.getElem?_eq_some_iff.mp turns).1 differ).mp
        (turns.trans turnsToo.symm)
      exact ih lastToo

/-- One step: the name taken out first leaves its gap to the last name, and the others follow. -/
theorem of_gap {names left : List String} {first : String} {gap : Nat}
    (here : names[gap]? = some first) (gone : first ∉ left)
    (length : names.length = left.length + 1)
    (stood : ∀ {place : Nat} {found : String}, left[place]? = some found →
      names[if place = gap then left.length else place]? = some found)
    {moved : List String} {place : Nat} {name : String} (fills : Fills left moved place name) :
    Fills names (first :: moved) place name := by
  -- what fills the gap stood last, so it is enough to follow what stands in `left` where it stood
  have followed : ∀ {place : Nat} {found name : String}, left[place]? = some found →
      (∀ place, names[place]? = some found → Fills names (first :: moved) place name) →
      Fills names (first :: moved) place name := by
    intro place found name stands follow
    have stood := stood stands
    split at stood
    next atGap =>
      rw [atGap]
      refine .gap here List.getElem?_cons_zero ?_
      rw [length]
      exact follow _ stood
    next => exact follow _ stood
  induction fills with
  | @stays place name stands stays =>
    have other : name ≠ first := fun same => gone (same ▸ List.mem_of_getElem? stands)
    exact followed stands fun _ stood => .stays stood (by simp [other, stays])
  | @gap place turn found name stands turns last ih =>
    have turnsNext : (first :: moved)[turn + 1]? = some found := turns
    refine followed stands fun _ stood => .gap stood turnsNext ?_
    have behind : names.length - 1 - (turn + 1) = left.length - 1 - turn := by omega
    rw [behind]
    exact ih

theorem of_take? {arguments left : Json.Object} {first : String} {value : Json}
    (differ : (Members.names arguments).Nodup)
    (taken : Members.take? arguments first = some (value, left)) {moved : List String} {place : Nat}
    {name : String} (fills : Fills (Members.names left) moved place name) :
    Fills (Members.names arguments) (first :: moved) place name := by
  obtain ⟨gap, here, length, stand⟩ := Members.exists_gap_of_take? taken
  have here : (Members.names arguments)[gap]? = some first := by
    rw [Members.names, List.getElem?_map, here]
    rfl
  have gone : first ∉ Members.names left := fun member =>
    ((Members.mem_names_of_take? differ taken).mp member).2 rfl
  have lengthLeft : (Members.names left).length = left.length := List.length_map _
  have length : (Members.names arguments).length = (Members.names left).length + 1 := by
    rw [lengthLeft, Members.names, List.length_map, length]
  refine of_gap here gone length (fun {place found} stands => ?_) fills
  have early : place < left.length := by
    rw [← lengthLeft]
    exact (List.getElem?_eq_some_iff.mp stands).1
  rw [lengthLeft, Members.names, List.getElem?_map, ← stand place early, ← List.getElem?_map]
  exact stands

/-- What is left when fields were moved stands where `Fills` says. -/
theorem of_moveFields {names : List String} (declared : names.Nodup)
    (request arguments : Json.Object) (differ : (Members.names arguments).Nodup) {place : Nat}
    {name : String}
    (stands : (Members.names (Tool.moveFields names request arguments).2)[place]? = some name) :
    Fills (Members.names arguments) (names.filter (Members.names arguments).contains) place name := by
  induction names generalizing request arguments with
  | nil => exact .stays stands List.not_mem_nil
  | cons first rest ih =>
    obtain ⟨fresh, declared⟩ := List.nodup_cons.mp declared
    cases taken : Members.take? arguments first with
    | none =>
      rw [Tool.moveFields_of_absent rest request taken] at stands
      rw [Tool.filter_names_of_absent rest taken]
      exact ih declared request arguments differ stands
    | some moved =>
      obtain ⟨value, left⟩ := moved
      have differToo : (Members.names left).Nodup := by
        have perm : (Members.names arguments).Perm (first :: Members.names left) :=
          (Members.perm_of_take? taken).map Prod.fst
        exact (List.nodup_cons.mp (perm.nodup_iff.mp differ)).2
      rw [Tool.moveFields_of_taken rest request taken] at stands
      rw [Tool.filter_names_of_take? fresh differ taken]
      exact of_take? differ taken (ih declared _ left differToo stands)

/-- A single gap is filled with the last name, and the others stay behind it in their order. -/
theorem single_iff {before after : List String} {taken : String}
    (differ : (before ++ taken :: after).Nodup) :
    (∀ place name, (before ++ after)[place]? = some name →
      Fills (before ++ taken :: after) [taken] place name) ↔ after.length ≤ 1 := by
  have kept : ∀ name ∈ before ++ after, name ∉ [taken] := by
    intro name member same
    have fresh := (List.nodup_cons.mp (List.nodup_middle.mp differ)).1
    exact fresh (List.mem_singleton.mp same ▸ member)
  have gap : (before ++ taken :: after)[before.length]? = some taken := by simp
  constructor
  · intro fill
    cases after with
    | nil => exact Nat.zero_le 1
    | cons first rest =>
      have next : (before ++ taken :: first :: rest)[before.length + 1]? = some first := by simp
      have places : ∀ {i j : Nat} {name : String},
          (before ++ taken :: first :: rest)[i]? = some name →
          (before ++ taken :: first :: rest)[j]? = some name → i = j := fun here there =>
        (List.getElem?_inj (List.getElem?_eq_some_iff.mp here).1 differ).mp (here.trans there.symm)
      cases fill before.length first (by simp) with
      | stays here =>
        have := places here next
        omega
      | gap here turns last =>
        obtain rfl := Nat.lt_one_iff.mp (List.getElem?_eq_some_iff.mp turns).1
        -- what fills the gap stood last, so the first name behind the gap is the last one
        cases last with
        | stays here =>
          have same := places here next
          rw [List.length_append, List.length_cons, List.length_cons] at same
          rw [List.length_cons]
          omega
        | gap here turns =>
          rw [List.mem_singleton.mp (List.mem_of_getElem? turns)] at here
          have := places here gap
          simp at this
  · intro few place name stands
    rcases Nat.lt_or_ge place before.length with early | late
    · have here : (before ++ taken :: after)[place]? = some name := by
        rw [List.getElem?_append_left early] at stands ⊢
        exact stands
      exact .stays here (kept name (List.mem_of_getElem? stands))
    · have length := (List.getElem?_eq_some_iff.mp stands).1
      rw [List.length_append] at length
      obtain rfl : place = before.length := by omega
      obtain ⟨last, rfl⟩ : ∃ last, after = [last] := List.length_eq_one_iff.mp (by omega)
      obtain rfl : last = name := by simpa using stands
      refine .gap gap List.getElem?_cons_zero (.stays ?_ (kept last (by simp)))
      simp

end Fills

namespace Tool

variable {tool : Tool} {arguments : Json.Object}

/-- The extra arguments of the request stand where `Fills` says. -/
theorem getElem?_extras_marshal_iff (declared : tool.method.Declared)
    (differ : (Members.names arguments).Nodup) {place : Nat} {name : String} :
    (tool.method.extras (tool.marshal arguments))[place]? = some name ↔
      place < (tool.method.extras arguments).length ∧
        Fills (Members.names arguments) (tool.method.givenFields arguments) place name := by
  have fills : ∀ {name}, (tool.method.extras (tool.marshal arguments))[place]? = some name →
      Fills (Members.names arguments) (tool.method.givenFields arguments) place name := by
    intro name stands
    rw [extras_marshal declared differ] at stands
    exact Fills.of_moveFields declared.nodup [] arguments differ stands
  rw [← (extras_perm differ).length_eq]
  constructor
  · intro stands
    exact ⟨(List.getElem?_eq_some_iff.mp stands).1, fills stands⟩
  · rintro ⟨early, filled⟩
    have stands := List.getElem?_eq_getElem early
    rw [stands, filled.unique (declared.nodup.filter _) (fills stands)]

/-- The extra arguments keep their order exactly if each of them fills the place that it has among
them. -/
theorem extras_marshal_eq_iff (declared : tool.method.Declared)
    (differ : (Members.names arguments).Nodup) :
    tool.method.extras (tool.marshal arguments) = tool.method.extras arguments ↔
      ∀ place name, (tool.method.extras arguments)[place]? = some name →
        Fills (Members.names arguments) (tool.method.givenFields arguments) place name := by
  constructor
  · intro kept place name stands
    rw [← kept] at stands
    exact ((getElem?_extras_marshal_iff declared differ).mp stands).2
  · intro fill
    have length := (@extras_perm tool arguments differ).length_eq
    refine List.ext_getElem? fun place => ?_
    cases stands : (tool.method.extras arguments)[place]? with
    | none => rwa [List.getElem?_eq_none_iff, length, ← List.getElem?_eq_none_iff]
    | some name =>
      have early := (List.getElem?_eq_some_iff.mp stands).1
      exact (getElem?_extras_marshal_iff declared differ).mpr ⟨early, fill place name stands⟩

/-- With a single field given, the extra arguments keep their order exactly if at most one of them
stands behind the field. -/
theorem extras_marshal_eq_iff_of_single (declared : tool.method.Declared) {before after : List String}
    {field : String} (names : Members.names arguments = before ++ field :: after)
    (differ : (Members.names arguments).Nodup) (given : tool.method.hasField field = true)
    (others : ∀ name ∈ before ++ after, tool.method.hasField name = false) :
    tool.method.extras (tool.marshal arguments) = tool.method.extras arguments ↔
      after.length ≤ 1 := by
  have moved : tool.method.givenFields arguments = [field] := by
    rw [← List.perm_singleton]
    refine (List.perm_ext_iff_of_nodup (declared.nodup.filter _) (List.nodup_singleton _)).mpr ?_
    intro name
    refine Method.mem_givenFields_iff.trans ?_
    rw [names, List.mem_singleton]
    constructor
    · rintro ⟨isField, member⟩
      by_contra different
      have extra : name ∈ before ++ after := by simpa [different] using member
      rw [others name extra] at isField
      cases isField
    · rintro rfl
      exact ⟨given, by simp⟩
  have extras : tool.method.extras arguments = before ++ after := by
    have kept : (before ++ after).filter (fun name => !tool.method.hasField name) =
        before ++ after := by
      rw [List.filter_eq_self]
      intro name member
      simp [others name member]
    rw [Method.extras, names, List.filter_append, List.filter_cons_of_neg (by simp [given]),
      ← List.filter_append, kept]
  rw [extras_marshal_eq_iff declared differ, moved, extras, names]
  exact Fills.single_iff (names ▸ differ)

end Tool

namespace ToolCatalog

variable {σ : Type} {definition : ServiceDefinition} {catalog : ToolCatalog} {tool : Tool}
  {arguments : Json} {members : Json.Object}

theorem dispatch_recorded_of_takes (built : ofDefinition definition = .ok catalog)
    (listed : tool ∈ catalog.tools) (taken : tool.Takes arguments members) (backend : Backend σ)
    (state : σ) :
    (catalog.dispatch backend.recorded ⟨tool.name, arguments⟩ (state, [])).2.2 =
      [.invoke tool.name (tool.marshal members)] := by
  rw [dispatch_of_takes ⟨tool.name, arguments⟩ (find?_of_mem built listed) taken]
  rfl

/-- **A request is the arguments of the call.** A call that its tool takes sends the backend one
request. It holds just the members of the arguments, each once and with its value, so a field that was
left out is absent. The fields that were given stand first, in the order of their declaration, however
the caller ordered them, and whatever is no field stands behind them. -/
theorem dispatch_forwards (built : ofDefinition definition = .ok catalog)
    (listed : tool ∈ catalog.tools) (declared : tool.method.Declared)
    (taken : tool.Takes arguments members) (differ : (Members.names members).Nodup)
    (backend : Backend σ) (state : σ) :
    ∃ request, (catalog.dispatch backend.recorded ⟨tool.name, arguments⟩ (state, [])).2.2 =
        [.invoke tool.name request] ∧
      request.Perm members ∧ (Members.names request).Nodup ∧
      (∀ name, Members.find? request name = Members.find? members name) ∧
      ∃ extras, Members.names request = tool.method.givenFields members ++ extras ∧
        ∀ name ∈ extras, tool.method.hasField name = false := by
  have perm := tool.marshal_perm differ
  refine ⟨tool.marshal members, dispatch_recorded_of_takes built listed taken backend state, perm,
    (perm.map Prod.fst).nodup_iff.mpr differ, tool.find?_marshal differ,
    Members.names (tool.leftover members), Tool.names_marshal declared differ, ?_⟩
  exact fun name left => Tool.not_hasField_of_leftover declared differ left

/-- The caller puts a note first and the fields in the order opposite to their declaration. -/
theorem dispatch_forwards_note :
    let arguments : Json.Object := [("note", .null), ("roles", .array []), ("id", .string "1")]
    grantTool.Takes (.object arguments) arguments ∧ (Members.names arguments).Nodup ∧
      ∃ request extras, (grantCatalog.dispatch silentBackend.recorded
          ⟨grantTool.name, .object arguments⟩ ((), [])).2.2 = [.invoke "Grant" request] ∧
        Members.names request = ["id", "roles"] ++ extras := by
  intro arguments
  have taken : grantTool.Takes (.object arguments) arguments :=
    ⟨rfl, Tool.validate_eq_ok_iff.mp rfl⟩
  have differ : (Members.names arguments).Nodup := by decide
  obtain ⟨request, called, -, -, -, extras, names, -⟩ := dispatch_forwards
    ofDefinition_grantService grantTool_listed grantMethod_declared taken differ silentBackend ()
  exact ⟨taken, differ, request, extras, called, names⟩

/-- **Which extra arguments keep their order.** The extra arguments of the request that a backend is
sent stand where they stood among the arguments or where a gap was filled with them, as `Fills` says;
so they keep their order exactly if each of them fills the place that it has among them. With a single
field given, that is so exactly if at most one of them stands behind the field. -/
theorem extras_in_order_iff (built : ofDefinition definition = .ok catalog)
    (listed : tool ∈ catalog.tools) (declared : tool.method.Declared)
    (taken : tool.Takes arguments members) (differ : (Members.names members).Nodup)
    (backend : Backend σ) (state : σ) :
    ∃ request, (catalog.dispatch backend.recorded ⟨tool.name, arguments⟩ (state, [])).2.2 =
        [.invoke tool.name request] ∧
      (∀ place name, (tool.method.extras request)[place]? = some name ↔
        place < (tool.method.extras members).length ∧
          Fills (Members.names members) (tool.method.givenFields members) place name) ∧
      (tool.method.extras request = tool.method.extras members ↔
        ∀ place name, (tool.method.extras members)[place]? = some name →
          Fills (Members.names members) (tool.method.givenFields members) place name) ∧
      ∀ before field after, Members.names members = before ++ field :: after →
        tool.method.hasField field = true →
        (∀ name ∈ before ++ after, tool.method.hasField name = false) →
        (tool.method.extras request = tool.method.extras members ↔ after.length ≤ 1) := by
  refine ⟨tool.marshal members, dispatch_recorded_of_takes built listed taken backend state,
    fun place name => Tool.getElem?_extras_marshal_iff declared differ,
    Tool.extras_marshal_eq_iff declared differ, ?_⟩
  intro before field after names given others
  exact Tool.extras_marshal_eq_iff_of_single declared names differ given others

/-- A note before the id and a trace behind it keep their order. -/
theorem extras_in_order_iff_around :
    let arguments : Json.Object := [("note", .null), ("id", .string "1"), ("trace", .null)]
    grantTool.Takes (.object arguments) arguments ∧ (Members.names arguments).Nodup ∧
      ∃ request, (grantCatalog.dispatch silentBackend.recorded
          ⟨grantTool.name, .object arguments⟩ ((), [])).2.2 = [.invoke "Grant" request] ∧
        grantTool.method.extras request = ["note", "trace"] := by
  intro arguments
  have taken : grantTool.Takes (.object arguments) arguments :=
    ⟨rfl, Tool.validate_eq_ok_iff.mp rfl⟩
  have differ : (Members.names arguments).Nodup := by decide
  obtain ⟨request, called, -, -, single⟩ := extras_in_order_iff
    ofDefinition_grantService grantTool_listed grantMethod_declared taken differ silentBackend ()
  have kept := (single ["note"] "id" ["trace"] rfl rfl (by decide)).mpr (Nat.le_refl 1)
  exact ⟨taken, differ, request, called, kept⟩

/-- A note and a trace behind the id are sent in the opposite order. -/
theorem extras_reversed_behind_id :
    let arguments : Json.Object :=
      [("id", .string "1"), ("note", .string "n"), ("trace", .string "t")]
    ofDefinition grantService = .ok grantCatalog ∧ grantTool ∈ grantCatalog.tools ∧
      grantTool.method.Declared ∧ grantTool.Takes (.object arguments) arguments ∧
      (Members.names arguments).Nodup ∧
      ∃ request, (grantCatalog.dispatch silentBackend.recorded
          ⟨grantTool.name, .object arguments⟩ ((), [])).2.2 = [.invoke "Grant" request] ∧
        grantTool.method.extras arguments = ["note", "trace"] ∧
        grantTool.method.extras request = ["trace", "note"] :=
  ⟨ofDefinition_grantService, grantTool_listed, grantMethod_declared,
    ⟨rfl, Tool.validate_eq_ok_iff.mp rfl⟩, by decide,
    [("id", .string "1"), ("trace", .string "t"), ("note", .string "n")], rfl, rfl, rfl⟩

end ToolCatalog

end ToolGateway
