import ToolGateway.Gateway.Dispatch
import ToolGateway.Proofs.Members

/-!
# The request made from the arguments of a call

A backend is sent the arguments of a call with the declared fields moved to the front. Each move puts
one field behind those moved before and lets the last argument fill the gap, so nothing is lost and
nothing comes to it: `marshal_perm` says that the request has just the members of the arguments, and
`names_moveFields` which of them have been moved, in which order.
-/

namespace ToolGateway.Tool

section

variable {name : String} (names : List String) (request : Json.Object) {arguments : Json.Object}

theorem moveFields_of_absent (absent : Members.take? arguments name = none) :
    moveFields (name :: names) request arguments = moveFields names request arguments := by
  simp only [moveFields, List.foldl_cons, absent]

theorem moveFields_of_taken {value : Json} {left : Json.Object}
    (taken : Members.take? arguments name = some (value, left)) :
    moveFields (name :: names) request arguments =
      moveFields names (Members.put request name value) left := by
  simp only [moveFields, List.foldl_cons, taken]

end

/-- A field that is moved comes to stand at the end of the request. -/
theorem put_of_taken {name : String} {request arguments left : Json.Object} {value : Json}
    (differ : (Members.names (request ++ arguments)).Nodup)
    (taken : Members.take? arguments name = some (value, left)) :
    Members.put request name value = request ++ [(name, value)] ∧
      (Members.names (Members.put request name value ++ left)).Nodup := by
  have moved : (request ++ (name, value) :: left).Perm (request ++ arguments) :=
    (Members.perm_of_take? taken).symm.append_left request
  have differ : (Members.names (request ++ (name, value) :: left)).Nodup :=
    (moved.map Prod.fst).nodup_iff.mpr differ
  have fresh : name ∉ Members.names request := by
    intro member
    rw [Members.names, List.map_append, List.nodup_append] at differ
    exact differ.2.2 _ member name (by simp) rfl
  have put := Members.put_of_not_mem fresh value
  refine ⟨put, ?_⟩
  rw [put, ← List.append_cons]
  exact differ

/-- Moving fields over changes only where the members stand. -/
theorem moveFields_perm (names : List String) (request arguments : Json.Object)
    (differ : (Members.names (request ++ arguments)).Nodup) :
    ((moveFields names request arguments).1 ++ (moveFields names request arguments).2).Perm
      (request ++ arguments) := by
  induction names generalizing request arguments with
  | nil => exact List.Perm.refl _
  | cons name names ih =>
    cases taken : Members.take? arguments name with
    | none =>
      rw [moveFields_of_absent names request taken]
      exact ih request arguments differ
    | some moved =>
      obtain ⟨value, left⟩ := moved
      obtain ⟨put, differ⟩ := put_of_taken differ taken
      rw [moveFields_of_taken names request taken]
      refine (ih _ left differ).trans ?_
      rw [put, ← List.append_cons]
      exact (Members.perm_of_take? taken).symm.append_left request

/-- Taking a name out leaves the other names that are given as they are. -/
theorem filter_names_of_take? {first : String} {rest : List String} (fresh : first ∉ rest)
    {arguments left : Json.Object} {value : Json} (differ : (Members.names arguments).Nodup)
    (taken : Members.take? arguments first = some (value, left)) :
    (first :: rest).filter (Members.names arguments).contains =
      first :: rest.filter (Members.names left).contains := by
  have given : first ∈ Members.names arguments :=
    List.mem_map_of_mem ((Members.perm_of_take? taken).mem_iff.mpr List.mem_cons_self)
  have others : ∀ name ∈ rest,
      (Members.names arguments).contains name = (Members.names left).contains name := by
    intro name member
    have different : name ≠ first := fun same => fresh (same ▸ member)
    rw [Bool.eq_iff_iff, List.contains_iff_mem, List.contains_iff_mem,
      Members.mem_names_of_take? differ taken]
    simp [different]
  rw [List.filter_cons_of_pos (by simpa using given), List.filter_congr others]

theorem filter_names_of_absent {first : String} (rest : List String) {arguments : Json.Object}
    (absent : Members.take? arguments first = none) :
    (first :: rest).filter (Members.names arguments).contains =
      rest.filter (Members.names arguments).contains := by
  have absent := Members.take?_eq_none_iff.mp absent
  rw [List.filter_cons_of_neg (by simpa using absent)]

/-- The fields that are given are moved, in the order of their declaration. -/
theorem names_moveFields {names : List String} (declared : names.Nodup)
    (request arguments : Json.Object) (differ : (Members.names (request ++ arguments)).Nodup) :
    Members.names (moveFields names request arguments).1 =
      Members.names request ++ names.filter (Members.names arguments).contains := by
  induction names generalizing request arguments with
  | nil => exact (List.append_nil _).symm
  | cons name names ih =>
    obtain ⟨fresh, declared⟩ := List.nodup_cons.mp declared
    cases taken : Members.take? arguments name with
    | none =>
      rw [moveFields_of_absent names request taken, ih declared request arguments differ,
        filter_names_of_absent names taken]
    | some moved =>
      obtain ⟨value, left⟩ := moved
      obtain ⟨put, differToo⟩ := put_of_taken differ taken
      have own : (Members.names arguments).Nodup :=
        differ.sublist ((List.sublist_append_right request arguments).map Prod.fst)
      rw [moveFields_of_taken names request taken, ih declared _ left differToo, put,
        filter_names_of_take? fresh own taken]
      simp [Members.names]

theorem marshal_perm (tool : Tool) {members : Json.Object} (differ : (Members.names members).Nodup) :
    (tool.marshal members).Perm members := by
  have perm := moveFields_perm (tool.method.fields.map Field.name) [] members differ
  have differ := (perm.map Prod.fst).nodup_iff.mpr differ
  have joined : tool.marshal members = _ := Members.putAll_of_nodup _ _ differ
  rw [joined]
  exact perm

theorem find?_marshal (tool : Tool) {members : Json.Object} (differ : (Members.names members).Nodup)
    (name : String) : Members.find? (tool.marshal members) name = Members.find? members name := by
  have perm := tool.marshal_perm differ
  exact (Members.find?_eq_of_perm differ perm.symm name).symm

end ToolGateway.Tool
