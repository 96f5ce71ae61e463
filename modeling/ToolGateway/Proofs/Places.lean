import Mathlib.Data.List.Nodup
import ToolGateway.Members
import ToolGateway.Proofs.Service.Names

/-!
# Places kept under names

Things in a list are found faster by their names when the place of each is kept beside the list.
`Placed` says that the places are those of the names: then no place lies outside, nothing is missed and
the names differ. Putting a thing with a new name behind the others keeps this (`Placed.concat`). What
is found at its place is what a search of the list finds (`Placed.lookup_eq`), so where the things stand
makes no difference to a lookup.
-/

namespace ToolGateway

variable {α : Type} {key : α → String} {items : List α} {places : Members Nat} {name : String}

/-- The place kept under a name is the place of the thing of that name. -/
def Placed (key : α → String) (items : List α) (places : Members Nat) : Prop :=
  ∀ name place, places.find? name = some place ↔
    ∃ item, items[place]? = some item ∧ key item = name

theorem getElem?_concat_eq_some_iff {last item : α} {place : Nat} :
    (items ++ [last])[place]? = some item ↔
      items[place]? = some item ∨ (place = items.length ∧ last = item) := by
  rcases Nat.lt_trichotomy place items.length with before | rfl | behind
  · simp [List.getElem?_append_left before, Nat.ne_of_lt before]
  · simp
  · have outside : items.length ≤ place := Nat.le_of_lt behind
    have further : (items ++ [last]).length ≤ place := by simpa [Nat.succ_le_iff] using behind
    simp [List.getElem?_eq_none outside, List.getElem?_eq_none further, Nat.ne_of_gt behind]

namespace Placed

theorem nil : Placed key [] [] := by
  intro name place
  simp [Members.find?]

theorem isSome_find?_iff (placed : Placed key items places) :
    (places.find? name).isSome = true ↔ name ∈ items.map key := by
  rw [Option.isSome_iff_exists, List.mem_map]
  constructor
  · rintro ⟨place, kept⟩
    obtain ⟨item, stands, named⟩ := (placed name place).mp kept
    exact ⟨item, List.mem_of_getElem? stands, named⟩
  · rintro ⟨item, member, named⟩
    obtain ⟨place, stands⟩ := List.mem_iff_getElem?.mp member
    exact ⟨place, (placed name place).mpr ⟨item, stands, named⟩⟩

/-- A name has one place, so it is not the name of two things. -/
theorem nodup (placed : Placed key items places) : (items.map key).Nodup := by
  rw [List.nodup_iff_getElem?_ne_getElem?]
  intro i j before inside same
  have there := List.getElem?_eq_getElem inside
  have here := same.trans there
  rw [List.getElem?_map] at here there
  obtain ⟨first, stands, named⟩ := Option.map_eq_some_iff.mp here
  obtain ⟨second, alsoStands, alsoNamed⟩ := Option.map_eq_some_iff.mp there
  have kept := (placed _ i).mpr ⟨first, stands, named⟩
  rw [(placed _ j).mpr ⟨second, alsoStands, alsoNamed⟩] at kept
  exact Nat.ne_of_gt before (Option.some.inj kept)

theorem find?_eq_some_iff_lt (placed : Placed key items places) {place : Nat} :
    places.find? name = some place ↔
      ∃ inside : place < items.length, key items[place] = name := by
  rw [placed name place]
  simp only [List.getElem?_eq_some_iff]
  constructor
  · rintro ⟨item, ⟨inside, rfl⟩, named⟩
    exact ⟨inside, named⟩
  · rintro ⟨inside, named⟩
    exact ⟨_, ⟨inside, rfl⟩, named⟩

/-- What stands at the place kept under a name is what a search for the name finds. -/
theorem lookup_eq (placed : Placed key items places) (name : String) :
    (places.find? name).bind (fun place => items[place]?) =
      items.find? fun item => key item == name := by
  ext item
  rw [find?_name_eq_some_iff key placed.nodup, Option.bind_eq_some_iff]
  constructor
  · rintro ⟨place, kept, stands⟩
    obtain ⟨other, same, named⟩ := (placed name place).mp kept
    obtain rfl := Option.some.inj (stands.symm.trans same)
    exact ⟨List.mem_of_getElem? stands, named⟩
  · rintro ⟨member, named⟩
    obtain ⟨place, stands⟩ := List.mem_iff_getElem?.mp member
    exact ⟨place, (placed name place).mpr ⟨item, stands, named⟩, stands⟩

/-- A thing with a new name, put behind the others, leaves all places where they are. -/
theorem concat (placed : Placed key items places) {last : α} (fresh : key last ∉ items.map key) :
    Placed key (items ++ [last]) (places.put (key last) items.length) := by
  intro name place
  simp only [Members.find?_put, getElem?_concat_eq_some_iff]
  by_cases own : name = key last
  · subst own
    rw [if_pos rfl, Option.some.injEq]
    constructor
    · rintro rfl
      exact ⟨_, .inr ⟨rfl, rfl⟩, rfl⟩
    · rintro ⟨item, old | ⟨same, -⟩, named⟩
      · exact absurd (named ▸ List.mem_map_of_mem (List.mem_of_getElem? old)) fresh
      · exact same.symm
  · rw [if_neg own, placed name place]
    constructor
    · rintro ⟨item, stands, named⟩
      exact ⟨item, .inl stands, named⟩
    · rintro ⟨item, stands | ⟨-, rfl⟩, named⟩
      · exact ⟨item, stands, named⟩
      · exact absurd named.symm own

end Placed

end ToolGateway
