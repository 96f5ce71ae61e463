import ToolGateway.Members

/-!
# Named values whose names differ

Putting a name that is new adds it at the end, so putting entries whose names differ from each other
and from those there only appends them. Taking a name out moves other entries, but what is found under
names that differ does not depend on where they stand. Where they stand then, `exists_gap_of_take?`
says.
-/

namespace ToolGateway.Members

variable {α : Type}

theorem mem_of_find? {members : Members α} {name : String} {value : α}
    (found : members.find? name = some value) : (name, value) ∈ members := by
  induction members with
  | nil => cases found
  | cons entry rest ih =>
    rw [find?] at found
    split at found
    next same =>
      obtain rfl := Option.some.inj found
      rw [← same]
      exact List.mem_cons_self
    next => exact List.mem_cons_of_mem _ (ih found)

theorem find?_of_not_mem {members : Members α} {name : String} (absent : name ∉ members.names) :
    members.find? name = none := by
  rw [Option.eq_none_iff_forall_ne_some]
  exact fun value found => absent (List.mem_map_of_mem (mem_of_find? found))

theorem put_of_not_mem {members : Members α} {name : String} (fresh : name ∉ members.names)
    (value : α) : members.put name value = members ++ [(name, value)] := by
  induction members with
  | nil => rfl
  | cons entry rest ih =>
    have different : entry.1 ≠ name := fun same => fresh (by simp [names, same])
    have others : name ∉ Members.names rest := fun member => fresh (List.mem_cons_of_mem _ member)
    rw [put, if_neg different, ih others, List.cons_append]

theorem putAll_of_nodup (members more : Members α) (differ : (names (members ++ more)).Nodup) :
    members.putAll more = members ++ more := by
  induction more generalizing members with
  | nil => simp [putAll]
  | cons entry rest ih =>
    -- the entries put so far are the index: each step moves one more over to them
    have regroup : members ++ entry :: rest = (members ++ [entry]) ++ rest := by simp
    have fresh : entry.1 ∉ members.names := by
      intro member
      rw [names, List.map_append, List.nodup_append] at differ
      exact differ.2.2 _ member entry.1 (by simp) rfl
    have := ih (members ++ [entry]) (by rwa [← regroup])
    rw [regroup, ← this, ← put_of_not_mem fresh entry.2]
    rfl

theorem names_put (members : Members α) (name : String) (value : α) :
    (members.put name value).names =
      if name ∈ members.names then members.names else members.names ++ [name] := by
  induction members with
  | nil => simp [put, names]
  | cons entry rest ih =>
    by_cases same : entry.1 = name
    · simp [put, names, same]
    · have step : Members.names (put (entry :: rest) name value) =
          entry.1 :: Members.names (put rest name value) := by
        rw [put, if_neg same]
        rfl
      rw [step, ih]
      by_cases member : name ∈ Members.names rest <;>
        simp_all [names, Ne.symm same]

theorem nodup_put {members : Members α} (differ : members.names.Nodup) (name : String) (value : α) :
    (members.put name value).names.Nodup := by
  rw [names_put]
  split
  · exact differ
  next fresh =>
    refine List.nodup_append.mpr ⟨differ, by simp, ?_⟩
    intro known member other only same
    rw [List.mem_singleton.mp only] at same
    exact fresh (same ▸ member)

theorem mem_of_mem_put {members : Members α} {name : String} {value : α} {entry : String × α}
    (member : entry ∈ members.put name value) : entry ∈ members ∨ entry = (name, value) := by
  induction members with
  | nil => exact .inr (List.mem_singleton.mp member)
  | cons first rest ih =>
    rw [put] at member
    split at member
    next same =>
      rcases List.mem_cons.mp member with rfl | member
      · exact .inr (by rw [same])
      · exact .inl (List.mem_cons_of_mem _ member)
    next =>
      rcases List.mem_cons.mp member with rfl | member
      · exact .inl List.mem_cons_self
      · exact (ih member).imp_left (List.mem_cons_of_mem _)

/-- Entries put one after the other have names that differ. -/
theorem nodup_putAll {members : Members α} (differ : members.names.Nodup) (entries : Members α) :
    (members.putAll entries).names.Nodup := by
  induction entries generalizing members with
  | nil => exact differ
  | cons entry rest ih => exact ih (nodup_put differ entry.1 entry.2)

theorem mem_of_mem_putAll {members entries : Members α} {entry : String × α}
    (member : entry ∈ members.putAll entries) : entry ∈ members ∨ entry ∈ entries := by
  induction entries generalizing members with
  | nil => exact .inl member
  | cons first rest ih =>
    rcases ih member with old | later
    · rcases mem_of_mem_put old with old | rfl
      · exact .inl old
      · exact .inr List.mem_cons_self
    · exact .inr (List.mem_cons_of_mem _ later)

/-- The last entry of a name has this value. -/
def LastEntry (entries : Members α) (name : String) (value : α) : Prop :=
  ∃ before after, entries = before ++ (name, value) :: after ∧ name ∉ names after

theorem lastEntry_cons_iff {entry : String × α} {rest : Members α} {name : String} {value : α} :
    LastEntry (entry :: rest) name value ↔
      LastEntry rest name value ∨ (name ∉ names rest ∧ entry = (name, value)) := by
  constructor
  · rintro ⟨before, after, split, last⟩
    cases before with
    | nil =>
      obtain ⟨rfl, rfl⟩ := List.cons.inj split
      exact .inr ⟨last, rfl⟩
    | cons first before =>
      obtain ⟨rfl, rfl⟩ := List.cons.inj split
      exact .inl ⟨before, after, rfl, last⟩
  · rintro (⟨before, after, rfl, last⟩ | ⟨last, rfl⟩)
    · exact ⟨entry :: before, after, rfl, last⟩
    · exact ⟨[], rest, rfl, last⟩

theorem LastEntry.mem_names {entries : Members α} {name : String} {value : α}
    (last : LastEntry entries name value) : name ∈ names entries := by
  obtain ⟨before, after, rfl, -⟩ := last
  simp [names]

/-- Entries put one after the other leave each name with the value of its last entry. -/
theorem find?_putAll {members entries : Members α} {name : String} {value : α} :
    (members.putAll entries).find? name = some value ↔ LastEntry entries name value ∨
      (name ∉ names entries ∧ members.find? name = some value) := by
  induction entries generalizing members with
  | nil =>
    have none : ¬ LastEntry ([] : Members α) name value := fun last => by
      have := last.mem_names
      simp [names] at this
    simp [putAll, names, none]
  | cons entry rest ih =>
    have step : members.putAll (entry :: rest) = (members.put entry.1 entry.2).putAll rest := rfl
    rw [step, ih, find?_put, lastEntry_cons_iff]
    by_cases same : name = entry.1
    · simp [names, same, Prod.ext_iff]
    · simp [names, same, Prod.ext_iff, Ne.symm same]

/-! ## The order of the entries -/

theorem find?_eq_some_iff_mem {members : Members α} (differ : members.names.Nodup) {name : String}
    {value : α} : members.find? name = some value ↔ (name, value) ∈ members := by
  refine ⟨mem_of_find?, ?_⟩
  induction members with
  | nil =>
    intro member
    cases member
  | cons entry rest ih =>
    obtain ⟨fresh, differ⟩ := List.nodup_cons.mp differ
    intro member
    rw [find?]
    rcases List.mem_cons.mp member with rfl | member
    · exact if_pos rfl
    · have different : entry.1 ≠ name := fun same => fresh (same ▸ List.mem_map_of_mem member)
      rw [if_neg different]
      exact ih differ member

/-- The order of members whose names differ does not matter to what is found. -/
theorem find?_eq_of_perm {members others : Members α} (differ : members.names.Nodup)
    (perm : members.Perm others) (name : String) : members.find? name = others.find? name := by
  have differToo : others.names.Nodup := (perm.map Prod.fst).nodup_iff.mp differ
  ext value
  rw [find?_eq_some_iff_mem differ, find?_eq_some_iff_mem differToo, perm.mem_iff]

theorem find?_filter {keep : String → Bool} {name : String} (kept : keep name = true)
    (members : Members α) :
    Members.find? (members.filter fun entry => keep entry.1) name = members.find? name := by
  induction members with
  | nil => rfl
  | cons entry rest ih =>
    by_cases same : entry.1 = name
    · rw [List.filter_cons_of_pos (by rw [same, kept]), find?, find?, if_pos same, if_pos same]
    · rw [find?, if_neg same, ← ih, List.filter_cons]
      split
      · rw [find?, if_neg same]
      · rfl

theorem perm_of_take? {members left : Members α} {name : String} {value : α}
    (taken : members.take? name = some (value, left)) :
    members.Perm ((name, value) :: left) := by
  induction members generalizing left with
  | nil => cases taken
  | cons entry rest ih =>
    rw [take?] at taken
    split at taken
    next same =>
      obtain ⟨rfl, rfl⟩ := Prod.mk.inj (Option.some.inj taken)
      subst same
      refine List.Perm.cons entry ?_
      cases final : rest.getLast? with
      | none => rw [List.getLast?_eq_none_iff.mp final]
      | some last =>
        obtain ⟨before, rfl⟩ := List.getLast?_eq_some_iff.mp final
        rw [List.dropLast_concat]
        exact List.perm_append_singleton last before
    next =>
      obtain ⟨⟨found, remaining⟩, later, same⟩ := Option.map_eq_some_iff.mp taken
      obtain ⟨rfl, rfl⟩ := Prod.mk.inj same
      exact ((ih later).cons entry).trans (List.Perm.swap _ _ _)

theorem take?_eq_none_iff {members : Members α} {name : String} :
    members.take? name = none ↔ name ∉ members.names := by
  induction members with
  | nil => simp [take?, names]
  | cons entry rest ih =>
    rw [take?]
    by_cases same : entry.1 = name
    · simp [names, same]
    · rw [if_neg same, Option.map_eq_none_iff, ih]
      simp [names, Ne.symm same]

theorem mem_names_of_take? {members left : Members α} {name other : String} {value : α}
    (differ : members.names.Nodup) (taken : members.take? name = some (value, left)) :
    other ∈ left.names ↔ other ∈ members.names ∧ other ≠ name := by
  have perm : members.names.Perm (name :: left.names) := (perm_of_take? taken).map Prod.fst
  have fresh : name ∉ left.names := (List.nodup_cons.mp (perm.nodup_iff.mp differ)).1
  rw [perm.mem_iff, List.mem_cons]
  constructor
  · intro member
    exact ⟨.inr member, fun same => fresh (same ▸ member)⟩
  · rintro ⟨same | member, different⟩
    · exact absurd same different
    · exact member

/-- Where the entries stand once a name is taken out: the last one in the gap, the others where they
stood. -/
theorem exists_gap_of_take? {members left : Members α} {name : String} {value : α}
    (taken : members.take? name = some (value, left)) :
    ∃ gap, members[gap]? = some (name, value) ∧ members.length = left.length + 1 ∧
      ∀ place < left.length,
        left[place]? = members[if place = gap then left.length else place]? := by
  induction members generalizing left with
  | nil => cases taken
  | cons entry rest ih =>
    rw [take?] at taken
    split at taken
    next same =>
      obtain ⟨rfl, rfl⟩ := Prod.mk.inj (Option.some.inj taken)
      subst same
      refine ⟨0, rfl, ?_⟩
      cases final : rest.getLast? with
      | none =>
        rw [List.getLast?_eq_none_iff.mp final]
        simp
      | some last =>
        obtain ⟨before, rfl⟩ := List.getLast?_eq_some_iff.mp final
        rw [List.dropLast_concat]
        refine ⟨by simp, ?_⟩
        rintro (_ | place) early
        · simp
        · have early : place < before.length := by simpa using early
          simp [List.getElem?_append_left early]
    next =>
      obtain ⟨⟨found, remaining⟩, later, same⟩ := Option.map_eq_some_iff.mp taken
      obtain ⟨rfl, rfl⟩ := Prod.mk.inj same
      obtain ⟨gap, here, length, stand⟩ := ih later
      refine ⟨gap + 1, here, by simp [length], ?_⟩
      rintro (_ | place) early
      · simp
      · rw [List.getElem?_cons_succ, stand place (by simpa using early)]
        by_cases filled : place = gap <;> simp [filled]

end ToolGateway.Members
