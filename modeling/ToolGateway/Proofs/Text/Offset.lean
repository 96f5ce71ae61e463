import ToolGateway.Proofs.Text.Utf8
import ToolGateway.Text.Offset

/-!
# Offsets of a text

Where a pattern stands is said apart from the search: the text is something, the pattern and something
else, and the offset is the length of what comes first. The search finds the greatest of these offsets
(`lastOffset?_eq_some_iff`). A text made of two parts can be cut between them, and the cut gives the
two parts back.
-/

namespace ToolGateway.Utf8

/-! ## Where a pattern stands -/

/-- A pattern stands in a text at an offset. -/
def StandsAt (pattern text : List UInt8) (offset : Nat) : Prop :=
  ∃ before after, text = before ++ (pattern ++ after) ∧ before.length = offset

/-- A pattern stands in a text at an offset, and nowhere further behind. -/
structure StandsLastAt (pattern text : List UInt8) (offset : Nat) : Prop where
  stands : StandsAt pattern text offset
  last : ∀ other, StandsAt pattern text other → other ≤ offset

section

variable {pattern text : List UInt8} {b : UInt8} {offset : Nat}

theorem standsAt_zero_iff : StandsAt pattern text 0 ↔ pattern <+: text := by
  constructor
  · rintro ⟨before, after, rfl, empty⟩
    obtain rfl := List.eq_nil_of_length_eq_zero empty
    exact ⟨after, rfl⟩
  · rintro ⟨after, rfl⟩
    exact ⟨[], after, rfl, rfl⟩

theorem standsAt_nil_iff : StandsAt pattern [] offset ↔ pattern = [] ∧ offset = 0 := by
  constructor
  · rintro ⟨before, after, split, rfl⟩
    obtain ⟨rfl, rest⟩ := List.append_eq_nil_iff.mp split.symm
    exact ⟨(List.append_eq_nil_iff.mp rest).1, rfl⟩
  · rintro ⟨rfl, rfl⟩
    exact ⟨[], [], rfl, rfl⟩

theorem standsAt_cons_succ_iff :
    StandsAt pattern (b :: text) (offset + 1) ↔ StandsAt pattern text offset := by
  constructor
  · rintro ⟨before, after, split, size⟩
    obtain ⟨first, before, rfl⟩ := List.exists_cons_of_length_eq_add_one size
    obtain ⟨-, rfl⟩ := List.cons.inj split
    exact ⟨before, after, rfl, Nat.succ.inj size⟩
  · rintro ⟨before, after, rfl, rfl⟩
    exact ⟨b :: before, after, rfl, rfl⟩

theorem StandsLastAt.unique {other : Nat} (here : StandsLastAt pattern text offset)
    (there : StandsLastAt pattern text other) : offset = other :=
  Nat.le_antisymm (there.last offset here.stands) (here.last other there.stands)

theorem standsLastAt_cons_succ_iff :
    StandsLastAt pattern (b :: text) (offset + 1) ↔ StandsLastAt pattern text offset := by
  constructor
  · rintro ⟨stands, last⟩
    refine ⟨standsAt_cons_succ_iff.mp stands, fun other there => ?_⟩
    exact Nat.le_of_succ_le_succ (last (other + 1) (standsAt_cons_succ_iff.mpr there))
  · rintro ⟨stands, last⟩
    refine ⟨standsAt_cons_succ_iff.mpr stands, fun other there => ?_⟩
    cases other with
    | zero => exact Nat.zero_le _
    | succ other => exact Nat.succ_le_succ (last other (standsAt_cons_succ_iff.mp there))

/-! ## The search -/

/-- A search that finds nothing has left out no place, and what it finds is the last place. -/
theorem lastOffset?_spec (pattern text : List UInt8) :
    match lastOffset? pattern text with
    | none => ∀ offset, ¬ StandsAt pattern text offset
    | some offset => StandsLastAt pattern text offset := by
  induction text with
  | nil =>
    by_cases empty : pattern = []
    · subst empty
      exact ⟨standsAt_nil_iff.mpr ⟨rfl, rfl⟩,
        fun other there => Nat.le_of_eq (standsAt_nil_iff.mp there).2⟩
    · have found : lastOffset? pattern [] = none := by simp [lastOffset?, empty]
      rw [found]
      exact fun offset there => empty (standsAt_nil_iff.mp there).1
  | cons b rest ih =>
    cases later : lastOffset? pattern rest with
    | some offset =>
      rw [later] at ih
      have found : lastOffset? pattern (b :: rest) = some (offset + 1) := by
        simp [lastOffset?, later]
      rw [found]
      exact standsLastAt_cons_succ_iff.mpr ih
    | none =>
      rw [later] at ih
      -- behind the first byte there is no place
      have first : ∀ offset, StandsAt pattern (b :: rest) offset → offset = 0 := by
        intro offset there
        cases offset with
        | zero => rfl
        | succ offset => exact absurd (standsAt_cons_succ_iff.mp there) (ih offset)
      by_cases start : pattern <+: b :: rest
      · have found : lastOffset? pattern (b :: rest) = some 0 := by simp [lastOffset?, later, start]
        rw [found]
        exact ⟨standsAt_zero_iff.mpr start, fun other there => Nat.le_of_eq (first other there)⟩
      · have found : lastOffset? pattern (b :: rest) = none := by simp [lastOffset?, later, start]
        rw [found]
        intro offset there
        obtain rfl := first offset there
        exact start (standsAt_zero_iff.mp there)

/-- The search finds the last place where the pattern stands. -/
theorem lastOffset?_eq_some_iff :
    lastOffset? pattern text = some offset ↔ StandsLastAt pattern text offset := by
  have search := lastOffset?_spec pattern text
  cases found : lastOffset? pattern text with
  | none =>
    rw [found] at search
    simp only [reduceCtorEq, false_iff]
    exact fun here => search offset here.stands
  | some other =>
    rw [found] at search
    rw [Option.some.injEq]
    constructor
    · rintro rfl
      exact search
    · exact search.unique

/-- Bytes with which the pattern does not begin are passed over. -/
theorem lastOffset?_append {first : UInt8} {others front : List UInt8}
    (foreign : first ∉ front) (rest : List UInt8) :
    lastOffset? (first :: others) (front ++ rest) =
      (lastOffset? (first :: others) rest).map (front.length + ·) := by
  induction front with
  | nil => simp
  | cons b front ih =>
    obtain ⟨different, foreign⟩ := List.ne_and_not_mem_of_not_mem_cons foreign
    rw [List.cons_append, lastOffset?, ih foreign]
    cases lastOffset? (first :: others) rest with
    | none => simp [different]
    | some offset =>
      simp only [Option.map_some, List.length_cons, Option.some.injEq]
      omega

end

/-! ## Characters -/

/-- The bytes of a text begin with those of another exactly when its characters begin with those of
the other. -/
theorem encode_prefix_iff {pattern text : List Char} :
    pattern.flatMap String.utf8EncodeChar <+: text.flatMap String.utf8EncodeChar ↔
      pattern <+: text := by
  induction pattern generalizing text with
  | nil => simp
  | cons c pattern ih =>
    constructor
    · rintro ⟨after, same⟩
      rw [List.flatMap_cons, List.append_assoc] at same
      have front := decode?_encode c (pattern.flatMap String.utf8EncodeChar ++ after)
      rw [same] at front
      -- what is read from the front of the text is its first character
      cases text with
      | nil => cases front
      | cons d text =>
        rw [List.flatMap_cons, decode?_encode] at front
        obtain ⟨rfl, rest⟩ := Prod.mk.inj (Option.some.inj front)
        exact List.cons_prefix_cons.mpr ⟨rfl, ih.mp ⟨after, rest.symm⟩⟩
    · rintro ⟨after, rfl⟩
      rw [List.flatMap_append]
      exact List.prefix_append _ _

/-! ## Cutting -/

theorem length_bytes (text : String) : (bytes text).length = text.utf8ByteSize := by
  rw [← String.size_toByteArray, ← text.ofList_toList, String.toByteArray_ofList]
  simp [bytes, List.utf8Encode]

section

variable (first second : String)

theorem isValid_append : (String.Pos.Raw.mk first.utf8ByteSize).IsValid (first ++ second) :=
  String.Pos.Raw.isValid_iff_exists_append.mpr ⟨first, second, rfl, rfl⟩

theorem before?_append : before? (first ++ second) first.utf8ByteSize = some first := by
  rw [before?, dif_pos (isValid_append first second)]
  exact congrArg some String.Pos.splits_append_rawEndPos.copy_sliceTo_eq

theorem behind?_append : behind? (first ++ second) first.utf8ByteSize = some second := by
  rw [behind?, dif_pos (isValid_append first second)]
  exact congrArg some String.Pos.splits_append_rawEndPos.copy_sliceFrom_eq

end

end ToolGateway.Utf8
