import ToolGateway.Proofs.Json.Values

/-!
# Reading follows the grammar

`parse_eq_ok_iff`: a text is read as a value exactly when the grammar has it as a text of that value.
The two directions are separate inductions on the length of the text, each of them over values, items
and entries at once.
-/

namespace ToolGateway.Json

open Grammar

/-! ## What is read, the grammar has -/

mutual

theorem value_of_reads {depth : Nat} {text rest : List UInt8} {value : Json}
    (read : Reads (readValue depth text) value rest) :
    ∃ body, Blanks text body ∧ Value depth body value rest := by
  obtain ⟨b, after, found, first⟩ := exists_first_of_reads read
  have shorter := length_lt_of_skipBlanks found
  have blanks := blanks_skipBlanks text
  rw [found] at blanks
  refine ⟨b :: after, blanks, ?_⟩
  rcases first with rfl | rfl | digit | ⟨letters, constant, word⟩ | ⟨inner, rfl, rfl | rfl⟩
  · obtain ⟨content, characters, rfl⟩ := (reads_string_iff found).mp read
    exact .string characters
  · obtain ⟨written, number, numeral, valued, rfl⟩ := (reads_negative_iff found).mp read
    exact .negative numeral valued
  · obtain ⟨written, number, numeral, valued, rfl⟩ := (reads_positive_iff found digit).mp read
    exact .positive numeral valued
  · obtain ⟨rfl, rfl⟩ := (reads_word_iff word found).mp read
    exact .word word
  · rcases (reads_array_iff found).mp read with ⟨close, rfl⟩ | ⟨c, within, _, start, -, read⟩
    · exact .noItems ((skipBlanks_eq_cons_iff rfl).mp close)
    · -- the first item is read from where the blanks after the bracket end
      have gap := blanks_skipBlanks after
      rw [start] at gap
      have inside : (c :: within).length < text.length := by
        have := length_lt_of_skipBlanks start
        simp only [List.length_cons]
        omega
      obtain ⟨body, items, between, listed, rfl⟩ := items_of_reads read
      exact .array (gap.trans between) listed
  · rcases (reads_object_iff found).mp read with ⟨close, rfl⟩ | ⟨within, _, start, read⟩
    · exact .object (.empty ((skipBlanks_eq_cons_iff rfl).mp close))
    · have inside := length_lt_of_skipBlanks start
      obtain ⟨entries, listed, rfl⟩ := entries_of_reads read
      exact .object (.filled ((skipBlanks_eq_cons_iff rfl).mp start) listed)
termination_by (text.length, 0)

theorem items_of_reads {depth bound : Nat} {text rest : List UInt8} {fits : text.length < bound}
    {done : List Json} {value : Json}
    (read : Reads (readItems depth bound text fits done) value rest) :
    ∃ body items, Blanks text body ∧ Items depth body items rest ∧
      value = .array (done.reverse ++ items) := by
  obtain ⟨item, left, first, ended⟩ := reads_readItems_iff.mp read
  obtain ⟨body, blanks, valued⟩ := value_of_reads first
  rcases ended with ⟨close, rfl⟩ | ⟨next, c, inner, _, comma, opened, -, others⟩
  · exact ⟨body, [item], blanks, .last valued ((skipBlanks_eq_cons_iff rfl).mp close), by simp⟩
  · have apart := blanks_skipBlanks next
    rw [opened] at apart
    have further : (c :: inner).length < text.length := by
      have := first.1
      have := length_lt_of_skipBlanks comma
      have := length_lt_of_skipBlanks opened
      simp only [List.length_cons]
      omega
    obtain ⟨second, items, between, listed, rfl⟩ := items_of_reads others
    refine ⟨body, item :: items, blanks, ?_, by simp⟩
    exact .more valued ((skipBlanks_eq_cons_iff rfl).mp comma) (apart.trans between) listed
termination_by (text.length, 1)

theorem entries_of_reads {depth bound : Nat} {text rest : List UInt8} {fits : text.length < bound}
    {done : Json.Object} {value : Json}
    (read : Reads (readMembers depth bound text fits done) value rest) :
    ∃ entries, Entries depth (0x22 :: text) entries rest ∧
      value = .object (Members.putAll done entries) := by
  obtain ⟨name, named, item, left, called, valued, ended⟩ := reads_readMembers_iff.mp read
  obtain ⟨content, after, characters, colon, rfl⟩ := reads_readName_iff.mp called
  have first := called.1
  have second := valued.1
  obtain ⟨body, blanks, derived⟩ := value_of_reads valued
  have entry : Entry depth (0x22 :: text) (String.ofList content, item) left :=
    .mk characters colon blanks derived
  rcases ended with ⟨close, rfl⟩ | ⟨next, inner, _, comma, opened, others⟩
  · exact ⟨[(String.ofList content, item)], .last entry ((skipBlanks_eq_cons_iff rfl).mp close), rfl⟩
  · have third := length_lt_of_skipBlanks comma
    have fourth := length_lt_of_skipBlanks opened
    obtain ⟨entries, listed, rfl⟩ := entries_of_reads others
    refine ⟨(String.ofList content, item) :: entries, ?_, rfl⟩
    exact .more entry ((skipBlanks_eq_cons_iff rfl).mp comma)
      ((skipBlanks_eq_cons_iff rfl).mp opened) listed
termination_by (text.length, 1)

end

/-! ## What the grammar has is read -/

mutual

theorem reads_of_value {depth : Nat} {before text rest : List UInt8} {value : Json}
    (derived : Value depth text value rest) (blanks : Blanks before text) :
    Reads (readValue depth before) value rest := by
  cases derived with
  | word known =>
    have solid := (isBlank_of_mem_words known).1
    have found := (skipBlanks_eq_cons_iff solid).mpr blanks
    exact (reads_word_iff known found).mpr ⟨rfl, rfl⟩
  | positive numeral valued =>
    obtain ⟨d, after, rfl, digit⟩ := numeral.exists_first
    have found := (skipBlanks_eq_cons_iff (isBlank_of_isDigit digit)).mpr blanks
    exact (reads_positive_iff found digit).mpr ⟨_, _, numeral, valued, rfl⟩
  | negative numeral valued =>
    have found := (skipBlanks_eq_cons_iff rfl).mpr blanks
    exact (reads_negative_iff found).mpr ⟨_, _, numeral, valued, rfl⟩
  | string characters =>
    have found := (skipBlanks_eq_cons_iff rfl).mpr blanks
    exact (reads_string_iff found).mpr ⟨_, characters, rfl⟩
  | noItems close =>
    have found := (skipBlanks_eq_cons_iff rfl).mpr blanks
    exact (reads_array_iff found).mpr (.inl ⟨(skipBlanks_eq_cons_iff rfl).mpr close, rfl⟩)
  | array gap listed =>
    have found := (skipBlanks_eq_cons_iff rfl).mpr blanks
    obtain ⟨c, inner, rfl, solid, filled⟩ := listed.exists_first
    have opened := (skipBlanks_eq_cons_iff solid).mpr gap
    have further : (c :: inner).length < before.length := by
      have := length_lt_of_skipBlanks found
      have := length_lt_of_skipBlanks opened
      simp only [List.length_cons]
      omega
    refine (reads_array_iff found).mpr (.inr ⟨c, inner, further, opened, filled, ?_⟩)
    exact reads_of_items listed (.none _)
  | object listed =>
    have found := (skipBlanks_eq_cons_iff rfl).mpr blanks
    cases listed with
    | empty close =>
      exact (reads_object_iff found).mpr (.inl ⟨(skipBlanks_eq_cons_iff rfl).mpr close, rfl⟩)
    | filled gap listed =>
      obtain ⟨inner, rfl⟩ := listed.exists_first
      have opened := (skipBlanks_eq_cons_iff rfl).mpr gap
      have further : inner.length < before.length := by
        have := length_lt_of_skipBlanks found
        have := length_lt_of_skipBlanks opened
        omega
      refine (reads_object_iff found).mpr (.inr ⟨inner, further, opened, ?_⟩)
      exact reads_of_entries listed
termination_by (before.length, 0)

theorem reads_of_items {depth bound : Nat} {before text rest : List UInt8}
    {fits : before.length < bound} {done items : List Json}
    (derived : Items depth text items rest) (blanks : Blanks before text) :
    Reads (readItems depth bound before fits done) (.array (done.reverse ++ items)) rest := by
  cases derived with
  | last value close =>
    have close := (skipBlanks_eq_cons_iff rfl).mpr close
    refine reads_readItems_iff.mpr ⟨_, _, reads_of_value value blanks, .inl ⟨close, ?_⟩⟩
    simp
  | @more _ _ left next _ _ item others value comma gap listed =>
    have first := reads_of_value value blanks
    have comma := (skipBlanks_eq_cons_iff rfl).mpr comma
    obtain ⟨c, inner, rfl, solid, filled⟩ := listed.exists_first
    have opened := (skipBlanks_eq_cons_iff solid).mpr gap
    have further : (c :: inner).length < before.length := by
      have := first.1
      have := length_lt_of_skipBlanks comma
      have := length_lt_of_skipBlanks opened
      simp only [List.length_cons]
      omega
    -- the items read so far are kept in reverse
    have regroup : done.reverse ++ item :: others = (item :: done).reverse ++ others := by simp
    rw [regroup]
    refine reads_readItems_iff.mpr ⟨item, left, first, .inr ⟨next, c, inner, ?_⟩⟩
    exact ⟨Nat.lt_trans further fits, comma, opened, filled, reads_of_items listed (.none _)⟩
termination_by (before.length, 1)

theorem reads_of_entries {depth bound : Nat} {text rest : List UInt8}
    {fits : text.length < bound} {done : Json.Object} {entries : List (String × Json)}
    (derived : Entries depth (0x22 :: text) entries rest) :
    Reads (readMembers depth bound text fits done) (.object (Members.putAll done entries)) rest := by
  cases derived with
  | last first close =>
    cases first with
    | mk characters colon gap value =>
      have called := reads_readName_iff.mpr ⟨_, _, characters, colon, rfl⟩
      have shorter := called.1
      have close := (skipBlanks_eq_cons_iff rfl).mpr close
      refine reads_readMembers_iff.mpr ⟨_, _, _, _, called, reads_of_value value gap, ?_⟩
      exact .inl ⟨close, rfl⟩
  | @more _ _ left next _ _ _ _ first comma apart listed =>
    cases first with
    | mk characters colon gap value =>
      have called := reads_readName_iff.mpr ⟨_, _, characters, colon, rfl⟩
      have shorter := called.1
      have valued := reads_of_value value gap
      have comma := (skipBlanks_eq_cons_iff rfl).mpr comma
      obtain ⟨inner, rfl⟩ := listed.exists_first
      have opened := (skipBlanks_eq_cons_iff rfl).mpr apart
      have further : inner.length < text.length := by
        have := valued.1
        have := length_lt_of_skipBlanks comma
        have := length_lt_of_skipBlanks opened
        omega
      refine reads_readMembers_iff.mpr ⟨_, _, _, _, called, valued, .inr ⟨next, inner, ?_⟩⟩
      exact ⟨Nat.lt_trans further fits, comma, opened, reads_of_entries listed⟩
termination_by (text.length, 1)

end

/-! ## Whole texts -/

theorem parse_eq_ok_iff_reads {text : List UInt8} {value : Json} :
    parse text = .ok value ↔
      ∃ rest, Reads (readValue depthLimit text) value rest ∧ skipBlanks rest = [] := by
  unfold parse read readWithin
  cases found : readValue depthLimit text with
  | error error =>
    constructor
    · intro read
      cases read
    · rintro ⟨rest, read, -⟩
      exact absurd read (not_reads_error _ _ _)
  | ok parsed =>
    simp only [bind, Except.bind, reads_ok_iff]
    split
    next ended =>
      constructor
      · intro read
        exact ⟨parsed.rest, ⟨Except.ok.inj read, rfl⟩, ended⟩
      · rintro ⟨_, ⟨rfl, rfl⟩, -⟩
        rfl
    next trailing =>
      constructor
      · intro read
        cases read
      · rintro ⟨_, ⟨rfl, rfl⟩, ended⟩
        exact absurd ended trailing

/-- A text is read as a value exactly when it is a JSON text of that value. -/
theorem parse_eq_ok_iff {text : List UInt8} {value : Json} :
    parse text = .ok value ↔ IsText text value := by
  rw [parse_eq_ok_iff_reads]
  constructor
  · rintro ⟨rest, read, ended⟩
    obtain ⟨body, blanks, derived⟩ := value_of_reads read
    exact ⟨body, rest, blanks, derived, skipBlanks_eq_nil_iff.mp ended⟩
  · rintro ⟨body, rest, blanks, derived, ended⟩
    exact ⟨rest, reads_of_value derived blanks, skipBlanks_eq_nil_iff.mpr ended⟩

/-- A text stands for one value at most. -/
theorem IsText.unique {text : List UInt8} {value other : Json} (first : IsText text value)
    (second : IsText text other) : value = other := by
  have same := parse_eq_ok_iff.mpr first
  rw [parse_eq_ok_iff.mpr second] at same
  exact (Except.ok.inj same).symm

theorem IsText.ne_nil {text : List UInt8} {value : Json} (isText : IsText text value) :
    text ≠ [] := by
  rintro rfl
  obtain ⟨body, rest, ⟨blanks, -, split⟩, derived, -⟩ := isText
  obtain ⟨rfl, rfl⟩ := List.nil_eq_append_iff.mp split
  obtain ⟨b, after, same, -⟩ := derived.exists_first
  cases same

/-- The texts of objects, by their entries. -/
theorem isText_object_iff {text : List UInt8} {members : Json.Object} :
    IsText text (.object members) ↔
      ∃ entries, IsObjectText text entries ∧ members = Members.putAll [] entries := by
  constructor
  · rintro ⟨body, rest, blanks, derived, ended⟩
    -- the depth is an index of the derivation and must be a variable before the cases
    generalize limit : depthLimit = depth at derived
    cases derived with
    | word known => simp [words] at known
    | object listed =>
      obtain rfl : depthLimit - 1 = _ := by rw [limit]
      exact ⟨_, ⟨_, rest, blanks, listed, ended⟩, rfl⟩
  · rintro ⟨entries, ⟨body, rest, blanks, listed, ended⟩, rfl⟩
    exact ⟨_, rest, blanks, .object listed, ended⟩

end ToolGateway.Json
