import ToolGateway.Proofs.Json.Digits
import ToolGateway.Proofs.Json.Fits
import ToolGateway.Proofs.Json.Reading
import ToolGateway.Proofs.Members

/-!
# Written values are read back

The compact and the pretty form of an exact value are JSON texts of that value, so they are read as
the value they were written for (`parse_compact`, `parse_pretty`). The two forms differ in nothing but
the blanks around items and members, and `spells_array` and `spells_object` hold for any blanks. The
derivation in the grammar follows the value: what is written for a part stands before a blank, a
comma, a closing bracket or the end, and what is left behind it is arbitrary.
-/

namespace ToolGateway.Json

open Grammar

/-! ## Strings -/

def hexByte (n : Nat) : UInt8 := UInt8.ofNat (hexDigit n).toNat

theorem encode_hexDigit : ∀ n < 16, String.utf8EncodeChar (hexDigit n) = [hexByte n] := by decide

theorem hexValue?_hexByte : ∀ n < 16, hexValue? (hexByte n) = some n := by decide

/-- The four digits of an escape stand for a control character. -/
theorem escape_control {c : Char} (control : c.toNat < 0x20) (text : List UInt8) :
    Escape (0x75 :: 0x30 :: 0x30 :: hexByte (c.toNat / 16) :: hexByte (c.toNat % 16) :: text) c
      text := by
  have high := hexValue?_hexByte (c.toNat / 16) (by omega)
  have low := hexValue?_hexByte (c.toNat % 16) (by omega)
  have hex : Hex (0x30 :: 0x30 :: hexByte (c.toNat / 16) :: hexByte (c.toNat % 16) :: text)
      (((0 * 16 + 0) * 16 + c.toNat / 16) * 16 + c.toNat % 16) text := .mk rfl rfl high low
  have code : ((0 * 16 + 0) * 16 + c.toNat / 16) * 16 + c.toNat % 16 = c.toNat := by omega
  rw [code] at hex
  have stands := Escape.code hex (.inl (by omega))
  rwa [Char.ofNat_toNat] at stands

/-- The written form of a character inside a string stands for that character. -/
theorem characters_escape (c : Char) {text rest : List UInt8} {others : List Char}
    (next : Characters text others rest) :
    Characters (encoded (escape c) ++ text) (c :: others) rest := by
  -- a character with an escape of its own is known by its code
  have known : ∀ d : Char, c.toNat = d.toNat → c = d := fun d same => Char.toNat_inj.mp same
  unfold escape
  split
  next quote =>
    subst quote
    exact .escape (.letter rfl) next
  next unquoted =>
  split
  next slash =>
    subst slash
    exact .escape (.letter rfl) next
  next unescaped =>
  split
  next printed =>
    rw [encoded_cons, encoded_nil, List.append_nil]
    exact .plain printed (fun same => unquoted (known '"' same))
      (fun same => unescaped (known '\\' same)) next
  next control =>
  split
  next code =>
    obtain rfl := known '\x08' code
    exact .escape (.letter rfl) next
  split
  next code =>
    obtain rfl := known '\t' code
    exact .escape (.letter rfl) next
  split
  next code =>
    obtain rfl := known '\n' code
    exact .escape (.letter rfl) next
  split
  next code =>
    obtain rfl := known '\x0c' code
    exact .escape (.letter rfl) next
  split
  next code =>
    obtain rfl := known '\r' code
    exact .escape (.letter rfl) next
  next =>
    have high := encode_hexDigit (c.toNat / 16) (by omega)
    have low := encode_hexDigit (c.toNat % 16) (by omega)
    simp only [encoded_cons, encoded_nil, high, low]
    exact .escape (escape_control (by omega) text) next

theorem characters_quoted (chars : List Char) (rest : List UInt8) :
    Characters (encoded (chars.flatMap escape) ++ 0x22 :: rest) chars rest := by
  induction chars with
  | nil => exact .close
  | cons c chars ih =>
    rw [List.flatMap_cons, encoded_append, List.append_assoc]
    exact characters_escape c ih

theorem encoded_quoted (text : String) (rest : List UInt8) :
    encoded (quoted text) ++ rest =
      0x22 :: (encoded (text.toList.flatMap escape) ++ 0x22 :: rest) := by
  have quote : String.utf8EncodeChar '"' = [0x22] := rfl
  simp [quoted, quote]

theorem value_string (text : String) (depth : Nat) (rest : List UInt8) :
    Value depth (encoded (quoted text) ++ rest) (.string text) rest := by
  rw [encoded_quoted]
  have read : Value depth _ (.string (String.ofList text.toList)) rest :=
    .string (characters_quoted text.toList rest)
  rwa [String.ofList_toList] at read

/-! ## Numbers -/

theorem value_integer {n : Int} (wide : isWide n = true) (depth : Nat) {rest : List UInt8}
    (ends : Delimited rest) :
    Value depth (encoded (integerChars n) ++ rest) (.number (.integer n)) rest := by
  simp only [isWide, Bool.and_eq_true, decide_eq_true_eq] at wide
  obtain ⟨kept, value⟩ := value_toDigits (n := n.natAbs)
    (by simp only [wordCount64]; omega) (n < 0)
  have numeral := numeral_toDigits n.natAbs ends
  unfold integerChars
  split
  next negative =>
    have same : -(n.natAbs : Int) = n := by omega
    have nonzero : n.natAbs ≠ 0 := by omega
    have held : isInt64 n = true := by simp [isInt64]; omega
    have whole : ¬ (n.natAbs = 0 ∨ (!isInt64 (-(n.natAbs : Int))) = true) := by
      rw [same, held]
      simpa using nonzero
    rw [decide_eq_true negative] at value
    refine .negative numeral (value.trans ?_)
    rw [wholeNumber, if_neg (by simp), if_neg (by decide), if_neg whole, same]
  next positive =>
    have same : (n.natAbs : Int) = n := by omega
    rw [decide_eq_false positive] at value
    refine .positive numeral (value.trans ?_)
    simp only [wholeNumber, same]
    rfl

/-! ## Blanks -/

/-- Whether a text consists of blanks. -/
def Blank (chars : List Char) : Prop := ∀ b ∈ encoded chars, isBlank b = true

theorem blank_nil : Blank [] := List.forall_mem_nil _

theorem blank_space : Blank [' '] := by
  show ∀ b ∈ [0x20], isBlank b = true
  exact List.forall_mem_singleton.mpr rfl

theorem blank_lineBreak (level : Nat) : Blank (lineBreak level) := by
  have feed : String.utf8EncodeChar '\n' = [0x0A] := rfl
  have space : String.utf8EncodeChar ' ' = [0x20] := rfl
  intro b member
  obtain ⟨c, listed, member⟩ := List.mem_flatMap.mp member
  rcases List.mem_cons.mp listed with rfl | listed
  · rw [feed] at member
    obtain rfl := List.mem_singleton.mp member
    rfl
  · rw [List.eq_of_mem_replicate listed, space] at member
    obtain rfl := List.mem_singleton.mp member
    rfl

theorem delimited_cons {b : UInt8} (known : b = 0x2C ∨ b = 0x5D ∨ b = 0x7D) (rest : List UInt8) :
    Delimited (b :: rest) := by
  rintro _ ⟨rfl⟩
  exact .inr known

theorem Blank.blanks {chars : List Char} (blank : Blank chars) (text : List UInt8) :
    Blanks (encoded chars ++ text) text := ⟨_, blank, rfl⟩

theorem Blank.delimited {chars : List Char} (blank : Blank chars) {rest : List UInt8}
    (ends : Delimited rest) : Delimited (encoded chars ++ rest) := by
  cases same : encoded chars with
  | nil => exact ends
  | cons b others =>
    rintro _ ⟨rfl⟩
    exact .inl (blank b (by simp [same]))

/-! ## Values -/

/-- Whether a text is read as a value, whatever is left behind it. -/
def Spells (depth : Nat) (chars : List Char) (value : Json) : Prop :=
  ∀ rest, Delimited rest → Value depth (encoded chars ++ rest) value rest

theorem spells_null (depth : Nat) : Spells depth nullChars .null := by
  intro rest _
  show Value depth (0x6E :: ([0x75, 0x6C, 0x6C] ++ rest)) .null rest
  exact .word (by simp [words])

theorem spells_boolean (depth : Nat) (flag : Bool) :
    Spells depth (booleanChars flag) (.boolean flag) := by
  intro rest _
  cases flag with
  | false =>
    show Value depth (0x66 :: ([0x61, 0x6C, 0x73, 0x65] ++ rest)) (.boolean false) rest
    exact .word (by simp [words])
  | true =>
    show Value depth (0x74 :: ([0x72, 0x75, 0x65] ++ rest)) (.boolean true) rest
    exact .word (by simp [words])

section

variable {depth : Nat} {before after gap : List Char} {form : Json → List Char}

/-- Items with commas between them and blanks around them. -/
theorem exists_items_of_spells {items : List Json} (early : Blank before) (late : Blank after)
    (filled : items ≠ []) (all : ∀ item ∈ items, Spells depth (form item) item)
    (rest : List UInt8) :
    ∃ body, Blanks (encoded ([','].intercalate (items.map fun item => before ++ form item)) ++
        (encoded after ++ 0x5D :: rest)) body ∧ Items depth body items rest := by
  have comma : String.utf8EncodeChar ',' = [0x2C] := rfl
  induction items with
  | nil => exact absurd rfl filled
  | cons item others ih =>
    obtain ⟨first, all⟩ := List.forall_mem_cons.mp all
    cases others with
    | nil =>
      have closed := late.delimited (delimited_cons (b := 0x5D) (by decide) rest)
      refine ⟨_, ?_, .last (first _ closed) (late.blanks _)⟩
      rw [List.map_singleton, List.intercalate_singleton, encoded_append, List.append_assoc]
      exact early.blanks _
    | cons next others =>
      obtain ⟨body, blanks, listed⟩ := ih (by simp) all
      refine ⟨_, ?_, .more (first _ (delimited_cons (by decide) _)) (.none _) blanks listed⟩
      rw [List.map_cons, List.map_cons, List.intercalate_cons_cons]
      simp only [encoded_append, encoded_cons, comma, List.append_assoc, List.singleton_append]
      exact early.blanks _

theorem spells_array {items : List Json} (early : Blank before) (late : Blank after)
    (all : ∀ item ∈ items, Spells depth (form item) item) :
    Spells (depth + 1)
      ('[' :: [','].intercalate (items.map fun item => before ++ form item) ++ after ++ [']'])
      (.array items) := by
  intro rest _
  have brackets : String.utf8EncodeChar '[' = [0x5B] ∧ String.utf8EncodeChar ']' = [0x5D] :=
    ⟨rfl, rfl⟩
  simp only [encoded_append, encoded_cons, encoded_nil, brackets, List.append_assoc,
    List.append_nil, List.cons_append]
  by_cases filled : items = []
  · subst filled
    exact .noItems (late.blanks _)
  · obtain ⟨body, blanks, listed⟩ := exists_items_of_spells early late filled all rest
    exact .array blanks listed

/-- The text of an entry, with blanks before its value. -/
def entryChars (gap : List Char) (form : Json → List Char) (entry : String × Json) : List Char :=
  quoted entry.1 ++ ':' :: (gap ++ form entry.2)

theorem entry_of_spells {entry : String × Json} (between : Blank gap)
    (spells : Spells depth (form entry.2) entry.2) {rest : List UInt8} (ends : Delimited rest) :
    Entry depth (encoded (entryChars gap form entry) ++ rest) entry rest := by
  have colon : String.utf8EncodeChar ':' = [0x3A] := rfl
  have split : encoded (entryChars gap form entry) ++ rest =
      0x22 :: (encoded (entry.1.toList.flatMap escape) ++
        0x22 :: 0x3A :: (encoded gap ++ (encoded (form entry.2) ++ rest))) := by
    rw [entryChars, encoded_append, List.append_assoc, encoded_quoted]
    simp [colon]
  have read := Entry.mk (characters_quoted entry.1.toList _) (.none _) (between.blanks _)
    (spells rest ends)
  rw [String.ofList_toList] at read
  rw [split]
  exact read

/-- Entries with commas between them and blanks around them. -/
theorem exists_entries_of_spells {members : List (String × Json)} (early : Blank before)
    (between : Blank gap) (late : Blank after) (filled : members ≠ [])
    (all : ∀ entry ∈ members, Spells depth (form entry.2) entry.2) (rest : List UInt8) :
    ∃ body, Blanks (encoded ([','].intercalate
        (members.map fun entry => before ++ entryChars gap form entry)) ++
          (encoded after ++ 0x7D :: rest)) body ∧ Entries depth body members rest := by
  have comma : String.utf8EncodeChar ',' = [0x2C] := rfl
  induction members with
  | nil => exact absurd rfl filled
  | cons entry others ih =>
    obtain ⟨first, all⟩ := List.forall_mem_cons.mp all
    cases others with
    | nil =>
      have closed := late.delimited (delimited_cons (b := 0x7D) (by decide) rest)
      refine ⟨_, ?_, .last (entry_of_spells between first closed) (late.blanks _)⟩
      rw [List.map_singleton, List.intercalate_singleton, encoded_append, List.append_assoc]
      exact early.blanks _
    | cons next others =>
      obtain ⟨body, blanks, listed⟩ := ih (by simp) all
      refine ⟨_, ?_, .more (entry_of_spells between first (delimited_cons (by decide) _)) (.none _)
        blanks listed⟩
      rw [List.map_cons, List.map_cons, List.intercalate_cons_cons]
      simp only [encoded_append, encoded_cons, comma, List.append_assoc, List.singleton_append]
      exact early.blanks _

theorem spells_object {members : List (String × Json)} (early : Blank before)
    (between : Blank gap) (late : Blank after) (differ : (Members.names members).Nodup)
    (all : ∀ entry ∈ members, Spells depth (form entry.2) entry.2) :
    Spells (depth + 1) ('{' :: [','].intercalate
      (members.map fun entry => before ++ entryChars gap form entry) ++ after ++ ['}'])
      (.object members) := by
  intro rest _
  have braces : String.utf8EncodeChar '{' = [0x7B] ∧ String.utf8EncodeChar '}' = [0x7D] :=
    ⟨rfl, rfl⟩
  simp only [encoded_append, encoded_cons, encoded_nil, braces, List.append_assoc,
    List.append_nil, List.cons_append]
  have listed : Grammar.Object depth (encoded ([','].intercalate
      (members.map fun entry => before ++ entryChars gap form entry)) ++
        (encoded after ++ 0x7D :: rest)) members rest := by
    by_cases filled : members = []
    · subst filled
      exact .empty (late.blanks _)
    · obtain ⟨body, blanks, listed⟩ :=
        exists_entries_of_spells early between late filled all rest
      exact .filled blanks listed
  -- putting members with different names only lists them
  have read := Value.object listed
  rw [Members.putAll_of_nodup [] members differ, List.nil_append] at read
  exact read

end

/-! ## The two forms -/

theorem compactItems_eq (items : List Json) :
    compactItems items = [','].intercalate (items.map fun item => [] ++ compactChars item) := by
  induction items with
  | nil => rfl
  | cons item others ih =>
    cases others with
    | nil => simp [compactItems]
    | cons next others =>
      rw [compactItems, ih]
      simp

theorem compactMembers_eq (members : List (String × Json)) :
    compactMembers members = [','].intercalate
      (members.map fun entry => [] ++ entryChars [] compactChars entry) := by
  induction members with
  | nil => rfl
  | cons entry others ih =>
    cases others with
    | nil => simp [compactMembers, entryChars]
    | cons next others =>
      rw [compactMembers, ih]
      simp [entryChars]

theorem spells_compact {depth : Nat} {value : Json} (exact : Exact depth value) :
    Spells depth (compactChars value) value := by
  obtain ⟨fits, plain⟩ := exact
  induction fits with
  | null => exact spells_null _
  | boolean => exact spells_boolean _ _
  | integer wide => exact fun _ => value_integer wide _
  | float => exact absurd .here plain
  | string => exact fun rest _ => value_string _ _ rest
  | array _ ih =>
    have spells := spells_array blank_nil blank_nil fun item member =>
      ih item member fun inside => plain (.item member inside)
    rw [compactChars, compactItems_eq]
    simpa using spells
  | object differ _ ih =>
    have spells := spells_object blank_nil blank_nil blank_nil differ fun entry member =>
      ih entry member fun inside => plain (.member member inside)
    rw [compactChars, compactMembers_eq]
    simpa using spells

theorem prettyItems_eq (level : Nat) (items : List Json) : prettyItems level items =
    [','].intercalate (items.map fun item => lineBreak level ++ prettyChars level item) := by
  induction items with
  | nil => rfl
  | cons item others ih =>
    cases others with
    | nil => simp [prettyItems]
    | cons next others =>
      rw [prettyItems, ih]
      simp

theorem prettyMembers_eq (level : Nat) (members : List (String × Json)) :
    prettyMembers level members = [','].intercalate
      (members.map fun entry => lineBreak level ++ entryChars [' '] (prettyChars level) entry) := by
  induction members with
  | nil => rfl
  | cons entry others ih =>
    cases others with
    | nil => simp [prettyMembers, entryChars]
    | cons next others =>
      rw [prettyMembers, ih]
      simp [entryChars]

theorem spells_pretty {depth : Nat} {value : Json} (exact : Exact depth value) (level : Nat) :
    Spells depth (prettyChars level value) value := by
  obtain ⟨fits, plain⟩ := exact
  induction fits generalizing level with
  | null => exact spells_null _
  | boolean => exact spells_boolean _ _
  | integer wide => exact fun _ => value_integer wide _
  | float => exact absurd .here plain
  | string => exact fun rest _ => value_string _ _ rest
  | @array depth items _ ih =>
    cases items with
    | nil =>
      have spells : ∀ item ∈ [], Spells depth (prettyChars level item) item := List.forall_mem_nil _
      exact spells_array blank_nil blank_nil spells
    | cons item others =>
      rw [prettyChars, prettyItems_eq]
      exact spells_array (blank_lineBreak _) (blank_lineBreak _) fun item member =>
        ih item member _ fun inside => plain (.item member inside)
  | @object depth members differ _ ih =>
    cases members with
    | nil =>
      have spells : ∀ entry ∈ ([] : List (String × Json)),
          Spells depth (prettyChars level entry.2) entry.2 := List.forall_mem_nil _
      exact spells_object blank_nil blank_nil blank_nil differ spells
    | cons entry others =>
      rw [prettyChars, prettyMembers_eq]
      exact spells_object (blank_lineBreak _) blank_space (blank_lineBreak _) differ
        fun entry member => ih entry member _ fun inside => plain (.member member inside)

theorem parse_of_spells {chars : List Char} {value : Json} (spells : Spells depthLimit chars value) :
    parse (encoded chars) = .ok value := by
  have derived := spells [] (by simp [Delimited])
  rw [List.append_nil] at derived
  exact parse_eq_ok_iff.mpr ⟨_, [], .none _, derived, .none _⟩

/-- **The compact form of an exact value is read as that value.** -/
theorem parse_compact {value : Json} (exact : Exact depthLimit value) :
    parse (Utf8.bytes value.compact) = .ok value := by
  rw [Utf8.bytes, compact, String.toList_ofList]
  exact parse_of_spells (spells_compact exact)

/-- Exact values with one compact form are one value. -/
theorem compact_inj {value other : Json} (exact : Exact depthLimit value)
    (exact' : Exact depthLimit other) : value.compact = other.compact ↔ value = other := by
  constructor
  · intro same
    have read := parse_compact exact
    rw [same, parse_compact exact'] at read
    exact (Except.ok.inj read).symm
  · rintro rfl
    rfl

/-- **The pretty form of an exact value is read as that value.** -/
theorem parse_pretty {value : Json} (exact : Exact depthLimit value) :
    parse (Utf8.bytes value.pretty) = .ok value := by
  rw [Utf8.bytes, pretty, String.toList_ofList]
  exact parse_of_spells (spells_pretty exact 0)

end ToolGateway.Json
