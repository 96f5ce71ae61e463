import Mathlib.Data.List.TakeWhile
import ToolGateway.Server.Session

/-!
# Lines and the padding around them

`LinesOf text lines` says how a stream is cut: at every line feed, and what stands after the last
one is a line too unless it is empty. `Stripped line content` says what is left of a line without
the padding around it. Both are stated without the functions of a session.

* `linesOf_iff`: there is exactly one way to cut a stream, and `lines` finds it.
* `stripped_iff`: there is exactly one way to strip a line, and `trim` finds it.
-/

namespace ToolGateway.Session

/-! ## Cutting a stream -/

/-- A text and the lines it consists of, without their line feeds. -/
inductive LinesOf : List UInt8 → List (List UInt8) → Prop where
  | none : LinesOf [] []
  /-- What stands after the last line feed. -/
  | last {line : List UInt8} (filled : line ≠ []) (whole : lineFeed ∉ line) : LinesOf line [line]
  | ended {line rest : List UInt8} {lines : List (List UInt8)} (whole : lineFeed ∉ line)
      (others : LinesOf rest lines) : LinesOf (line ++ lineFeed :: rest) (line :: lines)

theorem linesFrom_append {line : List UInt8} (whole : lineFeed ∉ line) (text current : List UInt8)
    (done : List (List UInt8)) :
    linesFrom (line ++ text) current done = linesFrom text (line.reverse ++ current) done := by
  induction line generalizing current with
  | nil => rfl
  | cons b line ih =>
    obtain ⟨different, whole⟩ := List.ne_and_not_mem_of_not_mem_cons whole
    rw [List.cons_append, linesFrom, if_neg (Ne.symm different), ih whole]
    simp

theorem linesFrom_done (text current : List UInt8) (done : List (List UInt8)) :
    linesFrom text current done = done.reverse ++ linesFrom text current [] := by
  induction text generalizing current done with
  | nil =>
    unfold linesFrom
    split <;> simp
  | cons b rest ih =>
    unfold linesFrom
    split
    · rw [ih [] (current.reverse :: done), ih [] [current.reverse]]
      simp
    · exact ih (b :: current) done

theorem lines_ended {line : List UInt8} (whole : lineFeed ∉ line) (rest : List UInt8) :
    lines (line ++ lineFeed :: rest) = line :: lines rest := by
  unfold lines
  rw [linesFrom_append whole, linesFrom, if_pos rfl, linesFrom_done]
  simp

theorem lines_last {line : List UInt8} (filled : line ≠ []) (whole : lineFeed ∉ line) :
    lines line = [line] := by
  have := linesFrom_append whole [] [] []
  rw [List.append_nil, List.append_nil] at this
  rw [lines, this, linesFrom]
  simp [filled]

theorem linesOf_lines (text : List UInt8) : LinesOf text (lines text) := by
  by_cases ends : lineFeed ∈ text
  · -- cut at the first line feed: what stands before it is a line, and the rest is shorter
    obtain ⟨line, rest, cut, whole⟩ := List.eq_append_cons_of_mem ends
    have : rest.length < text.length := by
      rw [cut, List.length_append, List.length_cons]
      omega
    rw [cut, lines_ended whole]
    exact .ended whole (linesOf_lines rest)
  · by_cases filled : text = []
    · subst filled
      exact .none
    · rw [lines_last filled ends]
      exact .last filled ends
termination_by text.length

/-- There is exactly one way to cut a text into lines. -/
theorem linesOf_iff {text : List UInt8} {found : List (List UInt8)} :
    LinesOf text found ↔ found = lines text := by
  constructor
  · intro cut
    induction cut with
    | none => rfl
    | last filled whole => rw [lines_last filled whole]
    | ended whole _ ih => rw [lines_ended whole, ih]
  · rintro rfl
    exact linesOf_lines text

/-! ## Stripping a line -/

/-- `content` is what is left of `line` without the padding around it. -/
structure Stripped (line content : List UInt8) : Prop where
  around : ∃ before after, line = before ++ content ++ after ∧
    (∀ b ∈ before, isPadding b = true) ∧ ∀ b ∈ after, isPadding b = true
  first : ∀ b ∈ content.head?, isPadding b = false
  last : ∀ b ∈ content.getLast?, isPadding b = false

/-- Dropping stops at a text that does not begin with padding, or takes all that is padding. -/
theorem dropWhile_padding {before content after : List UInt8}
    (padding : ∀ b ∈ before, isPadding b = true) (first : ∀ b ∈ content.head?, isPadding b = false)
    (empty : content = [] → after = []) :
    (before ++ content ++ after).dropWhile isPadding = content ++ after := by
  rw [List.append_assoc, List.dropWhile_append_of_pos padding]
  cases content with
  | nil => simp [empty rfl]
  | cons b rest =>
    have := first b rfl
    simp [this]

theorem trim_eq_of_stripped {line content : List UInt8} (h : Stripped line content) :
    trim line = content := by
  obtain ⟨⟨before, after, rfl, padBefore, padAfter⟩, first, last⟩ := h
  unfold trim
  by_cases filled : content = []
  · -- of a line of padding alone nothing tells what stands before from what stands after
    subst filled
    have all : ∀ b ∈ before ++ [] ++ after, isPadding b = true := by
      intro b member
      rw [List.append_nil, List.mem_append] at member
      exact member.elim (padBefore b) (padAfter b)
    rw [List.dropWhile_eq_nil_iff.mpr all]
    rfl
  · have front : (before ++ content ++ after).dropWhile isPadding = content ++ after :=
      dropWhile_padding padBefore first (fun h => absurd h filled)
    have back : (after.reverse ++ content.reverse ++ []).dropWhile isPadding = content.reverse ++ [] :=
      dropWhile_padding (by simpa using padAfter) (by simpa using last) (fun _ => rfl)
    rw [front, List.reverse_append]
    rw [List.append_nil, List.append_nil] at back
    rw [back, List.reverse_reverse]

theorem stripped_trim (line : List UInt8) : Stripped line (trim line) := by
  let kept := line.dropWhile isPadding
  have front : line.takeWhile isPadding ++ kept = line := List.takeWhile_append_dropWhile
  have back : kept = trim line ++ (kept.reverse.takeWhile isPadding).reverse := by
    have := congrArg List.reverse
      (List.takeWhile_append_dropWhile (p := isPadding) (l := kept.reverse))
    rw [List.reverse_append, List.reverse_reverse] at this
    exact this.symm
  refine ⟨⟨line.takeWhile isPadding, (kept.reverse.takeWhile isPadding).reverse, ?_, ?_, ?_⟩, ?_, ?_⟩
  · rw [List.append_assoc, ← back, front]
  · intro b member
    exact List.mem_takeWhile_imp member
  · intro b member
    exact List.mem_takeWhile_imp (List.mem_reverse.mp member)
  · intro b head
    have found : kept.head? = some b := by
      rw [back, List.head?_append, Option.mem_def.mp head]
      rfl
    have := List.head?_dropWhile_not isPadding line
    rw [found] at this
    simpa using this
  · intro b tail
    unfold trim at tail
    rw [List.getLast?_reverse] at tail
    have := List.head?_dropWhile_not isPadding kept.reverse
    rw [Option.mem_def.mp tail] at this
    simpa using this

/-- There is exactly one way to strip a line. -/
theorem stripped_iff {line content : List UInt8} : Stripped line content ↔ content = trim line := by
  constructor
  · intro h
    exact (trim_eq_of_stripped h).symm
  · rintro rfl
    exact stripped_trim line

end ToolGateway.Session
