import ToolGateway.Proofs.Json.Grammar

/-!
# Reading numbers follows the grammar

Each part of a number is read exactly as the grammar has it. A part ends where no byte can continue
it, so what is left of the text is settled as well.
-/

namespace ToolGateway.Json

theorem head?_dropWhile (p : UInt8 → Bool) (text : List UInt8) :
    (text.dropWhile p).head?.any p = false := by
  induction text with
  | nil => rfl
  | cons b rest ih =>
    rw [List.dropWhile_cons]
    split
    · exact ih
    next other => simpa using other

theorem Grammar.Digits.of_run (text : List UInt8) :
    Grammar.Digits text (text.takeWhile isDigit) (text.dropWhile isDigit) where
  split := List.takeWhile_append_dropWhile.symm
  digits := by
    intro d member
    exact List.all_eq_true.mp List.all_takeWhile d member
  ended := head?_dropWhile isDigit text

theorem Grammar.Digits.run_eq {text digits rest : List UInt8} (run : Grammar.Digits text digits rest) :
    text.takeWhile isDigit = digits ∧ text.dropWhile isDigit = rest := by
  obtain ⟨rfl, all, ended⟩ := run
  rw [List.takeWhile_append_of_pos all, List.dropWhile_append_of_pos all]
  cases rest with
  | nil => simp
  | cons b rest =>
    have other : isDigit b = false := by simpa using ended
    simp [other]

theorem readWhole_eq_ok_iff {text digits rest : List UInt8} :
    readWhole text = .ok (digits, rest) ↔ Grammar.Whole text digits rest := by
  constructor
  · intro read
    unfold readWhole at read
    split at read
    · cases read
    next b after =>
      split at read
      next zero =>
        split at read
        · cases read
        next ended =>
          obtain ⟨rfl, rfl⟩ := Prod.mk.inj (Except.ok.inj read)
          rw [zero]
          exact .zero (by simpa using ended)
      next nonzero =>
        split at read
        next first =>
          obtain ⟨rfl, rfl⟩ := Prod.mk.inj (Except.ok.inj read)
          exact .other first nonzero (.of_run after)
        next => cases read
  · intro whole
    cases whole with
    | zero ended => simp [readWhole, ended]
    | other first nonzero others =>
      obtain ⟨rfl, rfl⟩ := others.run_eq
      simp [readWhole, first, nonzero]

theorem readFraction_eq_ok_iff {text digits rest : List UInt8} :
    readFraction text = .ok (digits, rest) ↔ Grammar.Fraction text digits rest := by
  constructor
  · intro read
    unfold readFraction at read
    split at read
    next after =>
      split at read
      next first =>
        obtain ⟨rfl, rfl⟩ := Prod.mk.inj (Except.ok.inj read)
        refine .present ?_ (.of_run after)
        cases after with
        | nil => cases first
        | cons b after =>
          have digit : isDigit b = true := first
          simp [digit]
      next => cases read
    next pointless =>
      obtain ⟨rfl, rfl⟩ := Prod.mk.inj (Except.ok.inj read)
      refine .absent ?_
      intro point
      cases text with
      | nil => cases point
      | cons b after => exact pointless after (by rw [Option.some.inj point])
  · intro fraction
    cases fraction with
    | absent pointless =>
      unfold readFraction
      split
      next => exact absurd rfl pointless
      next => rfl
    | @present after digits rest filled run =>
      have first : after.head?.any isDigit = true := by
        obtain ⟨rfl, all, -⟩ := run
        cases digits with
        | nil => exact absurd rfl filled
        | cons d digits => exact all d List.mem_cons_self
      obtain ⟨rfl, rfl⟩ := run.run_eq
      simp [readFraction, first]

/-- Digits that are there begin with a digit. -/
theorem Grammar.Digits.exists_first {text digits rest : List UInt8}
    (run : Grammar.Digits text digits rest) (filled : digits ≠ []) :
    ∃ d after, text = d :: after ∧ isDigit d = true ∧
      digits = d :: after.takeWhile isDigit ∧ rest = after.dropWhile isDigit := by
  obtain ⟨taken, dropped⟩ := run.run_eq
  cases text with
  | nil => exact absurd taken.symm filled
  | cons d after =>
    have digit : isDigit d = true := by
      by_cases digit : isDigit d = true
      · exact digit
      · rw [List.takeWhile_cons_of_neg digit] at taken
        exact absurd taken.symm filled
    rw [List.takeWhile_cons_of_pos digit] at taken
    rw [List.dropWhile_cons_of_pos digit] at dropped
    exact ⟨d, after, rfl, digit, taken.symm, dropped.symm⟩

theorem Grammar.Sign.of_read (text : List UInt8) :
    Grammar.Sign text (readExponentSign text).1 (readExponentSign text).2 := by
  unfold readExponentSign
  split
  · exact .plus
  · exact .minus
  · exact .absent

/-- A sign is read as such before a digit; the digit is needed only where there is no sign. -/
theorem readExponentSign_eq_of_sign {text rest : List UInt8} {minus : Bool} {d : UInt8}
    (sign : Grammar.Sign text minus (d :: rest)) (digit : isDigit d = true) :
    readExponentSign text = (minus, d :: rest) := by
  cases sign with
  | plus => rfl
  | minus => rfl
  | absent =>
    unfold readExponentSign
    split
    next same =>
      obtain ⟨rfl, -⟩ := List.cons.inj same
      exact absurd digit (by decide)
    next same =>
      obtain ⟨rfl, -⟩ := List.cons.inj same
      exact absurd digit (by decide)
    next => rfl

theorem readExponent_eq_ok_iff {text rest : List UInt8} {exponent : Option (Bool × List UInt8)} :
    readExponent text = .ok (exponent, rest) ↔ Grammar.Exponent text exponent rest := by
  constructor
  · intro read
    unfold readExponent at read
    split at read
    next =>
      obtain ⟨rfl, rfl⟩ := Prod.mk.inj (Except.ok.inj read)
      exact .absent (by simp)
    next letter after =>
      split at read
      next marked =>
        have sign := Grammar.Sign.of_read after
        split at read
        · cases read
        next minus d signed found =>
          rw [found] at sign
          split at read
          next digit =>
            obtain ⟨rfl, rfl⟩ := Prod.mk.inj (Except.ok.inj read)
            have run := Grammar.Digits.of_run (d :: signed)
            rw [List.takeWhile_cons_of_pos digit, List.dropWhile_cons_of_pos digit] at run
            exact .present marked sign (List.cons_ne_nil _ _) run
          next => cases read
      next unmarked =>
        obtain ⟨rfl, rfl⟩ := Prod.mk.inj (Except.ok.inj read)
        refine .absent ?_
        intro b same
        rwa [← Option.some.inj same]
  · intro exponent
    cases exponent with
    | absent unmarked =>
      unfold readExponent
      split
      next => rfl
      next letter after =>
        exact if_neg (unmarked letter rfl)
    | present marked sign filled run =>
      obtain ⟨d, after, rfl, digit, rfl, rfl⟩ := run.exists_first filled
      rw [Grammar.isExponentLetter] at marked
      rw [readExponent, if_pos marked, readExponentSign_eq_of_sign sign digit]
      simp [digit]

/-- The parts of a number are read exactly as the grammar has them. -/
theorem readNumberText_eq_ok_iff {text rest : List UInt8} {number : NumberText} :
    readNumberText text = .ok (number, rest) ↔ Grammar.Numeral text number rest := by
  constructor
  · intro read
    simp only [readNumberText, bind, Except.bind, pure, Except.pure] at read
    split at read
    · cases read
    next first before =>
      split at read
      · cases read
      next second after =>
        split at read
        · cases read
        next third scale =>
          obtain ⟨rfl, rfl⟩ := Prod.mk.inj (Except.ok.inj read)
          exact .mk (readWhole_eq_ok_iff.mp before) (readFraction_eq_ok_iff.mp after)
            (readExponent_eq_ok_iff.mp scale)
  · rintro ⟨before, after, scale⟩
    simp only [readNumberText, bind, Except.bind, pure, Except.pure,
      readWhole_eq_ok_iff.mpr before, readFraction_eq_ok_iff.mpr after,
      readExponent_eq_ok_iff.mpr scale]

end ToolGateway.Json
