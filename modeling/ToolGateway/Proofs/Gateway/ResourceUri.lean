import ToolGateway.Gateway.ResourceUri

/-!
# Splitting resource URIs

A list of characters is split at its last separator: the parts give the whole back, and the part
behind holds no separator. Since no separator begins inside another one, these two facts settle the
parts.
-/

namespace ToolGateway.ResourceUri

/-- The end of a separator and what follows it hold no separator but those of what follows. -/
theorem infix_slashes_iff {token : List Char} :
    separator <:+: '/' :: '/' :: token ↔ separator <:+: token := by
  have noStart : ∀ rest, ¬ separator <+: '/' :: rest := by
    intro rest start
    have := (List.cons_prefix_cons.mp start).1
    cases this
  rw [List.infix_cons_iff, List.infix_cons_iff]
  simp [noStart]

theorem splitLast?_eq_none_iff {text : List Char} :
    splitLast? text = none ↔ ¬ separator <:+: text := by
  induction text with
  | nil => simp [splitLast?, separator]
  | cons c rest ih =>
    rw [splitLast?, List.infix_cons_iff]
    cases split : splitLast? rest with
    | some parts =>
      have inside : separator <:+: rest := by
        by_cases inside : separator <:+: rest
        · exact inside
        · rw [ih.mpr inside] at split
          cases split
      simp [inside]
    | none =>
      have outside := ih.mp split
      by_cases start : separator <+: c :: rest
      · simp [start]
      · simp [start, outside]

theorem splitLast?_eq_some_iff {text scheme token : List Char} :
    splitLast? text = some (scheme, token) ↔
      text = scheme ++ separator ++ token ∧ ¬ separator <:+: token := by
  induction text generalizing scheme with
  | nil => simp [splitLast?, separator]
  | cons c rest ih =>
    rw [splitLast?]
    cases split : splitLast? rest with
    | some parts =>
      have inside : separator <:+: rest := by
        by_cases inside : separator <:+: rest
        · exact inside
        · rw [splitLast?_eq_none_iff.mpr inside] at split
          cases split
      constructor
      · intro same
        obtain ⟨rfl, rfl⟩ := Prod.mk.inj (Option.some.inj same)
        obtain ⟨whole, last⟩ := ih.mp split
        exact ⟨by rw [whole]; rfl, last⟩
      · rintro ⟨whole, last⟩
        cases scheme with
        | nil =>
          -- a separator at the front leaves slashes, and then the one inside lies in the token
          obtain ⟨rfl, rfl⟩ := List.cons.inj whole
          exact absurd (infix_slashes_iff.mp inside) last
        | cons first scheme =>
          obtain ⟨rfl, rfl⟩ := List.cons.inj whole
          have := ih.mpr ⟨rfl, last⟩
          rw [split] at this
          obtain rfl := Option.some.inj this
          rfl
    | none =>
      have outside := splitLast?_eq_none_iff.mp split
      -- without a separator in the rest, only the front can be one
      have front : c :: rest = scheme ++ separator ++ token → scheme = [] := by
        intro whole
        cases scheme with
        | nil => rfl
        | cons first scheme =>
          obtain ⟨-, rfl⟩ := List.cons.inj whole
          exact absurd ⟨scheme, token, rfl⟩ outside
      dsimp only
      split
      next start =>
        obtain ⟨after, whole⟩ := List.isPrefixOf_iff_prefix.mp start
        rw [← whole, List.drop_left]
        constructor
        · intro same
          obtain ⟨rfl, rfl⟩ := Prod.mk.inj (Option.some.inj same)
          refine ⟨rfl, ?_⟩
          obtain ⟨-, rfl⟩ := List.cons.inj whole
          intro inside
          exact outside (infix_slashes_iff.mpr inside)
        · rintro ⟨same, -⟩
          obtain rfl := front (whole.symm.trans same)
          rw [List.nil_append, List.append_cancel_left_eq] at same
          rw [same]
      next noStart =>
        constructor
        · intro same
          cases same
        · rintro ⟨whole, -⟩
          obtain rfl := front whole
          exact absurd (List.isPrefixOf_iff_prefix.mpr ⟨token, whole.symm⟩) noStart

/-- A URI made of a scheme and a token has that token exactly when the token holds no separator. -/
theorem typeToken_parse_iff (scheme token : String) :
    (parse (scheme ++ "://" ++ token)).typeToken = token ↔ ¬ separator <:+: token.toList := by
  have whole : (scheme ++ "://" ++ token).toList = scheme.toList ++ separator ++ token.toList := by
    simp [separator]
  constructor
  · intro same inside
    cases split : splitLast? (scheme ++ "://" ++ token).toList with
    | none =>
      refine splitLast?_eq_none_iff.mp split ?_
      rw [whole]
      exact ⟨scheme.toList, token.toList, rfl⟩
    | some parts =>
      obtain ⟨-, last⟩ := splitLast?_eq_some_iff.mp split
      rw [parse, split] at same
      rw [← same, String.toList_ofList] at inside
      exact last inside
  · intro outside
    have split := splitLast?_eq_some_iff.mpr ⟨whole, outside⟩
    rw [parse, split]
    simp

/-- The type token of a URI: what stands behind its last separator, or the whole URI if it has
none. -/
inductive Token (uri : String) : String → Prop where
  | behind {scheme token : String} (split : uri = scheme ++ "://" ++ token)
      (last : ¬ separator <:+: token.toList) : Token uri token
  | whole (plain : ¬ separator <:+: uri.toList) : Token uri uri

theorem token_iff {uri token : String} : Token uri token ↔ (parse uri).typeToken = token := by
  constructor
  · intro named
    cases named with
    | @behind scheme _ split last =>
      rw [split]
      exact (typeToken_parse_iff scheme token).mpr last
    | whole plain => rw [parse, splitLast?_eq_none_iff.mpr plain]
  · rintro rfl
    unfold parse
    cases split : splitLast? uri.toList with
    | none => exact .whole (splitLast?_eq_none_iff.mp split)
    | some parts =>
      obtain ⟨whole, last⟩ := splitLast?_eq_some_iff.mp split
      have joined : uri = String.ofList parts.1 ++ "://" ++ String.ofList parts.2 := by
        rw [← String.toList_inj, whole]
        simp [separator]
      exact .behind joined (by rwa [String.toList_ofList])

end ToolGateway.ResourceUri
