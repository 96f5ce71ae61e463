import ToolGateway.Gateway.UriOffset
import ToolGateway.Proofs.Gateway.ResourceUri
import ToolGateway.Proofs.Text.Offset

/-!
# Resource URIs are split exactly

The two parts of a URI and a separator between them give the URI back, the part behind holds no
separator, and these two facts settle the parts. The split of the characters agrees with the split of
the bytes: going through the characters from the last one, a character other than the colon adds its
bytes to the offset, for no separator begins among them. So the offsets at which the bytes are cut are
those of characters, whatever stands around the separators.
-/

namespace ToolGateway.ResourceUri

/-! ## Characters -/

variable {uri scheme token : String}

theorem toList_joined (scheme token : String) :
    (scheme ++ "://" ++ token).toList = scheme.toList ++ separator ++ token.toList := by
  simp [separator]

theorem parse_eq_some_iff : parse uri = ⟨some scheme, token⟩ ↔
    uri = scheme ++ "://" ++ token ∧ ¬ separator <:+: token.toList := by
  rw [← String.toList_inj, toList_joined, ← splitLast?_eq_some_iff, parse]
  cases split : splitLast? uri.toList with
  | none => simp
  | some parts =>
    rw [ResourceUri.mk.injEq, Option.some.injEq, Option.some.injEq, Prod.ext_iff,
      ← String.toList_inj, ← String.toList_inj, String.toList_ofList, String.toList_ofList]

theorem parse_eq_none_iff :
    parse uri = ⟨none, token⟩ ↔ token = uri ∧ ¬ separator <:+: uri.toList := by
  rw [← splitLast?_eq_none_iff, parse]
  cases split : splitLast? uri.toList with
  | none => simp [eq_comm]
  | some parts => simp

/-! ## Bytes -/

theorem flatMap_separator : separator.flatMap String.utf8EncodeChar = separatorBytes := rfl

/-- Only the colon brings the byte with which a separator begins. -/
theorem colon_not_mem_encode {c : Char} (other : c ≠ ':') : 0x3A ∉ String.utf8EncodeChar c := by
  intro member
  rcases Utf8.toNat_of_mem_encode member with same | high
  · exact other (Char.toNat_inj.mp same.symm)
  · exact absurd high (by decide)

/-- The last separator among the bytes stands behind the bytes of what stands before the last
separator among the characters. -/
theorem lastOffset?_encode (text : List Char) :
    Utf8.lastOffset? separatorBytes (text.flatMap String.utf8EncodeChar) =
      (splitLast? text).map fun parts => (parts.1.flatMap String.utf8EncodeChar).length := by
  induction text with
  | nil => rfl
  | cons c rest ih =>
    rw [List.flatMap_cons, splitLast?]
    by_cases colon : c = ':'
    · subst colon
      have encoded : String.utf8EncodeChar ':' = [0x3A] := rfl
      have start : separatorBytes.isPrefixOf (0x3A :: rest.flatMap String.utf8EncodeChar) =
          separator.isPrefixOf (':' :: rest) := by
        rw [Bool.eq_iff_iff, List.isPrefixOf_iff_prefix, List.isPrefixOf_iff_prefix,
          ← Utf8.encode_prefix_iff, flatMap_separator, List.flatMap_cons, encoded,
          List.singleton_append]
      rw [encoded, List.singleton_append, Utf8.lastOffset?, ih, start]
      cases splitLast? rest with
      | some parts =>
        have size : ((':' :: parts.1).flatMap String.utf8EncodeChar).length =
            (parts.1.flatMap String.utf8EncodeChar).length + 1 := rfl
        simp only [Option.map_some, size]
      | none => by_cases here : separator.isPrefixOf (':' :: rest) = true <;> simp [here]
    · have noStart : ¬ separator.isPrefixOf (c :: rest) = true := by
        intro start
        exact colon (List.cons_prefix_cons.mp (List.isPrefixOf_iff_prefix.mp start)).1.symm
      rw [separatorBytes, Utf8.lastOffset?_append (colon_not_mem_encode colon), ← separatorBytes, ih]
      cases splitLast? rest with
      | some parts => simp
      | none => simp [noStart]

theorem lastOffset?_bytes (uri : String) :
    Utf8.lastOffset? separatorBytes (Utf8.bytes uri) =
      (splitLast? uri.toList).map fun parts => (String.ofList parts.1).utf8ByteSize := by
  rw [Utf8.bytes, lastOffset?_encode]
  simp only [← Utf8.length_bytes, Utf8.bytes, String.toList_ofList]

/-- A URI with a separator is what stands before the last one and what stands behind it, and the
offset of the last one is the size of the part before. -/
theorem exists_parts_of_standsLastAt {offset : Nat}
    (found : Utf8.StandsLastAt separatorBytes (Utf8.bytes uri) offset) :
    ∃ scheme token, parse uri = ⟨some scheme, token⟩ ∧ uri = scheme ++ "://" ++ token ∧
      scheme.utf8ByteSize = offset := by
  have search := lastOffset?_bytes uri
  rw [Utf8.lastOffset?_eq_some_iff.mpr found, eq_comm, Option.map_eq_some_iff] at search
  obtain ⟨⟨before, after⟩, split, size⟩ := search
  have parsed : parse uri = ⟨some (String.ofList before), String.ofList after⟩ := by
    rw [parse, split]
  exact ⟨_, _, parsed, (parse_eq_some_iff.mp parsed).1, size⟩

theorem utf8ByteSize_scheme (scheme : String) :
    (scheme ++ "://").utf8ByteSize = scheme.utf8ByteSize + 3 := String.utf8ByteSize_append

/-- Splitting the bytes of a URI never fails, and it comes to splitting its characters. -/
theorem parseBytes?_eq (uri : String) : parseBytes? uri = some (parse uri) := by
  unfold parseBytes?
  cases search : Utf8.lastOffset? separatorBytes (Utf8.bytes uri) with
  | none =>
    have none : splitLast? uri.toList = none := by
      rw [← Option.map_eq_none_iff, ← lastOffset?_bytes, search]
    rw [parse, none]
  | some offset =>
    obtain ⟨scheme, token, parsed, whole, rfl⟩ :=
      exists_parts_of_standsLastAt (Utf8.lastOffset?_eq_some_iff.mp search)
    have before : Utf8.before? uri scheme.utf8ByteSize = some scheme := by
      rw [whole, String.append_assoc]
      exact Utf8.before?_append scheme ("://" ++ token)
    have behind : Utf8.behind? uri (scheme.utf8ByteSize + 3) = some token := by
      rw [whole, ← utf8ByteSize_scheme]
      exact Utf8.behind?_append (scheme ++ "://") token
    rw [parsed]
    simp [before, behind]

/-- **A URI is split exactly.** It has a scheme and a token exactly when it consists of the scheme, a
separator and the token and the token holds no separator; it has no scheme exactly when it holds no
separator, and then it is the token. The split of the bytes never fails and gives the same parts: the
offset at which the separator stands last is the size of the scheme, and it and the offset behind the
separator lie inside the URI, each where a character begins or the URI ends. -/
theorem parse_exact (uri : String) :
    (∀ scheme token, parse uri = ⟨some scheme, token⟩ ↔
      uri = scheme ++ "://" ++ token ∧ ¬ separator <:+: token.toList) ∧
    (∀ token, parse uri = ⟨none, token⟩ ↔ token = uri ∧ ¬ separator <:+: uri.toList) ∧
    parseBytes? uri = some (parse uri) ∧
    ∀ offset, Utf8.StandsLastAt separatorBytes (Utf8.bytes uri) offset →
      (parse uri).scheme.map String.utf8ByteSize = some offset ∧ offset + 3 ≤ uri.utf8ByteSize ∧
        (String.Pos.Raw.mk offset).IsValid uri ∧ (String.Pos.Raw.mk (offset + 3)).IsValid uri := by
  refine ⟨fun scheme token => parse_eq_some_iff, fun token => parse_eq_none_iff,
    parseBytes?_eq uri, ?_⟩
  intro offset found
  obtain ⟨scheme, token, parsed, whole, rfl⟩ := exists_parts_of_standsLastAt found
  have start : (String.Pos.Raw.mk scheme.utf8ByteSize).IsValid uri := by
    rw [whole, String.append_assoc]
    exact Utf8.isValid_append scheme ("://" ++ token)
  have stop : (String.Pos.Raw.mk (scheme.utf8ByteSize + 3)).IsValid uri := by
    rw [whole, ← utf8ByteSize_scheme]
    exact Utf8.isValid_append (scheme ++ "://") token
  exact ⟨by rw [parsed]; rfl, stop.le_utf8ByteSize, start, stop⟩

/-- The slashes behind the only colon belong to the token, and the last of two separators counts. -/
example : parse ":////" = ⟨some "", "//"⟩ ∧ parse "é://ü:://ß" = ⟨some "é://ü:", "ß"⟩ := by
  decide +kernel

end ToolGateway.ResourceUri
