import ToolGateway.Text.Utf8

/-!
# Texts cut at offsets

A text as the bytes it is kept in: the offset at which a pattern stands last among them, and what
stands before and behind an offset. A text is only cut where one of its characters begins, and at its
end.
-/

namespace ToolGateway.Utf8

/-- The offset of the last place where a pattern stands. -/
def lastOffset? (pattern : List UInt8) : List UInt8 → Option Nat
  | [] => if pattern.isEmpty then some 0 else none
  | b :: rest =>
    match lastOffset? pattern rest with
    | some offset => some (offset + 1)
    | none => if pattern.isPrefixOf (b :: rest) then some 0 else none

/-- The text before an offset, if it can be cut there. -/
def before? (text : String) (offset : Nat) : Option String :=
  if valid : (String.Pos.Raw.mk offset).IsValid text then
    some (text.sliceTo (text.pos ⟨offset⟩ valid)).copy
  else none

/-- The text behind an offset, if it can be cut there. -/
def behind? (text : String) (offset : Nat) : Option String :=
  if valid : (String.Pos.Raw.mk offset).IsValid text then
    some (text.sliceFrom (text.pos ⟨offset⟩ valid)).copy
  else none

end ToolGateway.Utf8
