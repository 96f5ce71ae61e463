import ToolGateway.Settings.Path
import ToolGateway.Settings.Value

/-!
# Layers of settings

A layer gives values to keys, and layers are laid one over the other, key by key: a table adds its
entries to the table that is there, and any other value takes the place of what is there. Keys do
not tell the case of letters apart. At the outermost level a key may be a path into tables and
arrays.
-/

namespace ToolGateway

/-- The values given to keys. -/
abbrev SettingLayer := Members SettingValue

namespace SettingLayer

/-- A character of a key without its case. The Kelvin sign counts as the letter it looks like. -/
def lowerChar (c : Char) : Char := if c = '\u212A' then 'k' else c.toLower

def lowerKey (key : String) : String := String.ofList (key.toList.map lowerChar)

mutual

/-- The value of a key after `value` has been laid over what is there. An empty table changes
nothing that is there. -/
def overlayValue : SettingValue → Option SettingValue → SettingValue
  | .table [], below => below.getD (.table [])
  | .table (entry :: more), below =>
    .table (overlayEntries (entry :: more) (below.getD .unset).members)
  | value, _ => value

/-- The entries of a table after others have been laid over them. -/
def overlayEntries : List (String × SettingValue) → Members SettingValue → Members SettingValue
  | [], below => below
  | (key, value) :: rest, below =>
    let key := lowerKey key
    overlayEntries rest (Members.put below key (overlayValue value (Members.find? below key)))

end

/-- The items of an array after one has been changed. Where there is no such place, the array first
grows to have it: at its end, or at its start if the place is counted from the end. -/
def changePlace (index : Int) (change : SettingValue → SettingValue) (items : List SettingValue) :
    List SettingValue :=
  if 0 ≤ index then (items.rightpad (index.toNat + 1) .unset).modify index.toNat change
  else
    let items := items.leftpad index.natAbs .unset
    items.modify (items.length - index.natAbs) change

/-- Lays a value over what a path leads to. What is no table, or no array, where the path goes
through one becomes one; at a place of an array the value takes the place of what is there. -/
def overlayAt (value : SettingValue) : SettingPath → SettingValue → SettingValue
  | [], _ => value
  | [.entry name], below => .table (overlayEntries [(name, value)] below.members)
  | .entry name :: path, below =>
    let name := lowerKey name
    let inner := (Members.find? below.members name).getD .unset
    .table (Members.put below.members name (overlayAt value path inner))
  | .place index :: path, below => .array (changePlace index (overlayAt value path) below.items)

/-- Lays a layer over the values of the layers below it. -/
def overlay (layer below : SettingLayer) : SettingLayer :=
  layer.foldl
    (fun below (key, value) =>
      (overlayAt value (SettingPath.ofKey (lowerKey key)) (.table below)).members)
    below

end SettingLayer

end ToolGateway
