import ShallowCpp.Layout.Block
import ShallowCpp.Text.Property.ExtendingMark
import ShallowCpp.Text.Property.Invisible

/-!
# Dumps

A dump shows the structure of a value for inspection: records with the names of their fields,
variants with what they hold, lists, quoted texts. Every part of a block ends in a comma. Inside
quotes a character that would not show, or that would be drawn onto its neighbour, is written by its
code point.
-/

set_option autoImplicit false

namespace ShallowCpp

/-- The structure of a value, for inspection. -/
inductive Dump where
  /-- A bare name. -/
  | name (label : String)
  /-- A number. -/
  | number (value : Nat)
  /-- A quoted text. -/
  | text (value : Text)
  /-- A list. -/
  | list (items : List Dump)
  /-- A named variant and what it holds. -/
  | variant (label : String) (content : Dump)
  /-- A named record with its fields. -/
  | record (label : String) (fields : List (String × Dump))

namespace Dump

/-- Blocks of a dump: four spaces a level, a comma behind every row. -/
def style : Layout.Style := ⟨4, true⟩

/-- The character shows by itself when it is printed. -/
def isPrintable (char : Char) : Bool :=
  if char.toNat < 0x7F then 0x20 ≤ char.toNat
  else !Text.Property.extendingMark.contains char && !Text.Property.invisible.contains char

/-- A character as it is written between quotes. -/
def escapeChar (char : Char) : Text :=
  if char = '\x00' then "\\0".toList
  else if char = '\t' then "\\t".toList
  else if char = '\r' then "\\r".toList
  else if char = '\n' then "\\n".toList
  else if char = '"' then "\\\"".toList
  else if char = '\\' then "\\\\".toList
  else if isPrintable char then [char]
  else "\\u\x7b".toList ++ Layout.hex char.toNat ++ "\x7d".toList

/-- A text between quotes. -/
def quote (text : Text) : Text :=
  '"' :: text.flatMap escapeChar ++ ['"']

mutual

/-- The text of a dump that starts on a line of the given level. -/
def renderAt (level : Nat) : Dump → Text
  | .name label => label.toList
  | .number value => Text.ofNat value
  | .text value => quote value
  | .list items => style.block level ['['] [']'] (renderItems (level + 1) items)
  | .variant label content =>
    style.block level (label.toList ++ ['(']) [')'] [renderAt (level + 1) content]
  | .record label fields =>
    style.block level (label.toList ++ " \x7b".toList) ['}'] (renderFields (level + 1) fields)

/-- The rows of a list. -/
def renderItems (level : Nat) : List Dump → List Text
  | [] => []
  | item :: rest => renderAt level item :: renderItems level rest

/-- The rows of a record. -/
def renderFields (level : Nat) : List (String × Dump) → List Text
  | [] => []
  | (key, value) :: rest =>
    (key.toList ++ ": ".toList ++ renderAt level value) :: renderFields level rest

end

/-- The text of a dump. -/
def render (dump : Dump) : Text :=
  renderAt 0 dump

/-- An optional value as one of two variants. -/
def option {α : Type} (dump : α → Dump) : Option α → Dump
  | none => .name "None"
  | some value => .variant "Some" (dump value)

end Dump

end ShallowCpp
