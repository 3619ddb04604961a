import ShallowCpp.Layout.Block

/-!
# JSON

The values that reports are made of, and their text: two spaces a level, a space behind the colon,
members in the order in which they are given. Inside strings only the quotation mark, the backslash
and the control characters below the space are escaped.
-/

set_option autoImplicit false

namespace ShallowCpp

/-- A JSON value. Numbers are natural numbers. -/
inductive Json where
  | null
  | bool (value : Bool)
  | number (value : Nat)
  | text (value : Text)
  | array (items : List Json)
  | object (members : List (String × Json))

namespace Json

/-- Blocks of JSON: two spaces a level, no comma behind the last row. -/
def style : Layout.Style := ⟨2, false⟩

/-- A character as it is written inside a string. -/
def escapeChar (char : Char) : Text :=
  if char = '"' then "\\\"".toList
  else if char = '\\' then "\\\\".toList
  else if char = '\x08' then "\\b".toList
  else if char = '\x0c' then "\\f".toList
  else if char = '\n' then "\\n".toList
  else if char = '\r' then "\\r".toList
  else if char = '\t' then "\\t".toList
  else if char.toNat < 16 then "\\u000".toList ++ Layout.hex char.toNat
  else if char.toNat < 32 then "\\u00".toList ++ Layout.hex char.toNat
  else [char]

/-- A text as a string between quotation marks. -/
def quote (text : Text) : Text :=
  '"' :: text.flatMap escapeChar ++ ['"']

mutual

/-- The text of a value that starts on a line of the given level. -/
def renderAt (level : Nat) : Json → Text
  | .null => "null".toList
  | .bool true => "true".toList
  | .bool false => "false".toList
  | .number value => Text.ofNat value
  | .text value => quote value
  | .array items => style.block level ['['] [']'] (renderItems (level + 1) items)
  | .object members => style.block level ['{'] ['}'] (renderMembers (level + 1) members)

/-- The rows of an array. -/
def renderItems (level : Nat) : List Json → List Text
  | [] => []
  | item :: rest => renderAt level item :: renderItems level rest

/-- The rows of an object. -/
def renderMembers (level : Nat) : List (String × Json) → List Text
  | [] => []
  | (key, value) :: rest =>
    (quote key.toList ++ ": ".toList ++ renderAt level value) :: renderMembers level rest

end

/-- The text of a value. -/
def render (value : Json) : Text :=
  renderAt 0 value

/-- A list of values of one sort. -/
def list {α : Type} (encode : α → Json) (items : List α) : Json :=
  .array (items.map encode)

end Json

end ShallowCpp
