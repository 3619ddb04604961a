import ShallowCpp.Text.Basic

/-!
# Indented blocks

Structured output is laid out in blocks: an opening, one indented row for each part, and a closing
that is indented like the line with the opening. A block without rows stays on one line.
-/

set_option autoImplicit false

namespace ShallowCpp.Layout

/-- How the rows of a block are set. -/
structure Style where
  /-- How many spaces one level is indented. -/
  indent : Nat
  /-- The last row ends in a comma too. -/
  trailingComma : Bool
  deriving DecidableEq, Repr

/-- The indentation of a level. -/
def Style.margin (style : Style) (level : Nat) : Text :=
  List.replicate (style.indent * level) ' '

/-- The block that starts on a line of the given level. -/
def Style.block (style : Style) (level : Nat) (opening closing : Text) (rows : List Text) : Text :=
  if rows.isEmpty then opening ++ closing
  else
    opening ++ ['\n']
      ++ Text.join ",\n".toList (rows.map fun row => style.margin (level + 1) ++ row)
      ++ (if style.trailingComma then ",\n".toList else ['\n'])
      ++ style.margin level ++ closing

/-- The hexadecimal digits of a number, in lower case and without leading zeros. -/
def hex (number : Nat) : Text :=
  Nat.toDigits 16 number

end ShallowCpp.Layout
