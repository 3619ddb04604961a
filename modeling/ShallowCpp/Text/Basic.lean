import ShallowCpp.Text.Property.Alphanumeric
import ShallowCpp.Text.Property.Word

/-!
# Text

A text is a list of characters. This module holds the classes of characters that decide how source
text is cut up, and the ways of taking a text apart that every later stage uses: cutting it into
fields at separators, into lines and into words, and trimming blanks from its ends. Lines end at
line feeds only, so a carriage return is an ordinary blank at the end of a line.

Blank characters separate, word characters form the names that shapes look for, and name characters
are the class that settles whether a keyword ends where it seems to end. The last two differ: a
combining accent continues a word and is not a name character, while a superscript digit is a name
character and ends a word. They also follow different editions of Unicode, word characters edition
16.0 and name characters edition 17.0, so a letter that is new in the latter continues a name and
belongs to no word. Most characters of a source are ASCII, which every class answers before it
consults a table.
-/

set_option autoImplicit false

namespace ShallowCpp

/-- Source text, names and output alike: a list of characters. -/
abbrev Text := List Char

namespace Text

/-! ## Character classes -/

/-- White space in the sense of Unicode: it separates words and is dropped by trimming. -/
def isBlank (char : Char) : Bool :=
  let point := char.toNat
  (9 ≤ point && point ≤ 13) || point == 0x20 || point == 0x85 || point == 0xA0 || point == 0x1680
    || (0x2000 ≤ point && point ≤ 0x200A) || point == 0x2028 || point == 0x2029
    || point == 0x202F || point == 0x205F || point == 0x3000

/-- Letters, marks, decimal digits, connectors and join controls of all scripts. -/
def isWord (char : Char) : Bool :=
  if char.toNat < 0x80 then char.isAlphanum || char == '_' else Property.word.contains char

/-- Letters and numeric characters of all scripts. -/
def isAlphanumeric (char : Char) : Bool :=
  if char.toNat < 0x80 then char.isAlphanum else Property.alphanumeric.contains char

/-- The characters that continue a keyword or a name: alphanumeric ones and the underscore. -/
def isName (char : Char) : Bool :=
  isAlphanumeric char || char == '_'

/-- The hexadecimal digits, in either case. -/
def isHexDigit (char : Char) : Bool :=
  char.isDigit || ('a' ≤ char && char ≤ 'f') || ('A' ≤ char && char ≤ 'F')

/-! ## Trimming -/

/-- The text without its leading blanks. -/
def trimStart (text : Text) : Text :=
  text.dropWhile isBlank

/-- The text without its trailing blanks. -/
def trimEnd (text : Text) : Text :=
  (text.reverse.dropWhile isBlank).reverse

/-- The text without the blanks at either end. -/
def trim (text : Text) : Text :=
  trimEnd (trimStart text)

/-! ## Cutting -/

/-- The fields between the separators, in order: one more than there are separators. -/
def fields (isSeparator : Char → Bool) : Text → List Text
  | [] => [[]]
  | char :: rest =>
    if isSeparator char then [] :: fields isSeparator rest
    else
      match fields isSeparator rest with
      | [] => [[char]]
      | field :: others => (char :: field) :: others

/-- The lines of a text, without the line feeds that end them. -/
def lines (text : Text) : List Text :=
  fields (· == '\n') text

/-- The maximal runs of characters that are not blank. -/
def words (text : Text) : List Text :=
  (fields isBlank text).filter fun field => !field.isEmpty

/-! ## Joining -/

/-- The parts in order, with `separator` between neighbours. -/
def join (separator : Text) : List Text → Text
  | [] => []
  | [part] => part
  | part :: parts => part ++ separator ++ join separator parts

/-- The decimal digits of a number. -/
def ofNat (number : Nat) : Text :=
  Nat.toDigits 10 number

end Text

end ShallowCpp
