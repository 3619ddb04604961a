import ShallowCpp.Text.Basic

/-!
# Searching a text

Where and how often one text occurs in another, and on which line. Occurrences are counted without
overlap. The empty text occurs before every character and at the end. Lines are counted from one,
and zero stands for a text that is on no line.

Block comments are followed from line to line by searching for their markers. Only the last marker
of either sort on a line decides whether a comment is open behind it, and a line that carries a
marker is taken to belong to a comment as a whole, code beside the marker included.
-/

set_option autoImplicit false

namespace ShallowCpp

namespace Text

/-- Whether `needle` occurs somewhere in the text. -/
def occursIn (needle : Text) : Text → Bool
  | [] => needle.isEmpty
  | char :: rest => needle.isPrefixOf (char :: rest) || occursIn needle rest

/-- The offset of the last occurrence of `needle`. -/
def lastIndex? (needle : Text) : Text → Option Nat
  | [] => if needle.isEmpty then some 0 else none
  | char :: rest =>
    match lastIndex? needle rest with
    | some index => some (index + 1)
    | none => if needle.isPrefixOf (char :: rest) then some 0 else none

/-- How often `needle` occurs behind the first `skip` characters, which belong to an occurrence that
was counted already. -/
def occurrencesFrom (needle : Text) (skip : Nat) : Text → Nat
  | [] => 0
  | char :: rest =>
    match skip with
    | skip + 1 => occurrencesFrom needle skip rest
    | 0 =>
      if needle.isPrefixOf (char :: rest) then occurrencesFrom needle (needle.length - 1) rest + 1
      else occurrencesFrom needle 0 rest

/-- How often `needle` occurs, counted from the left without overlap. -/
def occurrences (needle text : Text) : Nat :=
  if needle.isEmpty then text.length + 1 else occurrencesFrom needle 0 text

/-- The line, counted from one, of the character at `offset`. -/
def lineAt (text : Text) (offset : Nat) : Nat :=
  1 + (text.take offset).count '\n'

/-- The first line that contains `needle`, counted from one, or zero if no line does. -/
def findLine (text needle : Text) : Nat :=
  match (lines text).findIdx? (occursIn needle) with
  | some index => index + 1
  | none => 0

end Text

/-! ## Block comments, line by line -/

namespace Comment

/-- The marker that opens a block comment. -/
def opening : Text := "/*".toList

/-- The marker that closes a block comment. -/
def closing : Text := "*/".toList

/-- The beginning of a comment that ends with its line. -/
def lineMark : Text := "//".toList

/-- Whether a block comment is open behind the line, as far as the markers on it say; a line without
markers says nothing. -/
def openBehind? (line : Text) : Option Bool :=
  match Text.lastIndex? opening line, Text.lastIndex? closing line with
  | none, none => none
  | some opened, some closed => some (closed < opened)
  | some _, none => some true
  | none, some _ => some false

end Comment

end ShallowCpp
