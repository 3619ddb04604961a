import ShallowCpp.Text.Basic

/-!
# Shapes and their spans

A shape reads a value off the front of a text and hands back what follows, or refuses. Scanning a
text for a shape tries every position from left to right; where the shape is found the scan goes on
behind it, so the spans of one scan never overlap, and each is the leftmost one behind its
predecessor.
-/

set_option autoImplicit false

namespace ShallowCpp

/-- A reader of one value at the front of a text, with the text that remains behind it. -/
abbrev Shape (α : Type) := Text → Option (α × Text)

/-- A place where a shape was found: the offsets of its first character and of the one behind its
last, and the value read there. -/
structure Span (α : Type) where
  /-- Offset of the first character. -/
  start : Nat
  /-- Offset of the first character behind the span. -/
  stop : Nat
  /-- What the shape read. -/
  value : α
  deriving DecidableEq, Repr

namespace Shape

variable {α : Type}

/-- The spans of `shape` in a text whose first character has the given offset. The first `skip`
characters belong to a span that was found already. -/
def spansFrom (shape : Shape α) (offset skip : Nat) : Text → List (Span α)
  | [] => []
  | char :: rest =>
    match skip with
    | skip + 1 => spansFrom shape (offset + 1) skip rest
    | 0 =>
      match shape (char :: rest) with
      | none => spansFrom shape (offset + 1) 0 rest
      | some (value, behind) =>
        let size := (char :: rest).length - behind.length
        ⟨offset, offset + size, value⟩ :: spansFrom shape (offset + 1) (size - 1) rest

/-- The spans of `shape` in a text, leftmost first and without overlap. -/
def spans (shape : Shape α) (text : Text) : List (Span α) :=
  spansFrom shape 0 0 text

/-! ## Small shapes -/

/-- Exactly the given text. -/
def literal (expected : Text) : Shape Unit := fun text =>
  (expected.isPrefixOf? text).map fun behind => ((), behind)

/-- A word: the longest run of word characters, at least one. -/
def word : Shape Text := fun text =>
  match text.span Text.isWord with
  | ([], _) => none
  | (first :: others, behind) => some (first :: others, behind)

/-- A gap: all the blanks at the front, at least one. -/
def gap : Shape Unit
  | [] => none
  | char :: rest => if Text.isBlank char then some ((), Text.trimStart rest) else none

/-- A parenthesised list: the text from an opening parenthesis up to the first closing one. Nested
parentheses are not matched up. -/
def parenthesised : Shape Text
  | [] => none
  | char :: rest =>
    if char = '(' then
      match rest.dropWhile (· != ')') with
      | [] => none
      | _ :: behind => some (rest.takeWhile (· != ')'), behind)
    else none

end Shape

end ShallowCpp
