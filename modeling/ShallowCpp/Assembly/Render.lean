import ShallowCpp.Assembly.Basic

/-!
# Assembly text

The text of assembly code is put together from pieces, each of which is one line with its line feed:
the data section with its strings, an empty line, the text section with the global symbol, and for
every routine an empty line, its label and its instructions.

Inside a string directive the control characters from bell to carriage return, the backslash and the
double quote are written as a backslash and three octal digits. All other characters stand for
themselves.
-/

set_option autoImplicit false

namespace ShallowCpp.Assembly

/-! ## Octal escapes -/

namespace Octal

/-- The character cannot stand for itself. -/
def needsEscape (char : Char) : Bool :=
  (7 ≤ char.toNat && char.toNat ≤ 13) || char == '\\' || char == '"'

/-- The last three octal digits of a number. -/
def digits (number : Nat) : Text :=
  [Nat.digitChar (number / 64 % 8), Nat.digitChar (number / 8 % 8), Nat.digitChar (number % 8)]

/-- A character as it is written inside a string directive. -/
def escapeChar (char : Char) : Text :=
  if needsEscape char then '\\' :: digits char.toNat else [char]

/-- A text as it is written inside a string directive. -/
def escape (text : Text) : Text :=
  text.flatMap escapeChar

end Octal

/-! ## Pieces of text -/

/-- A line with the line feed that ends it. -/
def line (text : Text) : Text :=
  text ++ ['\n']

/-- An operand, in the given width if it is a register. -/
def Operand.render (width : Width) : Operand → Text
  | .immediate value => '$' :: value
  | .register which => which.name width

/-- The word for a move of the given width. -/
def Width.moveWord : Width → Text
  | .longword => "movl".toList
  | .quadword => "movq".toList

/-- An instruction, without indentation. -/
def Instr.render : Instr → Text
  | .push operand => "pushq ".toList ++ operand.render .quadword
  | .move width source target =>
    width.moveWord ++ [' '] ++ source.render width ++ ", ".toList ++ target.render width
  | .reserve bytes =>
    "subq $".toList ++ Text.ofNat bytes ++ ", ".toList ++ Register.sp.name .quadword
  | .leave => "leave".toList
  | .ret => "ret".toList

/-- The pieces of a static string: its label and its directive. -/
def StaticString.pieces (string : StaticString) : List Text :=
  [line (string.label ++ [':']),
    line ("  .string \"".toList ++ Octal.escape string.value ++ ['"'])]

/-- The pieces of a routine: an empty line, its label, its instructions. -/
def Routine.pieces (routine : Routine) : List Text :=
  line [] :: line (routine.name ++ [':']) ::
    routine.code.map fun instr => line ("  ".toList ++ instr.render)

/-- The pieces of a program, in the order in which they are written. -/
def Code.pieces (code : Code) : List Text :=
  line ".section .data".toList :: code.strings.flatMap StaticString.pieces
    ++ [line [], line ".section .text".toList, line (".globl ".toList ++ code.globalSymbol)]
    ++ code.routines.flatMap Routine.pieces

/-- The text of a program. -/
def Code.render (code : Code) : Text :=
  code.pieces.flatten

end ShallowCpp.Assembly
