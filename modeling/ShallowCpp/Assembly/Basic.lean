import ShallowCpp.Text.Basic

/-!
# Assembly code

The assembly code of a program: static strings, a global symbol and one routine for each function.
The values that instructions move are kept as the text of the source and are not evaluated.
-/

set_option autoImplicit false

namespace ShallowCpp.Assembly

/-- The registers in use: accumulator, stack pointer, base pointer. -/
inductive Register where
  | ax
  | sp
  | bp
  deriving DecidableEq, Repr

/-- How many bytes an instruction moves: four or eight. -/
inductive Width where
  | longword
  | quadword
  deriving DecidableEq, Repr

/-- What an instruction works on. -/
inductive Operand where
  /-- A value, as it is written in the source. -/
  | immediate (value : Text)
  /-- A register. -/
  | register (which : Register)
  deriving DecidableEq, Repr

/-- One instruction. -/
inductive Instr where
  /-- Pushes eight bytes onto the stack. -/
  | push (operand : Operand)
  /-- Moves a value of the given width. -/
  | move (width : Width) (source target : Operand)
  /-- Makes room for so many bytes on the stack. -/
  | reserve (bytes : Nat)
  /-- Gives up the frame of the routine. -/
  | leave
  /-- Returns to the caller. -/
  | ret
  deriving DecidableEq, Repr

/-- A string with the label under which it is found. -/
structure StaticString where
  /-- The label. -/
  label : Text
  /-- The characters of the string. -/
  value : Text
  deriving DecidableEq, Repr

/-- The code of one function. -/
structure Routine where
  /-- The name of the function. -/
  name : Text
  /-- Its instructions. -/
  code : List Instr
  deriving DecidableEq, Repr

/-- The code of a program. -/
structure Code where
  /-- The symbol that is visible from outside. -/
  globalSymbol : Text
  /-- The static strings. -/
  strings : List StaticString
  /-- The routines, in the order of the functions. -/
  routines : List Routine
  deriving DecidableEq, Repr

/-- The name of a register when so many bytes of it are used. -/
def Register.name : Register → Width → Text
  | .ax, .longword => "%eax".toList
  | .ax, .quadword => "%rax".toList
  | .sp, .longword => "%esp".toList
  | .sp, .quadword => "%rsp".toList
  | .bp, .longword => "%ebp".toList
  | .bp, .quadword => "%rbp".toList

end ShallowCpp.Assembly
