import ShallowCpp.Text.Basic

/-!
# Three-address code

Every assignment goes through a numbered temporary: one instruction computes it, the next stores it.
Expressions are not taken apart, so an instruction holds them as text. A listing has one line for
each instruction.
-/

set_option autoImplicit false

namespace ShallowCpp.ThreeAddress

/-- One instruction. -/
inductive Instr where
  /-- A function starts. -/
  | function (name : Text)
  /-- The function has a parameter. -/
  | param (name : Text)
  /-- The temporary takes the value of an expression. -/
  | compute (temporary : Nat) (expression : Text)
  /-- The target takes the value of a temporary. -/
  | store (target : Text) (temporary : Nat)
  /-- Room is made for a variable. -/
  | allocate (name : Text)
  /-- The function returns. -/
  | returns (value : Text)
  /-- An expression is evaluated for its effect. -/
  | evaluate (expression : Text)
  deriving DecidableEq, Repr

/-- The code of one function. -/
structure Routine where
  /-- The name of the function. -/
  name : Text
  /-- Its instructions, from the one that starts it. -/
  code : List Instr
  deriving DecidableEq, Repr

/-- The code of a program. -/
structure Code where
  /-- The routines, in the order of the functions. -/
  routines : List Routine
  deriving DecidableEq, Repr

/-! ## Listing -/

/-- The name of a temporary. -/
def temporaryName (temporary : Nat) : Text :=
  'T' :: Text.ofNat temporary

/-- The line of an instruction. All but the start of a function are indented. -/
def Instr.render : Instr → Text
  | .function name => "FUNCTION ".toList ++ name ++ ":".toList
  | .param name => "  PARAM ".toList ++ name
  | .compute temporary expression =>
    "  ".toList ++ temporaryName temporary ++ " = ".toList ++ expression
  | .store target temporary => "  ".toList ++ target ++ " = ".toList ++ temporaryName temporary
  | .allocate name => "  ALLOCATE ".toList ++ name
  | .returns value => "  RETURN ".toList ++ value
  | .evaluate expression => "  EVAL ".toList ++ expression

/-- All instructions, routine after routine. -/
def Code.instructions (code : Code) : List Instr :=
  code.routines.flatMap Routine.code

/-- The listing of a program, without a line feed at its end. -/
def Code.listing (code : Code) : Text :=
  Text.join ['\n'] (code.instructions.map Instr.render)

end ShallowCpp.ThreeAddress
