import ShallowCpp.Assembly.Basic
import ShallowCpp.EntryPoint
import ShallowCpp.Outline.Basic

/-!
# From outline to assembly code

A routine sets up its frame, makes room for its local variables if it has any, moves every value
that it returns into the accumulator, and gives the frame up. Nothing else of the body becomes code.
-/

set_option autoImplicit false

namespace ShallowCpp.Assembly

/-- Every local variable takes so many bytes of the frame. -/
def slotSize : Nat := 8

/-- The move of a returned value into the accumulator. A bare return moves nothing. -/
def returnMove? : Statement → Option Instr
  | .returns value =>
    if value.isEmpty then none
    else some (.move .longword (.immediate value) (.register .ax))
  | _ => none

/-- The instructions that set a frame up. -/
def enterFrame : List Instr :=
  [.push (.register .bp), .move .quadword (.register .sp) (.register .bp)]

/-- Room for so many local variables, if there are any. -/
def reserveLocals : (count : Nat) → List Instr
  | 0 => []
  | count + 1 => [.reserve ((count + 1) * slotSize)]

/-- The routine of a function. -/
def Routine.ofFunction (function : FunctionDecl) : Routine where
  name := function.name
  code := enterFrame ++ reserveLocals function.locals.length
    ++ function.body.filterMap returnMove? ++ [.leave, .ret]

/-- The one string that every program carries. -/
def greeting : StaticString :=
  ⟨".LC0".toList, "Hello, World!".toList⟩

/-- The code of a program. -/
def Code.ofProgram (program : Program) : Code where
  globalSymbol := EntryPoint.name
  strings := [greeting]
  routines := program.functions.map Routine.ofFunction

end ShallowCpp.Assembly
