import ShallowCpp.Outline.Basic
import ShallowCpp.ThreeAddress.Assignment
import ShallowCpp.ThreeAddress.Basic

/-!
# From outline to three-address code

Temporaries are numbered in the order in which they are needed, through the whole program: a
function goes on counting where the one before it stopped. Each step takes the next free number and
returns the number that is free behind it, so steps of different sorts can share one counter.
-/

set_option autoImplicit false

namespace ShallowCpp.ThreeAddress

/-- Draws the next free number. -/
def drawTemporary (next : Nat) : Nat × Nat :=
  (next, next + 1)

/-- Assigns the value of an expression to a target through a temporary. -/
def assign (next : Nat) (target expression : Text) : List Instr × Nat :=
  let (temporary, next) := drawTemporary next
  ([.compute temporary expression, .store target temporary], next)

/-- The instructions of a statement. -/
def ofStatement (next : Nat) : Statement → List Instr × Nat
  | .declaration decl =>
    match decl.init with
    | some value => assign next decl.name value
    | none => ([.allocate decl.name], next)
  | .returns value => ([.returns value], next)
  | .expression text =>
    match Assignment.ofExpression? text with
    | some assignment => assign next assignment.target assignment.value
    | none => ([.evaluate text], next)

/-- The instructions of successive statements. -/
def ofStatements (next : Nat) : List Statement → List Instr × Nat
  | [] => ([], next)
  | statement :: rest =>
    let (code, next) := ofStatement next statement
    let (others, next) := ofStatements next rest
    (code ++ others, next)

/-- The routine of a function: its start, its parameters, its statements. -/
def Routine.ofFunction (next : Nat) (function : FunctionDecl) : Routine × Nat :=
  let (code, next) := ofStatements next function.body
  (⟨function.name, .function function.name :: function.params.map (.param ·.name) ++ code⟩, next)

/-- The routines of successive functions. -/
def Routine.ofFunctions (next : Nat) : List FunctionDecl → List Routine × Nat
  | [] => ([], next)
  | function :: rest =>
    let (routine, next) := Routine.ofFunction next function
    let (others, next) := Routine.ofFunctions next rest
    (routine :: others, next)

/-- The code of a program whose first temporary has the number `next`. -/
def Code.ofProgramFrom (next : Nat) (program : Program) : Code × Nat :=
  let (routines, next) := Routine.ofFunctions next program.functions
  (⟨routines⟩, next)

/-- The code of a program. -/
def Code.ofProgram (program : Program) : Code :=
  (Code.ofProgramFrom 0 program).1

/-! ## Steps on one counter -/

/-- A lowering step: to draw a number, or to lower a statement, a function or a program. -/
inductive Step where
  | temporary
  | statement (statement : Statement)
  | function (function : FunctionDecl)
  | program (program : Program)
  deriving DecidableEq, Repr

/-- What a step hands out. -/
inductive Output where
  | temporary (number : Nat)
  | statement (code : List Instr)
  | function (routine : Routine)
  | program (code : Code)
  deriving DecidableEq, Repr

namespace Step

/-- The output of a step, and the number that is free behind it. -/
def run (next : Nat) : Step → Output × Nat
  | .temporary =>
    let (number, next) := drawTemporary next
    (.temporary number, next)
  | .statement single =>
    let (code, next) := ofStatement next single
    (.statement code, next)
  | .function decl =>
    let (routine, next) := Routine.ofFunction next decl
    (.function routine, next)
  | .program outline =>
    let (code, next) := Code.ofProgramFrom next outline
    (.program code, next)

/-- The outputs of successive steps on one counter. -/
def runAll (next : Nat) : List Step → List Output × Nat
  | [] => ([], next)
  | step :: rest =>
    let (output, next) := step.run next
    let (others, next) := runAll next rest
    (output :: others, next)

end Step

end ShallowCpp.ThreeAddress
