import ShallowCpp.Assembly.Render

/-!
# Emission

Assembly text can be handed out while it is put together, in parts that are smaller than a line:
the words that are always the same, then a name or a value, then what ends the line. Where the parts
go is left open: each is given to an action `put`. If this action can fail, the first failure ends
the emission, in whichever function it arises.
-/

set_option autoImplicit false

namespace ShallowCpp.Assembly

variable {m : Type → Type} [Monad m]

/-- Emits an operand, in the given width if it is a register. -/
def Operand.emit (put : Text → m Unit) (width : Width) : Operand → m Unit
  | .immediate value => do
    put ['$']
    put value
  | .register which => put (which.name width)

/-- Emits an instruction, without indentation. -/
def Instr.emit (put : Text → m Unit) : Instr → m Unit
  | .push operand => do
    put "pushq ".toList
    operand.emit put .quadword
  | .move width source target => do
    put (width.moveWord ++ [' '])
    source.emit put width
    put ", ".toList
    target.emit put width
  | .reserve bytes => do
    put "subq $".toList
    put (Text.ofNat bytes)
    put (", ".toList ++ Register.sp.name .quadword)
  | .leave => put "leave".toList
  | .ret => put "ret".toList

/-- Emits the line of an instruction. -/
def Instr.emitLine (put : Text → m Unit) (instr : Instr) : m Unit := do
  put "  ".toList
  instr.emit put
  put (line [])

/-- Emits a static string: its label and its directive. -/
def StaticString.emit (put : Text → m Unit) (string : StaticString) : m Unit := do
  put string.label
  put (line [':'])
  put "  .string \"".toList
  put (Octal.escape string.value)
  put (line ['"'])

/-- Emits a routine: its label and its instructions. -/
def Routine.emit (put : Text → m Unit) (routine : Routine) : m Unit := do
  put routine.name
  put (line [':'])
  forM routine.code (Instr.emitLine put)

/-- Emits a program. An empty line goes in front of every routine. -/
def Code.emit (put : Text → m Unit) (code : Code) : m Unit := do
  put (line ".section .data".toList)
  forM code.strings (StaticString.emit put)
  put (line [])
  put (line ".section .text".toList)
  put ".globl ".toList
  put code.globalSymbol
  put (line [])
  forM code.routines fun routine => do
    put (line [])
    routine.emit put

end ShallowCpp.Assembly
