import Mathlib.Data.List.Basic
import ShallowCpp.Proofs.Assembly.Routine
import ShallowCpp.Proofs.Assembly.Rows
import ShallowCpp.Proofs.Outline.Texts
import ShallowCpp.Report.Basic

/-!
# Reading assembly text back

The values that a program returns are copied into the assembly text as they are written, and may
look like anything that fits on a line: they may hold commas, names of registers or labels. The text
can be read back all the same, because such a value stands between the word that moves it and the
register that it is moved to, and the last comma of the line belongs to the register. Every other
row is told by its beginning: a routine starts behind an empty row, and instructions are indented.

Every instruction is read back from its text unless it moves into an immediate value
(`Instr.read?_render`), and lowering produces no such move. As the texts of an outline have no line
feeds, the lines of the assembly text are its rows (`lines_render`), so the assembly text of a
source determines the code (`assembly_determines_code`).
-/

set_option autoImplicit false

namespace ShallowCpp.Assembly

/-! ## Operands -/

/-- The registers. -/
def Register.all : List Register :=
  [.ax, .sp, .bp]

/-- Reads an operand of the given width. -/
def Operand.read? (width : Width) : Text → Option Operand
  | [] => none
  | char :: rest =>
    if char = '$' then some (.immediate rest)
    else (Register.all.find? fun which => which.name width == char :: rest).map .register

theorem Operand.read?_render (width : Width) (operand : Operand) :
    Operand.read? width (operand.render width) = some operand := by
  cases operand with
  | immediate value => rfl
  | register which => cases which <;> cases width <;> rfl

theorem Register.length_name (which : Register) (width : Width) :
    (which.name width).length = 4 := by
  cases which <;> cases width <;> rfl

theorem Register.eq_of_name_eq {first second : Register} {width : Width}
    (same : first.name width = second.name width) : first = second := by
  have render : (Operand.register first).render width = (Operand.register second).render width :=
    same
  have read := Operand.read?_render width (.register first)
  rw [render, Operand.read?_render] at read
  cases read
  rfl

/-! ## Instructions -/

/-- How a move into the register ends. -/
def targetMark (width : Width) (which : Register) : Text :=
  ", ".toList ++ which.name width

/-- Reads the operands of a move into a register, the target first. -/
def Instr.readMove? (width : Width) (text : Text) : Option Instr :=
  Register.all.findSome? fun which =>
    ((targetMark width which).isSuffixOf? text).bind fun source =>
      (Operand.read? width source).map fun operand => .move width operand (.register which)

/-- Reads an instruction. -/
def Instr.read? (text : Text) : Option Instr :=
  (if text == "leave".toList then some .leave else none)
    <|> (if text == "ret".toList then some .ret else none)
    <|> (("pushq ".toList.isPrefixOf? text).bind fun rest =>
      (Operand.read? .quadword rest).map .push)
    <|> (("movl ".toList.isPrefixOf? text).bind (Instr.readMove? .longword))
    <|> (("movq ".toList.isPrefixOf? text).bind (Instr.readMove? .quadword))
    <|> (("subq $".toList.isPrefixOf? text).bind fun rest =>
      (", %rsp".toList.isSuffixOf? rest).map fun digits => .reserve (Nat.ofDigitChars 10 digits 0))

/-- The marks of two registers have the same length, so a text ends in one of them at most. -/
theorem targetMark_isSuffixOf?_eq_none {width : Width} {which other : Register}
    (different : other ≠ which) (source : Text) :
    (targetMark width other).isSuffixOf? (source ++ targetMark width which) = none := by
  rw [Option.eq_none_iff_forall_ne_some]
  intro rest ends
  have same := List.isSuffixOf?_eq_some_iff_append_eq.mp ends
  have sizes : (targetMark width other).length = (targetMark width which).length := by
    simp [targetMark, Register.length_name]
  have marks := (List.append_inj' same sizes).2
  exact different (Register.eq_of_name_eq (List.append_cancel_left marks))

theorem Instr.readMove?_render (width : Width) (source : Operand) (which : Register) :
    Instr.readMove? width (source.render width ++ targetMark width which) =
      some (.move width source (.register which)) := by
  have found : (targetMark width which).isSuffixOf? (source.render width ++ targetMark width which)
      = some (source.render width) := List.isSuffixOf?_eq_some_iff_append_eq.mpr rfl
  -- The registers are tried in order, and those in front of the right one do not fit.
  have others : ∀ other, other ≠ which → (targetMark width other).isSuffixOf?
      (source.render width ++ targetMark width which) = none :=
    fun other different => targetMark_isSuffixOf?_eq_none different _
  cases which with
  | ax =>
    simp only [Instr.readMove?, Register.all, List.findSome?_cons, found, Option.bind_some,
      Operand.read?_render, Option.map_some]
  | sp =>
    simp only [Instr.readMove?, Register.all, List.findSome?_cons, others .ax (by decide), found,
      Option.bind_none, Option.bind_some, Operand.read?_render, Option.map_some]
  | bp =>
    simp only [Instr.readMove?, Register.all, List.findSome?_cons, others .ax (by decide),
      others .sp (by decide), found, Option.bind_none, Option.bind_some, Operand.read?_render,
      Option.map_some]

/-- The instruction does not move into an immediate value. -/
def Instr.MovesToRegister : Instr → Prop
  | .move _ _ target => ∃ which, target = .register which
  | _ => True

/-- **An instruction is read back from its text**, whatever the value that it moves. -/
theorem Instr.read?_render {instr : Instr} (moves : instr.MovesToRegister) :
    Instr.read? instr.render = some instr := by
  cases instr with
  | push operand =>
    show ((Operand.read? .quadword (operand.render .quadword)).map Instr.push <|> _) = _
    rw [Operand.read?_render]
    rfl
  | move width source target =>
    obtain ⟨which, rfl⟩ := moves
    have text : (Instr.move width source (.register which)).render =
        width.moveWord ++ [' '] ++ (source.render width ++ targetMark width which) := by
      simp [Instr.render.eq_def, Operand.render, targetMark]
    rw [text]
    cases width with
    | longword =>
      show (Instr.readMove? .longword (source.render .longword ++ targetMark .longword which)
        <|> _) = _
      rw [Instr.readMove?_render]
      rfl
    | quadword =>
      show (Instr.readMove? .quadword (source.render .quadword ++ targetMark .quadword which)
        <|> _) = _
      rw [Instr.readMove?_render]
      rfl
  | reserve bytes =>
    have text : (Instr.reserve bytes).render =
        "subq $".toList ++ (Text.ofNat bytes ++ ", %rsp".toList) := by
      simp [Instr.render.eq_def, Register.name.eq_def]
    have ends : ", %rsp".toList.isSuffixOf? (Text.ofNat bytes ++ ", %rsp".toList) =
        some (Text.ofNat bytes) := List.isSuffixOf?_eq_some_iff_append_eq.mpr rfl
    rw [text]
    show (", %rsp".toList.isSuffixOf? (Text.ofNat bytes ++ ", %rsp".toList)).map _ = _
    rw [ends, Option.map_some, Text.ofNat, Nat.ofDigitChars_toDigits (by decide) (by decide)]
  | leave => rfl
  | ret => rfl

/-! ## Routines -/

/-- The rows in front of the routines, the same for every program. -/
def preamble : List Text :=
  [".section .data".toList, ".LC0:".toList, "  .string \"Hello, World!\"".toList, [],
    ".section .text".toList, ".globl main".toList]

/-- Reads the lines behind the preamble: the instructions up to the next empty line, and the
routines from there on. The last line is empty, because the text ends in a line feed. -/
def readRoutines? : List Text → Option (List Instr × List Routine)
  | [] => none
  | [[]] => some ([], [])
  | [] :: label :: rest => do
    let (code, routines) ← readRoutines? rest
    let name ← ":".toList.isSuffixOf? label
    some ([], ⟨name, code⟩ :: routines)
  | row :: rest => do
    let instr ← ("  ".toList.isPrefixOf? row).bind Instr.read?
    let (code, routines) ← readRoutines? rest
    some (instr :: code, routines)

/-- Reads the assembly text of a program. -/
def Code.decode? (text : Text) : Option Code := do
  let rows ← preamble.isPrefixOf? (Text.lines text)
  let (code, routines) ← readRoutines? rows
  if code.isEmpty then some ⟨EntryPoint.name, [greeting], routines⟩ else none

theorem readRoutines?_code {code : List Instr} (moves : ∀ instr ∈ code, instr.MovesToRegister)
    {rest : List Text} {routines : List Routine} (read : readRoutines? rest = some ([], routines)) :
    readRoutines? (code.map (fun instr => "  ".toList ++ instr.render) ++ rest) =
      some (code, routines) := by
  induction code with
  | nil => exact read
  | cons instr others ih =>
    obtain ⟨first, later⟩ := List.forall_mem_cons.mp moves
    have row : (("  ".toList.isPrefixOf? ("  ".toList ++ instr.render)).bind Instr.read?) =
        some instr := Instr.read?_render first
    rw [List.map_cons, List.cons_append, readRoutines?, row, ih later]
    · rfl
    · rintro ⟨⟩
    · rintro label rest ⟨⟩

/-- **Routines are read back from their rows.** -/
theorem readRoutines?_rows {routines : List Routine}
    (moves : ∀ routine ∈ routines, ∀ instr ∈ routine.code, instr.MovesToRegister) :
    readRoutines? (routines.flatMap Routine.rows ++ [[]]) = some ([], routines) := by
  induction routines with
  | nil => rfl
  | cons routine others ih =>
    obtain ⟨first, later⟩ := List.forall_mem_cons.mp moves
    have label : ":".toList.isSuffixOf? (routine.name ++ [':']) = some routine.name :=
      List.isSuffixOf?_eq_some_iff_append_eq.mpr rfl
    rw [List.flatMap_cons, Routine.rows, List.append_assoc, List.cons_append, List.cons_append,
      readRoutines?, readRoutines?_code first (ih later)]
    simp only [Option.bind_eq_bind, Option.bind_some, label]

/-! ## The code of an outline -/

theorem movesToRegister_of_mem {program : Program} :
    ∀ routine ∈ (Code.ofProgram program).routines, ∀ instr ∈ routine.code,
      instr.MovesToRegister := by
  intro routine isRoutine instr inCode
  obtain ⟨function, -, rfl⟩ := List.mem_map.mp isRoutine
  rcases Routine.mem_code_cases inCode with frame | ⟨bytes, rfl⟩ | ⟨value, -, rfl⟩
  · simp only [enterFrame, List.cons_append, List.nil_append, List.mem_cons, List.not_mem_nil,
      or_false] at frame
    rcases frame with rfl | rfl | rfl | rfl
    · trivial
    · exact ⟨.bp, rfl⟩
    · trivial
    · trivial
  · trivial
  · exact ⟨.ax, rfl⟩

theorem lineFeed_notMem_render {function : FunctionDecl} (oneLine : function.OneLine) :
    ∀ instr ∈ (Routine.ofFunction function).code, '\n' ∉ instr.render := by
  intro instr inCode
  rcases Routine.mem_code_cases inCode with frame | ⟨bytes, rfl⟩ | ⟨value, inBody, rfl⟩
  · have closed : ∀ instr ∈ enterFrame ++ [Instr.leave, .ret], '\n' ∉ instr.render := by decide
    exact closed instr frame
  · simp [Instr.render.eq_def, Register.name.eq_def, Text.lineFeed_notMem_ofNat]
  · have inValue := oneLine.body _ inBody value List.mem_cons_self
    simp [Instr.render.eq_def, Operand.render.eq_def, Width.moveWord.eq_def, Register.name.eq_def,
      inValue]

theorem rows_ofProgram (program : Program) :
    (Code.ofProgram program).rows =
      preamble ++ (Code.ofProgram program).routines.flatMap Routine.rows := rfl

/-- No row of the code of an outline has a line feed in it. -/
theorem lineFeed_notMem_rows (source : Text) :
    ∀ row ∈ (Code.ofProgram (Program.ofSource source)).rows, '\n' ∉ row := by
  intro row member
  rw [rows_ofProgram, List.mem_append] at member
  rcases member with fixed | inRoutine
  · have closed : ∀ row ∈ preamble, '\n' ∉ row := by decide
    exact closed row fixed
  · obtain ⟨routine, isRoutine, inRows⟩ := List.mem_flatMap.mp inRoutine
    obtain ⟨function, isFunction, rfl⟩ := List.mem_map.mp isRoutine
    have oneLine := Program.oneLine_of_mem_functions isFunction
    rcases List.mem_cons.mp inRows with rfl | inRows
    · exact List.not_mem_nil
    rcases List.mem_cons.mp inRows with rfl | inRows
    · simp [Routine.ofFunction, oneLine.name]
    · obtain ⟨instr, inCode, rfl⟩ := List.mem_map.mp inRows
      simp [lineFeed_notMem_render oneLine instr inCode]

/-- The lines of the assembly text are its rows, and the empty line behind the last line feed. -/
theorem lines_render (source : Text) :
    Text.lines (Code.ofProgram (Program.ofSource source)).render =
      preamble ++ ((Code.ofProgram (Program.ofSource source)).routines.flatMap Routine.rows ++
        [[]]) := by
  rw [Code.render, Code.pieces_eq, lines_flatten_line,
    Text.flatMap_lines (lineFeed_notMem_rows source), rows_ofProgram, List.append_assoc]

theorem Code.decode?_render (source : Text) :
    Code.decode? (Code.ofProgram (Program.ofSource source)).render =
      some (Code.ofProgram (Program.ofSource source)) := by
  have cut := List.isPrefixOf?_eq_some_iff_append_eq.mpr (lines_render source).symm
  rw [Code.decode?, cut]
  simp only [Option.bind_eq_bind, Option.bind_some, readRoutines?_rows movesToRegister_of_mem]
  rfl

/-- **The assembly text determines the code.** For every source, the decoder reads the code back
from the assembly text. The lines of the text are the preamble, and for every routine an empty line,
its label and one line for each instruction, up to the line feed at the end. Sources with the same
assembly text have therefore the same routines, instruction by instruction. -/
theorem assembly_determines_code :
    (∀ source, Code.decode? (Code.ofProgram (Program.ofSource source)).render =
        some (Code.ofProgram (Program.ofSource source))) ∧
      (∀ source, Text.lines (compile source).assembly =
        preamble ++ ((Code.ofProgram (Program.ofSource source)).routines.flatMap (fun routine =>
          [] :: (routine.name ++ [':']) ::
            routine.code.map fun instr => "  ".toList ++ instr.render) ++ [[]])) ∧
      ∀ first second, (compile first).assembly = (compile second).assembly →
        (Code.ofProgram (Program.ofSource first)).routines =
          (Code.ofProgram (Program.ofSource second)).routines := by
  refine ⟨Code.decode?_render, lines_render, ?_⟩
  intro first second same
  have same : (Code.ofProgram (Program.ofSource first)).render =
      (Code.ofProgram (Program.ofSource second)).render := same
  have read := Code.decode?_render first
  rw [same, Code.decode?_render second] at read
  exact congrArg Code.routines (Option.some.inj read).symm

/-- A returned value that looks like the operands of a move is read back. -/
theorem assembly_determines_code_of_misleading_value :
    "  movl $a, %eax, %eax".toList ∈
        Text.lines (compile "int f() \x7breturn a, %eax;\x7d".toList).assembly ∧
      (Code.ofProgram (Program.ofSource "int f() \x7breturn a, %eax;\x7d".toList)).routines =
        (Code.ofProgram (Program.ofSource "auto f() \x7breturn a, %eax\x7d".toList)).routines :=
  ⟨by decide, assembly_determines_code.2.2 _ _ (by decide +kernel)⟩

end ShallowCpp.Assembly
