import ShallowCpp.Assembly.Lower
import ShallowCpp.Assembly.Render
import ShallowCpp.Proofs.Text.Lines

/-!
# The rows of assembly text

Assembly text is put together from rows, each of which is followed by a line feed. A row that has no
line feed in it is therefore one of the lines of the text: the directive for the global symbol
(`Code.globl_mem_lines`), and the label of every function (`Code.label_mem_lines`).
-/

set_option autoImplicit false

namespace ShallowCpp.Assembly

/-- The rows of a static string: its label and its directive. -/
def StaticString.rows (string : StaticString) : List Text :=
  [string.label ++ [':'], "  .string \"".toList ++ Octal.escape string.value ++ ['"']]

/-- The rows of a routine: an empty one, its label, its instructions. -/
def Routine.rows (routine : Routine) : List Text :=
  [] :: (routine.name ++ [':']) :: routine.code.map fun instr => "  ".toList ++ instr.render

/-- The rows of a program. -/
def Code.rows (code : Code) : List Text :=
  ".section .data".toList :: code.strings.flatMap StaticString.rows
    ++ [[], ".section .text".toList, ".globl ".toList ++ code.globalSymbol]
    ++ code.routines.flatMap Routine.rows

theorem Routine.pieces_eq (routine : Routine) : routine.pieces = routine.rows.map line := by
  simp [Routine.pieces, Routine.rows]

theorem Code.pieces_eq (code : Code) : code.pieces = code.rows.map line := by
  have strings : (fun string : StaticString => string.rows.map line) = StaticString.pieces := rfl
  have routines : (fun routine : Routine => routine.rows.map line) = Routine.pieces :=
    funext fun routine => routine.pieces_eq.symm
  simp [Code.pieces, Code.rows, List.map_flatMap, strings, routines]

/-- The lines of rows that each end in a line feed, with the empty line behind the last. -/
theorem lines_flatten_line (rows : List Text) :
    Text.lines (rows.map line).flatten = rows.flatMap Text.lines ++ [[]] := by
  induction rows with
  | nil => rfl
  | cons row others ih =>
    have whole : ((row :: others).map line).flatten = row ++ '\n' :: (others.map line).flatten := by
      simp [line]
    rw [whole, Text.lines_append_lineFeed, ih, List.flatMap_cons, List.append_assoc]

/-- A row without line feeds is a line of the text. -/
theorem Code.mem_lines_render {code : Code} {row : Text} (member : row ∈ code.rows)
    (oneLine : '\n' ∉ row) : row ∈ Text.lines code.render := by
  rw [Code.render, Code.pieces_eq, lines_flatten_line]
  refine List.mem_append_left _ (List.mem_flatMap.mpr ⟨row, member, ?_⟩)
  rw [Text.lines_eq_singleton oneLine]
  exact List.mem_singleton_self row

/-- The text of a program declares the entry point as its global symbol. -/
theorem Code.globl_mem_lines (program : Program) :
    ".globl main".toList ∈ Text.lines (Code.ofProgram program).render := by
  refine Code.mem_lines_render ?_ (by decide)
  refine List.mem_append_left _ (List.mem_append_right _ ?_)
  show ".globl main".toList ∈ [[], ".section .text".toList, ".globl ".toList ++ EntryPoint.name]
  decide

/-- **Every function of a program has its label on a line of the text.** -/
theorem Code.label_mem_lines {program : Program} {function : FunctionDecl}
    (member : function ∈ program.functions) (oneLine : '\n' ∉ function.name) :
    function.name ++ [':'] ∈ Text.lines (Code.ofProgram program).render := by
  refine Code.mem_lines_render ?_ (by simp [oneLine])
  refine List.mem_append_right _ (List.mem_flatMap.mpr ?_)
  refine ⟨Routine.ofFunction function, List.mem_map_of_mem member, ?_⟩
  exact List.mem_cons_of_mem _ List.mem_cons_self

end ShallowCpp.Assembly
