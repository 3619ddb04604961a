import ShallowCpp.Proofs.Text.Lines
import ShallowCpp.ThreeAddress.Lower

/-!
# Functions in three-address code

Lowering keeps the functions of a program: the routines bear the names of the functions in their
order (`Code.map_name_ofProgram`), and each routine starts with the instruction that names it. The
listing therefore has a line for the start of every function whose name has no line feed in it
(`Code.function_mem_lines`). What the instructions of a statement show of it, the instructions of a
body show of all its statements, in their order (`filterMap_ofStatements`).
-/

set_option autoImplicit false

namespace ShallowCpp.ThreeAddress

/-- The routines bear the names of the functions, whatever number the temporaries start from. -/
theorem Routine.map_name_ofFunctions (next : Nat) (functions : List FunctionDecl) :
    (Routine.ofFunctions next functions).1.map Routine.name = functions.map FunctionDecl.name := by
  induction functions generalizing next with
  | nil => rfl
  | cons function rest ih =>
    simp only [Routine.ofFunctions, List.map_cons, ih]
    rfl

/-- Every routine is that of a function. -/
theorem Routine.exists_of_mem_ofFunctions {next : Nat} {functions : List FunctionDecl}
    {routine : Routine} (member : routine ∈ (Routine.ofFunctions next functions).1) :
    ∃ number, ∃ function ∈ functions, routine = (Routine.ofFunction number function).1 := by
  induction functions generalizing next with
  | nil => cases member
  | cons function rest ih =>
    rcases List.mem_cons.mp member with rfl | later
    · exact ⟨next, function, List.mem_cons_self, rfl⟩
    · obtain ⟨number, function', inRest, same⟩ := ih later
      exact ⟨number, function', List.mem_cons_of_mem function inRest, same⟩

/-- Routines and functions stand in the same places. -/
theorem Routine.exists_getElem?_ofFunctions (next : Nat) (functions : List FunctionDecl)
    (index : Nat) :
    ∃ number, (Routine.ofFunctions next functions).1[index]? =
      functions[index]?.map fun function => (Routine.ofFunction number function).1 := by
  induction functions generalizing next index with
  | nil => exact ⟨next, rfl⟩
  | cons function rest ih =>
    cases index with
    | zero => exact ⟨next, rfl⟩
    | succ index => exact ih _ index

/-- What is to be seen of each statement in its instructions is to be seen of all of them in
theirs. -/
theorem filterMap_ofStatements {α : Type} {view : Instr → Option α} {source : Statement → Option α}
    (sees : ∀ next statement,
      (ofStatement next statement).1.filterMap view = (source statement).toList)
    (next : Nat) (statements : List Statement) :
    (ofStatements next statements).1.filterMap view = statements.filterMap source := by
  induction statements generalizing next with
  | nil => rfl
  | cons statement rest ih =>
    simp only [ofStatements, List.filterMap_append, sees, ih]
    cases seen : source statement with
    | some value => rw [List.filterMap_cons_some seen]; rfl
    | none => rw [List.filterMap_cons_none seen]; rfl

/-- A routine starts with the instruction that names it. -/
theorem Routine.function_mem_code {next : Nat} {functions : List FunctionDecl} {routine : Routine}
    (member : routine ∈ (Routine.ofFunctions next functions).1) :
    .function routine.name ∈ routine.code := by
  obtain ⟨number, function, -, rfl⟩ := Routine.exists_of_mem_ofFunctions member
  exact List.mem_cons_self

/-- A program's functions and the routines of its code have the same names. -/
theorem Code.map_name_ofProgram (program : Program) :
    (Code.ofProgram program).routines.map Routine.name =
      program.functions.map FunctionDecl.name :=
  Routine.map_name_ofFunctions 0 program.functions

/-- Every function of a program has a routine. -/
theorem Code.exists_routine {program : Program} {function : FunctionDecl}
    (member : function ∈ program.functions) :
    ∃ routine ∈ (Code.ofProgram program).routines, routine.name = function.name := by
  have named : function.name ∈ (Code.ofProgram program).routines.map Routine.name := by
    rw [Code.map_name_ofProgram]
    exact List.mem_map_of_mem member
  exact List.mem_map.mp named

/-- **Every function of a program starts on a line of the listing.** -/
theorem Code.function_mem_lines {program : Program} {function : FunctionDecl}
    (member : function ∈ program.functions) (oneLine : '\n' ∉ function.name) :
    "FUNCTION ".toList ++ function.name ++ ":".toList ∈
      Text.lines (Code.ofProgram program).listing := by
  obtain ⟨routine, routineMember, name⟩ := Code.exists_routine member
  have starts : .function routine.name ∈ (Code.ofProgram program).instructions :=
    List.mem_flatMap.mpr ⟨routine, routineMember, Routine.function_mem_code routineMember⟩
  refine Text.mem_lines_join (List.mem_map.mpr ⟨_, starts, ?_⟩) ?_
  · rw [name]
    rfl
  · simp [oneLine]

end ShallowCpp.ThreeAddress
