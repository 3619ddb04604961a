import Mathlib.Algebra.Ring.Nat
import ShallowCpp.Proofs.ThreeAddress.Listing

/-!
# Temporaries

A statement takes a temporary when it assigns: it declares a variable with an initial value, or it
is an expression in which an assignment is found. Code is numbered from one number to another when
the temporaries it takes are the numbers in between, in order, each of them computed and then stored
at once. Lowering produces numbered code, from the number it is given to the number it hands back,
for a statement, for a function and for a program alike (`numbered_ofStatement`,
`numbered_ofFunction`, `numbered_ofProgram`). What is known about the temporaries of any lowering is
read off from the numbering.

Lowering steps may follow each other on one counter, in any order, and single numbers may be drawn
in between. All answers together then use consecutive numbers, and starting from another number only
moves them all by the same amount (`temporaries_consecutive`).
-/

set_option autoImplicit false

namespace ShallowCpp.ThreeAddress

/-! ## Numbered code -/

namespace Instr

/-- The temporary that the instruction computes. -/
def computed? : Instr → Option Nat
  | .compute temporary _ => some temporary
  | _ => none

/-- The temporary that the instruction stores. -/
def stored? : Instr → Option Nat
  | .store _ temporary => some temporary
  | _ => none

/-- The function that the instruction starts. -/
def started? : Instr → Option Text
  | .function name => some name
  | _ => none

end Instr

/-- Code whose temporaries are the numbers from `first` up to, but not including, `last`, each
computed in its turn and stored by the next instruction. -/
inductive Numbered : (first : Nat) → List Instr → (last : Nat) → Prop where
  | empty (first : Nat) : Numbered first [] first
  | plain {first last : Nat} {instr : Instr} {code : List Instr} :
      instr.computed? = none → instr.stored? = none → Numbered first code last →
        Numbered first (instr :: code) last
  | assign {first last : Nat} {code : List Instr} (target expression : Text) :
      Numbered (first + 1) code last →
        Numbered first (.compute first expression :: .store target first :: code) last

namespace Numbered

variable {first middle last : Nat} {code others : List Instr}

theorem append (numbered : Numbered first code middle) (rest : Numbered middle others last) :
    Numbered first (code ++ others) last := by
  induction numbered with
  | empty => exact rest
  | plain computesNone storesNone _ ih => exact .plain computesNone storesNone (ih rest)
  | assign target expression _ ih => exact .assign target expression (ih rest)

theorem first_le_last (numbered : Numbered first code last) : first ≤ last := by
  induction numbered with
  | empty => exact Nat.le_refl _
  | plain _ _ _ ih => exact ih
  | assign _ _ _ ih => exact Nat.le_of_succ_le ih

/-- The numbers are computed in order, without gap or repetition. -/
theorem filterMap_computed? (numbered : Numbered first code last) :
    code.filterMap Instr.computed? = List.range' first (last - first) := by
  induction numbered with
  | empty => simp
  | plain computesNone _ _ ih => rw [List.filterMap_cons_none computesNone, ih]
  | @assign first last code target expression rest ih =>
    have bound := rest.first_le_last
    obtain ⟨count, rfl⟩ : ∃ count, last = first + 1 + count := ⟨last - (first + 1), by omega⟩
    have size : first + 1 + count - first = count + 1 := by omega
    rw [Nat.add_sub_cancel_left] at ih
    rw [size, List.range'_succ, ← ih]
    rfl

/-- The numbers are stored as they are computed. -/
theorem filterMap_stored? (numbered : Numbered first code last) :
    code.filterMap Instr.stored? = code.filterMap Instr.computed? := by
  induction numbered with
  | empty => rfl
  | plain computesNone storesNone _ ih =>
    rw [List.filterMap_cons_none computesNone, List.filterMap_cons_none storesNone, ih]
  | @assign first last code target expression rest ih =>
    simp only [List.filterMap_cons, Instr.stored?, Instr.computed?, ih]

end Numbered

/-- Computing and storing go together: what is computed is stored by the next instruction, and what
is stored was computed by the one before. -/
structure Paired (code : List Instr) : Prop where
  stored_next : ∀ index temporary expression,
    code[index]? = some (.compute temporary expression) →
      ∃ target, code[index + 1]? = some (.store target temporary)
  computed_before : ∀ index target temporary, code[index]? = some (.store target temporary) →
    ∃ before expression, index = before + 1 ∧
      code[before]? = some (.compute temporary expression)

namespace Paired

variable {code : List Instr}

theorem nil : Paired [] where
  stored_next := by simp
  computed_before := by simp

theorem plain {instr : Instr} (computesNone : instr.computed? = none)
    (storesNone : instr.stored? = none) (paired : Paired code) : Paired (instr :: code) where
  stored_next := by
    intro index temporary expression here
    cases index with
    | zero =>
      obtain rfl : instr = _ := by simpa using here
      cases computesNone
    | succ index => exact paired.stored_next index temporary expression here
  computed_before := by
    intro index target temporary here
    cases index with
    | zero =>
      obtain rfl : instr = _ := by simpa using here
      cases storesNone
    | succ index =>
      obtain ⟨before, expression, rfl, there⟩ := paired.computed_before index target temporary here
      exact ⟨before + 1, expression, rfl, there⟩

theorem assign (temporary : Nat) (target expression : Text) (paired : Paired code) :
    Paired (.compute temporary expression :: .store target temporary :: code) where
  stored_next := by
    intro index temporary' expression' here
    rcases index with _ | _ | index
    · obtain ⟨rfl, rfl⟩ : temporary = temporary' ∧ expression = expression' := by simpa using here
      exact ⟨target, rfl⟩
    · simp at here
    · exact paired.stored_next index temporary' expression' here
  computed_before := by
    intro index target' temporary' here
    rcases index with _ | _ | index
    · simp at here
    · obtain ⟨rfl, rfl⟩ : target = target' ∧ temporary = temporary' := by simpa using here
      exact ⟨0, expression, rfl, rfl⟩
    · obtain ⟨before, expression', rfl, there⟩ :=
        paired.computed_before index target' temporary' here
      exact ⟨before + 2, expression', rfl, there⟩

end Paired

theorem Numbered.paired {first last : Nat} {code : List Instr}
    (numbered : Numbered first code last) : Paired code := by
  induction numbered with
  | empty => exact .nil
  | plain computesNone storesNone _ ih => exact ih.plain computesNone storesNone
  | assign target expression _ ih => exact ih.assign _ target expression

/-! ## Lowering numbers its code -/

/-- The statement assigns: it declares an initialised variable or is an assignment. -/
def assigns : Statement → Bool
  | .declaration decl => decl.init.isSome
  | .returns _ => false
  | .expression text => (Assignment.ofExpression? text).isSome

/-- What a statement can become, whatever the number of the next temporary: an assignment through
that temporary, or one instruction that takes none and starts no function. -/
theorem ofStatement_cases (statement : Statement) :
    (assigns statement = true ∧ ∃ target expression, ∀ next,
        ofStatement next statement = assign next target expression) ∨
      (assigns statement = false ∧ ∃ instr : Instr, instr.computed? = none ∧
        instr.stored? = none ∧ instr.started? = none ∧
          ∀ next, ofStatement next statement = ([instr], next)) := by
  cases statement with
  | declaration decl =>
    cases init : decl.init with
    | some value =>
      exact .inl ⟨by simp [assigns, init], decl.name, value, by simp [ofStatement, init]⟩
    | none =>
      exact .inr ⟨by simp [assigns, init], .allocate decl.name, rfl, rfl, rfl,
        by simp [ofStatement, init]⟩
  | returns value => exact .inr ⟨rfl, .returns value, rfl, rfl, rfl, fun _ => rfl⟩
  | expression text =>
    cases found : Assignment.ofExpression? text with
    | some made =>
      exact .inl ⟨by simp [assigns, found], made.target, made.value, by simp [ofStatement, found]⟩
    | none =>
      exact .inr ⟨by simp [assigns, found], .evaluate text, rfl, rfl, rfl,
        by simp [ofStatement, found]⟩

theorem numbered_ofStatement (next : Nat) (statement : Statement) :
    Numbered next (ofStatement next statement).1 (ofStatement next statement).2 := by
  rcases ofStatement_cases statement with
    ⟨-, target, expression, lowered⟩ | ⟨-, instr, computesNone, storesNone, -, lowered⟩
  · rw [lowered]
    exact .assign target expression (.empty _)
  · rw [lowered]
    exact .plain computesNone storesNone (.empty next)

theorem numbered_ofStatements (next : Nat) (statements : List Statement) :
    Numbered next (ofStatements next statements).1 (ofStatements next statements).2 := by
  induction statements generalizing next with
  | nil => exact .empty next
  | cons statement rest ih => exact (numbered_ofStatement next statement).append (ih _)

theorem numbered_params (next : Nat) (params : List Param) :
    Numbered next (params.map fun param => Instr.param param.name) next := by
  induction params with
  | nil => exact .empty next
  | cons param rest ih => exact .plain rfl rfl ih

theorem numbered_ofFunction (next : Nat) (function : FunctionDecl) :
    Numbered next (Routine.ofFunction next function).1.code
      (Routine.ofFunction next function).2 :=
  .plain rfl rfl ((numbered_params next function.params).append
    (numbered_ofStatements next function.body))

theorem numbered_ofFunctions (next : Nat) (functions : List FunctionDecl) :
    Numbered next ((Routine.ofFunctions next functions).1.flatMap Routine.code)
      (Routine.ofFunctions next functions).2 := by
  induction functions generalizing next with
  | nil => exact .empty next
  | cons function rest ih => exact (numbered_ofFunction next function).append (ih _)

theorem numbered_ofProgram (program : Program) :
    Numbered 0 (Code.ofProgram program).instructions
      (Routine.ofFunctions 0 program.functions).2 :=
  numbered_ofFunctions 0 program.functions

theorem paired_of_mem_ofFunctions {next : Nat} {functions : List FunctionDecl} {routine : Routine}
    (member : routine ∈ (Routine.ofFunctions next functions).1) : Paired routine.code := by
  obtain ⟨number, function, -, rfl⟩ := Routine.exists_of_mem_ofFunctions member
  exact (numbered_ofFunction number function).paired

/-! ## How many temporaries are taken -/

theorem next_ofStatement (next : Nat) (statement : Statement) :
    (ofStatement next statement).2 = next + if assigns statement then 1 else 0 := by
  rcases ofStatement_cases statement with
    ⟨assigning, target, expression, lowered⟩ | ⟨idle, instr, -, -, -, lowered⟩
  · rw [lowered, if_pos assigning]
    rfl
  · rw [lowered, if_neg (by simp [idle])]
    rfl

theorem next_ofStatements (next : Nat) (statements : List Statement) :
    (ofStatements next statements).2 = next + statements.countP assigns := by
  induction statements generalizing next with
  | nil => rfl
  | cons statement rest ih =>
    simp only [ofStatements, ih, next_ofStatement, List.countP_cons]
    omega

theorem next_ofFunctions (next : Nat) (functions : List FunctionDecl) :
    (Routine.ofFunctions next functions).2 =
      next + (functions.flatMap FunctionDecl.body).countP assigns := by
  induction functions generalizing next with
  | nil => rfl
  | cons function rest ih =>
    simp only [Routine.ofFunctions, ih, Routine.ofFunction, next_ofStatements, List.flatMap_cons,
      List.countP_append]
    omega

/-! ## Starting from another number -/

/-- The instruction with its temporary moved up. -/
def Instr.shift (offset : Nat) : Instr → Instr
  | .compute temporary expression => .compute (temporary + offset) expression
  | .store target temporary => .store target (temporary + offset)
  | instr => instr

/-- The routine with all its temporaries moved up. -/
def Routine.shift (offset : Nat) (routine : Routine) : Routine :=
  ⟨routine.name, routine.code.map (Instr.shift offset)⟩

theorem Instr.shift_of_plain {instr : Instr} (computesNone : instr.computed? = none)
    (storesNone : instr.stored? = none) (offset : Nat) : instr.shift offset = instr := by
  cases instr with
  | compute temporary expression => cases computesNone
  | store target temporary => cases storesNone
  | function | param | allocate | returns | evaluate => rfl

theorem ofStatement_add (next offset : Nat) (statement : Statement) :
    ofStatement (next + offset) statement =
      ((ofStatement next statement).1.map (Instr.shift offset),
        (ofStatement next statement).2 + offset) := by
  rcases ofStatement_cases statement with
    ⟨-, target, expression, lowered⟩ | ⟨-, instr, computesNone, storesNone, -, lowered⟩
  · rw [lowered, lowered, assign, assign, drawTemporary, drawTemporary, Nat.add_right_comm]
    rfl
  · rw [lowered, lowered, List.map_singleton, Instr.shift_of_plain computesNone storesNone]

theorem ofStatements_add (next offset : Nat) (statements : List Statement) :
    ofStatements (next + offset) statements =
      ((ofStatements next statements).1.map (Instr.shift offset),
        (ofStatements next statements).2 + offset) := by
  induction statements generalizing next with
  | nil => rfl
  | cons statement rest ih =>
    simp only [ofStatements, ofStatement_add, ih, List.map_append]

theorem ofFunction_add (next offset : Nat) (function : FunctionDecl) :
    Routine.ofFunction (next + offset) function =
      ((Routine.ofFunction next function).1.shift offset,
        (Routine.ofFunction next function).2 + offset) := by
  simp [Routine.ofFunction, ofStatements_add, Routine.shift, Instr.shift, Function.comp_def]

theorem ofFunctions_add (next offset : Nat) (functions : List FunctionDecl) :
    Routine.ofFunctions (next + offset) functions =
      ((Routine.ofFunctions next functions).1.map (Routine.shift offset),
        (Routine.ofFunctions next functions).2 + offset) := by
  induction functions generalizing next with
  | nil => rfl
  | cons function rest ih =>
    simp only [Routine.ofFunctions, ofFunction_add, ih, List.map_cons]

/-! ## Steps on one counter -/

namespace Step

/-- How many numbers a step takes. -/
def needs : Step → Nat
  | .temporary => 1
  | .statement single => [single].countP assigns
  | .function decl => decl.body.countP assigns
  | .program outline => (outline.functions.flatMap FunctionDecl.body).countP assigns

end Step

namespace Output

/-- The code in an output, one block for each function. -/
def blocks : Output → List (List Instr)
  | .temporary _ => []
  | .statement code => [code]
  | .function routine => [routine.code]
  | .program code => code.routines.map Routine.code

/-- All instructions of an output. -/
def code (output : Output) : List Instr :=
  output.blocks.flatten

/-- The numbers handed out, in order: the one that is drawn, or those that the code computes. -/
def numbers : Output → List Nat
  | .temporary number => [number]
  | output => output.code.filterMap Instr.computed?

/-- The output with all its numbers moved up. -/
def shift (offset : Nat) : Output → Output
  | .temporary number => .temporary (number + offset)
  | .statement code => .statement (code.map (Instr.shift offset))
  | .function routine => .function (routine.shift offset)
  | .program code => .program ⟨code.routines.map (Routine.shift offset)⟩

end Output

namespace Step

theorem next_run (next : Nat) (step : Step) : (step.run next).2 = next + step.needs := by
  cases step with
  | temporary => rfl
  | statement single => simpa [run, needs, List.countP_cons] using next_ofStatement next single
  | function decl => exact next_ofStatements next decl.body
  | program outline => exact next_ofFunctions next outline.functions

/-- A step that lowers hands out numbered code. -/
theorem numbered_run {step : Step} (lowers : step ≠ .temporary) (next : Nat) :
    Numbered next (step.run next).1.code (step.run next).2 := by
  cases step with
  | temporary => exact absurd rfl lowers
  | statement single =>
    simpa [run, Output.code, Output.blocks] using numbered_ofStatement next single
  | function decl =>
    simpa [run, Output.code, Output.blocks] using numbered_ofFunction next decl
  | program outline =>
    have numbered := numbered_ofFunctions next outline.functions
    rw [List.flatMap_def] at numbered
    exact numbered

/-- What a step hands out are the numbers from the first free one on. -/
theorem numbers_run (next : Nat) (step : Step) :
    (step.run next).1.numbers = List.range' next step.needs := by
  by_cases draws : step = .temporary
  · subst draws
    rfl
  · have computed := (numbered_run draws next).filterMap_computed?
    rw [next_run, Nat.add_sub_cancel_left] at computed
    cases step with
    | temporary => exact absurd rfl draws
    | statement | function | program => exact computed

theorem filterMap_stored?_run (next : Nat) (step : Step) :
    (step.run next).1.code.filterMap Instr.stored? =
      (step.run next).1.code.filterMap Instr.computed? := by
  by_cases draws : step = .temporary
  · subst draws
    rfl
  · exact (numbered_run draws next).filterMap_stored?

theorem paired_of_mem_blocks {next : Nat} {step : Step} {block : List Instr}
    (member : block ∈ (step.run next).1.blocks) : Paired block := by
  cases step with
  | temporary => cases member
  | statement single =>
    rw [List.mem_singleton.mp member]
    exact (numbered_ofStatement next single).paired
  | function decl =>
    rw [List.mem_singleton.mp member]
    exact (numbered_ofFunction next decl).paired
  | program outline =>
    obtain ⟨routine, routineMember, rfl⟩ := List.mem_map.mp member
    exact paired_of_mem_ofFunctions routineMember

theorem run_add (next offset : Nat) (step : Step) :
    step.run (next + offset) = ((step.run next).1.shift offset, (step.run next).2 + offset) := by
  cases step with
  | temporary => simp [run, drawTemporary, Output.shift, Nat.add_right_comm]
  | statement single => simp [run, Output.shift, ofStatement_add]
  | function decl => simp [run, Output.shift, ofFunction_add]
  | program outline => simp [run, Output.shift, Code.ofProgramFrom, ofFunctions_add]

/-! ### Whole runs -/

theorem next_runAll (next : Nat) (steps : List Step) :
    (runAll next steps).2 = next + (steps.map needs).sum := by
  induction steps generalizing next with
  | nil => rfl
  | cons step rest ih =>
    simp only [runAll, ih, next_run, List.map_cons, List.sum_cons]
    omega

theorem numbers_runAll (next : Nat) (steps : List Step) :
    (runAll next steps).1.flatMap Output.numbers =
      List.range' next (steps.map needs).sum := by
  induction steps generalizing next with
  | nil => rfl
  | cons step rest ih =>
    simp only [runAll, List.flatMap_cons, ih, numbers_run, next_run, List.map_cons, List.sum_cons,
      List.range'_append_1]

theorem filterMap_stored?_runAll (next : Nat) (steps : List Step) :
    ((runAll next steps).1.flatMap Output.code).filterMap Instr.stored? =
      ((runAll next steps).1.flatMap Output.code).filterMap Instr.computed? := by
  induction steps generalizing next with
  | nil => rfl
  | cons step rest ih =>
    simp only [runAll, List.flatMap_cons, List.filterMap_append, filterMap_stored?_run, ih]

theorem paired_runAll {next : Nat} {steps : List Step} {output : Output}
    (member : output ∈ (runAll next steps).1) {block : List Instr}
    (inside : block ∈ output.blocks) : Paired block := by
  induction steps generalizing next with
  | nil => cases member
  | cons step rest ih =>
    rcases List.mem_cons.mp member with rfl | later
    · exact paired_of_mem_blocks inside
    · exact ih later

theorem runAll_add (next offset : Nat) (steps : List Step) :
    runAll (next + offset) steps =
      ((runAll next steps).1.map (Output.shift offset), (runAll next steps).2 + offset) := by
  induction steps generalizing next with
  | nil => rfl
  | cons step rest ih => simp only [runAll, run_add, ih, List.map_cons]

end Step

namespace Output

theorem computed_sublist_numbers (output : Output) :
    (output.code.filterMap Instr.computed?).Sublist output.numbers := by
  cases output with
  | temporary number => exact List.nil_sublist _
  | statement | function | program => exact List.Sublist.refl _

theorem computed_sublist_flatMap_numbers (outputs : List Output) :
    ((outputs.flatMap code).filterMap Instr.computed?).Sublist (outputs.flatMap numbers) := by
  induction outputs with
  | nil => exact List.Sublist.refl _
  | cons output rest ih =>
    simp only [List.flatMap_cons, List.filterMap_append]
    exact output.computed_sublist_numbers.append ih

end Output

/-- **Temporaries are consecutive, and each is computed once and stored once.** Whatever the steps
on one counter, the numbers handed out are those from the first on, as many as the steps need, and
the counter ends behind the last of them. In the code of a function what is computed is stored by
the next instruction, and nothing else is stored. Another start moves all numbers alike. A program
takes as many temporaries as its functions have statements that assign. -/
theorem temporaries_consecutive (next : Nat) (steps : List Step) :
    (Step.runAll next steps).1.flatMap Output.numbers =
        List.range' next (steps.map Step.needs).sum ∧
      (Step.runAll next steps).2 = next + (steps.map Step.needs).sum ∧
      (∀ output ∈ (Step.runAll next steps).1, ∀ block ∈ output.blocks, Paired block) ∧
      ((Step.runAll next steps).1.flatMap Output.code).filterMap Instr.stored? =
        ((Step.runAll next steps).1.flatMap Output.code).filterMap Instr.computed? ∧
      (((Step.runAll next steps).1.flatMap Output.code).filterMap Instr.computed?).Nodup ∧
      (Step.runAll next steps).1 = (Step.runAll 0 steps).1.map (Output.shift next) ∧
      ∀ program : Program, (Code.ofProgram program).instructions.filterMap Instr.computed? =
        List.range ((program.functions.flatMap FunctionDecl.body).countP assigns) := by
  have numbers := Step.numbers_runAll next steps
  refine ⟨numbers, Step.next_runAll next steps, ?_, Step.filterMap_stored?_runAll next steps,
    ?_, ?_, ?_⟩
  · intro output member block inside
    exact Step.paired_runAll member inside
  · have distinct : ((Step.runAll next steps).1.flatMap Output.numbers).Nodup := by
      rw [numbers]
      exact List.nodup_range'
    exact distinct.sublist (Output.computed_sublist_flatMap_numbers _)
  · have moved := Step.runAll_add 0 next steps
    rw [Nat.zero_add] at moved
    rw [moved]
  · intro program
    rw [(numbered_ofProgram program).filterMap_computed?, next_ofFunctions,
      Nat.add_sub_cancel_left, List.range_eq_range']

/-- From five on: a number is drawn, a variable is declared and a function assigns. -/
theorem temporaries_consecutive_from_five :
    (Step.runAll 5 [.temporary, .statement (.declaration ⟨"x".toList, "int".toList, some ['1']⟩),
        .function ⟨"f".toList, "int".toList, [], [.expression "x += 2".toList,
          .returns "x".toList], 1⟩]).1.flatMap Output.numbers = [5, 6, 7] ∧
      Paired [.function "f".toList, .compute 7 "x + 2".toList, .store "x".toList 7,
        .returns "x".toList] := by
  have known := temporaries_consecutive 5 [.temporary,
    .statement (.declaration ⟨"x".toList, "int".toList, some ['1']⟩),
    .function ⟨"f".toList, "int".toList, [], [.expression "x += 2".toList,
      .returns "x".toList], 1⟩]
  refine ⟨known.1.trans (by decide), known.2.2.1 (.function ⟨"f".toList, _⟩) ?_ _
    List.mem_cons_self⟩
  decide

end ShallowCpp.ThreeAddress
