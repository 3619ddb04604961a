import Mathlib.Data.List.Nodup
import ShallowCpp.Proofs.Outline.Locals
import ShallowCpp.Proofs.ThreeAddress.Decoding

/-!
# Names that the lines of a listing write

Read as plain text, a line of a listing writes a name when it is the line of a parameter or of a
variable with that name, or when it starts with the name and an equals sign between spaces. The line
that computes a temporary writes `T` and its number. Nothing keeps the source from using such a name
for a variable, so other lines may write it too.

How many lines write the name of a temporary is exact all the same: one for the temporary itself,
and one for each parameter, declaration and assignment of the source with this name
(`temporary_written_once_iff`). No other text of a listing can be mistaken for a line that writes it
(`countP_writes_render`).
-/

set_option autoImplicit false

namespace ShallowCpp

open Text

/-! ## Names that a source gives values to -/

/-- The name that a statement declares or assigns to. -/
def Statement.assigned? : Statement → Option Text
  | .declaration decl => some decl.name
  | .returns _ => none
  | .expression text => (ThreeAddress.Assignment.ofExpression? text).map (·.target)

/-- The parameters of a function and the names that its statements declare or assign to. -/
def FunctionDecl.assignedNames (function : FunctionDecl) : List Text :=
  function.params.map Param.name ++ function.body.filterMap Statement.assigned?

/-- The parameters, declared names and assigned names of all functions. -/
def Program.assignedNames (program : Program) : List Text :=
  program.functions.flatMap FunctionDecl.assignedNames

namespace ThreeAddress

/-- The name of the source that an instruction gives a value or makes room for. -/
def Instr.assigned? : Instr → Option Text
  | .param name => some name
  | .store target _ => some target
  | .allocate name => some name
  | _ => none

theorem filterMap_assigned?_ofStatement (next : Nat) (statement : Statement) :
    (ofStatement next statement).1.filterMap Instr.assigned? = statement.assigned?.toList := by
  cases statement with
  | declaration decl =>
    cases init : decl.init with
    | some value =>
      rw [ofStatement, init]
      rfl
    | none =>
      rw [ofStatement, init]
      rfl
  | returns value => rfl
  | expression text =>
    cases found : Assignment.ofExpression? text with
    | some made =>
      rw [ofStatement, Statement.assigned?, found]
      rfl
    | none =>
      rw [ofStatement, Statement.assigned?, found]
      rfl

theorem filterMap_assigned?_ofFunction (next : Nat) (function : FunctionDecl) :
    (Routine.ofFunction next function).1.code.filterMap Instr.assigned? =
      function.assignedNames := by
  have params : (function.params.map fun param => Instr.param param.name).filterMap
      Instr.assigned? = function.params.map Param.name := by
    rw [List.filterMap_map]
    exact congrFun List.filterMap_eq_map function.params
  have body := filterMap_ofStatements filterMap_assigned?_ofStatement next function.body
  simp only [Routine.ofFunction, List.cons_append, List.filterMap_append, params, body,
    FunctionDecl.assignedNames, List.filterMap_cons, Instr.assigned?]

theorem filterMap_assigned?_ofFunctions (next : Nat) (functions : List FunctionDecl) :
    ((Routine.ofFunctions next functions).1.flatMap Routine.code).filterMap Instr.assigned? =
      functions.flatMap FunctionDecl.assignedNames := by
  induction functions generalizing next with
  | nil => rfl
  | cons function rest ih =>
    simp only [Routine.ofFunctions, List.flatMap_cons, List.filterMap_append,
      filterMap_assigned?_ofFunction, ih]

/-- **The code assigns the names that the program assigns**, in order. -/
theorem filterMap_assigned?_ofProgram (program : Program) :
    (Code.ofProgram program).instructions.filterMap Instr.assigned? = program.assignedNames :=
  filterMap_assigned?_ofFunctions 0 program.functions

/-! ## Names of temporaries -/

theorem word_temporaryName (temporary : Nat) : Word (temporaryName temporary) where
  ne_nil := List.cons_ne_nil _ _
  isWord := by
    intro char member
    rcases List.mem_cons.mp member with rfl | inDigits
    · decide
    · have digit := Nat.isDigit_of_mem_toDigits (by decide) (by decide) inDigits
      exact isWord_of_isDigit digit

theorem temporaryName_injective : Function.Injective temporaryName := by
  intro first second same
  have digits : Nat.toDigits 10 first = Nat.toDigits 10 second := (List.cons.inj same).2
  calc first = Nat.ofDigitChars 10 (Nat.toDigits 10 first) 0 := Nat.ofDigitChars_ten_toDigits.symm
    _ = Nat.ofDigitChars 10 (Nat.toDigits 10 second) 0 := by rw [digits]
    _ = second := Nat.ofDigitChars_ten_toDigits

/-! ## Lines that write a name -/

/-- The line, read as text, writes the name: it is the line of a parameter or of a variable with
this name, or it starts with the name and an equals sign between spaces. -/
def writes (name line : Text) : Bool :=
  line == "  PARAM ".toList ++ name || line == "  ALLOCATE ".toList ++ name ||
    ("  ".toList ++ (name ++ " = ".toList)).isPrefixOf line

/-- A text in front of an equals sign that starts with a name and an equals sign is this name, or it
goes on behind its first equals sign. -/
theorem eq_or_goes_on {name target rest : Text} (free : '=' ∉ name)
    (starts : name ++ " = ".toList <+: target ++ (" = ".toList ++ rest)) :
    target = name ∨ ∃ tail, tail.head? ≠ some '=' ∧ target = name ++ ' ' :: '=' :: tail := by
  obtain ⟨more, same⟩ := starts
  have nameFree : '=' ∉ name ++ [' '] := by simp [free]
  have lined : name ++ [' '] ++ '=' :: ' ' :: more = target ++ [' '] ++ '=' :: ' ' :: rest := by
    simpa using same
  by_cases inside : '=' ∈ target
  · obtain ⟨lead, tail, rfl, leadFree⟩ := List.eq_append_cons_of_mem inside
    rw [List.append_assoc (lead ++ '=' :: tail), List.append_assoc lead, List.cons_append] at lined
    obtain ⟨rfl, behind⟩ := run_unique (ne_of_notMem nameFree) (ne_of_notMem leadFree)
      (endsRun_ne '=' _) (endsRun_ne '=' _) lined
    refine .inr ⟨tail, ?_, by simp⟩
    cases tail with
    | nil => simp
    | cons char others =>
      have space : ' ' = char := (List.cons.inj (List.cons.inj behind).2).1
      simp [← space]
  · have targetFree : '=' ∉ target ++ [' '] := by simp [inside]
    obtain ⟨words, -⟩ := run_unique (ne_of_notMem nameFree) (ne_of_notMem targetFree)
      (endsRun_ne '=' _) (endsRun_ne '=' _) lined
    exact .inl (List.append_cancel_right words).symm

/-- What an outline assigns to: a declared name, or the target of an assignment in an expression. -/
inductive IsTarget : Text → Prop where
  | declared {name : Text} : Word name → IsTarget name
  | assigned {expression : Text} {assignment : Assignment} :
      Assignment.ofExpression? expression = some assignment → IsTarget assignment.target

theorem IsTarget.eq_of_prefix {name target rest : Text} (isTarget : IsTarget target)
    (isWord : Word name) (starts : name ++ " = ".toList <+: target ++ (" = ".toList ++ rest)) :
    target = name := by
  rcases eq_or_goes_on (isWord.notMem rfl) starts with same | ⟨tail, noSign, goesOn⟩
  · exact same
  · cases isTarget with
    | declared nameWord =>
      have member : '=' ∈ target := by simp [goesOn]
      exact absurd member (nameWord.notMem rfl)
    | assigned found => exact absurd goesOn (Assignment.target_ne_append_sign found isWord noSign)

theorem isTarget_of_mem_instructions {source target : Text} {temporary : Nat}
    (member : .store target temporary ∈ (Code.ofProgram (Program.ofSource source)).instructions) :
    IsTarget target := by
  obtain ⟨routine, isRoutine, inCode⟩ := List.mem_flatMap.mp member
  obtain ⟨number, function, isFunction, rfl⟩ := Routine.exists_of_mem_ofFunctions isRoutine
  obtain ⟨header, -, -, rfl⟩ := Program.mem_functions_iff.mp isFunction
  have inBody : .store target temporary ∈
      (ofStatements number (FunctionDecl.ofSpan source header).body).1 := by
    simpa [Routine.ofFunction] using inCode
  obtain ⟨number', statement, isStatement, inStatement⟩ := exists_of_mem_ofStatements inBody
  have named : target ∈ statement.assigned?.toList := by
    rw [← filterMap_assigned?_ofStatement number']
    exact List.mem_filterMap.mpr ⟨_, inStatement, rfl⟩
  rw [Option.mem_toList] at named
  cases statement with
  | declaration decl =>
    obtain ⟨span, rfl, before, written, behind, -, spelled, -, -⟩ :=
      Statement.exists_occursIn_of_mem_ofBody isStatement
    obtain rfl := Option.some.inj named
    exact .declared spelled.word_name
  | returns value => cases named
  | expression text =>
    obtain ⟨assignment, found, rfl⟩ := Option.map_eq_some_iff.mp named
    exact .assigned found

/-- A line with an assignment writes the name of a temporary only as its target. -/
theorem writes_assignment_iff {target : Text} (isTarget : IsTarget target) (rest : Text)
    (temporary : Nat) :
    writes (temporaryName temporary) ("  ".toList ++ (target ++ (" = ".toList ++ rest))) = true ↔
      target = temporaryName temporary := by
  have isWord := word_temporaryName temporary
  have noSign : ∀ mark : Text, '=' ∉ mark →
      "  ".toList ++ (target ++ (" = ".toList ++ rest)) ≠ mark ++ temporaryName temporary := by
    intro mark free same
    have member : '=' ∈ mark ++ temporaryName temporary := by simp [← same]
    rcases List.mem_append.mp member with inMark | inName
    · exact free inMark
    · exact isWord.notMem rfl inName
  have parameter := noSign "  PARAM ".toList (by decide)
  have allocation := noSign "  ALLOCATE ".toList (by decide)
  simp only [writes, Bool.or_eq_true, beq_iff_eq, List.isPrefixOf_iff_prefix, parameter,
    allocation, false_or, List.prefix_append_right_inj]
  constructor
  · intro starts
    exact isTarget.eq_of_prefix isWord starts
  · rintro rfl
    rw [← List.append_assoc]
    exact List.prefix_append _ _

theorem writes_render_iff {instr : Instr} (temporary : Nat)
    (isTarget : ∀ target number, instr = .store target number → IsTarget target) :
    writes (temporaryName temporary) instr.render = true ↔
      instr.computed? = some temporary ∨ instr.assigned? = some (temporaryName temporary) := by
  cases instr with
  | compute number expression =>
    have line : (Instr.compute number expression).render =
        "  ".toList ++ (temporaryName number ++ (" = ".toList ++ expression)) := by
      simp [Instr.render.eq_def]
    rw [line, writes_assignment_iff (.declared (word_temporaryName number)),
      temporaryName_injective.eq_iff]
    simp [Instr.computed?, Instr.assigned?]
  | store target number =>
    have line : (Instr.store target number).render =
        "  ".toList ++ (target ++ (" = ".toList ++ temporaryName number)) := by
      simp [Instr.render.eq_def]
    rw [line, writes_assignment_iff (isTarget target number rfl)]
    simp [Instr.computed?, Instr.assigned?]
  | function | param | allocate | returns | evaluate =>
    simp [writes, Instr.render.eq_def, temporaryName, Instr.computed?, Instr.assigned?]

/-- The lines of some code that write the name of a temporary. -/
theorem countP_writes_render {code : List Instr} (temporary : Nat)
    (isTarget : ∀ target number, .store target number ∈ code → IsTarget target) :
    (code.map Instr.render).countP (writes (temporaryName temporary)) =
      (code.filterMap Instr.computed?).count temporary +
        (code.filterMap Instr.assigned?).count (temporaryName temporary) := by
  rw [List.count_filterMap, List.count_filterMap]
  induction code with
  | nil => rfl
  | cons instr rest ih =>
    have later := ih fun target number member =>
      isTarget target number (List.mem_cons_of_mem instr member)
    have here := writes_render_iff temporary fun target number same =>
      isTarget target number (same ▸ List.mem_cons_self)
    rw [List.map_cons, List.countP_cons, List.countP_cons, List.countP_cons, later]
    by_cases computes : instr.computed? = some temporary
    · have assignsNone : instr.assigned? = none := by
        cases instr with
        | compute number expression => rfl
        | function | param | store | allocate | returns | evaluate => cases computes
      simp [here, computes, assignsNone]
      omega
    · simp [here, computes]
      omega

/-! ## Listings of outlines -/

/-- The temporaries that the code of a program computes are those that the counter hands out. -/
theorem filterMap_computed?_ofProgram (program : Program) :
    (Code.ofProgram program).instructions.filterMap Instr.computed? =
      List.range (Code.ofProgramFrom 0 program).2 := by
  rw [(numbered_ofProgram program).filterMap_computed?, Nat.sub_zero, List.range_eq_range']
  rfl

theorem exists_compute_of_lt {program : Program} {temporary : Nat}
    (taken : temporary < (Code.ofProgramFrom 0 program).2) :
    ∃ expression, .compute temporary expression ∈ (Code.ofProgram program).instructions := by
  rw [← List.mem_range, ← filterMap_computed?_ofProgram] at taken
  obtain ⟨instr, member, computes⟩ := List.mem_filterMap.mp taken
  cases instr with
  | compute number expression =>
    obtain rfl := Option.some.inj computes
    exact ⟨expression, member⟩
  | function | param | store | allocate | returns | evaluate => cases computes

/-- **How often a listing writes the name of a temporary.** The line that computes a temporary
writes its name. The number of lines that write it is one more than the number of parameters,
declarations and assignments in the source with this name, so it is the only such line exactly if
the source has none of them. A line that writes the name computes the temporary or assigns to this
name in the source. -/
theorem temporary_written_once_iff (source : Text) :
    ∀ temporary < (Code.ofProgramFrom 0 (Program.ofSource source)).2,
      (∃ expression,
        (Instr.compute temporary expression).render ∈
            lines (Code.ofProgram (Program.ofSource source)).listing ∧
          writes (temporaryName temporary) (Instr.compute temporary expression).render = true) ∧
      (lines (Code.ofProgram (Program.ofSource source)).listing).countP
          (writes (temporaryName temporary)) =
        1 + (Program.ofSource source).assignedNames.count (temporaryName temporary) ∧
      ((lines (Code.ofProgram (Program.ofSource source)).listing).countP
          (writes (temporaryName temporary)) = 1 ↔
        temporaryName temporary ∉ (Program.ofSource source).assignedNames) ∧
      ∀ instr ∈ (Code.ofProgram (Program.ofSource source)).instructions,
        writes (temporaryName temporary) instr.render = true →
          instr.computed? = some temporary ∨
            instr.assigned? = some (temporaryName temporary) ∧
              temporaryName temporary ∈ (Program.ofSource source).assignedNames := by
  intro temporary taken
  have targets : ∀ target number, .store target number ∈
      (Code.ofProgram (Program.ofSource source)).instructions → IsTarget target :=
    fun target number member => isTarget_of_mem_instructions member
  have named := filterMap_assigned?_ofProgram (Program.ofSource source)
  obtain ⟨expression, member⟩ := exists_compute_of_lt taken
  have rows := Code.lines_listing (List.ne_nil_of_mem member) (lineFeed_notMem_instructions source)
  have once : (List.range (Code.ofProgramFrom 0 (Program.ofSource source)).2).count temporary = 1 :=
    List.count_eq_one_of_mem List.nodup_range (List.mem_range.mpr taken)
  have total := countP_writes_render temporary targets
  rw [← rows, filterMap_computed?_ofProgram, once, named] at total
  refine ⟨⟨expression, ?_, ?_⟩, total, ?_, ?_⟩
  · rw [rows]
    exact List.mem_map_of_mem member
  · exact (writes_render_iff temporary (by rintro _ _ ⟨⟩)).mpr (.inl rfl)
  · rw [total, ← List.count_eq_zero]
    omega
  · intro instr isInstr written
    have either := (writes_render_iff temporary
      fun target number same => targets target number (same ▸ isInstr)).mp written
    refine either.imp_right fun assigned => ⟨assigned, ?_⟩
    rw [← named]
    exact List.mem_filterMap.mpr ⟨instr, isInstr, assigned⟩

/-- A parameter and a variable are spelled like the first temporary: three lines write its name. -/
theorem temporary_written_three_times :
    0 < (Code.ofProgramFrom 0 (Program.ofSource
        "int f(int T0) \x7b\nint T0 = 5;\nT1 = T0;\n\x7d".toList)).2 ∧
      (lines (Code.ofProgram (Program.ofSource
          "int f(int T0) \x7b\nint T0 = 5;\nT1 = T0;\n\x7d".toList)).listing).countP
        (writes (temporaryName 0)) = 3 := by
  have taken : 0 < (Code.ofProgramFrom 0 (Program.ofSource
      "int f(int T0) \x7b\nint T0 = 5;\nT1 = T0;\n\x7d".toList)).2 := by decide +kernel
  have assigned : (Program.ofSource
      "int f(int T0) \x7b\nint T0 = 5;\nT1 = T0;\n\x7d".toList).assignedNames =
      ["T0".toList, "T0".toList, "T1".toList] := by decide +kernel
  obtain ⟨-, count, -⟩ := temporary_written_once_iff _ 0 taken
  rw [assigned] at count
  exact ⟨taken, count⟩

/-- A variable may capture a temporary: the listing has a line that computes `T0` and then one that
stores to `T0`, and both write this name. -/
theorem temporary_captured :
    lines (Code.ofProgram (Program.ofSource "int f() \x7b\nint T0 = 5;\n\x7d".toList)).listing =
        ["FUNCTION f:".toList, "  T0 = 5".toList, "  T0 = T0".toList] ∧
      (lines (Code.ofProgram (Program.ofSource
          "int f() \x7b\nint T0 = 5;\n\x7d".toList)).listing).countP
        (writes (temporaryName 0)) = 2 := by
  decide +kernel

end ThreeAddress

end ShallowCpp
