import Mathlib.Data.List.Basic
import ShallowCpp.Proofs.Outline.Texts
import ShallowCpp.Proofs.ThreeAddress.Assignment
import ShallowCpp.Proofs.ThreeAddress.Temporaries
import ShallowCpp.Report.Basic

/-!
# Reading a listing back

A listing does not mark which instruction a line stands for, and the text in a line may look like
another line: the target of an assignment may be spelled like a temporary, or start with the word
for a return. It can be read back all the same. A line that computes the temporary whose turn it is
starts with its name, which no other instruction does where an instruction may start; and the line
behind it is the store of that temporary, whatever it looks like. All other lines tell by their
first word what they are (`decodeLines?_render`).

This needs that every instruction is on one line. The code of an outline has no line feed in it
(`lineFeed_notMem_instructions`), because the outline has none, so its listing determines the code
(`listing_determines_code`).
-/

set_option autoImplicit false

namespace ShallowCpp.ThreeAddress

/-! ## No line feeds in the code of an outline -/

/-- The text that an instruction carries. -/
def Instr.text : Instr → Text
  | .function name => name
  | .param name => name
  | .compute _ expression => expression
  | .store target _ => target
  | .allocate name => name
  | .returns value => value
  | .evaluate expression => expression

theorem lineFeed_notMem_assign {next : Nat} {target expression : Text} (inTarget : '\n' ∉ target)
    (inExpression : '\n' ∉ expression) :
    ∀ instr ∈ (assign next target expression).1, '\n' ∉ instr.text := by
  intro instr member
  rcases List.mem_pair.mp member with rfl | rfl
  · exact inExpression
  · exact inTarget

theorem lineFeed_notMem_ofStatement {next : Nat} {statement : Statement}
    (oneLine : ∀ text ∈ statement.texts, '\n' ∉ text) :
    ∀ instr ∈ (ofStatement next statement).1, '\n' ∉ instr.text := by
  cases statement with
  | declaration decl =>
    obtain ⟨inName, inInit⟩ := List.forall_mem_cons.mp oneLine
    rw [ofStatement]
    split
    next value initialised =>
      exact lineFeed_notMem_assign inName (inInit value (by simp [initialised]))
    next => exact List.forall_mem_singleton.mpr inName
  | returns value => exact List.forall_mem_singleton.mpr (oneLine value List.mem_cons_self)
  | expression text =>
    have inText := oneLine text List.mem_cons_self
    rw [ofStatement]
    split
    next assignment found =>
      obtain ⟨inTarget, inValue⟩ := Assignment.lineFeed_notMem inText found
      exact lineFeed_notMem_assign inTarget inValue
    next => exact List.forall_mem_singleton.mpr inText

/-- Every instruction of successive statements is one of a statement. -/
theorem exists_of_mem_ofStatements {next : Nat} {statements : List Statement} {instr : Instr}
    (member : instr ∈ (ofStatements next statements).1) :
    ∃ number, ∃ statement ∈ statements, instr ∈ (ofStatement number statement).1 := by
  induction statements generalizing next with
  | nil => cases member
  | cons statement rest ih =>
    rcases List.mem_append.mp member with first | later
    · exact ⟨next, statement, List.mem_cons_self, first⟩
    · obtain ⟨number, statement', inRest, inCode⟩ := ih later
      exact ⟨number, statement', List.mem_cons_of_mem statement inRest, inCode⟩

theorem lineFeed_notMem_ofFunction {next : Nat} {function : FunctionDecl}
    (oneLine : function.OneLine) :
    ∀ instr ∈ (Routine.ofFunction next function).1.code, '\n' ∉ instr.text := by
  intro instr member
  simp only [Routine.ofFunction, List.cons_append, List.mem_cons, List.mem_append,
    List.mem_map] at member
  rcases member with rfl | ⟨param, listed, rfl⟩ | inBody
  · exact oneLine.name
  · exact oneLine.params param listed
  · obtain ⟨number, statement, isStatement, inCode⟩ := exists_of_mem_ofStatements inBody
    exact lineFeed_notMem_ofStatement (oneLine.body statement isStatement) instr inCode

/-- **No instruction of the code of an outline carries a line feed.** -/
theorem lineFeed_notMem_instructions (source : Text) :
    ∀ instr ∈ (Code.ofProgram (Program.ofSource source)).instructions, '\n' ∉ instr.text := by
  intro instr member
  obtain ⟨routine, isRoutine, inCode⟩ := List.mem_flatMap.mp member
  obtain ⟨number, function, isFunction, rfl⟩ := Routine.exists_of_mem_ofFunctions isRoutine
  exact lineFeed_notMem_ofFunction (Program.oneLine_of_mem_functions isFunction) instr inCode

/-! ## The lines of a listing -/

theorem Instr.render_ne_nil (instr : Instr) : instr.render ≠ [] := by
  cases instr <;> unfold Instr.render <;> simp

theorem Instr.lineFeed_notMem_render {instr : Instr} (oneLine : '\n' ∉ instr.text) :
    '\n' ∉ instr.render := by
  cases instr <;> unfold Instr.text at oneLine <;> unfold Instr.render <;>
    simp [temporaryName, Text.lineFeed_notMem_ofNat, oneLine]

theorem Code.lines_listing {code : Code} (someInstr : code.instructions ≠ [])
    (oneLine : ∀ instr ∈ code.instructions, '\n' ∉ instr.text) :
    Text.lines code.listing = code.instructions.map Instr.render := by
  rw [Code.listing, Text.lines_join (by simpa using someInstr), Text.flatMap_lines]
  intro row member
  obtain ⟨instr, isInstr, rfl⟩ := List.mem_map.mp member
  exact Instr.lineFeed_notMem_render (oneLine instr isInstr)

/-! ## Decoding -/

/-- Reads a line that neither computes nor stores a temporary. -/
def Instr.readPlain? (line : Text) : Option Instr :=
  (("FUNCTION ".toList.isPrefixOf? line).bind fun rest =>
      (":".toList.isSuffixOf? rest).map Instr.function)
    <|> ("  PARAM ".toList.isPrefixOf? line).map Instr.param
    <|> ("  ALLOCATE ".toList.isPrefixOf? line).map Instr.allocate
    <|> ("  RETURN ".toList.isPrefixOf? line).map Instr.returns
    <|> ("  EVAL ".toList.isPrefixOf? line).map Instr.evaluate

/-- How the line begins that computes the temporary. -/
def computeMark (temporary : Nat) : Text :=
  "  ".toList ++ temporaryName temporary ++ " = ".toList

/-- How the line ends that stores the temporary. -/
def storeMark (temporary : Nat) : Text :=
  " = ".toList ++ temporaryName temporary

/-- Reads lines, of which the first to compute a temporary computes the temporary `next`. The line
behind a computation is the store, whatever it looks like. -/
def decodeLines? (next : Nat) : List Text → Option (List Instr)
  | [] => some []
  | line :: rest =>
    match (computeMark next).isPrefixOf? line with
    | none => do
      let instr ← Instr.readPlain? line
      let others ← decodeLines? next rest
      some (instr :: others)
    | some expression =>
      match rest with
      | [] => none
      | following :: rest => do
        let indented ← "  ".toList.isPrefixOf? following
        let target ← (storeMark next).isSuffixOf? indented
        let others ← decodeLines? (next + 1) rest
        some (.compute next expression :: .store target next :: others)

/-- The instructions in front of the first function, and the routines that start from there. -/
def regroup : List Instr → List Instr × List Routine
  | [] => ([], [])
  | .function name :: rest => ([], ⟨name, .function name :: (regroup rest).1⟩ :: (regroup rest).2)
  | instr :: rest => (instr :: (regroup rest).1, (regroup rest).2)

/-- Reads a listing. -/
def Code.decode? (listing : Text) : Option Code :=
  if listing.isEmpty then some ⟨[]⟩
  else (decodeLines? 0 (Text.lines listing)).map fun code => ⟨(regroup code).2⟩

/-! ### One line -/

theorem Instr.readPlain?_render {instr : Instr} (computesNone : instr.computed? = none)
    (storesNone : instr.stored? = none) : Instr.readPlain? instr.render = some instr := by
  cases instr with
  | function name =>
    have named : ":".toList.isSuffixOf? (name ++ ":".toList) = some name :=
      List.isSuffixOf?_eq_some_iff_append_eq.mpr rfl
    have starts : "FUNCTION ".toList.isPrefixOf? (Instr.function name).render =
        some (name ++ ":".toList) := rfl
    rw [Instr.readPlain?, starts, Option.bind_some, named]
    rfl
  | param name => rfl
  | compute temporary expression => cases computesNone
  | store target temporary => cases storesNone
  | allocate name => rfl
  | returns value => rfl
  | evaluate expression => rfl

theorem computeMark_isPrefixOf?_eq_none {instr : Instr} (computesNone : instr.computed? = none)
    (storesNone : instr.stored? = none) (next : Nat) :
    (computeMark next).isPrefixOf? instr.render = none := by
  cases instr with
  | compute temporary expression => cases computesNone
  | store target temporary => cases storesNone
  | function | param | allocate | returns | evaluate => rfl

/-! ### All lines -/

/-- **Numbered code is read back from its lines.** -/
theorem decodeLines?_render {first last : Nat} {code : List Instr}
    (numbered : Numbered first code last) :
    decodeLines? first (code.map Instr.render) = some code := by
  induction numbered with
  | empty => rfl
  | plain computesNone storesNone _ ih =>
    rw [List.map_cons, decodeLines?, computeMark_isPrefixOf?_eq_none computesNone storesNone]
    simp only [Instr.readPlain?_render computesNone storesNone, ih, Option.bind_eq_bind,
      Option.bind_some]
  | @assign first last code target expression _ ih =>
    -- The two lines are read together, so that the target is never taken for a line of its own.
    have computed : (computeMark first).isPrefixOf? (Instr.compute first expression).render =
        some expression := List.isPrefixOf?_eq_some_iff_append_eq.mpr rfl
    have indented : "  ".toList.isPrefixOf? (Instr.store target first).render =
        some (target ++ storeMark first) :=
      List.isPrefixOf?_eq_some_iff_append_eq.mpr (by simp [Instr.render.eq_def, storeMark])
    have stored : (storeMark first).isSuffixOf? (target ++ storeMark first) = some target :=
      List.isSuffixOf?_eq_some_iff_append_eq.mpr rfl
    rw [List.map_cons, List.map_cons, decodeLines?, computed]
    simp only [indented, stored, ih, Option.bind_eq_bind, Option.bind_some]

/-! ### Routines -/

theorem started?_of_mem_ofStatement {next : Nat} {statement : Statement} {instr : Instr}
    (member : instr ∈ (ofStatement next statement).1) : instr.started? = none := by
  rcases ofStatement_cases statement with
    ⟨-, target, expression, lowered⟩ | ⟨-, single, -, -, startsNone, lowered⟩
  · rw [lowered] at member
    rcases List.mem_pair.mp member with rfl | rfl
    · rfl
    · rfl
  · rw [lowered] at member
    rw [List.mem_singleton.mp member, startsNone]

/-- The code of a routine starts its function and no other. -/
theorem Routine.exists_body_of_ofFunction (next : Nat) (function : FunctionDecl) :
    ∃ body, (Routine.ofFunction next function).1 =
        ⟨function.name, .function function.name :: body⟩ ∧
      ∀ instr ∈ body, instr.started? = none := by
  refine ⟨function.params.map (fun param => .param param.name) ++
    (ofStatements next function.body).1, rfl, ?_⟩
  intro instr member
  rcases List.mem_append.mp member with isParam | inBody
  · obtain ⟨param, -, rfl⟩ := List.mem_map.mp isParam
    rfl
  · obtain ⟨number, statement, -, inCode⟩ := exists_of_mem_ofStatements inBody
    exact started?_of_mem_ofStatement inCode

theorem regroup_append {body : List Instr} (startsNone : ∀ instr ∈ body, instr.started? = none)
    (rest : List Instr) :
    regroup (body ++ rest) = (body ++ (regroup rest).1, (regroup rest).2) := by
  induction body with
  | nil => rfl
  | cons instr others ih =>
    obtain ⟨first, later⟩ := List.forall_mem_cons.mp startsNone
    cases instr with
    | function name => cases first
    | param | compute | store | allocate | returns | evaluate =>
      rw [List.cons_append, regroup, ih later]
      · rfl
      · rintro name ⟨⟩

theorem regroup_ofFunctions (next : Nat) (functions : List FunctionDecl) :
    regroup ((Routine.ofFunctions next functions).1.flatMap Routine.code) =
      ([], (Routine.ofFunctions next functions).1) := by
  induction functions generalizing next with
  | nil => rfl
  | cons function rest ih =>
    obtain ⟨body, routine, startsNone⟩ := Routine.exists_body_of_ofFunction next function
    simp only [Routine.ofFunctions, List.flatMap_cons, routine, List.cons_append, regroup,
      regroup_append startsNone, ih, List.append_nil]

/-! ## Listings of outlines -/

/-- The code of a program is read back from its listing if it carries no line feeds. -/
theorem Code.decode?_listing {program : Program}
    (oneLine : ∀ instr ∈ (Code.ofProgram program).instructions, '\n' ∉ instr.text) :
    Code.decode? (Code.ofProgram program).listing = some (Code.ofProgram program) := by
  have grouped : regroup (Code.ofProgram program).instructions =
      ([], (Code.ofProgram program).routines) := regroup_ofFunctions 0 program.functions
  by_cases someInstr : (Code.ofProgram program).instructions = []
  · rw [someInstr] at grouped
    have routines : (Code.ofProgram program).routines = [] := (congrArg Prod.snd grouped).symm
    rw [Code.listing, someInstr, Code.decode?]
    exact congrArg (fun routines => some (Code.mk routines)) routines.symm
  · have lines := Code.lines_listing someInstr oneLine
    have written : (Code.ofProgram program).listing ≠ [] := by
      intro empty
      rw [empty] at lines
      have first : [] ∈ (Code.ofProgram program).instructions.map Instr.render := by
        rw [← lines]
        exact List.mem_cons_self
      obtain ⟨instr, -, blank⟩ := List.mem_map.mp first
      exact instr.render_ne_nil blank
    rw [Code.decode?, if_neg (by simpa using written), lines,
      decodeLines?_render (numbered_ofProgram program), Option.map_some, grouped]

/-- **The listing determines the code.** For every source, no instruction carries a line feed, the
lines of the listing are those of the instructions in order, and the decoder reads the code back.
Sources with the same listing have therefore the same code. -/
theorem listing_determines_code :
    (∀ source, ∀ instr ∈ (Code.ofProgram (Program.ofSource source)).instructions,
        '\n' ∉ instr.text) ∧
      (∀ source, (Code.ofProgram (Program.ofSource source)).instructions ≠ [] →
        Text.lines (Code.ofProgram (Program.ofSource source)).listing =
          (Code.ofProgram (Program.ofSource source)).instructions.map Instr.render) ∧
      (∀ source, Code.decode? (Code.ofProgram (Program.ofSource source)).listing =
        some (Code.ofProgram (Program.ofSource source))) ∧
      ∀ first second, (compile first).listing = (compile second).listing →
        Code.ofProgram (Program.ofSource first) = Code.ofProgram (Program.ofSource second) := by
  have decoded : ∀ source, Code.decode? (Code.ofProgram (Program.ofSource source)).listing =
      some (Code.ofProgram (Program.ofSource source)) :=
    fun source => Code.decode?_listing (lineFeed_notMem_instructions source)
  refine ⟨lineFeed_notMem_instructions, ?_, decoded, ?_⟩
  · intro source someInstr
    exact Code.lines_listing someInstr (lineFeed_notMem_instructions source)
  · intro first second same
    have same : (Code.ofProgram (Program.ofSource first)).listing =
        (Code.ofProgram (Program.ofSource second)).listing := same
    have read := decoded first
    rw [same, decoded second] at read
    exact (Option.some.inj read).symm

/-- A target that is spelled like a temporary and one that starts like a return are read back, and
the type of a function is not part of the code. -/
theorem listing_determines_code_of_misleading_names :
    '\n' ∉ (Instr.store "T1".toList 0).text ∧
      Text.lines (compile "int f() \x7b\nT1 = 2;\nRETURN a = T1;\n\x7d".toList).listing =
        ["FUNCTION f:".toList, "  T0 = 2".toList, "  T1 = T0".toList, "  T1 = T1".toList,
          "  RETURN a = T1".toList] ∧
      Code.ofProgram (Program.ofSource "int f() \x7b\nT1 = 2;\nRETURN a = T1;\n\x7d".toList) =
        Code.ofProgram (Program.ofSource "void f() \x7b\nT1 = 2;\nRETURN a = T1;\n\x7d".toList) := by
  obtain ⟨oneLine, lines, -, same⟩ := listing_determines_code
  refine ⟨?_, ?_, same _ _ (by decide)⟩
  · exact oneLine "int f() \x7b\nT1 = 2;\nRETURN a = T1;\n\x7d".toList _ (by decide)
  · exact (lines "int f() \x7b\nT1 = 2;\nRETURN a = T1;\n\x7d".toList (by decide)).trans (by decide)

end ShallowCpp.ThreeAddress
