import Mathlib.Data.List.Basic
import ShallowCpp.Proofs.Assembly.Routine
import ShallowCpp.Proofs.ThreeAddress.Listing

/-!
# The two codes of a program

Three-address code and assembly code are made from the same outline, each on its own way through the
statements. What they have in common can be read off from the codes themselves (`back_ends_agree`).
The values that the assembly code moves into the accumulator are those that the three-address code
returns, bare returns apart. The room that the assembly code makes has one slot for every
declaration, and a declaration shows in the three-address code as well: it is allocated, or, if it
has an initial value, a temporary is computed and stored for it (`codesAgree_ofFunction`).

Assignments take temporaries, too. To tell them from declarations, three-address code is traced back
to the statements that it comes from.
-/

set_option autoImplicit false

namespace ShallowCpp

/-! ## What a statement shows in its code -/

namespace Statement

/-- The value that the statement returns. -/
def returned? : Statement → Option Text
  | .returns value => some value
  | _ => none

/-- The variable that the statement declares without an initial value. -/
def uninitialised? : Statement → Option Text
  | .declaration ⟨name, _, none⟩ => some name
  | _ => none

/-- The statement declares a variable with an initial value. -/
def isInitialised : Statement → Bool
  | .declaration decl => decl.init.isSome
  | _ => false

end Statement

namespace ThreeAddress

/-- The value that the instruction returns. -/
def Instr.returned? : Instr → Option Text
  | .returns value => some value
  | _ => none

/-- The variable that the instruction makes room for. -/
def Instr.allocated? : Instr → Option Text
  | .allocate name => some name
  | _ => none

/-- The temporaries that are computed and stored by neighbouring instructions. -/
def pairs : List Instr → List Nat
  | .compute temporary _ :: .store _ stored :: rest =>
    if stored = temporary then temporary :: pairs rest else pairs rest
  | _ :: rest => pairs rest
  | [] => []

/-- The statements of a body, each with the code that it becomes. -/
def traced (next : Nat) : List Statement → List (Statement × List Instr)
  | [] => []
  | statement :: rest =>
    (statement, (ofStatement next statement).1) :: traced (ofStatement next statement).2 rest

/-- The pairs of instructions that come from declarations with an initial value. -/
def initialisedPairs (next : Nat) (body : List Statement) : List Nat :=
  ((traced next body).filter fun origin => origin.1.isInitialised).flatMap fun origin =>
    pairs origin.2

theorem flatMap_traced (next : Nat) (body : List Statement) :
    (traced next body).flatMap Prod.snd = (ofStatements next body).1 := by
  induction body generalizing next with
  | nil => rfl
  | cons statement rest ih => simp only [traced, List.flatMap_cons, ih, ofStatements]

theorem map_traced (next : Nat) (body : List Statement) :
    (traced next body).map Prod.fst = body := by
  induction body generalizing next with
  | nil => rfl
  | cons statement rest ih => rw [traced, List.map_cons, ih]

theorem filterMap_returned?_ofStatement (next : Nat) (statement : Statement) :
    (ofStatement next statement).1.filterMap Instr.returned? = statement.returned?.toList := by
  cases statement with
  | declaration decl =>
    rw [ofStatement]
    split <;> rfl
  | returns value => rfl
  | expression text =>
    rw [ofStatement]
    split <;> rfl

theorem filterMap_allocated?_ofStatement (next : Nat) (statement : Statement) :
    (ofStatement next statement).1.filterMap Instr.allocated? =
      statement.uninitialised?.toList := by
  rcases statement with ⟨name, type, _ | value⟩ | value | text
  · rfl
  · rfl
  · rfl
  · rw [ofStatement]
    split <;> rfl

theorem initialisedPairs_cons (next : Nat) (statement : Statement) (rest : List Statement) :
    initialisedPairs next (statement :: rest) =
      (if statement.isInitialised then pairs (ofStatement next statement).1 else []) ++
        initialisedPairs (ofStatement next statement).2 rest := by
  rw [initialisedPairs, traced, List.filter_cons]
  split
  next => rfl
  next => rfl

/-- A declaration shows in its code, in one of two ways. -/
theorem length_declared?_statement (next : Nat) (statement : Statement) :
    statement.declared?.toList.length =
      statement.uninitialised?.toList.length +
        (if statement.isInitialised then pairs (ofStatement next statement).1 else []).length := by
  rcases statement with ⟨name, type, _ | value⟩ | value | text
  · rfl
  · have pair : pairs (ofStatement next (.declaration ⟨name, type, some value⟩)).1 = [next] :=
      if_pos rfl
    rw [pair]
    rfl
  · rfl
  · rfl

theorem length_declared (next : Nat) (body : List Statement) :
    (body.filterMap Statement.declared?).length =
      (body.filterMap Statement.uninitialised?).length + (initialisedPairs next body).length := by
  induction body generalizing next with
  | nil => rfl
  | cons statement rest ih =>
    have first := length_declared?_statement next statement
    have later := ih (ofStatement next statement).2
    simp only [List.filterMap_eq_flatMap_toList, List.flatMap_cons, initialisedPairs_cons,
      List.length_append] at later ⊢
    omega

/-- The start of a routine and its parameters apart, a routine shows what its statements show. -/
theorem filterMap_ofFunction {α : Type} {view : Instr → Option α} {source : Statement → Option α}
    (sees : ∀ next statement,
      (ofStatement next statement).1.filterMap view = (source statement).toList)
    (unseen : ∀ name, view (.function name) = none ∧ view (.param name) = none)
    (next : Nat) (function : FunctionDecl) :
    (Routine.ofFunction next function).1.code.filterMap view = function.body.filterMap source := by
  have params : (function.params.map fun param => Instr.param param.name).filterMap view = [] := by
    rw [List.filterMap_map, List.filterMap_eq_nil_iff]
    exact fun param _ => (unseen param.name).2
  have body := filterMap_ofStatements sees next function.body
  simp only [Routine.ofFunction, List.cons_append]
  rw [List.filterMap_cons_none (unseen function.name).1, List.filterMap_append, params, body,
    List.nil_append]

end ThreeAddress

namespace Assembly

/-- The moves are those of the returned values that are not empty. -/
theorem filterMap_accumulated?_ofFunction (function : FunctionDecl) :
    (Routine.ofFunction function).code.filterMap Instr.accumulated? =
      (function.body.filterMap Statement.returned?).filter fun value => !value.isEmpty := by
  rw [Routine.filterMap_accumulated?_code, List.filterMap_filterMap, List.filter_filterMap]
  congr 1
  funext statement
  cases statement with
  | returns value =>
    cases value with
    | nil => rfl
    | cons char rest => rfl
  | declaration | expression => rfl

end Assembly

/-! ## What the codes have in common -/

/-- The codes of a function agree. The first temporary of the three-address code has the number
`next`, and its instructions are traced back to the statements from there. -/
structure CodesAgree (next : Nat) (function : FunctionDecl) (lowered : ThreeAddress.Routine)
    (assembled : Assembly.Routine) : Prop where
  /-- The three-address code is traced back to the statements, in their order. -/
  statements : (ThreeAddress.traced next function.body).map Prod.fst = function.body
  /-- Behind the start of the routine and its parameters, nothing else stands in the code. -/
  lowered_code : lowered.code =
    .function function.name :: function.params.map (fun param => .param param.name) ++
      (ThreeAddress.traced next function.body).flatMap Prod.snd
  /-- The values moved into the accumulator are those that are returned, bare returns apart. -/
  moved : assembled.code.filterMap Assembly.Instr.accumulated? =
    (lowered.code.filterMap ThreeAddress.Instr.returned?).filter fun value => !value.isEmpty
  /-- Room is made if and only if something is declared, once and for all declarations. -/
  reserved : assembled.code.filterMap Assembly.Instr.reserved? =
    if ∃ statement ∈ function.body, statement.declared?.isSome then
      [8 * ((lowered.code.filterMap ThreeAddress.Instr.allocated?).length +
        (ThreeAddress.initialisedPairs next function.body).length)]
    else []
  /-- Room is made before anything is moved. -/
  reserved_before_moved : ∀ (first later bytes : Nat) (move : Assembly.Instr),
    assembled.code[first]? = some (.reserve bytes) → assembled.code[later]? = some move →
      move.isLongMove = true → first < later
  /-- The code starts with the instructions that set the frame up. -/
  enters : [.push (.register .bp), .move .quadword (.register .sp) (.register .bp)] <+:
    assembled.code
  /-- The code ends with the instructions that give the frame up. -/
  leaves : [.leave, .ret] <:+ assembled.code
  /-- Each of these instructions occurs once. -/
  once : ∀ instr ∈ [.push (.register .bp), .move .quadword (.register .sp) (.register .bp),
    .leave, .ret], assembled.code.count instr = 1

theorem FunctionDecl.locals_eq_nil_iff (function : FunctionDecl) :
    function.locals = [] ↔ ¬∃ statement ∈ function.body, statement.declared?.isSome = true := by
  simp [FunctionDecl.locals, List.filterMap_eq_nil_iff]

/-- **The codes of a function agree,** wherever the numbers of its temporaries start. -/
theorem codesAgree_ofFunction (next : Nat) (function : FunctionDecl) :
    CodesAgree next function (ThreeAddress.Routine.ofFunction next function).1
      (Assembly.Routine.ofFunction function) where
  statements := ThreeAddress.map_traced next function.body
  lowered_code := by
    rw [ThreeAddress.flatMap_traced]
    rfl
  moved := by
    rw [ThreeAddress.filterMap_ofFunction ThreeAddress.filterMap_returned?_ofStatement
      fun _ => ⟨rfl, rfl⟩]
    exact Assembly.filterMap_accumulated?_ofFunction function
  reserved := by
    rw [Assembly.Routine.filterMap_reserved?_code,
      ThreeAddress.filterMap_ofFunction ThreeAddress.filterMap_allocated?_ofStatement
        fun _ => ⟨rfl, rfl⟩,
      ← ThreeAddress.length_declared, ← FunctionDecl.locals]
    simp only [function.locals_eq_nil_iff, ite_not]
    rfl
  reserved_before_moved := fun _ _ _ _ => Assembly.Routine.reserve_before_move function
  enters := Assembly.Routine.enterFrame_prefix_code function
  leaves := Assembly.Routine.leave_suffix_code function
  once := fun _ => Assembly.Routine.count_frame function

/-- **The two codes of a program agree.** They have a routine for each function, under its name and
at its place, and the two routines of a function agree. -/
theorem back_ends_agree (program : Program) :
    (ThreeAddress.Code.ofProgram program).routines.map ThreeAddress.Routine.name =
        program.functions.map FunctionDecl.name ∧
      (Assembly.Code.ofProgram program).routines.map Assembly.Routine.name =
        program.functions.map FunctionDecl.name ∧
      ∀ (index : Nat) (function : FunctionDecl), program.functions[index]? = some function →
        ∃ next lowered assembled,
          (ThreeAddress.Code.ofProgram program).routines[index]? = some lowered ∧
            (Assembly.Code.ofProgram program).routines[index]? = some assembled ∧
            CodesAgree next function lowered assembled := by
  refine ⟨ThreeAddress.Code.map_name_ofProgram program, ?_, ?_⟩
  · exact List.map_map
  · intro index function atIndex
    obtain ⟨next, lowered⟩ :=
      ThreeAddress.Routine.exists_getElem?_ofFunctions 0 program.functions index
    rw [atIndex, Option.map_some] at lowered
    refine ⟨next, _, _, lowered, ?_, codesAgree_ofFunction next function⟩
    rw [Assembly.Code.ofProgram, List.getElem?_map, atIndex, Option.map_some]

/-- The second function has declarations of both kinds, an assignment and a bare return: the value
of one return is moved, and there is room for two variables. -/
theorem back_ends_agree_of_mixed_body :
    ∃ (program : Program) (function : FunctionDecl),
      program.functions[1]? = some function ∧
        function.body =
          [.declaration ⟨"a".toList, "int".toList, some "2".toList⟩, .returns [],
            .declaration ⟨"b".toList, "int".toList, none⟩, .expression "b = a".toList,
            .returns "b".toList] ∧
        ∃ next lowered assembled,
          (ThreeAddress.Code.ofProgram program).routines[1]? = some lowered ∧
            (Assembly.Code.ofProgram program).routines[1]? = some assembled ∧
            CodesAgree next function lowered assembled ∧
            assembled.code.filterMap Assembly.Instr.accumulated? = ["b".toList] ∧
            assembled.code.filterMap Assembly.Instr.reserved? = [16] := by
  let first : FunctionDecl := ⟨"f".toList, "void".toList, [], [.expression "x += 1".toList], 1⟩
  let second : FunctionDecl := ⟨"g".toList, "int".toList, [],
    [.declaration ⟨"a".toList, "int".toList, some "2".toList⟩, .returns [],
      .declaration ⟨"b".toList, "int".toList, none⟩, .expression "b = a".toList,
      .returns "b".toList], 4⟩
  obtain ⟨next, lowered, assembled, isLowered, isAssembled, agree⟩ :=
    (back_ends_agree ⟨[.function first, .function second]⟩).2.2 1 second rfl
  refine ⟨_, second, rfl, rfl, next, lowered, assembled, isLowered, isAssembled, agree, ?_, ?_⟩
  · obtain rfl := Option.some.inj isLowered
    exact agree.moved
  · obtain rfl := Option.some.inj isAssembled
    rfl

end ShallowCpp
