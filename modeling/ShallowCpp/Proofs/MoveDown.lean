import ShallowCpp.Proofs.Outline.Map
import ShallowCpp.Proofs.Token.Stream
import ShallowCpp.Report.Basic

/-!
# Reports further down

Moving a report down by some rows adds their number to every line that it tells: the lines of
tokens, of functions, of symbols and of diagnostics. Line zero, at which a missing entry point is
reported, is not a line and stays as it is. Everything else in the report stays as well.

The stages that count lines from a given number on count in the same way from a later number on, so
what they yield moves down (`Token.ofLines_add`, `Termination.checkLines_add`,
`Braces.checkFrom_add`). Code is produced from names, parameters and statements, and does not depend
on lines (`ThreeAddress.Code.ofProgram_moveDown`, `Assembly.Code.ofProgram_moveDown`).
-/

set_option autoImplicit false

namespace ShallowCpp

/-! ## Moving down -/

/-- The token so many rows further down. -/
def Token.moveDown (rows : Nat) (token : Token) : Token :=
  { token with line := token.line + rows }

/-- The function so many rows further down. -/
def FunctionDecl.moveDown (rows : Nat) (function : FunctionDecl) : FunctionDecl :=
  { function with line := function.line + rows }

/-- The outline so many rows further down. Only functions are kept with a line. -/
def Program.moveDown (rows : Nat) (program : Program) : Program :=
  program.map (FunctionDecl.moveDown rows) id

/-- The diagnostic so many rows further down. A missing entry point is reported at line zero,
wherever the source stands. -/
def Diagnostic.moveDown (rows : Nat) (diagnostic : Diagnostic) : Diagnostic :=
  if diagnostic.kind = .missingEntryPoint ∧ diagnostic.line = 0 then diagnostic
  else { diagnostic with line := diagnostic.line + rows }

/-- The symbol so many rows further down. -/
def VariableSymbol.moveDown (rows : Nat) (symbol : VariableSymbol) : VariableSymbol :=
  { symbol with line := symbol.line + rows }

/-- The symbol so many rows further down. -/
def FunctionSymbol.moveDown (rows : Nat) (symbol : FunctionSymbol) : FunctionSymbol :=
  { symbol with line := symbol.line + rows }

/-- The symbols so many rows further down, with the warnings about them. -/
def Symbols.moveDown (rows : Nat) (symbols : Symbols) : Symbols where
  variableSymbols := symbols.variableSymbols.map (VariableSymbol.moveDown rows)
  functionSymbols := symbols.functionSymbols.map (FunctionSymbol.moveDown rows)
  warnings := symbols.warnings.map (Diagnostic.moveDown rows)

/-- The report so many rows further down. -/
def Report.moveDown (rows : Nat) (report : Report) : Report :=
  { report with
    tokens := report.tokens.map (Token.moveDown rows)
    program := report.program.moveDown rows
    errors := report.errors.map (Diagnostic.moveDown rows)
    symbols := report.symbols.moveDown rows }

variable (rows : Nat)

/-! ## Diagnostics -/

namespace Diagnostic

theorem moveDown_of_kind_ne {diagnostic : Diagnostic}
    (other : diagnostic.kind ≠ .missingEntryPoint) :
    diagnostic.moveDown rows = { diagnostic with line := diagnostic.line + rows } := by
  rw [moveDown, if_neg]
  rintro ⟨isEntry, -⟩
  exact other isEntry

@[simp] theorem moveDown_missingEntryPoint :
    (missingEntryPoint 0).moveDown rows = missingEntryPoint 0 := rfl

@[simp] theorem moveDown_missingSemicolon (line : Nat) :
    (missingSemicolon line).moveDown rows = missingSemicolon (line + rows) :=
  moveDown_of_kind_ne rows (by rintro ⟨⟩)

@[simp] theorem moveDown_unmatchedOpening (line : Nat) :
    (unmatchedOpening line).moveDown rows = unmatchedOpening (line + rows) :=
  moveDown_of_kind_ne rows (by rintro ⟨⟩)

@[simp] theorem moveDown_unmatchedClosing (line : Nat) :
    (unmatchedClosing line).moveDown rows = unmatchedClosing (line + rows) :=
  moveDown_of_kind_ne rows (by rintro ⟨⟩)

@[simp] theorem moveDown_undefinedFunction (name : Text) (line : Nat) :
    (undefinedFunction name line).moveDown rows = undefinedFunction name (line + rows) :=
  moveDown_of_kind_ne rows (by rintro ⟨⟩)

@[simp] theorem moveDown_unusedVariable (name : Text) (line : Nat) :
    (unusedVariable name line).moveDown rows = unusedVariable name (line + rows) :=
  moveDown_of_kind_ne rows (by rintro ⟨⟩)

@[simp] theorem moveDown_unusedFunction (name : Text) (line : Nat) :
    (unusedFunction name line).moveDown rows = unusedFunction name (line + rows) :=
  moveDown_of_kind_ne rows (by rintro ⟨⟩)

/-- A warning stays a warning, and an error an error. -/
@[simp] theorem isWarning_moveDown (diagnostic : Diagnostic) :
    (diagnostic.moveDown rows).isWarning = diagnostic.isWarning := by
  rw [moveDown]
  split
  · rfl
  · rfl

end Diagnostic

/-! ## Counting from a later line on -/

theorem Token.ofLine_add (number : Nat) (commentOpen : Bool) (line : Text) :
    ofLine (number + rows) commentOpen line =
      ((ofLine number commentOpen line).1.map (moveDown rows),
        (ofLine number commentOpen line).2) := by
  simp only [ofLine]
  split
  next => rfl
  next =>
    split
    next => rfl
    next =>
      split_ifs
      · rfl
      · rfl
      · rw [List.map_map]
        rfl

/-- Tokens of lines that are counted from a later number on. -/
theorem Token.ofLines_add (number : Nat) (commentOpen : Bool) (lines : List Text) :
    ofLines (number + rows) commentOpen lines =
      (ofLines number commentOpen lines).map (moveDown rows) := by
  induction lines generalizing number commentOpen with
  | nil => rfl
  | cons line rest ih =>
    rw [ofLines_cons, ofLines_cons, ofLine_add, List.map_append, Nat.add_right_comm, ih]

/-- Missing semicolons on lines that are counted from a later number on. -/
theorem Termination.checkLines_add (number : Nat) (commentOpen : Bool) (lines : List Text) :
    checkLines (number + rows) commentOpen lines =
      (checkLines number commentOpen lines).map (Diagnostic.moveDown rows) := by
  induction lines generalizing number commentOpen with
  | nil => rfl
  | cons line rest ih =>
    rw [checkLines, checkLines, Nat.add_right_comm]
    split
    next => rw [ih]
    next =>
      split_ifs
      · rw [ih, List.map_cons, Diagnostic.moveDown_missingSemicolon]
      · rw [ih]

/-- Unmatched braces in a text whose lines are counted from a later number on. The lines of the
braces that are open have to be moved as well. -/
theorem Braces.checkFrom_add (line : Nat) (openLines : List Nat) (text : Text) :
    checkFrom (line + rows) (openLines.map (· + rows)) text =
      (checkFrom line openLines text).map (Diagnostic.moveDown rows) := by
  induction text generalizing line openLines with
  | nil =>
    rw [checkFrom, checkFrom, List.getLast?_map]
    cases openLines.getLast? with
    | none => rfl
    | some outermost => simp
  | cons char rest ih =>
    simp only [checkFrom]
    split_ifs with feed opens closes
    · rw [Nat.add_right_comm, ih]
    · rw [← ih, List.map_cons]
    · cases openLines with
      | nil =>
        have later := ih line []
        rw [List.map_nil] at later
        simp [later]
      | cons innermost others => exact ih line others
    · exact ih line openLines

/-! ## Warnings -/

/-- Warnings about the unused ones among symbols that are moved down. -/
theorem Symbols.map_filter_moveDown {σ : Type} {move : σ → σ} {isUnused isUnused' : σ → Bool}
    {warning : σ → Diagnostic} {symbols : List σ}
    (same : ∀ symbol ∈ symbols, isUnused' (move symbol) = isUnused symbol)
    (moved : ∀ symbol, warning (move symbol) = (warning symbol).moveDown rows) :
    ((symbols.map move).filter isUnused').map warning =
      ((symbols.filter isUnused).map warning).map (Diagnostic.moveDown rows) := by
  have unused : symbols.filter (isUnused' ∘ move) = symbols.filter isUnused :=
    List.filter_congr same
  rw [List.filter_map, unused, List.map_map, List.map_map]
  congr 1
  funext symbol
  exact moved symbol

/-! ## Code -/

theorem ThreeAddress.Routine.ofFunctions_moveDown (next : Nat) (functions : List FunctionDecl) :
    ofFunctions next (functions.map (FunctionDecl.moveDown rows)) = ofFunctions next functions := by
  induction functions generalizing next with
  | nil => rfl
  | cons function rest ih =>
    have same : ofFunction next (function.moveDown rows) = ofFunction next function := rfl
    simp only [List.map_cons, ofFunctions, same, ih]

/-- Three-address code does not depend on lines. -/
theorem ThreeAddress.Code.ofProgram_moveDown (program : Program) :
    ofProgram (program.moveDown rows) = ofProgram program := by
  rw [ofProgram, ofProgram, ofProgramFrom, ofProgramFrom, Program.moveDown, Program.functions_map,
    Routine.ofFunctions_moveDown]

/-- Assembly code does not depend on lines. -/
theorem Assembly.Code.ofProgram_moveDown (program : Program) :
    ofProgram (program.moveDown rows) = ofProgram program := by
  rw [ofProgram, ofProgram, Program.moveDown, Program.functions_map, List.map_map]
  rfl

end ShallowCpp
