import ShallowCpp.Proofs.CarriageReturns.Shape
import ShallowCpp.Proofs.Outline.Map
import ShallowCpp.Proofs.Resolution
import ShallowCpp.Proofs.Text.Occurrences
import ShallowCpp.Proofs.Token.Fragments
import ShallowCpp.Proofs.Token.Stream

/-!
# Reports on sources with carriage returns

A source is given a carriage return in front of every line feed. Stages that go line by line trim
each line or do not see the blank at its end. Stages that scan the source as a whole find everything
at corresponding places, which are on the same lines. Names and types have no line ends in them,
lists of parameters are cut into words, and statements are taken from trimmed lines. So the report
is the same, with one exception: the initial values that the outline keeps of the declarations of
the program may reach over several lines, and then have the carriage returns in them
(`compile_withReturns`).
-/

set_option autoImplicit false

namespace ShallowCpp

open Text

/-! ## Lines -/

theorem Token.ofLine_concat_return (number : Nat) (commentOpen : Bool) (line : Text) :
    ofLine number commentOpen (line ++ ['\r']) = ofLine number commentOpen line := by
  simp only [ofLine, trim_concat_return, Comment.openBehind?_concat_return,
    fragments_concat_blank (by decide : isBlank '\r' = true)]

theorem Token.ofLines_withReturns (number : Nat) (commentOpen : Bool) (text : Text) :
    ofLines number commentOpen (lines (withReturns text)) =
      ofLines number commentOpen (lines text) := by
  induction text using lineInduction generalizing number commentOpen with
  | last line oneLine => rw [withReturns_of_notMem oneLine]
  | more line rest oneLine ih =>
    rw [lines_withReturns_cons oneLine, lines_cons_line oneLine, ofLines_cons, ofLines_cons,
      ofLine_concat_return, ih]

theorem tokenize_withReturns (source : Text) : tokenize (withReturns source) = tokenize source := by
  rw [tokenize_eq_ofLines, tokenize_eq_ofLines, Token.ofLines_withReturns]

theorem Termination.checkLines_withReturns (number : Nat) (commentOpen : Bool) (text : Text) :
    checkLines number commentOpen (lines (withReturns text)) =
      checkLines number commentOpen (lines text) := by
  induction text using lineInduction generalizing number commentOpen with
  | last line oneLine => rw [withReturns_of_notMem oneLine]
  | more line rest oneLine ih =>
    rw [lines_withReturns_cons oneLine, lines_cons_line oneLine]
    simp only [checkLines, trim_concat_return, Comment.openBehind?_concat_return, ih]

theorem Statement.ofBody_withReturns (body : Text) : ofBody (withReturns body) = ofBody body := by
  have byView : ∀ other : Text, ofBody other = ((lines other).map trim).filterMap ofLine? := by
    intro other
    rw [List.filterMap_map]
    rfl
  rw [byView, byView, map_lines_withReturns trim_concat_return]

/-! ## Braces -/

theorem Braces.checkFrom_withReturns (line : Nat) (openLines : List Nat) (text : Text) :
    checkFrom line openLines (withReturns text) = checkFrom line openLines text := by
  induction text generalizing line openLines with
  | nil => rfl
  | cons char rest ih =>
    by_cases feed : char = '\n'
    · rw [feed, withReturns_lineFeed]
      exact ih (line + 1) openLines
    · simp only [withReturns_cons feed, checkFrom, ih]

theorem Braces.enclosed_withReturns (depth : Nat) (text : Text) :
    enclosed depth (withReturns text) = withReturns (enclosed depth text) := by
  induction text generalizing depth with
  | nil => rfl
  | cons char rest ih =>
    by_cases feed : char = '\n'
    · rw [feed, withReturns_lineFeed]
      exact congrArg ('\r' :: '\n' :: ·) (ih depth)
    · simp only [withReturns_cons feed, enclosed]
      split_ifs with opens closes
      · rw [ih, withReturns_cons feed]
      · cases depth with
        | zero => rfl
        | succ depth => simp only [ih, withReturns_cons feed]
      · rw [ih, withReturns_cons feed]

/-! ## Headers -/

namespace Linkage

theorem headers_withReturns {final : Char} (final_notBlank : isBlank final = false)
    (source : Text) :
    headers (Header.shape final) (withReturns source) =
      (headers (Header.shape final) source).map (Span.withReturns Header.withReturns source) := by
  rw [headers, headers, Shape.spans_withReturns (Header.reads_shape final_notBlank)
    (Header.keepsReturns_shape final) (Header.refusesBlanks_shape final_notBlank), List.filter_map]
  rfl

theorem definedNames_withReturns (source : Text) :
    definedNames (withReturns source) = definedNames source := by
  rw [definedNames, definedNames, definition, headers_withReturns (by decide), List.map_map]
  rfl

theorem check_withReturns (source : Text) : check (withReturns source) = check source := by
  rw [check, check, definedNames_withReturns, prototype, headers_withReturns (by decide),
    List.filterMap_map]
  congr 1
  funext span
  simp only [Function.comp_apply, Span.withReturns, Header.withReturns, lineAt_placeOf]

end Linkage

/-! ## The outline -/

theorem Param.ofField_withReturns (field : Text) : ofField (withReturns field) = ofField field := by
  rw [ofField, ofField, words_withReturns]

theorem Param.ofList_withReturns (list : Text) : ofList (withReturns list) = ofList list := by
  have isVoid : (withReturns (trim list) == "void".toList) = (trim list == "void".toList) := by
    rw [Bool.eq_iff_iff, beq_iff_eq, beq_iff_eq, withReturns_eq_iff (by decide)]
  have each : ofField ∘ withReturns = ofField := by
    funext field
    exact ofField_withReturns field
  simp only [ofList, trim_withReturns, isEmpty_withReturns, isVoid,
    fields_withReturns (· == ',') (by decide) (by decide), List.map_map, each]

theorem FunctionDecl.ofSpan_withReturns (source : Text) (span : Span Header) :
    ofSpan (withReturns source) (span.withReturns Header.withReturns source) =
      ofSpan source span := by
  simp only [ofSpan, Span.withReturns, Header.withReturns, Param.ofList_withReturns, drop_placeOf,
    lineAt_placeOf, Braces.body, Braces.enclosed_withReturns, Statement.ofBody_withReturns]

/-- The outline with carriage returns in the initial values of its declarations. The declarations in
the bodies of functions are left alone. -/
def Program.withReturns (program : Program) : Program :=
  program.map id VariableDecl.withReturns

namespace Program

theorem inclusionsIn_withReturns (source : Text) :
    inclusionsIn (Text.withReturns source) = inclusionsIn source := by
  rw [inclusionsIn, inclusionsIn, map_lines_withReturns trim_concat_return]

theorem functionsIn_withReturns (source : Text) :
    functionsIn (Text.withReturns source) = functionsIn source := by
  rw [functionsIn, functionsIn, functionHeader,
    Shape.spans_withReturns (Header.reads_shape (by decide)) (Header.keepsReturns_shape '{')
      (Header.refusesBlanks_shape (by decide)), List.filter_map, List.map_map]
  congr 1
  funext span
  exact FunctionDecl.ofSpan_withReturns source span

theorem declarationsIn_withReturns (source : Text) :
    declarationsIn (Text.withReturns source) =
      (declarationsIn source).map VariableDecl.withReturns := by
  rw [declarationsIn, declarationsIn, Shape.spans_withReturns VariableDecl.reads_shape
    VariableDecl.keepsReturns_shape VariableDecl.refusesBlanks_shape, List.map_map, List.map_map]
  rfl

theorem ofSource_withReturns (source : Text) :
    ofSource (Text.withReturns source) = (ofSource source).withReturns := by
  apply ofSource_eq_map (inclusionsIn_withReturns source)
  · rw [functionsIn_withReturns, List.map_id]
  · exact declarationsIn_withReturns source

theorem functions_withReturns (program : Program) :
    program.withReturns.functions = program.functions := by
  rw [withReturns, functions_map, List.map_id]

end Program

/-! ## Symbols -/

theorem Text.StartsVisibly.occurrences_withReturns {needle : Text} (visible : StartsVisibly needle)
    (noReturn : '\r' ∉ needle) (noFeed : '\n' ∉ needle) (text : Text) :
    occurrences needle (withReturns text) = occurrences needle text := by
  rw [Shape.occurrences_eq visible.ne_nil, Shape.spans_withReturns
    (Shape.reads_literal visible.ne_nil) (Shape.keepsReturns_literal noReturn noFeed)
    visible.refusesBlanks_literal, List.length_map, Shape.occurrences_eq visible.ne_nil]

theorem VariableSymbol.ofDecl_withReturns {decl : VariableDecl} (word : Word decl.name)
    (source : Text) : ofDecl (withReturns source) decl.withReturns = ofDecl source decl := by
  rw [ofDecl, VariableDecl.withReturns, findLine_withReturns word.carriageReturn_notMem]
  rfl

theorem VariableSymbol.isUnused_withReturns {symbol : VariableSymbol} (word : Word symbol.name)
    (source : Text) : symbol.isUnused (withReturns source) = symbol.isUnused source := by
  rw [isUnused, word.startsVisibly.occurrences_withReturns word.carriageReturn_notMem
    word.lineFeed_notMem, isUnused]

theorem FunctionSymbol.ofDecl_withReturns {function : FunctionDecl} (word : Word function.name)
    (source : Text) : ofDecl (withReturns source) function = ofDecl source function := by
  rw [ofDecl, findLine_withReturns word.carriageReturn_notMem, ofDecl]

theorem FunctionSymbol.isUnused_withReturns {symbol : FunctionSymbol} (word : Word symbol.name)
    (source : Text) : symbol.isUnused (withReturns source) = symbol.isUnused source := by
  have noReturn : '\r' ∉ symbol.name ++ ['('] := by simp [word.carriageReturn_notMem]
  have noFeed : '\n' ∉ symbol.name ++ ['('] := by simp [word.lineFeed_notMem]
  rw [isUnused, (word.startsVisibly_append ['(']).occurrences_withReturns noReturn noFeed, isUnused]

theorem Symbols.ofProgram_withReturns {program : Program} (source : Text)
    (declared : ∀ decl ∈ program.declarations, Word decl.name)
    (defined : ∀ function ∈ program.functions, Word function.name) :
    ofProgram program.withReturns (withReturns source) = ofProgram program source := by
  have variableSymbols : (program.declarations.map VariableDecl.withReturns).map
      (VariableSymbol.ofDecl (withReturns source)) =
        program.declarations.map (VariableSymbol.ofDecl source) := by
    rw [List.map_map]
    exact List.map_congr_left fun decl member =>
      VariableSymbol.ofDecl_withReturns (declared decl member) source
  have functionSymbols : program.functions.map (FunctionSymbol.ofDecl (withReturns source)) =
      program.functions.map (FunctionSymbol.ofDecl source) :=
    List.map_congr_left fun function member =>
      FunctionSymbol.ofDecl_withReturns (defined function member) source
  simp only [ofProgram, Program.withReturns, Program.declarations_map, Program.functions_map,
    List.map_id, variableSymbols, functionSymbols]
  congr 3
  · apply List.filter_congr
    intro symbol member
    obtain ⟨decl, inProgram, rfl⟩ := List.mem_map.mp member
    exact VariableSymbol.isUnused_withReturns (declared decl inProgram) source
  · apply List.filter_congr
    intro symbol member
    obtain ⟨function, inProgram, rfl⟩ := List.mem_map.mp member
    exact FunctionSymbol.isUnused_withReturns (defined function inProgram) source

/-! ## The report -/

theorem EntryPoint.occursIn_withReturns (source : Text) :
    occursIn (withReturns source) = occursIn source := by
  have plain : ∀ beginning ∈ beginnings, '\r' ∉ beginning ∧ '\n' ∉ beginning := by decide
  rw [Bool.eq_iff_iff, occursIn, occursIn, List.any_eq_true, List.any_eq_true]
  apply exists_congr
  intro beginning
  apply and_congr_right
  intro member
  obtain ⟨noReturn, noFeed⟩ := plain beginning member
  rw [Text.occursIn_withReturns noReturn noFeed]

theorem validate_withReturns (source : Text) : validate (withReturns source) = validate source := by
  have semicolons : Termination.check (withReturns source) = Termination.check source :=
    Termination.checkLines_withReturns 1 false source
  have braces : Braces.check (withReturns source) = Braces.check source :=
    Braces.checkFrom_withReturns 1 [] source
  rw [validate, validate, EntryPoint.check_eq, EntryPoint.occursIn_withReturns,
    ← EntryPoint.check_eq, semicolons, braces, Linkage.check_withReturns]

/-- **Line ends make no difference to a report.** With a carriage return in front of every line feed
of the source, the report is the same but for the initial values of the declarations that its
outline lists, which have a carriage return in front of each of their line feeds. -/
theorem compile_withReturns (source : Text) :
    compile (withReturns source) =
      { compile source with program := (compile source).program.withReturns } := by
  have symbols : Symbols.ofProgram (Program.ofSource source).withReturns (withReturns source) =
      Symbols.ofProgram (Program.ofSource source) source :=
    Symbols.ofProgram_withReturns source
      (fun _ member => (Program.isNameIn_of_mem_declarations member).word)
      (fun _ member => (Program.isNameIn_of_mem_functions member).word)
  simp only [compile, EntryPoint.occursIn_withReturns, validate_withReturns, tokenize_withReturns,
    Program.ofSource_withReturns, symbols, ThreeAddress.Code.ofProgram,
    ThreeAddress.Code.ofProgramFrom, Assembly.Code.ofProgram, Program.functions_withReturns]

end ShallowCpp
