import ShallowCpp.Proofs.Comment
import ShallowCpp.Proofs.MoveDown
import ShallowCpp.Proofs.Resolution
import ShallowCpp.Proofs.Text.Occurrences
import ShallowCpp.Proofs.Token.Fragments

/-!
# Blank rows in front of a source

Rows that are blank, each ended by a line feed, are put in front of a source. They carry no token
and no statement, they neither open nor close a comment, a brace or a block, and nothing that is
looked for starts with a blank. So every stage finds in the longer source what it finds in the
source alone, and whichever way it determines lines, it finds everything as many lines further down
as there are rows (`compile_behind_blank_rows`).
-/

set_option autoImplicit false

namespace ShallowCpp

open Text

/-! ## Rows and their text -/

namespace Text

/-- The row is blank, and it is one line. -/
structure BlankRow (row : Text) : Prop where
  blank : Blank row
  oneLine : '\n' ∉ row

instance (row : Text) : Decidable (BlankRow row) :=
  decidable_of_iff (Blank row ∧ '\n' ∉ row) ⟨fun ⟨blank, oneLine⟩ => ⟨blank, oneLine⟩,
    fun isRow => ⟨isRow.blank, isRow.oneLine⟩⟩

/-- The rows, each ended by a line feed. -/
def ofRows (rows : List Text) : Text :=
  rows.flatMap (· ++ ['\n'])

theorem ofRows_cons_append (row : Text) (rows : List Text) (text : Text) :
    ofRows (row :: rows) ++ text = row ++ '\n' :: (ofRows rows ++ text) := by
  simp [ofRows]

variable {rows : List Text}

theorem lines_ofRows_append (blankRows : ∀ row ∈ rows, BlankRow row) (text : Text) :
    lines (ofRows rows ++ text) = rows ++ lines text := by
  induction rows with
  | nil => rfl
  | cons row rows ih =>
    obtain ⟨first, others⟩ := List.forall_mem_cons.mp blankRows
    rw [ofRows_cons_append, lines_cons_line first.oneLine, ih others, List.cons_append]

theorem count_lineFeed_ofRows (blankRows : ∀ row ∈ rows, BlankRow row) :
    (ofRows rows).count '\n' = rows.length := by
  have size := length_lines (ofRows rows)
  rw [← List.append_nil (ofRows rows), lines_ofRows_append blankRows] at size
  simp only [lines_eq_singleton List.not_mem_nil, List.length_append, List.length_singleton,
    List.append_nil] at size
  omega

theorem blank_ofRows (blankRows : ∀ row ∈ rows, BlankRow row) : Blank (ofRows rows) := by
  intro char member
  obtain ⟨row, isRow, inside⟩ := List.mem_flatMap.mp member
  rcases List.mem_append.mp inside with inRow | isFeed
  · exact (blankRows row isRow).blank char inRow
  · rw [List.mem_singleton.mp isFeed]
    rfl

/-! ## Searching behind blanks -/

/-- The line of a place behind a text. -/
theorem lineAt_append (front text : Text) (offset : Nat) :
    lineAt (front ++ text) (offset + front.length) = lineAt text offset + front.count '\n' := by
  rw [lineAt, lineAt, Nat.add_comm offset, List.take_length_add_append, List.count_append]
  omega

/-- A name of the source is found as many lines further down as there are rows. -/
theorem IsNameIn.findLine_append {source name : Text} (isName : IsNameIn source name)
    (blankRows : ∀ row ∈ rows, BlankRow row) :
    findLine (ofRows rows ++ source) name = findLine source name + rows.length := by
  have visible := isName.word.startsVisibly
  have notAbove : rows.findIdx? (Text.occursIn name) = none := by
    refine List.findIdx?_eq_none_iff.mpr fun row isRow => Bool.eq_false_iff.mpr fun occurs => ?_
    exact visible.not_infix (blankRows row isRow).blank ((occursIn_iff name row).mp occurs)
  obtain ⟨index, found⟩ := exists_findIdx?_lines isName.word.lineFeed_notMem isName.occurs
  rw [findLine, findLine, lines_ofRows_append blankRows, List.findIdx?_append, notAbove, found]
  simp only [Option.map_some, Option.none_or]
  omega

end Text

/-! ## Blank lines -/

namespace Comment

theorem startsVisibly_opening : StartsVisibly opening :=
  startsVisibly_cons (by decide : isBlank '/' = false) ['*']

theorem startsVisibly_closing : StartsVisibly closing :=
  startsVisibly_cons (by decide : isBlank '*' = false) ['/']

/-- A blank line carries no marker of a comment. -/
theorem openBehind?_of_blank {line : Text} (blank : Blank line) : openBehind? line = none := by
  rw [openBehind?_eq_none_iff]
  rintro (opens | closes)
  · exact startsVisibly_opening.not_infix blank opens
  · exact startsVisibly_closing.not_infix blank closes

end Comment

theorem Token.ofLine_of_blank {line : Text} (blank : Blank line) (number : Nat) :
    ofLine number false line = ([], false) := by
  simp only [ofLine, blank.trim_eq_nil, Comment.openBehind?_of_blank blank,
    (fragments_eq_nil_iff line).mpr blank]
  rfl

/-! ## Scans behind blanks -/

theorem Braces.checkFrom_append {blanks : Text} (blank : Blank blanks) (line : Nat)
    (openLines : List Nat) (text : Text) :
    checkFrom line openLines (blanks ++ text) =
      checkFrom (line + blanks.count '\n') openLines text := by
  induction blanks generalizing line with
  | nil => rfl
  | cons char blanks ih =>
    obtain ⟨first, others⟩ := List.forall_mem_cons.mp blank
    simp only [List.cons_append, checkFrom]
    by_cases feed : char = '\n'
    · rw [if_pos feed, ih others, feed, List.count_cons_self]
      congr 1
      omega
    · have notOpening : char ≠ '{' := by
        rintro rfl
        cases first
      have notClosing : char ≠ '}' := by
        rintro rfl
        cases first
      rw [if_neg feed, if_neg notOpening, if_neg notClosing, ih others,
        List.count_cons_of_ne feed]

namespace Linkage

theorem headers_append {final : Char} (final_notBlank : isBlank final = false) {blanks : Text}
    (blank : Blank blanks) (source : Text) :
    headers (Header.shape final) (blanks ++ source) =
      (headers (Header.shape final) source).map (Span.moveBy blanks.length) := by
  rw [headers, headers,
    Shape.spans_append_blank (Header.refusesBlanks_shape final_notBlank) blank, List.filter_map]
  rfl

theorem definedNames_append {blanks : Text} (blank : Blank blanks) (source : Text) :
    definedNames (blanks ++ source) = definedNames source := by
  rw [definedNames, definedNames, definition, headers_append rfl blank, List.map_map]
  rfl

theorem check_append {blanks : Text} (blank : Blank blanks) (source : Text) :
    check (blanks ++ source) =
      (check source).map (Diagnostic.moveDown (blanks.count '\n')) := by
  rw [check, check, definedNames_append blank, prototype, headers_append rfl blank,
    List.filterMap_map, List.map_filterMap]
  congr 1
  funext span
  simp only [Function.comp_apply, Span.moveBy, lineAt_append]
  split_ifs
  · rfl
  · simp

end Linkage

theorem FunctionDecl.ofSpan_append (front source : Text) (span : Span Header) :
    ofSpan (front ++ source) (span.moveBy front.length) =
      (ofSpan source span).moveDown (front.count '\n') := by
  have behind : (front ++ source).drop (span.stop + front.length) = source.drop span.stop := by
    rw [Nat.add_comm, List.drop_length_add_append]
  simp only [ofSpan, Span.moveBy, behind, lineAt_append]
  rfl

namespace Program

theorem functionsIn_append {blanks : Text} (blank : Blank blanks) (source : Text) :
    functionsIn (blanks ++ source) =
      (functionsIn source).map (FunctionDecl.moveDown (blanks.count '\n')) := by
  rw [functionsIn, functionsIn, functionHeader,
    Shape.spans_append_blank (Header.refusesBlanks_shape rfl) blank, List.filter_map,
    List.map_map, List.map_map]
  congr 1
  funext span
  exact FunctionDecl.ofSpan_append blanks source span

theorem declarationsIn_append {blanks : Text} (blank : Blank blanks) (source : Text) :
    declarationsIn (blanks ++ source) = declarationsIn source := by
  rw [declarationsIn, declarationsIn,
    Shape.spans_append_blank VariableDecl.refusesBlanks_shape blank, List.map_map]
  rfl

end Program

/-! ## Stage by stage -/

section Rows

variable {rows : List Text} (blankRows : ∀ row ∈ rows, BlankRow row)

include blankRows

theorem Token.ofLines_append (number : Nat) (lines : List Text) :
    ofLines number false (rows ++ lines) = ofLines (number + rows.length) false lines := by
  induction rows generalizing number with
  | nil => rfl
  | cons row rows ih =>
    obtain ⟨first, others⟩ := List.forall_mem_cons.mp blankRows
    rw [List.cons_append, ofLines_cons, ofLine_of_blank first.blank, ih others, List.length_cons,
      List.nil_append, Nat.add_assoc, Nat.add_comm 1]

theorem Termination.checkLines_append (number : Nat) (lines : List Text) :
    checkLines number false (rows ++ lines) = checkLines (number + rows.length) false lines := by
  induction rows generalizing number with
  | nil => rfl
  | cons row rows ih =>
    obtain ⟨first, others⟩ := List.forall_mem_cons.mp blankRows
    have exempt : lacksSemicolon (trim row) = false := by
      rw [first.blank.trim_eq_nil]
      rfl
    rw [List.cons_append, checkLines, Comment.openBehind?_of_blank first.blank]
    simp only [exempt, Bool.and_false, Bool.false_eq_true, ↓reduceIte]
    rw [ih others, List.length_cons, Nat.add_assoc, Nat.add_comm 1]

/-- The tokens stand further down. -/
theorem tokenize_append (source : Text) :
    tokenize (ofRows rows ++ source) = (tokenize source).map (Token.moveDown rows.length) := by
  rw [tokenize_eq_ofLines, tokenize_eq_ofLines, lines_ofRows_append blankRows,
    Token.ofLines_append blankRows, Token.ofLines_add]

theorem Termination.check_append (source : Text) :
    check (ofRows rows ++ source) = (check source).map (Diagnostic.moveDown rows.length) := by
  rw [check, check, lines_ofRows_append blankRows, checkLines_append blankRows, checkLines_add]

theorem Program.inclusionsIn_append (source : Text) :
    inclusionsIn (ofRows rows ++ source) = inclusionsIn source := by
  have noneAbove :
      (rows.map trim).filter (fun line => "#include".toList.isPrefixOf line) = [] := by
    refine List.filter_eq_nil_iff.mpr fun line member => ?_
    obtain ⟨row, isRow, rfl⟩ := List.mem_map.mp member
    rw [(blankRows row isRow).blank.trim_eq_nil]
    decide
  rw [inclusionsIn, inclusionsIn, lines_ofRows_append blankRows, List.map_append,
    List.filter_append, noneAbove, List.nil_append]

/-- The outline stands further down. -/
theorem Program.ofSource_append (source : Text) :
    ofSource (ofRows rows ++ source) = (ofSource source).moveDown rows.length := by
  have blank := blank_ofRows blankRows
  apply ofSource_eq_map (inclusionsIn_append blankRows source)
  · rw [functionsIn_append blank, count_lineFeed_ofRows blankRows]
  · rw [declarationsIn_append blank, List.map_id]

theorem EntryPoint.occursIn_append (source : Text) :
    occursIn (ofRows rows ++ source) = occursIn source := by
  have blank := blank_ofRows blankRows
  have int := startsVisibly_cons (by decide : isBlank 'i' = false) "nt main(".toList
  have void := startsVisibly_cons (by decide : isBlank 'v' = false) "oid main(".toList
  rw [Bool.eq_iff_iff, occursIn_iff, occursIn_iff]
  exact or_congr (int.infix_append_iff blank source) (void.infix_append_iff blank source)

theorem EntryPoint.check_append (source : Text) :
    check (ofRows rows ++ source) = (check source).map (Diagnostic.moveDown rows.length) := by
  rw [check_eq, check_eq, occursIn_append blankRows]
  split
  · rfl
  · rw [List.map_singleton, Diagnostic.moveDown_missingEntryPoint]

theorem validate_append (source : Text) :
    validate (ofRows rows ++ source) = (validate source).map (Diagnostic.moveDown rows.length) := by
  have blank := blank_ofRows blankRows
  have braces : Braces.check (ofRows rows ++ source) =
      (Braces.check source).map (Diagnostic.moveDown rows.length) := by
    rw [Braces.check, Braces.check, Braces.checkFrom_append blank, count_lineFeed_ofRows blankRows]
    exact Braces.checkFrom_add rows.length 1 [] source
  have linkage := Linkage.check_append blank source
  rw [count_lineFeed_ofRows blankRows] at linkage
  rw [validate, validate, EntryPoint.check_append blankRows, Termination.check_append blankRows,
    braces, linkage, List.map_append, List.map_append, List.map_append]

theorem VariableSymbol.ofDecl_append {source : Text} {decl : VariableDecl}
    (isName : IsNameIn source decl.name) :
    ofDecl (ofRows rows ++ source) decl = (ofDecl source decl).moveDown rows.length := by
  rw [ofDecl, isName.findLine_append blankRows]
  rfl

theorem VariableSymbol.isUnused_append {source : Text} {symbol : VariableSymbol}
    (isName : IsNameIn source symbol.name) :
    (symbol.moveDown rows.length).isUnused (ofRows rows ++ source) = symbol.isUnused source := by
  have visible := isName.word.startsVisibly
  simp only [isUnused, moveDown, visible.occurrences_append (blank_ofRows blankRows)]

theorem FunctionSymbol.ofDecl_append {source : Text} {function : FunctionDecl}
    (isName : IsNameIn source function.name) :
    ofDecl (ofRows rows ++ source) (function.moveDown rows.length) =
      (ofDecl source function).moveDown rows.length := by
  rw [ofDecl, FunctionDecl.moveDown, isName.findLine_append blankRows]
  rfl

theorem FunctionSymbol.isUnused_append {source : Text} {symbol : FunctionSymbol}
    (isName : IsNameIn source symbol.name) :
    (symbol.moveDown rows.length).isUnused (ofRows rows ++ source) = symbol.isUnused source := by
  have visible := isName.word.startsVisibly_append ['(']
  simp only [isUnused, moveDown, visible.occurrences_append (blank_ofRows blankRows)]

/-- The symbols of a program whose names stand in the source. -/
theorem Symbols.ofProgram_append {program : Program} {source : Text}
    (declared : ∀ decl ∈ program.declarations, IsNameIn source decl.name)
    (defined : ∀ function ∈ program.functions, IsNameIn source function.name) :
    ofProgram (program.moveDown rows.length) (ofRows rows ++ source) =
      (ofProgram program source).moveDown rows.length := by
  have variableSymbols : program.declarations.map (VariableSymbol.ofDecl (ofRows rows ++ source)) =
      (program.declarations.map (VariableSymbol.ofDecl source)).map
        (VariableSymbol.moveDown rows.length) := by
    rw [List.map_map]
    exact List.map_congr_left fun decl member =>
      VariableSymbol.ofDecl_append blankRows (declared decl member)
  have functionSymbols : (program.functions.map (FunctionDecl.moveDown rows.length)).map
      (FunctionSymbol.ofDecl (ofRows rows ++ source)) =
        (program.functions.map (FunctionSymbol.ofDecl source)).map
          (FunctionSymbol.moveDown rows.length) := by
    rw [List.map_map, List.map_map]
    exact List.map_congr_left fun function member =>
      FunctionSymbol.ofDecl_append blankRows (defined function member)
  simp only [ofProgram, moveDown, Program.moveDown, Program.declarations_map, Program.functions_map,
    List.map_id, variableSymbols, functionSymbols, List.map_append]
  congr 2
  · apply map_filter_moveDown
    · intro symbol member
      obtain ⟨decl, inProgram, rfl⟩ := List.mem_map.mp member
      exact VariableSymbol.isUnused_append blankRows (declared decl inProgram)
    · intro symbol
      simp [VariableSymbol.moveDown]
  · apply map_filter_moveDown
    · intro symbol member
      obtain ⟨function, inProgram, rfl⟩ := List.mem_map.mp member
      exact FunctionSymbol.isUnused_append blankRows (defined function inProgram)
    · intro symbol
      simp [FunctionSymbol.moveDown]

end Rows

/-! ## The report -/

/-- **Blank rows in front of a source move its report down.** The report of the longer source is the
report of the source, with the number of the rows added to every line in it but the line zero of a
missing entry point. -/
theorem compile_behind_blank_rows {rows : List Text} (blankRows : ∀ row ∈ rows, BlankRow row)
    (source : Text) :
    compile (ofRows rows ++ source) = (compile source).moveDown rows.length := by
  have entry := EntryPoint.occursIn_append blankRows source
  have errors := validate_append blankRows source
  have outline := Program.ofSource_append blankRows source
  have symbols : Symbols.ofProgram ((Program.ofSource source).moveDown rows.length)
      (ofRows rows ++ source) =
        (Symbols.ofProgram (Program.ofSource source) source).moveDown rows.length :=
    Symbols.ofProgram_append blankRows (fun _ => Program.isNameIn_of_mem_declarations)
      (fun _ => Program.isNameIn_of_mem_functions)
  have warnings : ((validate source).map (Diagnostic.moveDown rows.length)).all
      Diagnostic.isWarning = (validate source).all Diagnostic.isWarning := by
    rw [List.all_map]
    congr 1
    funext diagnostic
    exact Diagnostic.isWarning_moveDown rows.length diagnostic
  simp only [compile, Report.moveDown, entry, errors, warnings, tokenize_append blankRows, outline,
    ThreeAddress.Code.ofProgram_moveDown, Assembly.Code.ofProgram_moveDown, symbols]

/-- Two blank rows, one of them with a carriage return, in front of a source with a prototype, an
unused variable, a stray brace and no entry point. -/
theorem compile_behind_two_blank_rows :
    (∀ row ∈ ["\r".toList, " \t".toList], BlankRow row) ∧
      compile (ofRows ["\r".toList, " \t".toList] ++ "int f();\nint x\n= 1;\n\x7d".toList) =
        (compile "int f();\nint x\n= 1;\n\x7d".toList).moveDown 2 := by
  have blankRows : ∀ row ∈ ["\r".toList, " \t".toList], BlankRow row := by decide
  exact ⟨blankRows, compile_behind_blank_rows blankRows _⟩

end ShallowCpp
