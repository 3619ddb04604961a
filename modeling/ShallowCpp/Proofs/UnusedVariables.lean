import ShallowCpp.Proofs.Outline.Texts
import ShallowCpp.Proofs.Text.Offsets
import ShallowCpp.Symbols

/-!
# Warnings about unused variables

A variable is taken to be used when its name is counted more than once in the source, and the line
of a warning is the first one on which the name is found. Neither knows where the variable is
declared. But the name stands there by itself: a blank is in front of it, and no word character
behind it. No other occurrence of the name overlaps it, so a name that is counted once occurs only
in its declaration, and the line that is found is the line of the declaration.

Two declarations lie one behind the other and each has its name in it, so a name that is declared
twice is counted twice and draws no warning (`unused_variable_warnings_exact`).
-/

set_option autoImplicit false

namespace ShallowCpp

open Text

/-! ## The name in a declaration -/

namespace VariableDecl

variable {source : Text} {span : Span VariableDecl} {offset : Nat}

/-- The name of the declaration at the span stands at the offset, behind the type and a gap, and
does not go on behind it. -/
def NamedAt (source : Text) (span : Span VariableDecl) (offset : Nat) : Prop :=
  ∃ before gap behind,
    source = before ++ (span.value.type ++ (gap ++ (span.value.name ++ behind))) ∧
    span.start = before.length ∧
    offset = before.length + span.value.type.length + gap.length ∧
    gap ≠ [] ∧ Blank gap ∧ EndsRun isWord behind

/-- A declaration that the scan finds has its name in it. -/
theorem exists_namedAt_of_mem_spans (found : span ∈ shape.spans source) :
    ∃ offset, NamedAt source span offset ∧ offset < span.stop ∧ Word span.value.name := by
  obtain ⟨before, written, behind, rfl, spelled, start, stop⟩ :=
    (reads_shape.cover_spans source).occurs span found
  simp only [NamedAt, start, stop]
  generalize span.value = decl at spelled
  cases spelled with
  | @parts type gap name space ending init _ nonempty gapBlank nameWord spaceBlank ends =>
    refine ⟨before.length + type.length + gap.length,
      ⟨before, gap, space ++ (ending ++ behind), by simp, rfl, rfl, nonempty, gapBlank, ?_⟩, ?_,
      nameWord⟩
    · exact spaceBlank.endsWord (ends.endsRun behind).2
    · have positive := List.length_pos_iff.mpr nameWord.ne_nil
      simp only [List.length_append]
      omega

theorem NamedAt.start_lt (named : NamedAt source span offset) : span.start < offset := by
  obtain ⟨before, gap, behind, -, start, rfl, nonempty, -, -⟩ := named
  have positive := List.length_pos_iff.mpr nonempty
  omega

theorem NamedAt.occursAt (named : NamedAt source span offset) :
    OccursAt span.value.name source offset := by
  obtain ⟨before, gap, behind, rfl, -, rfl, -, -, -⟩ := named
  simpa [Nat.add_assoc] using
    occursAt_length (before ++ (span.value.type ++ gap)) span.value.name behind

/-- No other occurrence of the name overlaps the one in the declaration. -/
theorem NamedAt.clear (named : NamedAt source span offset) (nameWord : Word span.value.name)
    {other : Nat} (occurs : OccursAt span.value.name source other) :
    other = offset ∨ other + span.value.name.length ≤ offset ∨
      offset + span.value.name.length ≤ other := by
  obtain ⟨before, gap, behind, rfl, -, rfl, nonempty, gapBlank, stops⟩ := named
  have starts : EndsRun isWord (before ++ (span.value.type ++ gap)).reverse := by
    rw [List.reverse_append, List.reverse_append, List.append_assoc]
    exact gapBlank.reverse.endsWord_of_ne_nil (List.reverse_ne_nil_iff.mpr nonempty) _
  have cut : before ++ (span.value.type ++ (gap ++ (span.value.name ++ behind))) =
      before ++ (span.value.type ++ gap) ++ (span.value.name ++ behind) := by simp
  rw [cut] at occurs
  simpa [Nat.add_assoc] using nameWord.clear_of_endsRun starts stops occurs

end VariableDecl

/-! ## Unused variables -/

namespace VariableSymbol

variable {source : Text} {span : Span VariableDecl} {offset : Nat}

/-- A variable counts as unused exactly when its name occurs in its declaration only. -/
theorem isUnused_iff (named : VariableDecl.NamedAt source span offset)
    (nameWord : Word span.value.name) :
    isUnused source (ofDecl source span.value) = true ↔
      ∀ other, OccursAt span.value.name source other → other = offset := by
  rw [isUnused, decide_eq_true_iff]
  exact occurrences_le_one_iff nameWord.ne_nil named.occursAt fun _ => named.clear nameWord

/-- The warning about the declaration at a span, with the line on which the name is found. -/
def warning (source : Text) (span : Span VariableDecl) : Diagnostic :=
  .unusedVariable span.value.name (findLine source span.value.name)

/-- The spans of the declarations whose variables count as unused. -/
def unusedSpans (source : Text) : List (Span VariableDecl) :=
  (VariableDecl.shape.spans source).filter fun span => isUnused source (ofDecl source span.value)

/-- What is known of a variable that counts as unused. -/
theorem exists_namedAt_of_mem_unusedSpans (unused : span ∈ unusedSpans source) :
    ∃ offset, VariableDecl.NamedAt source span offset ∧ offset < span.stop ∧
      (∀ other, OccursAt span.value.name source other ↔ other = offset) ∧
      findLine source span.value.name = lineAt source offset := by
  obtain ⟨found, isUnused⟩ := List.mem_filter.mp unused
  obtain ⟨offset, named, inside, nameWord⟩ := VariableDecl.exists_namedAt_of_mem_spans found
  have alone := (isUnused_iff named nameWord).mp isUnused
  refine ⟨offset, named, inside, fun other => ⟨alone other, ?_⟩, ?_⟩
  · rintro rfl
    exact named.occursAt
  · apply findLine_eq_lineAt nameWord.lineFeed_notMem named.occursAt
    intro earlier before occurs
    exact Nat.ne_of_lt before (alone earlier occurs)

/-- No two variables that count as unused have the same name. -/
theorem pairwise_name_unusedSpans (source : Text) :
    (unusedSpans source).Pairwise fun first second => first.value.name ≠ second.value.name := by
  have ordered := (VariableDecl.reads_shape.cover_spans source).ordered.filter fun span =>
    isUnused source (ofDecl source span.value)
  refine List.Pairwise.imp_of_mem (fun {first second} firstUnused secondUnused apart same => ?_)
    ordered
  obtain ⟨place, -, inFirst, alone, -⟩ := exists_namedAt_of_mem_unusedSpans firstUnused
  obtain ⟨place', named', -⟩ := exists_namedAt_of_mem_unusedSpans secondUnused
  have starts := named'.start_lt
  have equal : place' = place := (alone place').mp (same ▸ named'.occursAt)
  omega

end VariableSymbol

/-! ## Warnings -/

theorem Diagnostic.name_eq_of_unusedVariable {name name' : Text} {line line' : Nat}
    (same : unusedVariable name line = unusedVariable name' line') : name = name' := by
  have messages : "Unused variable '".toList ++ name ++ "'".toList =
      "Unused variable '".toList ++ name' ++ "'".toList := congrArg Diagnostic.message same
  exact List.append_cancel_left (List.append_cancel_right messages)

namespace Symbols

open VariableSymbol

/-- The warnings of a source: those about variables go through the declarations that the scan finds,
and the others are about functions. -/
theorem warnings_ofSource (source : Text) :
    ∃ others, (ofProgram (Program.ofSource source) source).warnings =
        (unusedSpans source).map (warning source) ++ others ∧
      ∀ diagnostic ∈ others, diagnostic.kind = .unusedFunction := by
  refine ⟨(((Program.ofSource source).functions.map (FunctionSymbol.ofDecl source)).filter
    (FunctionSymbol.isUnused source)).map fun symbol => .unusedFunction symbol.name symbol.line,
    ?_, ?_⟩
  · simp only [ofProgram, Program.declarations_ofSource, Program.declarationsIn, List.map_map,
      List.filter_map]
    rfl
  · intro diagnostic member
    obtain ⟨symbol, -, rfl⟩ := List.mem_map.mp member
    rfl

theorem mem_warnings_iff {source : Text} {diagnostic : Diagnostic}
    (aboutVariable : diagnostic.kind = .unusedVariable) :
    diagnostic ∈ (ofProgram (Program.ofSource source) source).warnings ↔
      ∃ span ∈ unusedSpans source, warning source span = diagnostic := by
  obtain ⟨others, all, aboutFunctions⟩ := warnings_ofSource source
  rw [all, List.mem_append, List.mem_map, or_iff_left]
  intro member
  rw [aboutFunctions diagnostic member] at aboutVariable
  cases aboutVariable

/-- A variable is warned about exactly when its name occurs once. -/
theorem exists_warning_iff {source : Text} {span : Span VariableDecl}
    (found : span ∈ VariableDecl.shape.spans source) :
    (∃ line, .unusedVariable span.value.name line ∈
        (ofProgram (Program.ofSource source) source).warnings) ↔
      ∃! offset, OccursAt span.value.name source offset := by
  constructor
  · rintro ⟨line, warned⟩
    -- The warning may be the one about another declaration of the name, but the name tells enough.
    obtain ⟨span', unused, same⟩ := (mem_warnings_iff rfl).mp warned
    obtain ⟨offset, -, -, alone, -⟩ := exists_namedAt_of_mem_unusedSpans unused
    rw [Diagnostic.name_eq_of_unusedVariable same] at alone
    exact ⟨offset, (alone offset).mpr rfl, fun other => (alone other).mp⟩
  · rintro ⟨offset, -, only⟩
    obtain ⟨place, named, -, nameWord⟩ := VariableDecl.exists_namedAt_of_mem_spans found
    have unused : span ∈ unusedSpans source := by
      refine List.mem_filter.mpr ⟨found, (isUnused_iff named nameWord).mpr fun other occurs => ?_⟩
      rw [only other occurs, only place named.occursAt]
    exact ⟨_, (mem_warnings_iff rfl).mpr ⟨span, unused, rfl⟩⟩

/-- No two warnings are about variables of one name. -/
theorem pairwise_name_warnings (source : Text) :
    (ofProgram (Program.ofSource source) source).warnings.Pairwise fun first second =>
      ∀ name, first = .unusedVariable name first.line →
        second ≠ .unusedVariable name second.line := by
  obtain ⟨others, all, aboutFunctions⟩ := warnings_ofSource source
  have other : ∀ diagnostic ∈ others, ∀ name,
      diagnostic ≠ .unusedVariable name diagnostic.line := by
    intro diagnostic member name same
    have kind := aboutFunctions diagnostic member
    rw [same] at kind
    cases kind
  rw [all, List.pairwise_append, List.pairwise_map]
  refine ⟨(pairwise_name_unusedSpans source).imp ?_, ?_, ?_⟩
  · intro first second differ name isFirst isSecond
    exact differ ((Diagnostic.name_eq_of_unusedVariable isFirst).trans
      (Diagnostic.name_eq_of_unusedVariable isSecond).symm)
  · refine List.pairwise_of_forall_mem_list fun first _ second member name _ => ?_
    exact other second member name
  · intro first _ second member name _
    exact other second member name

/-- **Warnings about unused variables are exact.** A variable of the table is warned about exactly
when its name occurs at one offset of the source and no other. For each such warning there is a
declaration that the scan of the source finds: the one occurrence is the name in this declaration,
and the warning has the line on which it stands. No two warnings are about variables of one name. -/
theorem unused_variable_warnings_exact (source : Text) :
    (∀ symbol ∈ (ofProgram (Program.ofSource source) source).variableSymbols,
        (∃ line, .unusedVariable symbol.name line ∈
            (ofProgram (Program.ofSource source) source).warnings) ↔
          ∃! offset, OccursAt symbol.name source offset) ∧
      (∀ diagnostic ∈ (ofProgram (Program.ofSource source) source).warnings,
        diagnostic.kind = .unusedVariable →
          ∃ span ∈ VariableDecl.shape.spans source, ∃ offset,
            VariableDecl.NamedAt source span offset ∧
              diagnostic = .unusedVariable span.value.name (lineAt source offset) ∧
              ∀ other, OccursAt span.value.name source other ↔ other = offset) ∧
      (ofProgram (Program.ofSource source) source).warnings.Pairwise fun first second =>
        ∀ name, first = .unusedVariable name first.line →
          second ≠ .unusedVariable name second.line := by
  refine ⟨?_, ?_, pairwise_name_warnings source⟩
  · intro symbol listed
    obtain ⟨decl, declared, rfl⟩ := List.mem_map.mp listed
    rw [Program.declarations_ofSource] at declared
    obtain ⟨span, found, rfl⟩ := List.mem_map.mp declared
    exact exists_warning_iff found
  · intro diagnostic warned aboutVariable
    obtain ⟨span, unused, rfl⟩ := (mem_warnings_iff aboutVariable).mp warned
    obtain ⟨offset, named, -, alone, line⟩ := exists_namedAt_of_mem_unusedSpans unused
    exact ⟨span, List.mem_of_mem_filter unused, offset, named, by rw [warning, line], alone⟩

/-- Inside of `baaa` the name `aa` occurs at two offsets, of which one is counted; together with its
declaration that is more than once. -/
theorem unused_variable_warnings_exact_of_overlap :
    (ofProgram (Program.ofSource "int lonely;\nint aa = baaa;".toList)
        "int lonely;\nint aa = baaa;".toList).warnings = [.unusedVariable "lonely".toList 1] ∧
      (∃! offset, OccursAt "lonely".toList "int lonely;\nint aa = baaa;".toList offset) ∧
      ¬∃! offset, OccursAt "aa".toList "int lonely;\nint aa = baaa;".toList offset := by
  obtain ⟨warned, -, -⟩ := unused_variable_warnings_exact "int lonely;\nint aa = baaa;".toList
  have warnings : (ofProgram (Program.ofSource "int lonely;\nint aa = baaa;".toList)
      "int lonely;\nint aa = baaa;".toList).warnings = [.unusedVariable "lonely".toList 1] := by
    decide +kernel
  rw [warnings] at warned
  refine ⟨warnings, (warned ⟨"lonely".toList, "int".toList, 1⟩ (by decide +kernel)).mp ⟨1, ?_⟩, ?_⟩
  · exact List.mem_singleton_self _
  · intro once
    obtain ⟨line, member⟩ := (warned ⟨"aa".toList, "int".toList, 2⟩ (by decide +kernel)).mpr once
    have same := Diagnostic.name_eq_of_unusedVariable (List.mem_singleton.mp member)
    exact absurd same (by decide)

end Symbols

end ShallowCpp
