import ShallowCpp.Proofs.Acceptance
import ShallowCpp.Proofs.Outline.Texts
import ShallowCpp.Proofs.Text.Places
import ShallowCpp.Proofs.Text.Trim

/-!
# Diagnostics and the lines they point at

Five checks find fault with a source, and each finds the number of a line in a way of its own: by
counting lines, by counting the line feeds in front of an offset, or by searching line by line. The
number is that of a line of the source in every case, and what the diagnostic is about stands on
this line (`diagnostics_resolve`). Only the diagnostic about a missing entry point belongs to no
line.
-/

set_option autoImplicit false

namespace ShallowCpp

open Text

/-! ## What a line has to show -/

/-- The word stands on the line and is not part of a longer word. -/
def Text.HoldsWord (word line : Text) : Prop :=
  ∃ front back, line = front ++ (word ++ back) ∧ EndsRun isWord front.reverse ∧ EndsRun isWord back

/-- The diagnostic is the one about the prototype, which has no definition. -/
def Linkage.Reports (source : Text) (prototype : Span Header) (diagnostic : Diagnostic) : Prop :=
  IsPrototype source prototype ∧
    diagnostic = .undefinedFunction prototype.value.name (lineAt source prototype.start)

/-- What the diagnostic is about stands on the line. -/
def Diagnostic.ShownOn (source line : Text) (diagnostic : Diagnostic) : Prop :=
  match diagnostic.kind with
  | .missingSemicolon => ∃ char ∈ line, isBlank char = false
  | .unmatchedOpeningBracket => '{' ∈ line
  | .unmatchedClosingBracket => '}' ∈ line
  | .undefinedFunction =>
    (∃ prototype, Linkage.Reports source prototype diagnostic) ∧
      ∀ prototype, Linkage.Reports source prototype diagnostic →
        HoldsWord prototype.value.returnType line
  | .unusedVariable =>
    ∃ symbol ∈ (compile source).symbols.variableSymbols,
      diagnostic = .unusedVariable symbol.name symbol.line ∧ symbol.name <:+: line
  | .unusedFunction =>
    ∃ symbol ∈ (compile source).symbols.functionSymbols,
      diagnostic = .unusedFunction symbol.name symbol.line ∧ symbol.name <:+: line
  | .missingEntryPoint | .internalFault => False

/-- The diagnostic points at a line of the source that shows what it is about. -/
def Diagnostic.Resolves (source : Text) (diagnostic : Diagnostic) : Prop :=
  ∃ line, IsLine source diagnostic.line line ∧ diagnostic.ShownOn source line

/-! ## Entry point -/

/-- No line has an entry point on it if the source has none. -/
theorem EntryPoint.line_eq_zero {source : Text} (absent : EntryPoint.occursIn source = false) :
    EntryPoint.line source = 0 := by
  have nowhere : (lines source).findIdx? EntryPoint.occursIn = none := by
    refine List.findIdx?_eq_none_iff.mpr fun line member => ?_
    by_contra occurs
    rw [Bool.not_eq_false, EntryPoint.occursIn_iff] at occurs
    have inSource := infix_of_mem_lines member
    have present := (EntryPoint.occursIn_iff source).mpr
      (occurs.imp (·.trans inSource) (·.trans inSource))
    rw [absent] at present
    cases present
  rw [EntryPoint.line, nowhere]

/-- A missing entry point is reported at line zero. -/
theorem EntryPoint.check_eq (source : Text) :
    EntryPoint.check source =
      if EntryPoint.occursIn source then [] else [.missingEntryPoint 0] := by
  rw [EntryPoint.check]
  split
  next => rfl
  next absent => rw [EntryPoint.line_eq_zero (Bool.eq_false_iff.mpr absent)]

theorem EntryPoint.eq_of_mem_check {source : Text} {diagnostic : Diagnostic}
    (member : diagnostic ∈ EntryPoint.check source) : diagnostic = .missingEntryPoint 0 := by
  rw [EntryPoint.check_eq] at member
  split at member
  · cases member
  · exact List.mem_singleton.mp member

/-! ## Semicolons -/

/-- A line that lacks a semicolon is not blank. -/
theorem Termination.exists_notBlank {line : Text}
    (lacks : Termination.lacksSemicolon (trim line) = true) :
    ∃ char ∈ line, isBlank char = false := by
  by_contra allBlank
  have blank : Blank line := by
    intro char member
    by_contra notBlank
    exact allBlank ⟨char, member, Bool.eq_false_iff.mpr notBlank⟩
  rw [blank.trim_eq_nil] at lacks
  cases lacks

theorem Termination.resolves_of_mem_check {source : Text} {diagnostic : Diagnostic}
    (member : diagnostic ∈ Termination.check source) : diagnostic.Resolves source := by
  obtain ⟨index, line, here, rfl, -, lacks⟩ := Termination.mem_check_iff.mp member
  exact ⟨line, ⟨index, rfl, here⟩, Termination.exists_notBlank lacks⟩

/-! ## Braces -/

theorem Braces.resolves_of_mem_check {source : Text} {diagnostic : Diagnostic}
    (member : diagnostic ∈ Braces.check source) : diagnostic.Resolves source := by
  rw [Braces.check_eq, List.mem_append, List.mem_map, List.mem_map] at member
  rcases member with ⟨offset, stray, rfl⟩ | ⟨offset, first, rfl⟩
  · have closes := (Braces.mem_strays.mp stray).1
    exact exists_isLine_of_getElem? closes (by decide)
  · have opens := (Braces.isUnclosed_of_mem (Option.mem_toList.mp first)).1
    exact exists_isLine_of_getElem? opens (by decide)

/-! ## Prototypes -/

/-- The first word of a prototype stands on the line on which the prototype starts. -/
theorem Linkage.exists_isLine_of_isPrototype {source : Text} {span : Span Header}
    (prototype : Linkage.IsPrototype source span) :
    ∃ line, IsLine source (lineAt source span.start) line ∧
      HoldsWord span.value.returnType line := by
  have found := prototype.1
  obtain ⟨before, written, behind, rfl, spelled, start, -⟩ := found.occursIn
  have alone := found.endsWord_before (by decide) start
  rw [start]
  generalize span.value = header at spelled
  cases spelled with
  | @parts returnType gap name space params blanks typeWord nonempty gapBlank =>
    rw [List.append_assoc returnType]
    obtain ⟨front, back, ends, starts, isLine⟩ :=
      exists_isLine_append typeWord.lineFeed_notMem before
        (gap ++ (name ++ (space ++ '(' :: (params ++ ')' :: (blanks ++ [';'])))) ++ behind)
    refine ⟨_, isLine, front, back, rfl, ?_, ?_⟩
    · exact alone.of_prefix (List.reverse_prefix.mpr ends)
    · refine EndsRun.of_prefix ?_ starts
      rw [List.append_assoc]
      exact gapBlank.endsWord_of_ne_nil nonempty _

theorem Linkage.resolves_of_mem_check {source : Text} {diagnostic : Diagnostic}
    (member : diagnostic ∈ Linkage.check source) : diagnostic.Resolves source := by
  obtain ⟨span, prototype, -, rfl⟩ := Linkage.mem_check_iff.mp member
  obtain ⟨line, isLine, -⟩ := Linkage.exists_isLine_of_isPrototype prototype
  refine ⟨line, isLine, ⟨span, prototype, rfl⟩, ?_⟩
  -- Another prototype of the same name that starts on the same line is reported in the same words.
  rintro other ⟨isPrototype, same⟩
  obtain ⟨line', isLine', holds⟩ := Linkage.exists_isLine_of_isPrototype isPrototype
  have number : lineAt source span.start = lineAt source other.start :=
    congrArg Diagnostic.line same
  rw [number] at isLine
  rwa [isLine.unique isLine']

/-! ## Symbols -/

theorem Text.IsNameIn.exists_isLine {source name : Text} (isName : IsNameIn source name) :
    ∃ line, IsLine source (findLine source name) line ∧ name <:+: line :=
  exists_isLine_findLine isName.word.lineFeed_notMem isName.occurs

theorem Symbols.resolves_of_mem {source : Text} {diagnostic : Diagnostic}
    (member : diagnostic ∈ (compile source).warnings) : diagnostic.Resolves source := by
  simp only [Report.warnings, compile, Symbols.ofProgram, List.mem_append, List.mem_map] at member
  rcases member with ⟨symbol, unused, rfl⟩ | ⟨symbol, unused, rfl⟩
  · have listed := List.mem_of_mem_filter unused
    obtain ⟨decl, declared, rfl⟩ := List.mem_map.mp listed
    obtain ⟨line, isLine, occurs⟩ := (Program.isNameIn_of_mem_declarations declared).exists_isLine
    exact ⟨line, isLine, _, listed, rfl, occurs⟩
  · have listed := List.mem_of_mem_filter unused
    obtain ⟨function, declared, rfl⟩ := List.mem_map.mp listed
    obtain ⟨line, isLine, occurs⟩ := (Program.isNameIn_of_mem_functions declared).exists_isLine
    exact ⟨line, isLine, _, listed, rfl, occurs⟩

/-! ## All diagnostics -/

/-- A diagnostic about a missing entry point has no line to show. -/
theorem Diagnostic.Resolves.kind_ne {source : Text} {diagnostic : Diagnostic}
    (resolves : diagnostic.Resolves source) : diagnostic.kind ≠ .missingEntryPoint := by
  intro same
  obtain ⟨line, -, shown⟩ := resolves
  rw [Diagnostic.ShownOn, same] at shown
  exact shown

theorem eq_or_resolves_of_mem {source : Text} {diagnostic : Diagnostic}
    (reported : diagnostic ∈ (compile source).errors ∨ diagnostic ∈ (compile source).warnings) :
    diagnostic = .missingEntryPoint 0 ∨ diagnostic.Resolves source := by
  rcases reported with error | warning
  · simp only [compile, validate, List.mem_append] at error
    rcases error with ((entry | semicolon) | brace) | prototype
    · exact .inl (EntryPoint.eq_of_mem_check entry)
    · exact .inr (Termination.resolves_of_mem_check semicolon)
    · exact .inr (Braces.resolves_of_mem_check brace)
    · exact .inr (Linkage.resolves_of_mem_check prototype)
  · exact .inr (Symbols.resolves_of_mem warning)

/-- **Every diagnostic can be resolved against the source.** The line of a diagnostic is zero
exactly when an entry point is missing. Any other diagnostic has the number of a line of the source,
and its subject stands on this line: a character that is not blank where a semicolon is missing, the
brace without a partner, the whole first word of the prototype, or the name of the symbol. -/
theorem diagnostics_resolve (source : Text) (diagnostic : Diagnostic)
    (reported : diagnostic ∈ (compile source).errors ∨ diagnostic ∈ (compile source).warnings) :
    (diagnostic.line = 0 ↔ diagnostic.kind = .missingEntryPoint) ∧
      (diagnostic.kind ≠ .missingEntryPoint →
        1 ≤ diagnostic.line ∧ diagnostic.line ≤ 1 + source.count '\n' ∧
          ∃ line, IsLine source diagnostic.line line ∧ diagnostic.ShownOn source line) := by
  rcases eq_or_resolves_of_mem reported with rfl | resolves
  · exact ⟨iff_of_true rfl rfl, fun other => absurd rfl other⟩
  · obtain ⟨line, isLine, shown⟩ := resolves
    obtain ⟨positive, bound⟩ := isLine.bounds
    have other := Diagnostic.Resolves.kind_ne ⟨line, isLine, shown⟩
    exact ⟨iff_of_false (Nat.ne_of_gt positive) other,
      fun _ => ⟨positive, bound, line, isLine, shown⟩⟩

/-- A prototype that is spread over two lines is reported at the line of its first word. -/
theorem diagnostics_resolve_split_prototype :
    Diagnostic.undefinedFunction "f".toList 2 ∈ (compile "int main() {}\nlong\nf();".toList).errors ∧
      ∃ line, IsLine "int main() {}\nlong\nf();".toList 2 line ∧
        (Diagnostic.undefinedFunction "f".toList 2).ShownOn "int main() {}\nlong\nf();".toList
          line := by
  have reported : Diagnostic.undefinedFunction "f".toList 2 ∈
      (compile "int main() {}\nlong\nf();".toList).errors := by
    decide +kernel
  exact ⟨reported, ((diagnostics_resolve _ _ (.inl reported)).2 (by decide)).2.2⟩

end ShallowCpp
