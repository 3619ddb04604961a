import Mathlib.Data.List.Basic
import ShallowCpp.Proofs.Text.Offsets
import ShallowCpp.Symbols

/-!
# Usage warnings of any program

The warnings about the symbols of a program go through its declarations and then through its
functions, and a symbol draws one when it is counted in the source too rarely. The program need not
have been read from the source, so its names can be any texts. The line of a warning depends on all
of the source, what it says on the symbol alone (`map_wording_warnings`).

Text that is added around a source can only raise the counts. So it takes warnings away, puts none
in, and leaves those that stay in their order (`added_text_only_silences`).
-/

set_option autoImplicit false

namespace ShallowCpp

open Text

/-! ## What is warned about -/

/-- What a diagnostic says, wherever it points. -/
def Diagnostic.wording (diagnostic : Diagnostic) : Diagnostic.Kind × Text :=
  (diagnostic.kind, diagnostic.message)

/-- A diagnostic is listed under some line exactly when its wording is. -/
theorem Diagnostic.exists_line_iff {kind : Diagnostic.Kind} {message : Text}
    {diagnostics : List Diagnostic} :
    (∃ line, ⟨line, message, kind⟩ ∈ diagnostics) ↔
      (kind, message) ∈ diagnostics.map Diagnostic.wording := by
  rw [List.mem_map]
  constructor
  · rintro ⟨line, member⟩
    exact ⟨_, member, rfl⟩
  · rintro ⟨diagnostic, member, same⟩
    obtain ⟨rfl, rfl⟩ := Prod.mk.inj same
    exact ⟨diagnostic.line, member⟩

theorem FunctionSymbol.isUnused_iff {source : Text} {symbol : FunctionSymbol} :
    isUnused source symbol = true ↔
      symbol.name ≠ EntryPoint.name ∧ occurrences (symbol.name ++ ['(']) source ≤ 1 := by
  simp [isUnused]

namespace Symbols

/-- The variables that are mentioned in the source at most once. -/
def unusedDeclarations (program : Program) (source : Text) : List VariableDecl :=
  program.declarations.filter fun decl => occurrences decl.name source ≤ 1

/-- The functions, other than the entry point, whose name stands in front of a parenthesis at most
once. -/
def unusedFunctions (program : Program) (source : Text) : List FunctionDecl :=
  program.functions.filter fun decl =>
    decl.name ≠ EntryPoint.name ∧ occurrences (decl.name ++ ['(']) source ≤ 1

/-- The warnings say which variables and then which functions are counted too rarely. Their lines
make no difference to what they say. -/
theorem map_wording_warnings (program : Program) (source : Text) :
    (ofProgram program source).warnings.map Diagnostic.wording =
      (unusedDeclarations program source).map
          (fun decl => (Diagnostic.unusedVariable decl.name 0).wording) ++
        (unusedFunctions program source).map
          (fun decl => (Diagnostic.unusedFunction decl.name 0).wording) := by
  have rarely : FunctionSymbol.isUnused source ∘ FunctionSymbol.ofDecl source = fun decl =>
      decide (decl.name ≠ EntryPoint.name ∧ occurrences (decl.name ++ ['(']) source ≤ 1) := by
    funext decl
    rw [Bool.eq_iff_iff, decide_eq_true_iff]
    exact FunctionSymbol.isUnused_iff
  simp only [ofProgram, List.map_append, List.filter_map, List.map_map, rarely]
  rfl

/-- A name draws a warning as that of a function exactly when a function bears it that is counted
too rarely. -/
theorem exists_unusedFunction_iff {program : Program} {source name : Text} :
    (∃ line, .unusedFunction name line ∈ (ofProgram program source).warnings) ↔
      (∃ function ∈ program.functions, function.name = name) ∧ name ≠ EntryPoint.name ∧
        occurrences (name ++ ['(']) source ≤ 1 := by
  simp only [Diagnostic.unusedFunction]
  rw [Diagnostic.exists_line_iff, map_wording_warnings, List.mem_append, List.mem_map,
    List.mem_map]
  constructor
  · rintro (⟨decl, -, same⟩ | ⟨function, unused, same⟩)
    · cases (Prod.mk.inj same).1
    · obtain ⟨listed, rarely⟩ := List.mem_filter.mp unused
      obtain rfl : function.name = name :=
        List.append_cancel_left (List.append_cancel_right (Prod.mk.inj same).2)
      exact ⟨⟨function, listed, rfl⟩, of_decide_eq_true rarely⟩
  · rintro ⟨⟨function, listed, rfl⟩, rarely⟩
    exact .inr ⟨function, List.mem_filter.mpr ⟨listed, decide_eq_true rarely⟩, rfl⟩

/-! ## Added text -/

theorem unusedDeclarations_sublist (program : Program) {part source : Text}
    (inside : part <:+: source) :
    (unusedDeclarations program source).Sublist (unusedDeclarations program part) := by
  refine List.monotone_filter_right _ fun decl rarely => ?_
  rw [decide_eq_true_iff] at rarely ⊢
  exact (occurrences_le_of_isInfix inside).trans rarely

theorem unusedFunctions_sublist (program : Program) {part source : Text}
    (inside : part <:+: source) :
    (unusedFunctions program source).Sublist (unusedFunctions program part) := by
  refine List.monotone_filter_right _ fun decl rarely => ?_
  rw [decide_eq_true_iff] at rarely ⊢
  exact ⟨rarely.1, (occurrences_le_of_isInfix inside).trans rarely.2⟩

/-- **Added text only silences warnings.** Whatever the program, the warnings it draws from a text
with more text in front and behind are, by kind and message, some of those that it draws from the
text alone, in the same order. -/
theorem added_text_only_silences (program : Program) (before text behind : Text) :
    ((ofProgram program (before ++ text ++ behind)).warnings.map Diagnostic.wording).Sublist
      ((ofProgram program text).warnings.map Diagnostic.wording) := by
  have inside : text <:+: before ++ text ++ behind := ⟨before, behind, rfl⟩
  rw [map_wording_warnings, map_wording_warnings]
  exact ((unusedDeclarations_sublist program inside).map _).append
    ((unusedFunctions_sublist program inside).map _)

/-- In `aaa` the name `aa` is counted once. A character in front makes the count start with other
occurrences, and then there are two of them. -/
example :
    (ofProgram ⟨[.declaration ⟨"aa".toList, "int".toList, none⟩]⟩ "aaa".toList).warnings =
        [.unusedVariable "aa".toList 1] ∧
      (ofProgram ⟨[.declaration ⟨"aa".toList, "int".toList, none⟩]⟩ "aaaa".toList).warnings =
        [] := by
  decide

end Symbols

end ShallowCpp
