import ShallowCpp.Proofs.InlineBlocks
import ShallowCpp.Proofs.Outline.Declaration
import ShallowCpp.Proofs.Shape.Signature
import ShallowCpp.Proofs.Termination
import ShallowCpp.Proofs.Text.Lines

/-!
# Declarations without a semicolon

A line that declares a variable with an initial value and has no semicolon is a statement that the
check should report. Neither blocks nor comments nor clauses excuse such a line, but it may end in a
signature: a call at the end of the initial value has the look of one. The equals sign stands in
front of it, so it is the initial value alone that decides, and the declaration goes unreported
exactly when this value ends in a name with a parenthesised list, which `const` and `= 0` may follow
(`open_declaration_reported_iff`). Inside of a block within one line no signature is looked for, and
there the same declaration is reported.
-/

set_option autoImplicit false

namespace ShallowCpp

open Text

namespace Termination

/-! ## Lines without marks -/

/-- The text is one line without braces, semicolons, markers of comments and clauses. -/
structure Unbroken (line : Text) : Prop where
  oneLine : '\n' ∉ line
  noSemicolon : ';' ∉ line
  noOpening : '{' ∉ line
  noClosing : '}' ∉ line
  noMarker : ¬Comment.Marked line
  noClause : ∀ clause ∈ clauses, ¬clause <:+: line

/-- Where no block is closed, no statement is left open in front of a brace. -/
theorem hasOpenStatement_eq_false {line : Text} (noClosing : '}' ∉ line) :
    hasOpenStatement line = false := by
  have search : hasOpenStatement line = true ↔ _ := hasOpenStatementFrom_iff Reading.start line
  rw [Bool.eq_false_iff, ne_eq, search]
  rintro ⟨before, behind, rfl, -⟩
  exact noClosing (by simp)

/-- A single line without markers is judged by itself. -/
theorem check_eq_of_unmarked {line : Text} (oneLine : '\n' ∉ line)
    (noMarker : ¬Comment.Marked line) :
    check line = if lacksSemicolon (trim line) then [.missingSemicolon 1] else [] := by
  have uncovered : covers false line = false := by
    rw [Bool.eq_false_iff, ne_eq, covers_iff]
    exact not_or.mpr ⟨Bool.false_ne_true, noMarker⟩
  rw [check, lines_eq_singleton oneLine, checkLines_cons, findings, uncovered]
  simp [checkLines]

/-- A line without marks that starts with a word lacks a semicolon unless it ends in a signature. -/
theorem Unbroken.lacksSemicolon_eq {line : Text} (unbroken : Unbroken line)
    (startsWord : ¬EndsRun isWord line) :
    lacksSemicolon line = !Signature.endsLine line := by
  obtain ⟨char, rest, rfl⟩ : ∃ char rest, line = char :: rest := by
    apply List.exists_cons_of_ne_nil
    rintro rfl
    exact startsWord (by simp [EndsRun])
  have inWord : isWord char = true := by simpa [endsRun_cons] using startsWord
  have differs : ∀ mark, isWord mark = false → char ≠ mark := by
    rintro mark noWord rfl
    rw [inWord] at noWord
    cases noWord
  have noHash : char ≠ '#' := differs '#' rfl
  have noLineMark : Comment.lineMark.isPrefixOf (char :: rest) = false := by
    rw [Bool.eq_false_iff, ne_eq, List.isPrefixOf_iff_prefix]
    rintro ⟨others, cut⟩
    exact differs '/' rfl (List.cons.inj cut).1.symm
  have noClause : hasClause (char :: rest) = false := by
    rw [Bool.eq_false_iff, ne_eq, hasClause_iff]
    rintro ⟨clause, member, occurs⟩
    exact unbroken.noClause clause member occurs
  have notExempt : isExempt (char :: rest) = false := by
    simp [isExempt, noHash, noLineMark, noClause]
  have last : ∀ mark, mark ∉ char :: rest → ((char :: rest).getLast? == some mark) = false := by
    intro mark absent
    apply beq_eq_false_iff_ne.mpr
    intro ends
    exact absent (List.mem_of_getLast? ends)
  have notBoundary : isBlockBoundary (char :: rest) = false := by
    simp [isBlockBoundary, last _ unbroken.noOpening, last _ unbroken.noClosing, differs '}' rfl]
  have notEnded : ((char :: rest).getLast? != some ';') = true := by
    rw [bne, last _ unbroken.noSemicolon, Bool.not_false]
  rw [lacksSemicolon, notExempt, hasOpenStatement_eq_false unbroken.noClosing, notBoundary,
    notEnded]
  rfl

/-! ## Declarations -/

/-- The line on which a variable is declared with an initial value, and no semicolon is written. -/
def openDeclaration (type name value : Text) : Text :=
  type ++ ' ' :: (name ++ " = ".toList ++ value)

variable {type name value : Text}

/-- The equals sign divides the line, so its initial value alone can end in a signature. -/
theorem endsIn_openDeclaration (typeWord : Word type) (nameWord : Word name) :
    Signature.EndsIn (openDeclaration type name value) ↔ Signature.EndsIn value := by
  have cut : openDeclaration type name value =
      (type ++ ' ' :: (name ++ [' '])) ++ '=' :: (' ' :: value) := by
    simp [openDeclaration]
  have inType : '(' ∉ type := typeWord.notMem rfl
  have inName : '(' ∉ name := nameWord.notMem rfl
  have unopened : '(' ∉ type ++ ' ' :: (name ++ [' ']) := by simp [inType, inName]
  rw [cut, Signature.endsIn_append_cons rfl rfl (by decide) unopened,
    Signature.endsIn_cons_blank rfl]

theorem trimmed_openDeclaration (name : Text) (typeWord : Word type) (visible : ¬Blank value)
    (endsVisibly : EndsRun isBlank value.reverse) :
    Trimmed (openDeclaration type name value) := by
  constructor
  · exact typeWord.endsBlank _
  · have nonempty : value.reverse ≠ [] := by
      intro nothing
      rw [List.reverse_eq_nil_iff.mp nothing] at visible
      exact visible blank_nil
    have mirrored : (openDeclaration type name value).reverse =
        value.reverse ++ (type ++ ' ' :: (name ++ " = ".toList)).reverse := by
      simp [openDeclaration]
    rw [mirrored]
    exact endsVisibly.append nonempty _

/-- **A declaration without a semicolon is reported unless its initial value ends in a signature.**
The type is primitive, the name is a word, and the initial value is not blank and does not end in a
blank. Nothing on the line hides the statement: it has no line feed, semicolon or brace in it, no
marker of a comment and no clause. -/
theorem open_declaration_reported_iff (type name value : Text)
    (primitive : type ∈ VariableDecl.primitiveTypes) (nameWord : Word name)
    (visible : ¬Blank value) (endsVisibly : EndsRun isBlank value.reverse)
    (unbroken : Unbroken (openDeclaration type name value)) :
    check (openDeclaration type name value) =
      if Signature.EndsIn value then [] else [.missingSemicolon 1] := by
  have typeWord := VariableDecl.word_of_mem_primitiveTypes primitive
  have trimmed := (trimmed_openDeclaration name typeWord visible endsVisibly).trim_eq
  have startsWord : ¬EndsRun isWord (openDeclaration type name value) := by
    obtain ⟨char, rest, rfl⟩ := List.exists_cons_of_ne_nil typeWord.ne_nil
    have inWord := typeWord.isWord char List.mem_cons_self
    simp [openDeclaration, endsRun_cons, inWord]
  rw [check_eq_of_unmarked unbroken.oneLine unbroken.noMarker, trimmed,
    unbroken.lacksSemicolon_eq startsWord]
  simp only [Bool.not_eq_true', ← Bool.not_eq_true, Signature.endsLine_iff,
    endsIn_openDeclaration typeWord nameWord, ite_not]

/-- A parenthesis that no name stands in front of is no signature, and one behind a name is, with
`const` and `= 0` behind it. -/
theorem open_declaration_reported_of_group :
    check "int x = f(1) * (2)".toList = [.missingSemicolon 1] ∧
      check "bool y = g (2) const = 0".toList = [] := by
  have grouped := open_declaration_reported_iff "int".toList "x".toList
    "f(1) * (2)".toList (by decide) (by decide) (by decide)
    (endsRun_cons.mpr (by decide))
    ⟨by decide, by decide, by decide, by decide, by decide, by decide⟩
  have called := open_declaration_reported_iff "bool".toList "y".toList
    "g (2) const = 0".toList (by decide) (by decide) (by decide)
    (endsRun_cons.mpr (by decide))
    ⟨by decide, by decide, by decide, by decide, by decide, by decide⟩
  rw [if_neg (by decide)] at grouped
  rw [if_pos (by decide)] at called
  exact ⟨grouped, called⟩

/-- Not every such declaration is reported: a call at the end of the initial value is taken for a
signature. Within a block on one line the same declaration is reported. -/
theorem open_declaration_unreported :
    "int".toList ∈ VariableDecl.primitiveTypes ∧ Word "x".toList ∧ ¬Blank "f(1)".toList ∧
      EndsRun isBlank "f(1)".toList.reverse ∧
      Unbroken (openDeclaration "int".toList "x".toList "f(1)".toList) ∧
      openDeclaration "int".toList "x".toList "f(1)".toList = "int x = f(1)".toList ∧
      check "int x = f(1)".toList = [] ∧
      check "int main() \x7b int x = f(1) \x7d".toList = [.missingSemicolon 1] :=
  ⟨by decide, by decide, by decide, endsRun_cons.mpr (by decide),
    ⟨by decide, by decide, by decide, by decide, by decide, by decide⟩, by decide, by decide,
    by decide⟩

end Termination

end ShallowCpp
