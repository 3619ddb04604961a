import Mathlib.Data.List.Induction
import ShallowCpp.Proofs.Comment
import ShallowCpp.Termination

/-!
# The check of semicolons, line by line

The check carries one flag from line to line: a block comment is open. A line with a marker sets the
flag, whatever else stands on the line, and a line without markers leaves it alone. A line is
covered when the flag is set in front of it or when it has a marker itself. Covered lines are passed
over, so a line is found to lack a semicolon exactly when it is not covered and lacks one
(`mem_check_iff`).

The findings on a list of lines are those on its first part, followed by those on the rest, with the
flag that the first part leaves behind (`checkLines_append_lines`). This flag is what the last line
with a marker says (`openBefore_iff`).
-/

set_option autoImplicit false

namespace ShallowCpp.Termination

open Text Comment

/-! ## One line -/

/-- Whether a block comment is open behind the line, given whether one is open in front of it. -/
def openBehind (commentOpen : Bool) (line : Text) : Bool :=
  (openBehind? line).getD commentOpen

/-- The line is taken to belong to a block comment. -/
def covers (commentOpen : Bool) (line : Text) : Bool :=
  commentOpen || (openBehind? line).isSome

/-- The finding on a line, if it is not covered. -/
def findings (number : Nat) (commentOpen : Bool) (line : Text) : List Diagnostic :=
  if !covers commentOpen line && lacksSemicolon (trim line) then [.missingSemicolon number] else []

theorem openBehind_of_marked {line : Text} (marked : Marked line) (commentOpen : Bool) :
    openBehind commentOpen line = true ↔ LeavesOpen line := by
  rw [openBehind]
  cases decided : openBehind? line with
  | none => exact absurd marked ((openBehind?_eq_none_iff line).mp decided)
  | some isOpen => exact ((openBehind?_eq_some_iff line isOpen).mp decided).2

theorem openBehind_of_not_marked {line : Text} (unmarked : ¬Marked line) (commentOpen : Bool) :
    openBehind commentOpen line = commentOpen := by
  rw [openBehind, (openBehind?_eq_none_iff line).mpr unmarked]
  rfl

theorem covers_iff (commentOpen : Bool) (line : Text) :
    covers commentOpen line = true ↔ commentOpen = true ∨ Marked line := by
  have marked : (openBehind? line).isSome = true ↔ Marked line := by
    rw [Option.isSome_iff_ne_none, Ne, openBehind?_eq_none_iff, not_not]
  rw [covers, Bool.or_eq_true, marked]

theorem mem_findings_iff {number : Nat} {commentOpen : Bool} {line : Text}
    {diagnostic : Diagnostic} :
    diagnostic ∈ findings number commentOpen line ↔
      diagnostic = .missingSemicolon number ∧ covers commentOpen line = false ∧
        lacksSemicolon (trim line) = true := by
  rw [findings]
  cases covers commentOpen line <;> cases lacksSemicolon (trim line) <;> simp

/-! ## Successive lines -/

/-- One step of the check: the finding on the first line, then the other lines with the flag that
the first line leaves behind. -/
theorem checkLines_cons (number : Nat) (commentOpen : Bool) (line : Text) (rest : List Text) :
    checkLines number commentOpen (line :: rest) =
      findings number commentOpen line ++
        checkLines (number + 1) (openBehind commentOpen line) rest := by
  rw [checkLines, findings, covers, openBehind]
  cases openBehind? line with
  | some isOpen => simp
  | none =>
    simp only [Option.isSome_none, Bool.or_false, Option.getD_none]
    split
    · rfl
    · rfl

/-- **The check of lines in two parts**: the second part is checked with the flag that the first one
leaves behind. -/
theorem checkLines_append_lines (number : Nat) (commentOpen : Bool) (earlier rest : List Text) :
    checkLines number commentOpen (earlier ++ rest) =
      checkLines number commentOpen earlier ++
        checkLines (number + earlier.length) (earlier.foldl openBehind commentOpen) rest := by
  induction earlier generalizing number commentOpen with
  | nil => rfl
  | cons line earlier ih =>
    rw [List.cons_append, checkLines_cons, checkLines_cons, ih, List.append_assoc,
      List.length_cons, List.foldl_cons, Nat.add_assoc, Nat.add_comm 1]

/-- Behind a list of lines the flag says whether the last line with a marker leaves a comment
open. -/
theorem foldl_openBehind_iff (lines : List Text) :
    lines.foldl openBehind false = true ↔ OpenBehind lines := by
  -- The last line decides, so the induction takes lines off the end.
  induction lines using List.reverseRecOn with
  | nil => exact iff_of_false Bool.false_ne_true not_openBehind_nil
  | append_singleton earlier line ih =>
    rw [List.foldl_concat]
    by_cases marked : Marked line
    · rw [openBehind_of_marked marked, openBehind_concat_of_marked marked]
    · rw [openBehind_of_not_marked marked, openBehind_concat_of_not_marked marked, ih]

/-- A finding has the number of a line that is not covered and lacks a semicolon. -/
theorem mem_checkLines_iff {number : Nat} {commentOpen : Bool} {lines : List Text}
    {diagnostic : Diagnostic} :
    diagnostic ∈ checkLines number commentOpen lines ↔
      ∃ index line, lines[index]? = some line ∧
        diagnostic ∈
          findings (number + index) ((lines.take index).foldl openBehind commentOpen) line := by
  induction lines generalizing number commentOpen with
  | nil => simp [checkLines]
  | cons first rest ih =>
    have shift : ∀ index, number + 1 + index = number + (index + 1) := by omega
    rw [checkLines_cons, List.mem_append, ih]
    simp only [shift]
    constructor
    · rintro (here | ⟨index, line, there, found⟩)
      · exact ⟨0, first, rfl, here⟩
      · exact ⟨index + 1, line, there, found⟩
    · rintro ⟨index, line, there, found⟩
      cases index with
      | zero =>
        obtain rfl := Option.some.inj there
        exact .inl found
      | succ index => exact .inr ⟨index, line, there, found⟩

/-! ## Whole sources -/

/-- The flag of the check in front of the line with the given index. -/
def openBefore (source : Text) (index : Nat) : Bool :=
  ((lines source).take index).foldl openBehind false

theorem openBefore_iff (source : Text) (index : Nat) :
    openBefore source index = true ↔ OpenBehind ((lines source).take index) :=
  foldl_openBehind_iff _

/-- The flag is the one with which the check comes to the line. -/
theorem check_eq_append (source : Text) {index : Nat} (within : index ≤ (lines source).length) :
    check source =
      checkLines 1 false ((lines source).take index) ++
        checkLines (index + 1) (openBefore source index) ((lines source).drop index) := by
  have cut :=
    checkLines_append_lines 1 false ((lines source).take index) ((lines source).drop index)
  rwa [List.take_append_drop, List.length_take_of_le within, Nat.add_comm 1] at cut

/-- **What is reported**: the lines of the source that are not covered and lack a semicolon. -/
theorem mem_check_iff {source : Text} {diagnostic : Diagnostic} :
    diagnostic ∈ check source ↔
      ∃ index line, (lines source)[index]? = some line ∧
        diagnostic = .missingSemicolon (index + 1) ∧
        covers (openBefore source index) line = false ∧ lacksSemicolon (trim line) = true := by
  simp only [check, mem_checkLines_iff, mem_findings_iff, openBefore, Nat.add_comm 1]

theorem missingSemicolon_mem_check_iff {source line : Text} {index : Nat}
    (here : (lines source)[index]? = some line) :
    .missingSemicolon (index + 1) ∈ check source ↔
      covers (openBefore source index) line = false ∧ lacksSemicolon (trim line) = true := by
  rw [mem_check_iff]
  constructor
  · rintro ⟨index', line', there, same, holds⟩
    obtain rfl : index = index' := Nat.succ.inj (congrArg Diagnostic.line same)
    obtain rfl := Option.some.inj (here.symm.trans there)
    exact holds
  · intro holds
    exact ⟨index, line, here, rfl, holds⟩

end ShallowCpp.Termination
