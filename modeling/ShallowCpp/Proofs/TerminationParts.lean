import ShallowCpp.Proofs.CommentTracking
import ShallowCpp.Proofs.MoveDown
import ShallowCpp.Proofs.Text.Places

/-!
# Checking a source in two parts

The check of semicolons takes one thing along from line to line, whether a block comment is open. A
source that is divided at a line feed is therefore checked part by part: the second part is checked
as a source of its own if no comment is open behind the first one, and as a source behind a line
with an opening marker otherwise (`check_in_two_parts`). Only the numbers of the lines differ.

Whether a comment is open is settled by the last line with a marker. Such a line leaves a comment
open or leaves none open, by which of the two markers comes last on it.
-/

set_option autoImplicit false

namespace ShallowCpp

open Text

/-! ## Lines that leave no comment open -/

/-- Behind every occurrence, or in its place, there is a last one. -/
theorem Text.exists_isLast {needle text : Text} (nonempty : needle ≠ []) {offset : Nat}
    (occurs : OccursAt needle text offset) : ∃ last, offset ≤ last ∧ IsLast needle text last := by
  rcases lastIndex?_cases nonempty text with ⟨-, nowhere⟩ | ⟨last, -, isLast⟩
  · exact absurd occurs (nowhere offset)
  · refine ⟨last, Nat.le_of_not_lt fun later => ?_, isLast⟩
    exact isLast.last offset later occurs

namespace Comment

/-- The line has a closing marker, and no opening marker starts behind the last one. -/
def LeavesClosed (line : Text) : Prop :=
  ∃ last, IsLast closing line last ∧ ∀ later, last < later → ¬OccursAt opening line later

/-- A line with a marker leaves a comment open or leaves none open. -/
theorem leavesClosed_iff (line : Text) : LeavesClosed line ↔ Marked line ∧ ¬LeavesOpen line := by
  constructor
  · rintro ⟨closed, lastClosing, neverOpened⟩
    refine ⟨.inr (infix_iff_exists_occursAt.mpr ⟨closed, lastClosing.occurs⟩), ?_⟩
    rintro ⟨opened, lastOpening, neverClosed⟩
    rcases Nat.lt_trichotomy closed opened with before | rfl | behind
    · exact neverOpened opened before lastOpening.occurs
    · exact not_occursAt_closing lastOpening.occurs lastClosing.occurs
    · exact neverClosed closed behind lastClosing.occurs
  · rintro ⟨marked, notOpen⟩
    have closes : closing <:+: line := by
      by_contra noClosing
      obtain ⟨offset, opens⟩ := infix_iff_exists_occursAt.mp (marked.resolve_right noClosing)
      obtain ⟨opened, -, lastOpening⟩ := exists_isLast opening_ne_nil opens
      refine notOpen ⟨opened, lastOpening, fun later _ closes => noClosing ?_⟩
      exact infix_iff_exists_occursAt.mpr ⟨later, closes⟩
    obtain ⟨offset, closesAt⟩ := infix_iff_exists_occursAt.mp closes
    obtain ⟨closed, -, lastClosing⟩ := exists_isLast closing_ne_nil closesAt
    refine ⟨closed, lastClosing, fun later behind opens => notOpen ?_⟩
    obtain ⟨opened, bound, lastOpening⟩ := exists_isLast opening_ne_nil opens
    refine ⟨opened, lastOpening, fun further beyond => lastClosing.last further ?_⟩
    omega

instance (line : Text) : Decidable (LeavesClosed line) :=
  decidable_of_iff _ (leavesClosed_iff line).symm

/-- No line has a marker, or the last line with a marker leaves no comment open. -/
def ClosedBehind (lines : List Text) : Prop :=
  (∀ line ∈ lines, ¬Marked line) ∨ ∃ last ∈ lastMarked? lines, LeavesClosed last

instance (lines : List Text) : Decidable (ClosedBehind lines) :=
  inferInstanceAs (Decidable (_ ∨ ∃ last ∈ _, LeavesClosed last))

theorem closedBehind_iff (lines : List Text) : ClosedBehind lines ↔ ¬OpenBehind lines := by
  rw [ClosedBehind, openBehind_iff]
  cases marked : lastMarked? lines with
  | none =>
    have noneMarked : ∀ line ∈ lines, ¬Marked line := by
      simpa [lastMarked?, List.filter_eq_nil_iff] using marked
    exact iff_of_true (.inl noneMarked) (by simp)
  | some last =>
    have lastIsMarked : last ∈ lines ∧ Marked last := by
      simpa using List.mem_of_getLast? marked
    have someMarked : ¬∀ line ∈ lines, ¬Marked line :=
      fun noneMarked => noneMarked last lastIsMarked.1 lastIsMarked.2
    simp [someMarked, leavesClosed_iff, lastIsMarked.2]

end Comment

/-! ## The lines of the findings -/

namespace Termination

open Comment

variable {number : Nat} {commentOpen : Bool} {rows : List Text} {diagnostic : Diagnostic}

/-- The lines are numbered from the given number on. -/
theorem exists_eq_of_mem_checkLines (member : diagnostic ∈ checkLines number commentOpen rows) :
    ∃ line, number ≤ line ∧ diagnostic = .missingSemicolon line := by
  obtain ⟨index, line, -, found⟩ := mem_checkLines_iff.mp member
  exact ⟨number + index, Nat.le_add_right _ _, (mem_findings_iff.mp found).1⟩

/-- **No line is reported twice**, and the lines are reported from the first on. -/
theorem pairwise_line_checkLines (number : Nat) (commentOpen : Bool) (rows : List Text) :
    (checkLines number commentOpen rows).Pairwise fun first second => first.line < second.line := by
  induction rows generalizing number commentOpen with
  | nil => exact .nil
  | cons row rest ih =>
    rw [checkLines_cons, List.pairwise_append]
    refine ⟨?_, ih (number + 1) _, ?_⟩
    · rw [findings]
      split
      · exact List.pairwise_singleton _ _
      · exact .nil
    · intro first here second later
      obtain ⟨rfl, -⟩ := mem_findings_iff.mp here
      obtain ⟨line, bound, rfl⟩ := exists_eq_of_mem_checkLines later
      exact bound

/-- Counting the lines from a later number on adds to every line that is reported. -/
theorem checkLines_add_eq_map (number distance : Nat) (commentOpen : Bool) (rows : List Text) :
    checkLines (number + distance) commentOpen rows =
      (checkLines number commentOpen rows).map fun finding =>
        { finding with line := finding.line + distance } := by
  rw [checkLines_add]
  refine List.map_congr_left fun finding member => Diagnostic.moveDown_of_kind_ne distance ?_
  obtain ⟨line, -, rfl⟩ := exists_eq_of_mem_checkLines member
  rintro ⟨⟩

/-! ## Two parts -/

/-- Behind a line with nothing but an opening marker a source is checked with the flag set. -/
theorem check_behind_opening (source : Text) :
    check (opening ++ '\n' :: source) = checkLines 2 true (lines source) := by
  have flag : openBehind false opening = true := rfl
  have nothing : findings 1 false opening = [] := rfl
  have oneLine : '\n' ∉ opening := by decide
  rw [check, lines_cons_line oneLine, checkLines_cons, nothing, flag, List.nil_append]

/-- **The check of a source in two parts.** A line is reported at most once, and the lines are
reported in increasing order. Where a source is divided at a line feed, the findings on its first
part come first. If no comment is open behind this part, then those on the second part follow, each
further down by the number of lines in front; otherwise those on the second part behind a line with
an opening marker, which takes the place of one of the lines in front. -/
theorem check_in_two_parts :
    (∀ source : Text,
        (check source).Pairwise fun first second => first.line < second.line) ∧
      ∀ front behind : Text,
        check (front ++ '\n' :: behind) =
          check front ++
            if ClosedBehind (lines front) then
              (check behind).map fun finding =>
                { finding with line := finding.line + (lines front).length }
            else
              (check ("/*\n".toList ++ behind)).map fun finding =>
                { finding with line := finding.line + ((lines front).length - 1) } := by
  refine ⟨fun source => pairwise_line_checkLines 1 false (lines source), fun front behind => ?_⟩
  have flag : (lines front).foldl openBehind false = true ↔ ¬ClosedBehind (lines front) := by
    rw [foldl_openBehind_iff, closedBehind_iff, not_not]
  rw [check, lines_append_lineFeed, checkLines_append_lines, check]
  congr 1
  split
  next closed =>
    rw [Bool.eq_false_iff.mpr (fun isOpen => flag.mp isOpen closed), checkLines_add_eq_map, check]
  next isOpen =>
    have number : 1 + (lines front).length = 2 + ((lines front).length - 1) := by
      rw [length_lines]
      omega
    have marked : check ("/*\n".toList ++ behind) = checkLines 2 true (lines behind) :=
      check_behind_opening behind
    rw [flag.mpr isOpen, number, checkLines_add_eq_map, marked]

/-- A line that closes a comment and opens another one leaves it open over the line feed. -/
example : check "x\n*/ /*\ny\n*/\nz".toList = [.missingSemicolon 1, .missingSemicolon 5] ∧
    check "x\n*/ /*".toList = [.missingSemicolon 1] ∧
    check "/*\ny\n*/\nz".toList = [.missingSemicolon 4] :=
  ⟨rfl, rfl, rfl⟩

end Termination

end ShallowCpp
