import Mathlib.Data.List.Infix
import ShallowCpp.Text.Search
import ShallowCpp.Proofs.Text.Lines

/-!
# What the markers of a line say

A marker can occur on a line more than once. The search from the end finds the last occurrence, and
finds nothing exactly when there is none (`lastIndex?_eq_some_iff`, `lastIndex?_eq_none_iff`). A
line leaves a comment open when it has an opening marker and no closing marker starts behind the
last of these; a line without markers says nothing (`openBehind?_eq_some_iff`).

Behind a list of lines a comment is open when the last line with a marker on it leaves one open. A
further line decides the question anew if it has a marker, and leaves it as it was if it has none
(`openBehind_concat_of_marked`, `openBehind_concat_of_not_marked`).
-/

set_option autoImplicit false

namespace ShallowCpp

/-! ## The last occurrence -/

namespace Text

/-- The text reads `needle` from the offset on. -/
def OccursAt (needle text : Text) (offset : Nat) : Prop :=
  needle <+: text.drop offset

/-- The needle occurs at the offset and nowhere behind it. -/
structure IsLast (needle text : Text) (offset : Nat) : Prop where
  occurs : OccursAt needle text offset
  last : ∀ later, offset < later → ¬OccursAt needle text later

theorem not_occursAt_nil {needle : Text} (nonempty : needle ≠ []) (offset : Nat) :
    ¬OccursAt needle [] offset := by
  rw [OccursAt, List.drop_nil, List.prefix_nil]
  exact nonempty

theorem infix_iff_exists_occursAt {needle text : Text} :
    needle <:+: text ↔ ∃ offset, OccursAt needle text offset := by
  constructor
  · rintro ⟨before, behind, rfl⟩
    exact ⟨before.length, behind, by rw [List.append_assoc, List.drop_left]⟩
  · rintro ⟨offset, starts⟩
    exact starts.isInfix.trans (List.drop_suffix offset text).isInfix

/-- There is only one last occurrence. -/
theorem IsLast.unique {needle text : Text} {first second : Nat} (isLast : IsLast needle text first)
    (alsoLast : IsLast needle text second) : first = second := by
  rcases Nat.lt_trichotomy first second with before | same | behind
  · exact absurd alsoLast.occurs (isLast.last second before)
  · exact same
  · exact absurd isLast.occurs (alsoLast.last first behind)

/-- The search from the end finds nothing or the last occurrence. -/
theorem lastIndex?_cases {needle : Text} (nonempty : needle ≠ []) (text : Text) :
    (lastIndex? needle text = none ∧ ∀ offset, ¬OccursAt needle text offset) ∨
      ∃ offset, lastIndex? needle text = some offset ∧ IsLast needle text offset := by
  induction text with
  | nil =>
    refine .inl ⟨?_, not_occursAt_nil nonempty⟩
    rw [lastIndex?, if_neg (by simpa using nonempty)]
  | cons char rest ih =>
    rcases ih with ⟨absent, nowhere⟩ | ⟨offset, found, isLast⟩
    · rw [lastIndex?, absent]
      simp only [List.isPrefixOf_iff_prefix]
      split
      next starts =>
        refine .inr ⟨0, rfl, starts, fun later behind => ?_⟩
        obtain ⟨later, rfl⟩ := Nat.exists_eq_succ_of_ne_zero (Nat.pos_iff_ne_zero.mp behind)
        exact nowhere later
      next starts =>
        refine .inl ⟨rfl, fun offset => ?_⟩
        cases offset with
        | zero => exact starts
        | succ offset => exact nowhere offset
    · refine .inr ⟨offset + 1, by rw [lastIndex?, found], isLast.occurs, fun later behind => ?_⟩
      cases later with
      | zero => exact absurd behind (Nat.not_lt_zero _)
      | succ later => exact isLast.last later (Nat.lt_of_succ_lt_succ behind)

theorem lastIndex?_eq_none_iff {needle : Text} (nonempty : needle ≠ []) (text : Text) :
    lastIndex? needle text = none ↔ ¬needle <:+: text := by
  rw [infix_iff_exists_occursAt, not_exists]
  rcases lastIndex?_cases nonempty text with ⟨absent, nowhere⟩ | ⟨offset, found, isLast⟩
  · exact iff_of_true absent nowhere
  · rw [found]
    exact iff_of_false (Option.some_ne_none offset) fun nowhere => nowhere offset isLast.occurs

theorem lastIndex?_eq_some_iff {needle : Text} (nonempty : needle ≠ []) (text : Text)
    (offset : Nat) : lastIndex? needle text = some offset ↔ IsLast needle text offset := by
  rcases lastIndex?_cases nonempty text with ⟨absent, nowhere⟩ | ⟨place, found, isLast⟩
  · rw [absent]
    exact iff_of_false (Option.some_ne_none offset).symm fun isLast => nowhere offset isLast.occurs
  · rw [found, Option.some.injEq]
    constructor
    · rintro rfl
      exact isLast
    · exact isLast.unique

end Text

/-! ## One line -/

namespace Comment

open Text

/-- The line carries a marker of a block comment. -/
def Marked (line : Text) : Prop :=
  opening <:+: line ∨ closing <:+: line

/-- The line has an opening marker, and no closing marker starts behind the last one. -/
def LeavesOpen (line : Text) : Prop :=
  ∃ last, IsLast opening line last ∧ ∀ later, last < later → ¬OccursAt closing line later

/-- The line is a comment that ends with it. -/
def IsLineComment (line : Text) : Prop :=
  lineMark <+: trim line

theorem opening_ne_nil : opening ≠ [] := by decide

theorem closing_ne_nil : closing ≠ [] := by decide

/-- The two markers do not start at the same place. -/
theorem not_occursAt_closing {line : Text} {offset : Nat} (opens : OccursAt opening line offset) :
    ¬OccursAt closing line offset := by
  intro closes
  have same := List.prefix_of_prefix_length_le opens closes (by decide)
  exact absurd same (by decide)

/-- A line says nothing exactly when it has no marker. -/
theorem openBehind?_eq_none_iff (line : Text) : openBehind? line = none ↔ ¬Marked line := by
  rw [Marked, not_or, ← lastIndex?_eq_none_iff opening_ne_nil,
    ← lastIndex?_eq_none_iff closing_ne_nil, openBehind?]
  split <;> simp_all

/-- A line says that a comment is open behind it exactly when it leaves one open. -/
theorem openBehind?_eq_some_true_iff (line : Text) :
    openBehind? line = some true ↔ LeavesOpen line := by
  constructor
  · intro decided
    rw [openBehind?] at decided
    split at decided
    next => cases decided
    next opened closed openingAt closingAt =>
      have order : closed < opened := by simpa using decided
      refine ⟨opened, (lastIndex?_eq_some_iff opening_ne_nil line opened).mp openingAt, ?_⟩
      intro later behind
      have lastClosing := (lastIndex?_eq_some_iff closing_ne_nil line closed).mp closingAt
      exact lastClosing.last later (order.trans behind)
    next opened openingAt noClosing =>
      refine ⟨opened, (lastIndex?_eq_some_iff opening_ne_nil line opened).mp openingAt, ?_⟩
      intro later _ closes
      have absent := (lastIndex?_eq_none_iff closing_ne_nil line).mp noClosing
      exact absent (infix_iff_exists_occursAt.mpr ⟨later, closes⟩)
    next => cases decided
  · rintro ⟨last, isLast, neverClosed⟩
    rw [openBehind?, (lastIndex?_eq_some_iff opening_ne_nil line last).mpr isLast]
    cases closingAt : lastIndex? closing line with
    | none => rfl
    | some closed =>
      have closes := ((lastIndex?_eq_some_iff closing_ne_nil line closed).mp closingAt).occurs
      have order : closed < last := by
        rcases Nat.lt_trichotomy closed last with before | rfl | behind
        · exact before
        · exact absurd closes (not_occursAt_closing isLast.occurs)
        · exact absurd closes (neverClosed closed behind)
      exact congrArg some (decide_eq_true order)

/-- A line that decides the question has a marker, and decides it by what it leaves open. -/
theorem openBehind?_eq_some_iff (line : Text) (isOpen : Bool) :
    openBehind? line = some isOpen ↔ Marked line ∧ (isOpen = true ↔ LeavesOpen line) := by
  have marked : Marked line ↔ openBehind? line ≠ none := by
    rw [Ne, openBehind?_eq_none_iff, not_not]
  rw [← openBehind?_eq_some_true_iff, marked]
  cases openBehind? line with
  | none => simp
  | some decided => cases decided <;> cases isOpen <;> simp

instance (line : Text) : Decidable (Marked line) :=
  inferInstanceAs (Decidable (_ ∨ _))

instance (line : Text) : Decidable (LeavesOpen line) :=
  decidable_of_iff _ (openBehind?_eq_some_true_iff line)

instance (line : Text) : Decidable (IsLineComment line) :=
  inferInstanceAs (Decidable (_ <+: _))

/-! ## Successive lines -/

/-- The last of the lines that carry a marker leaves a comment open. -/
def OpenBehind (lines : List Text) : Prop :=
  ∃ line ∈ (lines.filter fun line => Marked line).getLast?, LeavesOpen line

instance (lines : List Text) : Decidable (OpenBehind lines) :=
  inferInstanceAs (Decidable (∃ line ∈ _, LeavesOpen line))

theorem not_openBehind_nil : ¬OpenBehind [] := by
  rintro ⟨line, last, -⟩
  cases last

/-- A line with a marker decides whether a comment is open behind it. -/
theorem openBehind_concat_of_marked {lines : List Text} {line : Text} (marked : Marked line) :
    OpenBehind (lines ++ [line]) ↔ LeavesOpen line := by
  simp [OpenBehind, List.filter_append, marked]

/-- A line without markers leaves the question as it was. -/
theorem openBehind_concat_of_not_marked {lines : List Text} {line : Text}
    (unmarked : ¬Marked line) : OpenBehind (lines ++ [line]) ↔ OpenBehind lines := by
  simp [OpenBehind, List.filter_append, unmarked]

end Comment

end ShallowCpp
