import Mathlib.Data.Nat.Find
import Mathlib.Order.Bounds.Defs
import ShallowCpp.Proofs.Resolution
import ShallowCpp.Proofs.Text.Offsets

/-!
# Searching by lines and searching the text

A needle is looked for in a text as a whole, or on each of its lines in turn. The first search tells
whether it occurs, the second on which line. They agree as long as the needle has no line feed in
it: the lines are searched in vain exactly when the needle does not occur, and otherwise the line
that is found is the one on which the first occurrence stands (`findLine_eq_firstLine`).

The entry point of a source is looked for in both ways too, and for several needles at once. On each
line all of them are tried before the next line is. What comes out is nevertheless the least of the
lines that the needles have by themselves (`line_search_agrees`).
-/

set_option autoImplicit false

namespace ShallowCpp

open Text

/-! ## The first line with a property -/

namespace Text

variable {holds : Text → Bool} {text : Text}

/-- The number of the first line with the property, counted from one, or zero if no line has it. -/
def firstLine (holds : Text → Bool) (text : Text) : Nat :=
  match (lines text).findIdx? holds with
  | some index => index + 1
  | none => 0

theorem findLine_eq_firstLine (text needle : Text) :
    findLine text needle = firstLine (occursIn needle) text :=
  rfl

theorem IsLine.mem_lines {number : Nat} {line : Text} (isLine : IsLine text number line) :
    line ∈ lines text := by
  obtain ⟨index, -, here⟩ := isLine
  exact List.mem_of_getElem? here

theorem firstLine_eq_zero_iff :
    firstLine holds text = 0 ↔ ∀ line ∈ lines text, holds line = false := by
  rw [firstLine, ← List.findIdx?_eq_none_iff]
  split
  next index found => simp [found]
  next absent => simp [absent]

/-- The first line with a property is the least of the lines that have it. -/
theorem isLeast_firstLine (found : firstLine holds text ≠ 0) :
    IsLeast {number | ∃ line, IsLine text number line ∧ holds line = true}
      (firstLine holds text) := by
  rw [firstLine] at found ⊢
  split at found
  next index search =>
    obtain ⟨bound, has, earlier⟩ := List.findIdx?_eq_some_iff_getElem.mp search
    refine ⟨⟨_, ⟨index, rfl, List.getElem?_eq_getElem bound⟩, has⟩, ?_⟩
    rintro number ⟨line, ⟨other, rfl, here⟩, alsoHas⟩
    obtain ⟨within, rfl⟩ := List.getElem?_eq_some_iff.mp here
    refine Nat.succ_le_succ (Nat.le_of_not_lt fun before => ?_)
    exact earlier other before alsoHas
  next => exact absurd rfl found

/-! ## One needle -/

variable {needle : Text}

/-- The needle occurs at the offset and nowhere in front of it. -/
structure IsFirst (needle text : Text) (offset : Nat) : Prop where
  occurs : OccursAt needle text offset
  first : ∀ earlier, earlier < offset → ¬OccursAt needle text earlier

/-- A needle that occurs has a first occurrence. -/
theorem exists_isFirst (occurs : needle <:+: text) : ∃ offset, IsFirst needle text offset := by
  classical
  have somewhere := infix_iff_exists_occursAt.mp occurs
  exact ⟨Nat.find somewhere, Nat.find_spec somewhere, fun _ => Nat.find_min somewhere⟩

/-- The lines are searched in vain exactly for a needle that does not occur. -/
theorem findLine_eq_zero_iff (oneLine : '\n' ∉ needle) :
    findLine text needle = 0 ↔ ¬needle <:+: text := by
  rw [findLine_eq_firstLine, firstLine_eq_zero_iff, infix_iff_exists_line oneLine]
  simp only [← occursIn_iff, not_exists, not_and, Bool.not_eq_true]

/-! ## Several needles -/

variable {needles : List Text}

/-- Trying several needles on each line finds nothing exactly if none of them occurs. -/
theorem firstLine_any_eq_zero_iff (oneLine : ∀ needle ∈ needles, '\n' ∉ needle) :
    firstLine (fun line => needles.any fun needle => occursIn needle line) text = 0 ↔
      ∀ needle ∈ needles, ¬needle <:+: text := by
  rw [firstLine_eq_zero_iff]
  constructor
  · intro nowhere needle listed occurs
    obtain ⟨line, member, onLine⟩ := (infix_iff_exists_line (oneLine needle listed) text).mp occurs
    have absent := List.any_eq_false.mp (nowhere line member) needle listed
    exact absent ((occursIn_iff needle line).mpr onLine)
  · intro nowhere line member
    refine List.any_eq_false.mpr fun needle listed onLine => ?_
    exact nowhere needle listed (((occursIn_iff needle line).mp onLine).trans
      (infix_of_mem_lines member))

/-- Trying several needles on each line finds the least of the lines that are found for the needles
one by one. -/
theorem isLeast_firstLine_any (oneLine : ∀ needle ∈ needles, '\n' ∉ needle)
    (found : firstLine (fun line => needles.any fun needle => occursIn needle line) text ≠ 0) :
    IsLeast {number | ∃ needle ∈ needles, needle <:+: text ∧ findLine text needle = number}
      (firstLine (fun line => needles.any fun needle => occursIn needle line) text) := by
  obtain ⟨⟨line, isLine, has⟩, least⟩ := isLeast_firstLine found
  -- A line that is found for one of the needles has this needle on it.
  have lower : ∀ needle ∈ needles, needle <:+: text →
      firstLine (fun line => needles.any fun needle => occursIn needle line) text ≤
        findLine text needle := by
    intro needle listed occurs
    obtain ⟨line, isLine, onLine⟩ := exists_isLine_findLine (oneLine needle listed) occurs
    exact least ⟨line, isLine, List.any_eq_true.mpr
      ⟨needle, listed, (occursIn_iff needle line).mpr onLine⟩⟩
  obtain ⟨needle, listed, onLine⟩ := List.any_eq_true.mp has
  have occurs : needle <:+: text :=
    ((occursIn_iff needle line).mp onLine).trans (infix_of_mem_lines isLine.mem_lines)
  have upper : findLine text needle ≤ _ :=
    (isLeast_firstLine (mt (findLine_eq_zero_iff (oneLine needle listed)).mp
      (not_not.mpr occurs))).2 ⟨line, isLine, onLine⟩
  refine ⟨⟨needle, listed, occurs, Nat.le_antisymm upper (lower needle listed occurs)⟩, ?_⟩
  rintro number ⟨other, alsoListed, alsoOccurs, rfl⟩
  exact lower other alsoListed alsoOccurs

end Text

/-! ## The entry point -/

namespace EntryPoint

theorem line_eq_firstLine (source : Text) :
    line source = firstLine (fun line => beginnings.any fun needle => Text.occursIn needle line)
      source :=
  rfl

theorem lineFeed_notMem_of_mem_beginnings : ∀ beginning ∈ beginnings, '\n' ∉ beginning := by
  decide

/-- The source has an entry point exactly when one of its lines has. -/
theorem occursIn_iff_line_ne_zero (source : Text) :
    occursIn source = true ↔ line source ≠ 0 := by
  rw [line_eq_firstLine, Ne, firstLine_any_eq_zero_iff lineFeed_notMem_of_mem_beginnings,
    occursIn, List.any_eq_true]
  simp only [Text.occursIn_iff, not_forall, not_not, exists_prop]

/-- The line of the entry point is the least of those on which its beginnings are found. -/
theorem isLeast_line {source : Text} (occurs : occursIn source = true) :
    IsLeast {number | ∃ beginning ∈ beginnings, beginning <:+: source ∧
      findLine source beginning = number} (line source) :=
  isLeast_firstLine_any lineFeed_notMem_of_mem_beginnings
    ((occursIn_iff_line_ne_zero source).mp occurs)

end EntryPoint

/-- **Searching line by line agrees with searching the text.** For a needle without line feeds the
line that is found is zero exactly when the needle does not occur, and otherwise one more than the
number of line feeds in front of its first occurrence. The source has an entry point exactly when
the line of the entry point is not zero, and then this line is the least of those that are found for
the beginnings that occur. A missing entry point is reported at line zero, whatever the source. -/
theorem line_search_agrees (source : Text) :
    (∀ needle, '\n' ∉ needle →
        (findLine source needle = 0 ↔ ¬needle <:+: source) ∧
          (needle <:+: source → ∃ offset, IsFirst needle source offset ∧
            findLine source needle = 1 + (source.take offset).count '\n')) ∧
      (EntryPoint.occursIn source = true ↔ EntryPoint.line source ≠ 0) ∧
      (EntryPoint.occursIn source = true →
        IsLeast {number | ∃ beginning ∈ EntryPoint.beginnings, beginning <:+: source ∧
          findLine source beginning = number} (EntryPoint.line source)) ∧
      ∀ diagnostic, diagnostic ∈ (compile source).errors ∨ diagnostic ∈ (compile source).warnings →
        diagnostic.kind = .missingEntryPoint → diagnostic.line = 0 := by
  refine ⟨fun needle oneLine => ⟨findLine_eq_zero_iff oneLine, fun occurs => ?_⟩,
    EntryPoint.occursIn_iff_line_ne_zero source, EntryPoint.isLeast_line, ?_⟩
  · obtain ⟨offset, isFirst⟩ := exists_isFirst occurs
    exact ⟨offset, isFirst, findLine_eq_lineAt oneLine isFirst.occurs isFirst.first⟩
  · intro diagnostic reported aboutEntry
    rcases eq_or_resolves_of_mem reported with rfl | resolves
    · rfl
    · exact absurd aboutEntry resolves.kind_ne

/-- One beginning occurs twice on the third line and the other in a comment on the second, which is
therefore the line of the entry point. In a source of blank lines it is missing. -/
theorem line_search_agrees_on_two_beginnings :
    (∃ offset, IsFirst "int main(".toList "\n// void main(\nint main(int main() {}".toList offset ∧
        3 = 1 + ("\n// void main(\nint main(int main() {}".toList.take offset).count '\n') ∧
      IsLeast {number | ∃ beginning ∈ EntryPoint.beginnings,
        beginning <:+: "\n// void main(\nint main(int main() {}".toList ∧
          findLine "\n// void main(\nint main(int main() {}".toList beginning = number} 2 ∧
      ∃ diagnostic ∈ (compile "\n".toList).errors,
        diagnostic.kind = .missingEntryPoint ∧ diagnostic.line = 0 := by
  obtain ⟨search, -, least, -⟩ :=
    line_search_agrees "\n// void main(\nint main(int main() {}".toList
  have occurs : "int main(".toList <:+: "\n// void main(\nint main(int main() {}".toList :=
    (occursIn_iff _ _).mp (by decide)
  obtain ⟨-, -, -, unplaced⟩ := line_search_agrees "\n".toList
  have missing : Diagnostic.missingEntryPoint 0 ∈ (compile "\n".toList).errors := by decide
  exact ⟨(search "int main(".toList (by decide)).2 occurs, least (by decide),
    _, missing, rfl, unplaced _ (.inl missing) rfl⟩

end ShallowCpp
