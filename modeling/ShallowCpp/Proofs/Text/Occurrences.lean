import Mathlib.Data.List.Basic
import ShallowCpp.Proofs.Shape.Steps
import ShallowCpp.Proofs.Text.Lines

/-!
# Counting occurrences

Counting the occurrences of a needle from the left is scanning for the needle itself
(`occurrences_eq`). A needle that starts with a character which is not blank does not start among
blanks, so blanks in front of a text change neither whether such a needle occurs nor how often
(`occurrences_append`).
-/

set_option autoImplicit false

namespace ShallowCpp

open Text

/-! ## Scanning for a needle -/

namespace Shape

theorem reads_literal {needle : Text} (nonempty : needle ≠ []) :
    (literal needle).Reads fun _ written => written = needle where
  eq_some_iff := by
    intro text behind value
    simp [literal, List.isPrefixOf?_eq_some_iff_append_eq, eq_comm]
  ne_nil := by
    rintro value written rfl
    exact nonempty

theorem length_spansFrom_literal {needle : Text} (nonempty : needle ≠ []) (offset skip : Nat)
    (text : Text) :
    (spansFrom (literal needle) offset skip text).length = occurrencesFrom needle skip text := by
  induction text generalizing offset skip with
  | nil => rfl
  | cons char rest ih =>
    cases skip with
    | succ skip => rw [spansFrom, occurrencesFrom, ih]
    | zero =>
      rw [spansFrom, occurrencesFrom]
      split
      next refused =>
        rw [ih, if_neg]
        intro starts
        obtain ⟨behind, cut⟩ := List.isPrefixOf_iff_prefix.mp starts
        have read : literal needle (needle ++ behind) = some ((), behind) :=
          (reads_literal nonempty).eq_some rfl behind
        rw [cut, refused] at read
        cases read
      next value behind read =>
        obtain ⟨written, rfl, cut⟩ := (reads_literal nonempty).eq_some_iff.mp read
        have starts : written.isPrefixOf (char :: rest) = true := by
          rw [cut]
          exact List.isPrefixOf_iff_prefix.mpr (List.prefix_append written behind)
        have size : (char :: rest).length - behind.length = written.length := by
          rw [cut, List.length_append, Nat.add_sub_cancel]
        rw [if_pos starts, List.length_cons, ih, size]

/-- The occurrences of a text are counted by a scan for it. -/
theorem occurrences_eq {needle : Text} (nonempty : needle ≠ []) (text : Text) :
    occurrences needle text = ((literal needle).spans text).length := by
  rw [occurrences, if_neg (by simpa using nonempty), spans, length_spansFrom_literal nonempty]

end Shape

/-! ## Needles behind blanks -/

namespace Text

/-- The needle has a first character, and this is not blank. -/
structure StartsVisibly (needle : Text) : Prop where
  ne_nil : needle ≠ []
  endsBlank : ∀ rest, EndsRun isBlank (needle ++ rest)

theorem startsVisibly_cons {char : Char} (visible : isBlank char = false) (rest : Text) :
    StartsVisibly (char :: rest) where
  ne_nil := List.cons_ne_nil char rest
  endsBlank := fun _ => endsRun_cons.mpr visible

theorem Word.startsVisibly_append {word : Text} (isWord : Word word) (rest : Text) :
    StartsVisibly (word ++ rest) where
  ne_nil := List.append_ne_nil_of_left_ne_nil isWord.ne_nil rest
  endsBlank := by
    intro behind
    rw [List.append_assoc]
    exact isWord.endsBlank (rest ++ behind)

theorem Word.startsVisibly {word : Text} (isWord : Word word) : StartsVisibly word where
  ne_nil := isWord.ne_nil
  endsBlank := isWord.endsBlank

namespace StartsVisibly

variable {needle blanks : Text} (visible : StartsVisibly needle)

include visible

theorem not_prefix {rest : Text} {char : Char} (blank : isBlank char = true) :
    ¬needle <+: char :: rest := by
  rintro ⟨behind, cut⟩
  have ends := visible.endsBlank behind
  rw [cut, endsRun_cons, blank] at ends
  cases ends

theorem infix_append_iff (blank : Blank blanks) (text : Text) :
    needle <:+: blanks ++ text ↔ needle <:+: text := by
  induction blanks with
  | nil => rfl
  | cons char blanks ih =>
    obtain ⟨first, others⟩ := List.forall_mem_cons.mp blank
    rw [List.cons_append, List.infix_cons_iff, or_iff_right (visible.not_prefix first), ih others]

theorem not_infix (blank : Blank blanks) : ¬needle <:+: blanks := by
  rw [← List.append_nil blanks, visible.infix_append_iff blank, List.infix_nil]
  exact visible.ne_nil

theorem refusesBlanks_literal : (Shape.literal needle).RefusesBlanks := by
  apply (Shape.reads_literal visible.ne_nil).refusesBlanks
  rintro value written rfl
  exact visible.endsBlank

/-- Blanks in front do not change how often a needle occurs. -/
theorem occurrences_append (blank : Blank blanks) (text : Text) :
    occurrences needle (blanks ++ text) = occurrences needle text := by
  rw [Shape.occurrences_eq visible.ne_nil,
    Shape.spans_append_blank visible.refusesBlanks_literal blank, List.length_map,
    Shape.occurrences_eq visible.ne_nil]

end StartsVisibly

end Text

end ShallowCpp
