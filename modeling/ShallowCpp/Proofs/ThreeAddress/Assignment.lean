import Mathlib.Data.List.Basic
import ShallowCpp.Proofs.Text.Lines
import ShallowCpp.Proofs.Text.Trim
import ShallowCpp.ThreeAddress.Assignment

/-!
# Assignments that are found

An assignment is made by an equals sign of the expression, and its target is the text in front of
the sign without blanks and without the operator of a compound assignment (`exists_at?_of_find?`,
`exists_target_append`). Text without parentheses, brackets and equals signs is passed over by the
search.

A target may hold equals signs: those that were passed over as parts of a comparison, or between
parentheses. But it does not go on like an assignment. If it starts with a word, a space and an
equals sign, then another equals sign follows, since otherwise the first one would have made the
assignment (`target_ne_append_sign`).
-/

set_option autoImplicit false

namespace ShallowCpp.ThreeAddress.Assignment

open Text

/-! ## What an equals sign makes -/

/-- An assignment that is found is made by some equals sign of the text. -/
theorem exists_at?_of_find? {balance : Int} {before text : Text} {assignment : Assignment}
    (found : find? balance before text = some assignment) :
    ∃ left right, before ++ text = left ++ '=' :: right ∧ at? left right = some assignment := by
  fun_induction find? balance before text with
  | case1 => cases found
  | case2 balance before char behind passed opens ih => simpa [passed] using ih found
  | case3 balance before char behind passed opensNone closes ih => simpa [passed] using ih found
  | case4 balance before char behind opensNone closesNone sign assignment' made =>
    obtain rfl := Option.some.inj found
    exact ⟨before, behind, by rw [sign.1], made⟩
  | case5 balance before char behind passed opensNone closesNone sign refused ih =>
    simpa [passed] using ih found
  | case6 balance before char behind passed opensNone closesNone noSign ih =>
    simpa [passed] using ih found

theorem compoundOperator?_eq_some {left operator : Text}
    (found : compoundOperator? left = some operator) :
    operator ∈ compoundOperators ∧ operator <:+ left := by
  have fits := List.find?_some found
  rw [Bool.and_eq_true] at fits
  exact ⟨List.mem_of_find?_eq_some found, List.isSuffixOf_iff_suffix.mp fits.1⟩

/-- What an equals sign can make: a compound assignment, spelled out, or a plain one. -/
theorem at?_cases {left right : Text} {assignment : Assignment}
    (made : at? left right = some assignment) :
    isEquality left right = false ∧
      ((∃ stem, ∃ operator ∈ compoundOperators, trimEnd left = stem ++ operator ∧
          assignment = ⟨trim stem, trim stem ++ [' '] ++ operator ++ [' '] ++ trim right⟩) ∨
        assignment = ⟨trimEnd left, trim right⟩) := by
  simp only [at?] at made
  split at made
  next => cases made
  next noEquality =>
    refine ⟨Bool.eq_false_iff.mpr noEquality, ?_⟩
    split at made
    next operator found =>
      obtain ⟨isOperator, stem, ends⟩ := compoundOperator?_eq_some found
      refine .inl ⟨stem, operator, isOperator, ends.symm, ?_⟩
      rw [← Option.some.inj made, ← ends, List.length_append, Nat.add_sub_cancel, List.take_left]
    next =>
      split at made
      next => cases made
      next => exact .inr (Option.some.inj made).symm

/-- The target is what stands in front of the sign, without blanks in front and without blanks and
an operator behind. -/
theorem exists_target_append {left right : Text} {assignment : Assignment}
    (made : at? left right = some assignment) :
    ∃ blanks tail, Blank blanks ∧ '=' ∉ tail ∧ left = blanks ++ (assignment.target ++ tail) := by
  have noSign : ∀ {blanks : Text}, Blank blanks → '=' ∉ blanks := fun blank => blank.notMem rfl
  have inOperators : ∀ operator ∈ compoundOperators, '=' ∉ operator := by decide
  obtain ⟨back, backBlank, cut⟩ := exists_trimEnd_append left
  obtain ⟨-, ⟨stem, operator, isOperator, ends, rfl⟩ | rfl⟩ := at?_cases made
  · obtain ⟨front, gap, frontBlank, gapBlank, around⟩ := exists_trim_append stem
    refine ⟨front, gap ++ (operator ++ back), frontBlank, ?_, ?_⟩
    · simp [noSign gapBlank, inOperators operator isOperator, noSign backBlank]
    · calc left = stem ++ operator ++ back := by rw [← ends, ← cut]
        _ = front ++ (trim stem ++ gap) ++ operator ++ back := by rw [← around]
        _ = _ := by simp
  · exact ⟨[], back, blank_nil, noSign backBlank, cut⟩

theorem lineFeed_notMem {text : Text} {assignment : Assignment} (oneLine : '\n' ∉ text)
    (found : ofExpression? text = some assignment) :
    '\n' ∉ assignment.target ∧ '\n' ∉ assignment.value := by
  obtain ⟨left, right, cut, made⟩ := exists_at?_of_find? found
  rw [List.nil_append] at cut
  obtain ⟨blanks, tail, -, -, around⟩ := exists_target_append made
  have inTarget : '\n' ∉ assignment.target := fun member => oneLine (by simp [cut, around, member])
  have inRight : '\n' ∉ trim right := fun member =>
    oneLine (by simp [cut, trim_subset right member])
  have inOperators : ∀ operator ∈ compoundOperators, '\n' ∉ operator := by decide
  refine ⟨inTarget, ?_⟩
  obtain ⟨-, ⟨stem, operator, isOperator, -, rfl⟩ | rfl⟩ := at?_cases made
  · simp [inTarget, inOperators operator isOperator, inRight]
  · exact inRight

/-! ## Where the search stops -/

/-- The search passes over text without parentheses, brackets and equals signs. -/
theorem find?_append {lead : Text} (plain : ∀ char ∈ lead, char ∉ "()[]=".toList) (balance : Int)
    (before rest : Text) :
    find? balance before (lead ++ rest) = find? balance (before ++ lead) rest := by
  induction lead generalizing before with
  | nil => rw [List.nil_append, List.append_nil]
  | cons char others ih =>
    obtain ⟨first, later⟩ := List.forall_mem_cons.mp plain
    obtain ⟨opens, closes, opensBracket, closesBracket, sign⟩ :
        char ≠ '(' ∧ char ≠ ')' ∧ char ≠ '[' ∧ char ≠ ']' ∧ char ≠ '=' := by simpa using first
    simp [find?, opens, closes, opensBracket, closesBracket, sign, ih later]

/-- The search passes over blanks and word characters. -/
theorem notMem_marks {char : Char} (passed : isBlank char = true ∨ Text.isWord char = true) :
    char ∉ "()[]=".toList := by
  have apart : "()[]=".toList.all (fun char => !isBlank char && !Text.isWord char) = true := by
    decide
  intro special
  obtain ⟨notBlank, notInWord⟩ : isBlank char = false ∧ Text.isWord char = false := by
    simpa using List.all_eq_true.mp apart char special
  simp [notBlank, notInWord] at passed

/-- No compound operator stands at the end of a word. -/
theorem compoundOperator?_of_word {name : Text} (isWord : Word name) (front : Text) :
    compoundOperator? (front ++ name) = none := by
  obtain ⟨others, char, rfl, inWord⟩ := isWord.exists_concat
  have lasts : ∀ operator ∈ compoundOperators, ∃ first last,
      operator = first ++ [last] ∧ Text.isWord last = false := by
    intro operator isOperator
    have known : ∀ operator ∈ compoundOperators,
        operator ≠ [] ∧ operator.all (fun char => !Text.isWord char) = true := by decide
    obtain ⟨nonempty, none⟩ := known operator isOperator
    refine ⟨_, _, (List.dropLast_concat_getLast nonempty).symm, ?_⟩
    simpa using List.all_eq_true.mp none _ (List.getLast_mem nonempty)
  apply List.find?_eq_none.mpr
  intro operator isOperator fits
  rw [Bool.and_eq_true] at fits
  obtain ⟨stem, ends⟩ := List.isSuffixOf_iff_suffix.mp fits.1
  obtain ⟨first, last, rfl, notInWord⟩ := lasts operator isOperator
  rw [← List.append_assoc, ← List.append_assoc] at ends
  obtain ⟨-, rfl⟩ := List.append_singleton_inj.mp ends
  rw [inWord] at notInWord
  cases notInWord

/-- Behind a word and a space an equals sign assigns, unless another one follows. -/
theorem isSome_at?_of_word {name : Text} (isWord : Word name) (front : Text) {right : Text}
    (noSign : right.head? ≠ some '=') : (at? (front ++ name ++ [' ']) right).isSome = true := by
  have noEquality : isEquality (front ++ name ++ [' ']) right = false := by
    simp [isEquality, noSign]
  have noOrdering : isOrdering (front ++ name ++ [' ']) = false := by simp [isOrdering]
  have trimmed : trimEnd (front ++ name ++ [' ']) = front ++ name := by
    rw [trimEnd_append_blank blank_space, isWord.trimEnd_append]
  simp only [at?, noEquality, noOrdering, trimmed, compoundOperator?_of_word isWord]
  rfl

/-- **A target does not go on like an assignment** to a word. -/
theorem target_ne_append_sign {expression : Text} {assignment : Assignment}
    (found : ofExpression? expression = some assignment) {name tail : Text} (isWord : Word name)
    (noSign : tail.head? ≠ some '=') : assignment.target ≠ name ++ ' ' :: '=' :: tail := by
  intro same
  obtain ⟨left, right, cut, made⟩ := exists_at?_of_find? found
  obtain ⟨blanks, back, blank, backFree, rfl⟩ := exists_target_append made
  have text : expression = blanks ++ name ++ [' '] ++ '=' :: (tail ++ back ++ '=' :: right) := by
    simpa [same] using cut
  have plain : ∀ char ∈ blanks ++ name ++ [' '], char ∉ "()[]=".toList := by
    intro char member
    apply notMem_marks
    rcases List.mem_append.mp member with inFront | inSpace
    · exact (List.mem_append.mp inFront).imp (blank char) (isWord.isWord char)
    · exact .inl (blank_space char inSpace)
  -- The sign behind the word is the first one that the search comes to.
  cases first : at? (blanks ++ name ++ [' ']) (tail ++ back ++ '=' :: right) with
  | some other =>
    rw [ofExpression?, text, find?_append plain, find?, List.nil_append, if_neg (by decide),
      if_neg (by decide), if_pos (by decide), first] at found
    obtain rfl : other = assignment := Option.some.inj found
    obtain ⟨blanks', back', -, -, around⟩ := exists_target_append first
    refine plain '=' ?_ (by decide)
    rw [around, same]
    simp
  | none =>
    have followed : (tail ++ back ++ '=' :: right).head? = some '=' := by
      by_contra noOther
      have assigns := isSome_at?_of_word isWord blanks noOther
      rw [first] at assigns
      cases assigns
    cases tail with
    | cons char others => exact noSign followed
    | nil =>
      cases back with
      | cons char others =>
        obtain rfl : char = '=' := by simpa using followed
        exact backFree List.mem_cons_self
      | nil =>
        have noEquality := (at?_cases made).1
        simp [isEquality, same] at noEquality

end ShallowCpp.ThreeAddress.Assignment
