import Mathlib.Data.Nat.Find
import ShallowCpp.Proofs.ThreeAddress.Assignment
import ShallowCpp.ThreeAddress.Lower

/-!
# Assignment signs

An equals sign of an expression assigns if it stands outside of parentheses and brackets and belongs
to no comparison. What is a comparison depends on the neighbours: `==` and `!=` always are, and `<=`
and `>=` are unless the text in front ends with an operator that combines with the sign, as in
`<<=`. Blanks may stand between such an operator and the sign.

The search passes over the characters one after the other and keeps the balance of what it has
passed. At each of them it either makes the assignment of a sign or goes on, so it ends at the first
sign that assigns (`assigns_at_first_sign`). An expression without one is evaluated for its effect.
-/

set_option autoImplicit false

namespace ShallowCpp.ThreeAddress.Assignment

open Text

/-! ## What an assignment sign is -/

/-- The character opens parentheses or brackets. -/
def isOpening (char : Char) : Bool :=
  char == '(' || char == '['

/-- The character closes parentheses or brackets. -/
def isClosing (char : Char) : Bool :=
  char == ')' || char == ']'

/-- As many parentheses and brackets are opened in the text as are closed. -/
def Balanced (text : Text) : Prop :=
  text.countP isOpening = text.countP isClosing

instance (text : Text) : Decidable (Balanced text) :=
  inferInstanceAs (Decidable (_ = _))

/-- The text consists of a stem and an operator that combines with an equals sign. -/
structure Combines (text stem operator : Text) : Prop where
  isOperator : operator ∈ ["<<", ">>", "+", "-", "*", "/", "%", "&", "|", "^"].map String.toList
  eq_append : text = stem ++ operator
  ne_nil : stem ≠ []

/-- An equals sign between the two texts assigns. -/
structure IsSign (before behind : Text) : Prop where
  balanced : Balanced before
  behind_ne : behind.head? ≠ some '='
  before_ne : before.getLast? ≠ some '=' ∧ before.getLast? ≠ some '!'
  combines_or : (∃ stem operator, Combines (trimEnd before) stem operator) ∨
    before.getLast? ≠ some '<' ∧ before.getLast? ≠ some '>'

/-- The character at the offset is an equals sign that assigns. -/
def SignAt (expression : Text) (offset : Nat) : Prop :=
  expression[offset]? = some '=' ∧
    IsSign (expression.take offset) (expression.drop (offset + 1))

/-- An equals sign between the two texts belongs to a comparison by its neighbours alone: it is next
to another one, behind an exclamation mark, or behind a single angle bracket. -/
def IsCompared (before behind : Text) : Prop :=
  behind.head? = some '=' ∨ before.getLast? = some '=' ∨ before.getLast? = some '!' ∨
    ∃ front, ∃ mark ∈ ['<', '>'], before = front ++ [mark] ∧ front.getLast? ≠ some mark

/-! ## What a sign makes -/

/-- A text ends with at most one operator. -/
theorem Combines.unique {text stem operator stem' operator' : Text}
    (combines : Combines text stem operator) (combines' : Combines text stem' operator') :
    stem = stem' ∧ operator = operator' := by
  have apart : ∀ operator ∈ compoundOperators, ∀ other ∈ compoundOperators,
      operator <:+ other → operator = other := by decide
  have same : stem ++ operator = stem' ++ operator' :=
    combines.eq_append.symm.trans combines'.eq_append
  have one : operator = operator' := by
    rcases List.suffix_or_suffix_of_suffix ⟨stem, rfl⟩ ⟨stem', same.symm⟩ with ends | ends
    · exact apart _ combines.isOperator _ combines'.isOperator ends
    · exact (apart _ combines'.isOperator _ combines.isOperator ends).symm
  subst one
  exact ⟨List.append_cancel_right same, rfl⟩

theorem combines_of_compoundOperator? {left operator : Text}
    (found : compoundOperator? left = some operator) : ∃ stem, Combines left stem operator := by
  have fits := List.find?_some found
  obtain ⟨ends, longer⟩ := Bool.and_eq_true_iff.mp fits
  obtain ⟨stem, rfl⟩ := List.isSuffixOf_iff_suffix.mp ends
  refine ⟨stem, List.mem_of_find?_eq_some found, rfl, ?_⟩
  rintro rfl
  simp at longer

theorem compoundOperator?_of_combines {left stem operator : Text}
    (combines : Combines left stem operator) : compoundOperator? left = some operator := by
  have present : (compoundOperator? left).isSome = true := by
    refine List.find?_isSome.mpr ⟨operator, combines.isOperator, ?_⟩
    have longer := List.length_pos_iff.mpr combines.ne_nil
    simp [combines.eq_append, longer]
  obtain ⟨other, found⟩ := Option.isSome_iff_exists.mp present
  obtain ⟨stem', combines'⟩ := combines_of_compoundOperator? found
  rw [found, (combines.unique combines').2]

theorem compoundOperator?_eq_none {left : Text}
    (without : ∀ stem operator, ¬ Combines left stem operator) : compoundOperator? left = none := by
  cases found : compoundOperator? left with
  | none => rfl
  | some operator =>
    obtain ⟨stem, combines⟩ := combines_of_compoundOperator? found
    exact absurd combines (without stem operator)

variable {before behind stem operator : Text}

theorem IsSign.isEquality (sign : IsSign before behind) :
    Assignment.isEquality before behind = false := by
  simp [Assignment.isEquality, sign.behind_ne, sign.before_ne]

/-- Behind an operator a sign makes a compound assignment, spelled out. -/
theorem IsSign.at?_of_combines (sign : IsSign before behind)
    (combines : Combines (trimEnd before) stem operator) :
    at? before behind =
      some ⟨trim stem, trim stem ++ [' '] ++ operator ++ [' '] ++ trim behind⟩ := by
  have target : (trimEnd before).take ((trimEnd before).length - operator.length) = stem := by
    rw [combines.eq_append, List.length_append, Nat.add_sub_cancel, List.take_left]
  simp only [at?, sign.isEquality, compoundOperator?_of_combines combines, target]
  rfl

/-- Without an operator in front a sign makes a plain assignment. -/
theorem IsSign.at?_of_not_combines (sign : IsSign before behind)
    (without : ∀ stem operator, ¬ Combines (trimEnd before) stem operator) :
    at? before behind = some ⟨trimEnd before, trim behind⟩ := by
  have noOrdering : isOrdering before = false := by
    rcases sign.combines_or with ⟨stem, operator, combines⟩ | ⟨less, greater⟩
    · exact absurd combines (without stem operator)
    · simp [isOrdering, less, greater]
  simp only [at?, sign.isEquality, compoundOperator?_eq_none without, noOrdering]
  rfl

theorem IsSign.isSome_at? (sign : IsSign before behind) : (at? before behind).isSome = true := by
  by_cases combined : ∃ stem operator, Combines (trimEnd before) stem operator
  · obtain ⟨stem, operator, combines⟩ := combined
    rw [sign.at?_of_combines combines]
    rfl
  · push Not at combined
    rw [sign.at?_of_not_combines combined]
    rfl

/-- Outside of parentheses and brackets, only signs that assign make an assignment. -/
theorem isSign_of_at? {assignment : Assignment} (balanced : Balanced before)
    (made : at? before behind = some assignment) : IsSign before behind := by
  simp only [at?] at made
  split at made
  next => cases made
  next noEquality =>
    obtain ⟨⟨single, noSign⟩, noMark⟩ : (behind.head? ≠ some '=' ∧ before.getLast? ≠ some '=') ∧
        before.getLast? ≠ some '!' := by simpa [Assignment.isEquality] using noEquality
    refine ⟨balanced, single, ⟨noSign, noMark⟩, ?_⟩
    split at made
    next operator found =>
      obtain ⟨stem, combines⟩ := combines_of_compoundOperator? found
      exact .inl ⟨stem, operator, combines⟩
    next =>
      split at made
      next => cases made
      next noOrdering => exact .inr (by simpa [isOrdering] using noOrdering)

instance (before behind : Text) : Decidable (IsSign before behind) :=
  decidable_of_iff (Balanced before ∧ (at? before behind).isSome = true)
    ⟨fun ⟨balanced, made⟩ => isSign_of_at? balanced (Option.eq_some_of_isSome made),
      fun sign => ⟨sign.balanced, sign.isSome_at?⟩⟩

instance (expression : Text) (offset : Nat) : Decidable (SignAt expression offset) :=
  inferInstanceAs (Decidable (_ ∧ _))

/-! ## The search -/

/-- How many more parentheses and brackets are opened in the text than are closed. -/
def balance (text : Text) : Int :=
  text.countP isOpening - text.countP isClosing

theorem balance_eq_zero_iff {text : Text} : balance text = 0 ↔ Balanced text := by
  simp only [balance, Balanced]
  omega

theorem balance_concat (text : Text) (char : Char) :
    balance (text ++ [char]) =
      balance text + [char].countP isOpening - [char].countP isClosing := by
  simp only [balance, List.countP_append]
  omega

theorem balance_of_notMem_marks {lead : Text} (plain : ∀ char ∈ lead, char ∉ "()[]=".toList) :
    balance lead = 0 := by
  have opensNone : lead.countP isOpening = 0 := by
    refine List.countP_eq_zero.mpr fun char member opens => plain char member ?_
    have opening : char = '(' ∨ char = '[' := by simpa [isOpening] using opens
    rcases opening with rfl | rfl <;> decide
  have closesNone : lead.countP isClosing = 0 := by
    refine List.countP_eq_zero.mpr fun char member closes => plain char member ?_
    have closing : char = ')' ∨ char = ']' := by simpa [isClosing] using closes
    rcases closing with rfl | rfl <;> decide
  rw [balance, opensNone, closesNone]
  rfl

/-- The search stops at a sign that assigns. -/
theorem IsSign.find?_eq (sign : IsSign before behind) :
    find? (balance before) before ('=' :: behind) = at? before behind := by
  obtain ⟨assignment, made⟩ := Option.isSome_iff_exists.mp sign.isSome_at?
  rw [find?, if_neg (by decide), if_neg (by decide),
    if_pos ⟨rfl, balance_eq_zero_iff.mpr sign.balanced⟩, made]

/-- The search passes over any other character and keeps the balance. -/
theorem find?_cons_of_not_isSign {char : Char} (passes : char = '=' → ¬ IsSign before behind) :
    find? (balance before) before (char :: behind) =
      find? (balance (before ++ [char])) (before ++ [char]) behind := by
  rw [find?, balance_concat]
  split
  next opens =>
    have kinds : isOpening char = true ∧ isClosing char = false := by
      rcases opens with rfl | rfl <;> decide
    simp [kinds]
  next opensNone =>
    have notOpening : isOpening char = false := by simpa [isOpening] using opensNone
    split
    next closes =>
      have closing : isClosing char = true := by simpa [isClosing] using closes
      simp [notOpening, closing]
    next closesNone =>
      have notClosing : isClosing char = false := by simpa [isClosing] using closesNone
      simp only [notOpening, notClosing, List.countP_singleton]
      split
      next sign =>
        obtain ⟨rfl, level⟩ := sign
        cases made : at? before behind with
        | none => simp
        | some assignment =>
          exact absurd (isSign_of_at? (balance_eq_zero_iff.mp level) made) (passes rfl)
      next => simp

/-- The search makes the assignment of the first sign that assigns. -/
theorem find?_of_first {left right : Text} (sign : IsSign (before ++ left) right)
    (first : ∀ left' right', left ++ '=' :: right = left' ++ '=' :: right' →
      left'.length < left.length → ¬ IsSign (before ++ left') right') :
    find? (balance before) before (left ++ '=' :: right) = at? (before ++ left) right := by
  induction left generalizing before with
  | nil =>
    rw [List.append_nil] at sign ⊢
    exact sign.find?_eq
  | cons char others ih =>
    have passes : char = '=' → ¬ IsSign before (others ++ '=' :: right) := by
      rintro rfl
      have earliest := first [] (others ++ '=' :: right) rfl (by simp)
      rwa [List.append_nil] at earliest
    rw [List.append_cons before] at sign ⊢
    rw [List.cons_append, find?_cons_of_not_isSign passes]
    refine ih sign fun left' right' cut shorter => ?_
    have later := first (char :: left') right' (by simp [cut]) (by simpa using shorter)
    rwa [List.append_cons] at later

/-- The search finds nothing in a text without a sign that assigns. -/
theorem find?_eq_none {text : Text}
    (without : ∀ left right, text = left ++ '=' :: right → ¬ IsSign (before ++ left) right) :
    find? (balance before) before text = none := by
  induction text generalizing before with
  | nil => rfl
  | cons char rest ih =>
    have passes : char = '=' → ¬ IsSign before rest := by
      rintro rfl
      have here := without [] rest rfl
      rwa [List.append_nil] at here
    rw [find?_cons_of_not_isSign passes]
    refine ih fun left right cut => ?_
    have later := without (char :: left) right (by rw [cut, List.cons_append])
    rwa [List.append_cons] at later

/-! ## Offsets -/

variable {expression : Text} {offset : Nat}

theorem SignAt.eq_append (sign : SignAt expression offset) :
    expression = expression.take offset ++ '=' :: expression.drop (offset + 1) := by
  obtain ⟨inside, here⟩ := List.getElem?_eq_some_iff.mp sign.1
  rw [← here, ← List.drop_eq_getElem_cons inside, List.take_append_drop]

theorem signAt_of_isSign {left right : Text} (sign : IsSign left right) :
    SignAt (left ++ '=' :: right) left.length := by
  have behind : (left ++ '=' :: right).drop (left.length + 1) = right := by
    rw [← List.drop_drop, List.drop_left, List.drop_succ_cons, List.drop_zero]
  refine ⟨by simp, ?_⟩
  rwa [List.take_left, behind]

theorem ofExpression?_of_first (sign : SignAt expression offset)
    (first : ∀ earlier < offset, ¬ SignAt expression earlier) :
    ofExpression? expression = at? (expression.take offset) (expression.drop (offset + 1)) := by
  have cut := sign.eq_append
  have found : find? (balance []) [] expression =
      at? (expression.take offset) (expression.drop (offset + 1)) := by
    nth_rewrite 1 [cut]
    refine find?_of_first sign.2 fun left' right' cut' shorter isSign => ?_
    have bound : left'.length < offset :=
      Nat.lt_of_lt_of_le shorter (List.length_take_le offset expression)
    refine first left'.length bound ?_
    rw [cut, cut']
    exact signAt_of_isSign isSign
  exact found

theorem ofExpression?_eq_none (without : ∀ offset, ¬ SignAt expression offset) :
    ofExpression? expression = none := by
  have passed : find? (balance []) [] expression = none := by
    refine find?_eq_none fun left right cut isSign => without left.length ?_
    rw [cut]
    exact signAt_of_isSign isSign
  exact passed

/-- An expression with a sign that assigns has a first one. -/
theorem exists_first (sign : SignAt expression offset) :
    ∃ first, SignAt expression first ∧ ∀ earlier < first, ¬ SignAt expression earlier := by
  have present : ∃ offset, SignAt expression offset := ⟨offset, sign⟩
  exact ⟨Nat.find present, Nat.find_spec present, fun _ => Nat.find_min present⟩

theorem ofExpression?_eq_none_iff :
    ofExpression? expression = none ↔ ∀ offset, ¬ SignAt expression offset := by
  refine ⟨fun passed offset sign => ?_, ofExpression?_eq_none⟩
  obtain ⟨first, signAt, earliest⟩ := exists_first sign
  have made := signAt.2.isSome_at?
  rw [← ofExpression?_of_first signAt earliest, passed] at made
  cases made

/-! ## Comparisons -/

/-- Behind a single angle bracket there is no operator. -/
theorem not_combines_of_single {front : Text} {mark : Char} (isMark : mark ∈ ['<', '>'])
    (single : front.getLast? ≠ some mark) :
    ¬ Combines (trimEnd (front ++ [mark])) stem operator := by
  intro combines
  have marks : mark = '<' ∨ mark = '>' := by simpa using isMark
  have visible : isBlank mark = false := by rcases marks with rfl | rfl <;> decide
  have doubled : ∀ operator ∈ compoundOperators,
      [mark] <:+ operator → operator = [mark, mark] := by
    rcases marks with rfl | rfl <;> decide
  have cut := combines.eq_append
  rw [trimEnd_concat visible] at cut
  have nonempty : ∀ operator ∈ compoundOperators, [mark].length ≤ operator.length := by
    simp [compoundOperators]
  have ends : [mark] <:+ operator :=
    List.suffix_of_suffix_length_le ⟨front, rfl⟩ ⟨stem, cut.symm⟩
      (nonempty operator combines.isOperator)
  rw [doubled operator combines.isOperator ends, List.append_cons stem] at cut
  obtain rfl : front = stem ++ [mark] := List.append_cancel_right cut
  exact single List.getLast?_concat

/-- A sign that is part of a comparison does not assign. -/
theorem IsCompared.not_isSign (compared : IsCompared before behind) : ¬ IsSign before behind := by
  intro sign
  rcases compared with doubled | doubled | negated | ⟨front, mark, isMark, rfl, single⟩
  · exact sign.behind_ne doubled
  · exact sign.before_ne.1 doubled
  · exact sign.before_ne.2 negated
  · rcases sign.combines_or with ⟨stem, operator, combines⟩ | ⟨less, greater⟩
    · exact not_combines_of_single isMark single combines
    · have last : mark = '<' ∨ mark = '>' := by simpa using isMark
      rcases last with rfl | rfl
      · exact less (by simp)
      · exact greater (by simp)

/-- **An expression assigns at its first assignment sign.** Without one it makes no assignment.
Otherwise the text in front of the first sign is the target and the text behind it the value, unless
an operator stands in front: then the target is what comes before the operator, and the value is
target, operator and right side, set apart by spaces. An expression whose equals signs outside of
parentheses and brackets are all parts of comparisons is evaluated, and takes no temporary. -/
theorem assigns_at_first_sign (expression : Text) :
    (ofExpression? expression = none ↔ ∀ offset, ¬ SignAt expression offset) ∧
      (∀ offset, SignAt expression offset → (∀ earlier < offset, ¬ SignAt expression earlier) →
        (∀ stem operator, Combines (trimEnd (expression.take offset)) stem operator →
          ofExpression? expression = some ⟨trim stem, trim stem ++ [' '] ++ operator ++ [' '] ++
            trim (expression.drop (offset + 1))⟩) ∧
        ((∀ stem operator, ¬ Combines (trimEnd (expression.take offset)) stem operator) →
          ofExpression? expression =
            some ⟨trimEnd (expression.take offset), trim (expression.drop (offset + 1))⟩)) ∧
      ((∀ offset, expression[offset]? = some '=' → Balanced (expression.take offset) →
          IsCompared (expression.take offset) (expression.drop (offset + 1))) →
        ∀ next, ofStatement next (.expression expression) = ([.evaluate expression], next)) := by
  refine ⟨ofExpression?_eq_none_iff, ?_, ?_⟩
  · intro offset sign first
    rw [ofExpression?_of_first sign first]
    exact ⟨fun stem operator => sign.2.at?_of_combines, sign.2.at?_of_not_combines⟩
  · intro compared next
    have notFound : ofExpression? expression = none := by
      refine ofExpression?_eq_none fun offset sign => ?_
      exact (compared offset sign.1 sign.2.balanced).not_isSign sign.2
    rw [ofStatement, notFound]

/-- The sign between brackets is passed over, and the one behind `<<` assigns; in `(a=b)<=c` none
does. -/
theorem assigns_at_first_sign_of_shift :
    ofExpression? "a[i=1] <<= n <= 2".toList =
        some ⟨"a[i=1]".toList, "a[i=1] << n <= 2".toList⟩ ∧
      ofStatement 5 (.expression "(a=b)<=c".toList) = ([.evaluate "(a=b)<=c".toList], 5) := by
  constructor
  · have shift : Combines (trimEnd ("a[i=1] <<= n <= 2".toList.take 9)) "a[i=1] ".toList
        "<<".toList := ⟨by decide, by decide, by decide⟩
    exact ((assigns_at_first_sign "a[i=1] <<= n <= 2".toList).2.1 9 (by decide) (by decide)).1
      _ _ shift
  · refine (assigns_at_first_sign "(a=b)<=c".toList).2.2 ?_ 5
    intro offset here balanced
    obtain ⟨inside, -⟩ := List.getElem?_eq_some_iff.mp here
    have outside : ∀ offset < 8, "(a=b)<=c".toList[offset]? = some '=' →
        Balanced ("(a=b)<=c".toList.take offset) → offset = 6 := by decide
    obtain rfl := outside offset inside here balanced
    exact .inr (.inr (.inr ⟨"(a=b)".toList, '<', by decide, rfl, by decide⟩))

end ShallowCpp.ThreeAddress.Assignment
