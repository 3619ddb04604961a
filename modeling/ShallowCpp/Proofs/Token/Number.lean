import ShallowCpp.Proofs.Shape.Parts
import ShallowCpp.Token.Number

/-!
# The grammar of numbers

A hexadecimal number is a mark and digits. A decimal number is a mantissa with an exponent behind
it, which may be missing. A mantissa has digits in front of its point, or behind it, or no point at
all. Neither a point nor the mark of an exponent is a digit, so the digits in front of either are a
run that ends there, and a number is taken apart by its runs of digits in one way only
(`isNumber_iff`).
-/

set_option autoImplicit false

namespace ShallowCpp.Token

open Text

/-! ## The grammar -/

/-- The text is made of decimal digits, one at least. -/
structure Digits (text : Text) : Prop where
  ne_nil : text ≠ []
  isDigit : ∀ char ∈ text, char.isDigit = true

/-- The text is made of hexadecimal digits, one at least. -/
structure HexDigits (text : Text) : Prop where
  ne_nil : text ≠ []
  isHexDigit : ∀ char ∈ text, Text.isHexDigit char = true

/-- The ways to write an exponent, which may be missing. -/
inductive Exponent : Text → Prop where
  | absent : Exponent []
  | unsigned {mark : Char} {digits : Text} : mark = 'e' ∨ mark = 'E' → Digits digits →
      Exponent (mark :: digits)
  | signed {mark sign : Char} {digits : Text} : mark = 'e' ∨ mark = 'E' → sign = '+' ∨ sign = '-' →
      Digits digits → Exponent (mark :: sign :: digits)

/-- The ways to write what stands in front of an exponent. -/
inductive Mantissa : Text → Prop where
  | whole {digits : Text} : Digits digits → Mantissa digits
  | pointed {digits fraction : Text} : Digits digits → (∀ char ∈ fraction, char.isDigit = true) →
      Mantissa (digits ++ '.' :: fraction)
  | fraction {digits : Text} : Digits digits → Mantissa ('.' :: digits)

/-- The ways to write a number. -/
inductive Number : Text → Prop where
  | decimal {mantissa exponent : Text} : Mantissa mantissa → Exponent exponent →
      Number (mantissa ++ exponent)
  | hexadecimal {mark : Char} {digits : Text} : mark = 'x' ∨ mark = 'X' → HexDigits digits →
      Number ('0' :: mark :: digits)

/-! ## Digits -/

variable {text : Text}

theorem isDigits_iff : isDigits text = true ↔ Digits text := by
  rw [isDigits, Bool.and_eq_true, Bool.not_eq_true', List.isEmpty_eq_false_iff, List.all_eq_true]
  constructor
  · rintro ⟨nonempty, within⟩
    exact ⟨nonempty, within⟩
  · intro digits
    exact ⟨digits.ne_nil, digits.isDigit⟩

theorem Digits.exists_cons (digits : Digits text) :
    ∃ first others, text = first :: others ∧ first.isDigit = true := by
  obtain ⟨first, others, rfl⟩ := List.exists_cons_of_ne_nil digits.ne_nil
  exact ⟨first, others, rfl, digits.isDigit first List.mem_cons_self⟩

/-- The digits at the front of a text, if there are any. -/
theorem digits_takeWhile {first : Char} (isDigit : first.isDigit = true) (rest : Text) :
    Digits (first :: rest.takeWhile Char.isDigit) where
  ne_nil := List.cons_ne_nil first _
  isDigit := List.forall_mem_cons.mpr ⟨isDigit, fun _ => List.mem_takeWhile_imp⟩

/-! ## Exponents -/

theorem isExponentOrEnd_iff : isExponentOrEnd text = true ↔ Exponent text := by
  constructor
  · intro accepted
    cases text with
    | nil => exact .absent
    | cons mark rest =>
      cases rest with
      | nil => simp [isExponentOrEnd] at accepted
      | cons sign digits =>
        simp only [isExponentOrEnd, Bool.and_eq_true, Bool.or_eq_true, beq_iff_eq] at accepted
        obtain ⟨marked, accepted⟩ := accepted
        split at accepted
        next isSign => exact .signed marked isSign (isDigits_iff.mp accepted)
        next => exact .unsigned marked (isDigits_iff.mp accepted)
  · intro exponent
    cases exponent with
    | absent => rfl
    | unsigned marked digits =>
      obtain ⟨first, others, rfl, isDigit⟩ := digits.exists_cons
      have unsigned : ¬(first = '+' ∨ first = '-') := by
        rintro (rfl | rfl)
        · cases isDigit
        · cases isDigit
      simp [isExponentOrEnd, marked, unsigned, isDigits_iff.mpr digits]
    | signed marked isSign digits =>
      simp [isExponentOrEnd, marked, isSign, isDigits_iff.mpr digits]

/-- A run of digits ends where an exponent starts, also if it is missing. -/
theorem Exponent.endsRun (exponent : Exponent text) : EndsRun Char.isDigit text := by
  have markEnds : ∀ {mark : Char}, mark = 'e' ∨ mark = 'E' → mark.isDigit = false := by
    rintro mark (rfl | rfl)
    · rfl
    · rfl
  cases exponent with
  | absent =>
    intro char first
    cases first
  | unsigned marked _ => exact endsRun_cons.mpr (markEnds marked)
  | signed marked _ _ => exact endsRun_cons.mpr (markEnds marked)

/-! ## Decimal numbers -/

/-- Behind the first digits of a number: a point and more digits, or neither, and an exponent. -/
theorem isFractionOrEnd_iff (ends : EndsRun Char.isDigit text) :
    isFractionOrEnd text = true ↔
      Exponent text ∨ ∃ fraction exponent, (∀ char ∈ fraction, char.isDigit = true) ∧
        Exponent exponent ∧ text = '.' :: (fraction ++ exponent) := by
  cases text with
  | nil => exact iff_of_true rfl (.inl .absent)
  | cons char rest =>
    rw [isFractionOrEnd]
    split
    next point =>
      subst point
      have noExponent : ¬Exponent ('.' :: rest) := by
        intro exponent
        cases exponent with
        | unsigned marked _ => simp at marked
        | signed marked _ _ => simp at marked
      rw [isExponentOrEnd_iff, or_iff_right noExponent]
      constructor
      · intro exponent
        exact ⟨_, _, fun _ => List.mem_takeWhile_imp, exponent,
          by rw [List.takeWhile_append_dropWhile]⟩
      · rintro ⟨fraction, exponent, within, isExponent, same⟩
        rw [(List.cons.inj same).2, dropWhile_run within isExponent.endsRun]
        exact isExponent
    next noPoint =>
      rw [isExponentOrEnd_iff]
      refine (or_iff_left ?_).symm
      rintro ⟨fraction, exponent, -, -, same⟩
      exact noPoint (List.cons.inj same).1

theorem isDecimalNumber_iff :
    isDecimalNumber text = true ↔
      ∃ mantissa exponent, Mantissa mantissa ∧ Exponent exponent ∧ text = mantissa ++ exponent := by
  have pointEnds : ∀ rest, EndsRun Char.isDigit ('.' :: rest) := fun rest => endsRun_cons.mpr rfl
  constructor
  · intro accepted
    cases text with
    | nil => cases accepted
    | cons first rest =>
      have cut : rest = rest.takeWhile Char.isDigit ++ rest.dropWhile Char.isDigit :=
        List.takeWhile_append_dropWhile.symm
      rw [isDecimalNumber] at accepted
      split at accepted
      next isDigit =>
        have digits := digits_takeWhile isDigit rest
        rcases (isFractionOrEnd_iff (endsRun_dropWhile _ rest)).mp accepted with
          exponent | ⟨fraction, exponent, within, isExponent, behind⟩
        · exact ⟨_, _, .whole digits, exponent, by rw [List.cons_append, ← cut]⟩
        · rw [behind] at cut
          exact ⟨_, exponent, .pointed digits within, isExponent, by simp [← cut]⟩
      next =>
        simp only [Bool.and_eq_true, beq_iff_eq, Bool.not_eq_true', List.isEmpty_eq_false_iff,
          isExponentOrEnd_iff] at accepted
        obtain ⟨⟨rfl, nonempty⟩, exponent⟩ := accepted
        have digits : Digits (rest.takeWhile Char.isDigit) :=
          ⟨nonempty, fun _ => List.mem_takeWhile_imp⟩
        exact ⟨_, _, .fraction digits, exponent, by rw [List.cons_append, ← cut]⟩
  · rintro ⟨mantissa, exponent, isMantissa, isExponent, rfl⟩
    cases isMantissa with
    | whole digits =>
      obtain ⟨first, others, rfl, isDigit⟩ := digits.exists_cons
      obtain ⟨-, within⟩ := List.forall_mem_cons.mp digits.isDigit
      rw [List.cons_append, isDecimalNumber, if_pos isDigit,
        dropWhile_run within isExponent.endsRun]
      exact (isFractionOrEnd_iff isExponent.endsRun).mpr (.inl isExponent)
    | @pointed digits fraction isDigits fractionDigits =>
      obtain ⟨first, others, rfl, isDigit⟩ := isDigits.exists_cons
      obtain ⟨-, within⟩ := List.forall_mem_cons.mp isDigits.isDigit
      rw [List.append_assoc, List.cons_append, List.cons_append, isDecimalNumber, if_pos isDigit,
        dropWhile_run within (pointEnds _)]
      exact (isFractionOrEnd_iff (pointEnds _)).mpr
        (.inr ⟨fraction, exponent, fractionDigits, isExponent, rfl⟩)
    | fraction digits =>
      rw [List.cons_append, isDecimalNumber, if_neg (by decide),
        takeWhile_run digits.isDigit isExponent.endsRun,
        dropWhile_run digits.isDigit isExponent.endsRun]
      simp [digits.ne_nil, isExponentOrEnd_iff.mpr isExponent]

/-! ## Numbers -/

theorem isHexNumber_iff :
    isHexNumber text = true ↔
      ∃ mark digits, (mark = 'x' ∨ mark = 'X') ∧ HexDigits digits ∧
        text = '0' :: mark :: digits := by
  constructor
  · intro accepted
    unfold isHexNumber at accepted
    split at accepted
    next zero mark digits =>
      simp only [Bool.and_eq_true, Bool.or_eq_true, beq_iff_eq, Bool.not_eq_true',
        List.isEmpty_eq_false_iff, List.all_eq_true] at accepted
      obtain ⟨⟨⟨rfl, marked⟩, nonempty⟩, within⟩ := accepted
      exact ⟨mark, digits, marked, ⟨nonempty, within⟩, rfl⟩
    next => cases accepted
  · rintro ⟨mark, digits, marked, hexDigits, rfl⟩
    have within := List.all_eq_true.mpr hexDigits.isHexDigit
    simp [isHexNumber, marked, hexDigits.ne_nil, within]

/-- **The texts that are taken for numbers are those of the grammar.** -/
theorem isNumber_iff : isNumber text = true ↔ Number text := by
  rw [isNumber, Bool.or_eq_true, isHexNumber_iff, isDecimalNumber_iff]
  constructor
  · rintro (⟨mark, digits, marked, hexDigits, rfl⟩ | ⟨mantissa, exponent, first, last, rfl⟩)
    · exact .hexadecimal marked hexDigits
    · exact .decimal first last
  · intro number
    cases number with
    | decimal first last => exact .inr ⟨_, _, first, last, rfl⟩
    | hexadecimal marked hexDigits => exact .inl ⟨_, _, marked, hexDigits, rfl⟩

end ShallowCpp.Token
