import ShallowCpp.Proofs.Token.Number
import ShallowCpp.Token.Basic

/-!
# Literals

Quotation marks apart, the literals are the numbers of the grammar (`literals_are_numbers`). The
tables of reserved words and of operators are asked before a text is tried as a number, and that of
punctuation marks after. This order does not matter: a number starts with a digit, or with a point
that a digit follows, and no text in the tables starts like that (`Number.notMem_table`).
-/

set_option autoImplicit false

namespace ShallowCpp.Token

variable {text : Text}

/-! ## Numbers and the tables -/

/-- The text starts with a digit, or with a point and a digit. -/
def startsLikeNumber : Text → Bool
  | [] => false
  | [first] => first.isDigit
  | first :: second :: _ => first.isDigit || (first == '.' && second.isDigit)

theorem startsLikeNumber_of_isDigit {first : Char} (isDigit : first.isDigit = true) (rest : Text) :
    startsLikeNumber (first :: rest) = true := by
  cases rest with
  | nil => exact isDigit
  | cons second rest => rw [startsLikeNumber, isDigit, Bool.true_or]

theorem Digits.startsLikeNumber_append (digits : Digits text) (behind : Text) :
    startsLikeNumber (text ++ behind) = true := by
  obtain ⟨first, others, rfl, isDigit⟩ := digits.exists_cons
  exact startsLikeNumber_of_isDigit isDigit (others ++ behind)

theorem Number.startsLikeNumber (number : Number text) : startsLikeNumber text = true := by
  cases number with
  | hexadecimal _ _ => exact startsLikeNumber_of_isDigit rfl _
  | @decimal _ exponent mantissa _ =>
    cases mantissa with
    | whole digits => exact digits.startsLikeNumber_append exponent
    | pointed digits _ =>
      rw [List.append_assoc]
      exact digits.startsLikeNumber_append _
    | fraction digits =>
      obtain ⟨first, others, rfl, isDigit⟩ := digits.exists_cons
      show ('.'.isDigit || ('.' == '.' && first.isDigit)) = true
      rw [isDigit]
      rfl

/-- A number is in no table whose texts start otherwise. -/
theorem Number.notMem_table (number : Number text) {table : List Text}
    (otherwise : table.all (fun entry => !Token.startsLikeNumber entry) = true) : text ∉ table := by
  intro member
  have unlike := List.all_eq_true.mp otherwise text member
  rw [number.startsLikeNumber] at unlike
  cases unlike

theorem Number.notMem_keywords (number : Number text) : text ∉ keywords :=
  number.notMem_table (by decide +kernel)

theorem Number.notMem_operators (number : Number text) : text ∉ operators :=
  number.notMem_table (by decide)

theorem Number.notMem_punctuationMarks (number : Number text) : text ∉ punctuationMarks :=
  number.notMem_table (by decide)

/-! ## Literals -/

theorem classify_eq_literal_iff :
    classify text = .literal ↔ text ∉ keywords ∧ text ∉ operators ∧ isLiteral text = true := by
  rw [classify]
  split_ifs with reserved operator literal punctuation
  · simp [List.contains_iff_mem.mp reserved]
  · simp [List.contains_iff_mem.mp operator]
  · simpa [literal] using And.intro reserved operator
  · simp [literal]
  · simp [literal]

theorem isLiteral_iff :
    isLiteral text = true ↔
      Number text ∨ text.head? = some '"' ∨ text.head? = some '\'' := by
  rw [isLiteral, Bool.or_eq_true, Bool.or_eq_true, isNumber_iff, beq_iff_eq, beq_iff_eq, or_assoc]

/-- **Literals without quotation marks are the numbers of the grammar.** A text that does not start
with a quotation mark is a literal exactly if the grammar of numbers has it. No text of the grammar
is a reserved word, an operator or a punctuation mark. -/
theorem literals_are_numbers :
    (∀ text : Text, text.head? ≠ some '"' → text.head? ≠ some '\'' →
        (classify text = .literal ↔ Number text)) ∧
      ∀ text, Number text → text ∉ keywords ∧ text ∉ operators ∧ text ∉ punctuationMarks := by
  constructor
  · intro text noDouble noSingle
    have unquoted : ¬(text.head? = some '"' ∨ text.head? = some '\'') :=
      not_or.mpr ⟨noDouble, noSingle⟩
    rw [classify_eq_literal_iff, isLiteral_iff, or_iff_left unquoted]
    constructor
    · rintro ⟨-, -, number⟩
      exact number
    · intro number
      exact ⟨number.notMem_keywords, number.notMem_operators, number⟩
  · intro text number
    exact ⟨number.notMem_keywords, number.notMem_operators, number.notMem_punctuationMarks⟩

/-- A point may end the mantissa, an exponent needs a digit, and only ASCII digits count. -/
theorem literals_are_numbers_at_boundaries :
    (Number "1.e5".toList ∧ "1.e5".toList ∉ punctuationMarks) ∧ ¬Number "1e+".toList ∧
      ¬Number "٣".toList := by
  obtain ⟨literal_iff, apart⟩ := literals_are_numbers
  have number : Number "1.e5".toList :=
    (literal_iff _ (by decide) (by decide)).mp (by decide +kernel)
  have noExponent : classify "1e+".toList ≠ .literal := by decide +kernel
  have otherDigit : classify "٣".toList ≠ .literal := by decide +kernel
  exact ⟨⟨number, (apart _ number).2.2⟩,
    fun number => noExponent ((literal_iff _ (by decide) (by decide)).mpr number),
    fun number => otherDigit ((literal_iff _ (by decide) (by decide)).mpr number)⟩

end ShallowCpp.Token
