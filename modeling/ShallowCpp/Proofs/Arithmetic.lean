import Mathlib.Algebra.Ring.Int.Defs
import Mathlib.Tactic.Ring
import ShallowCpp.Proofs.Token.Fragments

/-!
# The value of an expression

Integer expressions are written with words, the operators `+`, `-` and `*`, and parentheses. The
syntax is graded, so that an expression can only be built as it is read: factors are joined to
products and products to sums, in both cases from the left. A text spells an expression if its
fragments are the tokens of the expression, with blanks wherever the fragments allow them.

The value of a text is computed in one pass over its fragments. At any point of the pass there is an
unfinished sum: what its earlier terms come to, and what the next factor is multiplied with. A
parenthesis sets it aside and starts another one. What the pass makes of the tokens of an expression
is stated for any unfinished sum in front of them (`Expr.readFactor?_tokens`), so that it also says
what becomes of an expression behind an operator: the operator reaches the first term, and the other
terms are added as they are (`value?_of_fragments`).
-/

set_option autoImplicit false

namespace ShallowCpp.Arithmetic

open Text

/-! ## Expressions -/

/-- What words stand for. A decimal numeral stands for its number. -/
structure Environment where
  /-- The value of a word. -/
  valueOf : Text → Int
  valueOf_ofNat : ∀ number : Nat, valueOf (Text.ofNat number) = number

/-- The environment in which the words that are no numerals have the given values. -/
def Environment.ofVariables (values : Text → Int) : Environment where
  valueOf word := if word.all Char.isDigit then Nat.ofDigitChars 10 word 0 else values word
  valueOf_ofNat number := by
    have digits : (Text.ofNat number).all Char.isDigit = true :=
      List.all_eq_true.mpr fun _ => Nat.isDigit_of_mem_toDigits (by decide) (by decide)
    rw [if_pos digits, Text.ofNat, Nat.ofDigitChars_ten_toDigits]

/-- The operations on integers. -/
inductive Operation where
  | plus
  | minus
  | times
  deriving DecidableEq, Repr

namespace Operation

/-- The character that stands for the operation. -/
def sign : Operation → Char
  | .plus => '+'
  | .minus => '-'
  | .times => '*'

/-- The operation on two numbers. -/
def apply : Operation → Int → Int → Int
  | .plus, left, right => left + right
  | .minus, left, right => left - right
  | .times, left, right => left * right

/-- The operation that a token stands for. -/
def ofToken? : Text → Option Operation
  | ['+'] => some .plus
  | ['-'] => some .minus
  | ['*'] => some .times
  | _ => none

theorem ofToken?_sign (operation : Operation) : ofToken? [operation.sign] = some operation := by
  cases operation <;> rfl

end Operation

/-- How tightly an expression holds together. -/
inductive Grade where
  | factor
  | product
  | sum

/-- Expressions of each grade. Operands are words; products and sums are built from the left. -/
inductive Expr : Grade → Type where
  | operand (word : Text) (isWord : Word word) : Expr .factor
  | group (inner : Expr .sum) : Expr .factor
  | single (factor : Expr .factor) : Expr .product
  | times (left : Expr .product) (right : Expr .factor) : Expr .product
  | term (product : Expr .product) : Expr .sum
  | plus (left : Expr .sum) (right : Expr .product) : Expr .sum
  | minus (left : Expr .sum) (right : Expr .product) : Expr .sum

namespace Expr

/-- The value of an expression. -/
def value (env : Environment) : {grade : Grade} → Expr grade → Int
  | _, .operand word _ => env.valueOf word
  | _, .group inner => inner.value env
  | _, .single factor => factor.value env
  | _, .times left right => left.value env * right.value env
  | _, .term product => product.value env
  | _, .plus left right => left.value env + right.value env
  | _, .minus left right => left.value env - right.value env

/-- The tokens with which an expression is written. -/
def tokens : {grade : Grade} → Expr grade → List Text
  | _, .operand word _ => [word]
  | _, .group inner => ['('] :: (inner.tokens ++ [[')']])
  | _, .single factor => factor.tokens
  | _, .times left right => left.tokens ++ [Operation.times.sign] :: right.tokens
  | _, .term product => product.tokens
  | _, .plus left right => left.tokens ++ [Operation.plus.sign] :: right.tokens
  | _, .minus left right => left.tokens ++ [Operation.minus.sign] :: right.tokens

/-- The value of the first term of a sum. -/
def firstTerm (env : Environment) : {grade : Grade} → Expr grade → Int
  | _, .plus left _ => left.firstTerm env
  | _, .minus left _ => left.firstTerm env
  | _, other => other.value env

/-- What the terms of a sum behind the first one come to. -/
def otherTerms (env : Environment) : {grade : Grade} → Expr grade → Int
  | _, .plus left right => left.otherTerms env + right.value env
  | _, .minus left right => left.otherTerms env - right.value env
  | _, _ => 0

end Expr

/-- The text spells the expression. -/
def Spells (text : Text) (expr : Expr .sum) : Prop :=
  Token.fragments text = expr.tokens

/-! ## Reading -/

/-- A sum whose last term is not finished. -/
structure Unfinished where
  /-- What the terms in front come to. -/
  total : Int
  /-- What the next factor is multiplied with. -/
  multiplier : Int

namespace Unfinished

/-- Nothing has been read yet. -/
def start : Unfinished :=
  ⟨0, 1⟩

/-- A factor has been read. -/
def multiply (sum : Unfinished) (factor : Int) : Unfinished :=
  ⟨sum.total, sum.multiplier * factor⟩

/-- What the sum comes to if nothing follows. -/
def value (sum : Unfinished) : Int :=
  sum.total + sum.multiplier

/-- An operator has been read. A product goes on, while a sum starts its next term. -/
def resume (sum : Unfinished) : Operation → Unfinished
  | .plus => ⟨sum.value, 1⟩
  | .minus => ⟨sum.value, -1⟩
  | .times => sum

end Unfinished

/-- The token is an operand. -/
def isOperand (token : Text) : Bool :=
  !token.isEmpty && token.all isWord

mutual

/-- The value of the tokens where a factor has to follow, with the sums that are set aside. -/
def readFactor? (env : Environment) (sum : Unfinished) (outer : List Unfinished) :
    List Text → Option Int
  | [] => none
  | token :: rest =>
    if token = ['('] then readFactor? env .start (sum :: outer) rest
    else if isOperand token then readOperator? env (sum.multiply (env.valueOf token)) outer rest
    else none

/-- The value of the tokens where a factor has been read. -/
def readOperator? (env : Environment) (sum : Unfinished) (outer : List Unfinished) :
    List Text → Option Int
  | [] => if outer.isEmpty then some sum.value else none
  | token :: rest =>
    match Operation.ofToken? token with
    | some operation => readFactor? env (sum.resume operation) outer rest
    | none =>
      match outer with
      | [] => none
      | around :: outer =>
        if token = [')'] then readOperator? env (around.multiply sum.value) outer rest else none

end

/-- The value of a text that spells an expression. -/
def value? (env : Environment) (text : Text) : Option Int :=
  readFactor? env .start [] (Token.fragments text)

/-! ## What is read -/

/-- What becomes of an unfinished sum when an expression is read behind it. -/
def Expr.onto (env : Environment) (sum : Unfinished) : {grade : Grade} → Expr grade → Unfinished
  | _, .plus left right => ((left.onto env sum).resume .plus).multiply (right.value env)
  | _, .minus left right => ((left.onto env sum).resume .minus).multiply (right.value env)
  | _, other => sum.multiply (other.value env)

variable {env : Environment} {sum : Unfinished} {outer : List Unfinished}

theorem readFactor?_word {word : Text} (isWord : Word word) (rest : List Text) :
    readFactor? env sum outer (word :: rest) =
      readOperator? env (sum.multiply (env.valueOf word)) outer rest := by
  have notOpening : word ≠ ['('] := by
    rintro rfl
    exact isWord.notMem (by decide : Text.isWord '(' = false) List.mem_cons_self
  have operand : isOperand word = true := by
    simp only [isOperand, Bool.and_eq_true, List.all_eq_true]
    exact ⟨by simpa using isWord.ne_nil, isWord.isWord⟩
  rw [readFactor?, if_neg notOpening, if_pos operand]

theorem readOperator?_sign (operation : Operation) (rest : List Text) :
    readOperator? env sum outer ([operation.sign] :: rest) =
      readFactor? env (sum.resume operation) outer rest := by
  rw [readOperator?.eq_def]
  simp only [Operation.ofToken?_sign]

theorem readFactor?_opening (rest : List Text) :
    readFactor? env sum outer (['('] :: rest) = readFactor? env .start (sum :: outer) rest := by
  rw [readFactor?, if_pos rfl]

theorem readOperator?_closing (around : Unfinished) (rest : List Text) :
    readOperator? env sum (around :: outer) ([')'] :: rest) =
      readOperator? env (around.multiply sum.value) outer rest := by
  simp [readOperator?, Operation.ofToken?]

/-- Only the first term is multiplied with what stands in front of an expression. -/
theorem Expr.value_onto {grade : Grade} (expr : Expr grade) (env : Environment)
    (sum : Unfinished) :
    (expr.onto env sum).value =
      sum.total + sum.multiplier * expr.firstTerm env + expr.otherTerms env := by
  induction expr with
  | operand | group | single | times | term =>
    simp [onto, firstTerm, otherTerms, Unfinished.multiply, Unfinished.value]
  | plus left right left_ih _ =>
    simp only [onto, firstTerm, otherTerms, Unfinished.multiply, Unfinished.resume]
    rw [left_ih, Unfinished.value]
    ring
  | minus left right left_ih _ =>
    simp only [onto, firstTerm, otherTerms, Unfinished.multiply, Unfinished.resume]
    rw [left_ih, Unfinished.value]
    ring

theorem Expr.value_eq_add {grade : Grade} (expr : Expr grade) (env : Environment) :
    expr.value env = expr.firstTerm env + expr.otherTerms env := by
  induction expr with
  | operand | group | single | times | term => simp [firstTerm, otherTerms]
  | plus left right ih _ => rw [value, ih, firstTerm, otherTerms, add_assoc]
  | minus left right ih _ => rw [value, ih, firstTerm, otherTerms, add_sub_assoc]

/-- A product is read as one factor. -/
theorem Expr.onto_product (product : Expr .product) (env : Environment) (sum : Unfinished) :
    product.onto env sum = sum.multiply (product.value env) := by
  cases product <;> rfl

theorem Expr.onto_factor (factor : Expr .factor) (env : Environment) (sum : Unfinished) :
    factor.onto env sum = sum.multiply (factor.value env) := by
  cases factor <;> rfl

theorem Expr.value_onto_start {grade : Grade} (expr : Expr grade) (env : Environment) :
    (expr.onto env .start).value = expr.value env := by
  rw [value_onto, value_eq_add, Unfinished.start, zero_add, one_mul]

/-- **Reading the tokens of an expression** puts it behind what has been read before. -/
theorem Expr.readFactor?_tokens {grade : Grade} (expr : Expr grade) (env : Environment)
    (sum : Unfinished) (outer : List Unfinished) (rest : List Text) :
    readFactor? env sum outer (expr.tokens ++ rest) =
      readOperator? env (expr.onto env sum) outer rest := by
  induction expr generalizing sum outer rest with
  | operand word isWord => exact readFactor?_word isWord rest
  | group inner ih =>
    rw [tokens, List.cons_append, readFactor?_opening, List.append_assoc, ih,
      List.singleton_append, readOperator?_closing, value_onto_start]
    rfl
  | single factor ih =>
    rw [tokens, ih, onto_factor]
    rfl
  | times left right left_ih right_ih =>
    rw [tokens, List.append_assoc, left_ih, List.cons_append, readOperator?_sign, right_ih,
      onto_product, onto_factor, onto_product, value, Unfinished.multiply, Unfinished.multiply,
      Unfinished.multiply, ← mul_assoc]
    rfl
  | term product ih =>
    rw [tokens, ih, onto_product]
    rfl
  | plus left right left_ih right_ih =>
    rw [tokens, List.append_assoc, left_ih, List.cons_append, readOperator?_sign, right_ih,
      onto_product]
    rfl
  | minus left right left_ih right_ih =>
    rw [tokens, List.append_assoc, left_ih, List.cons_append, readOperator?_sign, right_ih,
      onto_product]
    rfl

/-- The value of a text is that of the expression it spells. -/
theorem value?_of_spells {text : Text} {expr : Expr .sum} (spelled : Spells text expr)
    (env : Environment) : value? env text = some (expr.value env) := by
  have read := expr.readFactor?_tokens env .start [] []
  rw [List.append_nil] at read
  rw [value?, spelled, read, readOperator?.eq_def, ← expr.value_onto_start]
  rfl

/-- **Behind an operand and an operator** an expression is taken apart: the operator is applied to
its first term, and the other terms are added as they stand. -/
theorem value?_of_fragments {text operand : Text} {expr : Expr .sum} (isWord : Word operand)
    (operation : Operation)
    (cut : Token.fragments text = operand :: [operation.sign] :: expr.tokens)
    (env : Environment) :
    value? env text = some
      (operation.apply (env.valueOf operand) (expr.firstTerm env) + expr.otherTerms env) := by
  have read := expr.readFactor?_tokens env
    ((Unfinished.start.multiply (env.valueOf operand)).resume operation) [] []
  rw [List.append_nil] at read
  have total : (expr.onto env
      ((Unfinished.start.multiply (env.valueOf operand)).resume operation)).value =
        operation.apply (env.valueOf operand) (expr.firstTerm env) + expr.otherTerms env := by
    rw [expr.value_onto]
    cases operation <;>
      simp [Unfinished.start, Unfinished.multiply, Unfinished.resume, Unfinished.value,
        Operation.apply, sub_eq_add_neg]
  rw [value?, cut, readFactor?_word isWord, readOperator?_sign, read, readOperator?.eq_def, ← total]
  rfl

theorem Expr.exists_first_token {grade : Grade} (expr : Expr grade) :
    ∃ first others, expr.tokens = first :: others ∧ first ≠ ['='] := by
  induction expr with
  | operand word isWord =>
    refine ⟨word, [], rfl, ?_⟩
    rintro rfl
    exact isWord.notMem (by decide : Text.isWord '=' = false) List.mem_cons_self
  | group inner => exact ⟨['('], _, rfl, by decide⟩
  | single factor ih => exact ih
  | term product ih => exact ih
  | times left right ih | plus left right ih | minus left right ih =>
    obtain ⟨first, others, starts, differs⟩ := ih
    exact ⟨first, _, by rw [tokens, starts, List.cons_append], differs⟩

/-- A text that spells an expression does not start with an equals sign. -/
theorem Spells.head?_ne {text : Text} {expr : Expr .sum} (spelled : Spells text expr) :
    text.head? ≠ some '=' := by
  intro starts
  obtain ⟨rest, rfl⟩ := List.head?_eq_some_iff.mp starts
  have cutOff : Token.IsCutOff ['='] rest := .inl ⟨'=', rfl, rfl⟩
  obtain ⟨first, others, tokens, differs⟩ := expr.exists_first_token
  have same : ['='] :: Token.fragments rest = first :: others := by
    rw [← cutOff.fragments_append, ← tokens]
    exact spelled
  exact differs (List.cons_eq_cons.mp same).1.symm

end ShallowCpp.Arithmetic
