import Mathlib.Tactic.Linarith
import ShallowCpp.Proofs.Arithmetic
import ShallowCpp.Proofs.ThreeAddress.Signs

/-!
# The value of a compound assignment

A compound assignment such as `x *= 2 + 3` is spelled out by writing its target, its operator and
its right side one behind the other: `x * 2 + 3`. No parentheses are put around the right side, so
the operator reaches only its first term, and the terms behind are added to the result as they
stand. The value is that of the compound assignment exactly when this makes no difference: the
operator is `+`, or the other terms come to nothing, or the target is multiplied and has the value
one (`expansion_keeps_value_iff`).
-/

set_option autoImplicit false

namespace ShallowCpp.ThreeAddress.Assignment

open Text Arithmetic

variable {target gap right : Text}

/-- The search passes over the text in front of the sign of a compound assignment. -/
theorem notMem_marks_of_compound (isWord : Word target) (blank : Blank gap)
    (operation : Operation) :
    ∀ char ∈ target ++ gap ++ [operation.sign], char ∉ "()[]=".toList := by
  intro char member
  rcases List.mem_append.mp member with inFront | isSign
  · apply notMem_marks
    exact (List.mem_append.mp inFront).symm.imp (blank char) (isWord.isWord char)
  · rw [List.mem_singleton.mp isSign]
    cases operation <;> decide

theorem combines_of_compound (isWord : Word target) (gap : Text) (operation : Operation) :
    Combines (trimEnd (target ++ gap ++ [operation.sign])) (target ++ gap) [operation.sign] := by
  have visible : isBlank operation.sign = false := by cases operation <;> rfl
  refine ⟨?_, trimEnd_concat visible _, List.append_ne_nil_of_left_ne_nil isWord.ne_nil gap⟩
  cases operation <;> decide

theorem isSign_of_compound (isWord : Word target) (blank : Blank gap) (operation : Operation)
    (single : right.head? ≠ some '=') : IsSign (target ++ gap ++ [operation.sign]) right := by
  have plain := notMem_marks_of_compound isWord blank operation
  refine ⟨balance_eq_zero_iff.mp (balance_of_notMem_marks plain), single, ?_,
    .inl ⟨_, _, combines_of_compound isWord gap operation⟩⟩
  rw [List.getLast?_concat]
  cases operation <;> decide

/-- What a compound assignment is spelled out to. -/
theorem ofExpression?_of_compound (isWord : Word target) (blank : Blank gap)
    (operation : Operation) (single : right.head? ≠ some '=') :
    ofExpression? (target ++ gap ++ [operation.sign] ++ '=' :: right) =
      some ⟨target, target ++ [' '] ++ [operation.sign] ++ [' '] ++ trim right⟩ := by
  have plain := notMem_marks_of_compound isWord blank operation
  have sign := isSign_of_compound isWord blank operation single
  have stem : trim (target ++ gap) = target := by
    rw [trim_append_blank blank, isWord.trim_eq]
  rw [ofExpression?, find?_append plain, List.nil_append, ← balance_of_notMem_marks plain,
    sign.find?_eq, sign.at?_of_combines (combines_of_compound isWord gap operation), stem]

/-! ## The value of the expansion -/

theorem fragments_expansion (isWord : Word target) (operation : Operation) (right : Text) :
    Token.fragments (target ++ [' '] ++ [operation.sign] ++ [' '] ++ trim right) =
      target :: [operation.sign] :: Token.fragments right := by
  have behindTarget : Token.IsCutOff target (' ' :: ([operation.sign] ++ ' ' :: trim right)) :=
    .inr ⟨Token.isRun_of_word isWord, endsRun_cons.mpr rfl⟩
  have behindSign : Token.IsCutOff [operation.sign] (' ' :: trim right) := by
    refine .inl ⟨operation.sign, ?_, rfl⟩
    cases operation <;> decide
  calc Token.fragments (target ++ [' '] ++ [operation.sign] ++ [' '] ++ trim right)
      = Token.fragments (target ++ ' ' :: ([operation.sign] ++ ' ' :: trim right)) := by simp
    _ = target :: [operation.sign] :: Token.fragments (trim right) := by
      rw [behindTarget.fragments_append, Token.fragments_cons_blank rfl,
        behindSign.fragments_append, Token.fragments_cons_blank rfl]
    _ = target :: [operation.sign] :: Token.fragments right := by rw [Token.fragments_trim]

/-- When it makes no difference that an operation reaches only the first of two numbers. -/
theorem apply_add_eq_iff (operation : Operation) (left first others : Int) :
    operation.apply left first + others = operation.apply left (first + others) ↔
      operation = .plus ∨ others = 0 ∨ operation = .times ∧ left = 1 := by
  cases operation with
  | plus => simp [Operation.apply, Int.add_assoc]
  | minus =>
    simp only [Operation.apply, reduceCtorEq, false_and, false_or, or_false]
    omega
  | times =>
    simp only [Operation.apply, reduceCtorEq, true_and, false_or]
    constructor
    · intro same
      have product : (left - 1) * others = 0 := by linarith
      rcases Int.mul_eq_zero.mp product with one | none
      · exact .inr (by omega)
      · exact .inl none
    · rintro (rfl | rfl) <;> simp

/-- **When a compound assignment keeps its value.** Spelled out, it assigns to its target a text in
which the operator is applied to the first term of the right side only. This is the value of the
target and the right side under the operator if and only if the operator is `+`, or the other terms
come to zero, or the operator is `*` and the target has the value one. -/
theorem expansion_keeps_value_iff (isWord : Word target) (blank : Blank gap)
    (operation : Operation) {expr : Expr .sum} (spelled : Spells right expr) :
    ∃ expansion,
      ofExpression? (target ++ gap ++ [operation.sign] ++ '=' :: right) =
          some ⟨target, expansion⟩ ∧
        ∀ env : Environment,
          value? env right = some (expr.value env) ∧
          value? env expansion = some (operation.apply (env.valueOf target)
            (expr.firstTerm env) + expr.otherTerms env) ∧
          (value? env expansion =
              some (operation.apply (env.valueOf target) (expr.value env)) ↔
            operation = .plus ∨ expr.otherTerms env = 0 ∨
              operation = .times ∧ env.valueOf target = 1) := by
  refine ⟨_, ofExpression?_of_compound isWord blank operation spelled.head?_ne, ?_⟩
  intro env
  have cut := fragments_expansion isWord operation right
  rw [show Token.fragments right = expr.tokens from spelled] at cut
  have value := value?_of_fragments isWord operation cut env
  refine ⟨value?_of_spells spelled env, value, ?_⟩
  rw [value, Option.some.injEq, expr.value_eq_add, apply_add_eq_iff]

/-- A product keeps the value of the assignment, also with a sum between parentheses: ten less twice
the difference of five and three. -/
theorem expansion_keeps_value_of_product :
    ∃ expansion,
      ofExpression? "total -= 2 * (a - b)".toList = some ⟨"total".toList, expansion⟩ ∧
        value? (.ofVariables fun word =>
          if word = "total".toList then 10 else if word = "a".toList then 5 else 3) expansion =
            some 6 := by
  have spelled : Spells " 2 * (a - b)".toList
      (.term (.times (.single (.operand "2".toList (by decide)))
        (.group (.minus (.term (.single (.operand "a".toList (by decide))))
          (.single (.operand "b".toList (by decide))))))) := by
    rw [Spells]
    decide
  have isWord : Word "total".toList := by decide
  obtain ⟨expansion, made, values⟩ := expansion_keeps_value_iff isWord blank_space .minus spelled
  refine ⟨expansion, made, ?_⟩
  exact ((values _).2.2.mpr (.inr (.inl rfl))).trans (by decide)

/-- The sum of two and three is not multiplied as a whole: twice five is ten, and the text that is
assigned has the value seven. -/
theorem expansion_changes_value :
    ofExpression? "x *= 2 + 3".toList = some ⟨"x".toList, "x * 2 + 3".toList⟩ ∧
      value? (.ofVariables fun _ => 2) "x".toList = some 2 ∧
      value? (.ofVariables fun _ => 2) "2 + 3".toList = some 5 ∧
      value? (.ofVariables fun _ => 2) "x * 2 + 3".toList = some 7 ∧
      (7 : Int) ≠ Operation.times.apply 2 5 := by
  decide

end ShallowCpp.ThreeAddress.Assignment
