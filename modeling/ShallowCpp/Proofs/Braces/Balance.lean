import Mathlib.Data.List.Infix
import Mathlib.Algebra.Order.Ring.Int
import ShallowCpp.Text.Basic

/-!
# The height of braces

The height of a text at an offset is the number of opening braces in front of the offset less the
number of closing ones. Reading a character changes the height by at most one.

A text is balanced when its braces, all other characters left out, are derivable in the grammar
`S → ε | { S } S`. This is so exactly when the height is nowhere negative and is zero at the end
(`dyck_filter_iff`). A derivation is built from the heights by reading the text from the right: a
closing brace pairs with an opening brace that is still to come on the left, and a pair may be
inserted anywhere in a derivable text.
-/

set_option autoImplicit false

namespace ShallowCpp.Braces

/-! ## Heights -/

/-- The number of opening braces among the first `offset` characters less that of closing ones. -/
def height (text : Text) (offset : Nat) : Int :=
  (text.take offset).count '{' - (text.take offset).count '}'

/-- What a character adds to the height. -/
def step (char : Char) : Int :=
  if char = '{' then 1 else if char = '}' then -1 else 0

@[simp] theorem step_opening : step '{' = 1 := rfl

@[simp] theorem step_closing : step '}' = -1 := rfl

theorem step_other {char : Char} (opensNone : char ≠ '{') (closesNone : char ≠ '}') :
    step char = 0 := by
  rw [step, if_neg opensNone, if_neg closesNone]

@[simp] theorem height_zero (text : Text) : height text 0 = 0 := by
  simp [height]

/-- The heights behind a character are those of the rest, moved by what the character adds. -/
@[simp] theorem height_cons_succ (char : Char) (rest : Text) (offset : Nat) :
    height (char :: rest) (offset + 1) = step char + height rest offset := by
  simp only [height, step, List.take_succ_cons, List.count_cons, beq_iff_eq]
  by_cases opens : char = '{'
  · simp only [opens, ↓reduceIte, Char.reduceEq]
    omega
  · by_cases closes : char = '}'
    · simp only [closes, ↓reduceIte, Char.reduceEq]
      omega
    · simp only [opens, closes, ↓reduceIte]
      omega

theorem neg_one_le_step (char : Char) : -1 ≤ step char := by
  unfold step
  split_ifs <;> decide

/-- Only an opening brace adds to the height. -/
theorem step_le_zero {char : Char} (other : char ≠ '{') : step char ≤ 0 := by
  rw [step, if_neg other]
  split_ifs <;> decide

/-- The character at an offset leads from the height in front of it to the height behind it. -/
theorem height_succ {text : Text} {offset : Nat} {char : Char} (here : text[offset]? = some char) :
    height text (offset + 1) = height text offset + step char := by
  induction text generalizing offset with
  | nil => simp at here
  | cons first rest ih =>
    cases offset with
    | zero =>
      obtain rfl : first = char := by simpa using here
      simp
    | succ offset =>
      have moved : height rest (offset + 1) = height rest offset + step char :=
        ih (by simpa using here)
      simp only [height_cons_succ, moved]
      omega

/-- Behind the first of two texts the height goes on from where it stood at its end. -/
theorem height_append (before behind : Text) (offset : Nat) :
    height (before ++ behind) (before.length + offset) =
      height before before.length + height behind offset := by
  simp only [height, List.take_length_add_append, List.count_append, List.take_length]
  omega

/-! ## The grammar of balanced braces -/

/-- Whether a character is a brace. -/
def isBrace (char : Char) : Bool :=
  char == '{' || char == '}'

/-- The words of the grammar `S → ε | { S } S`. -/
inductive Dyck : Text → Prop where
  | empty : Dyck []
  | pair {inner behind : Text} : Dyck inner → Dyck behind → Dyck ('{' :: (inner ++ '}' :: behind))

namespace Dyck

/-- A pair of braces may be inserted anywhere. -/
theorem insert_pair {before behind : Text} (dyck : Dyck (before ++ behind)) :
    Dyck (before ++ '{' :: '}' :: behind) := by
  generalize whole : before ++ behind = word at dyck
  induction dyck generalizing before behind with
  | empty =>
    obtain ⟨rfl, rfl⟩ := List.append_eq_nil_iff.mp whole
    exact .pair .empty .empty
  | @pair inner rest innerDyck restDyck innerIh restIh =>
    cases before with
    | nil =>
      obtain rfl : behind = _ := whole
      exact .pair .empty (.pair innerDyck restDyck)
    | cons char before =>
      obtain ⟨rfl, cut⟩ := List.cons.inj whole
      -- The pair goes into the inner word, or behind the brace that closes it.
      rcases List.append_eq_append_iff.mp cut with ⟨part, rfl, rfl⟩ | ⟨part, rfl, closed⟩
      · have inserted := Dyck.pair (innerIh rfl) restDyck
        simpa using inserted
      · cases part with
        | nil =>
          obtain rfl : '}' :: rest = behind := closed
          have inserted := Dyck.pair (innerIh (List.append_nil inner)) restDyck
          simpa using inserted
        | cons char part =>
          obtain ⟨rfl, rfl⟩ := List.cons.inj closed
          have inserted := Dyck.pair innerDyck (restIh rfl)
          simpa using inserted

theorem append {word behind : Text} (dyck : Dyck word) (more : Dyck behind) :
    Dyck (word ++ behind) := by
  induction dyck with
  | empty => exact more
  | pair inner _ _ ih =>
    rw [List.cons_append, List.append_assoc, List.cons_append]
    exact .pair inner ih

/-- A word has as many braces of either sort. -/
theorem count_eq {word : Text} (dyck : Dyck word) : word.count '}' = word.count '{' := by
  induction dyck with
  | empty => rfl
  | pair _ _ innerIh restIh =>
    simp only [List.count_cons, List.count_append, innerIh, restIh]
    simp only [beq_iff_eq, Char.reduceEq, ↓reduceIte]
    omega

/-- No beginning of a word has more closing than opening braces. -/
theorem count_le {word beginning : Text} (dyck : Dyck word) (isPrefix : beginning <+: word) :
    beginning.count '}' ≤ beginning.count '{' := by
  induction dyck generalizing beginning with
  | empty => simp [List.prefix_nil.mp isPrefix]
  | @pair inner rest innerDyck restDyck innerIh restIh =>
    cases beginning with
    | nil => exact Nat.le_refl _
    | cons char beginning =>
      obtain ⟨rfl, remaining⟩ := List.cons_prefix_cons.mp isPrefix
      obtain ⟨tail, cut⟩ := remaining
      have innerCount := innerDyck.count_eq
      rcases List.append_eq_append_iff.mp cut with ⟨part, rfl, rfl⟩ | ⟨part, rfl, closed⟩
      · have bound := innerIh (List.prefix_append beginning part)
        simp only [List.count_cons, beq_iff_eq, Char.reduceEq, ↓reduceIte]
        omega
      · cases part with
        | nil =>
          simp only [List.append_nil, List.count_cons, beq_iff_eq, Char.reduceEq, ↓reduceIte]
          omega
        | cons char part =>
          obtain ⟨rfl, rfl⟩ := List.cons.inj closed
          have bound := restIh (List.prefix_append part tail)
          simp only [List.count_cons, List.count_append, beq_iff_eq, Char.reduceEq, ↓reduceIte]
          omega

end Dyck

/-! ## Balance by heights -/

/-- If the height is nowhere below that at the end, and that many opening braces are missing, then
the text becomes balanced once these are put in front. -/
theorem dyck_replicate_append {text : Text} (missing : Nat)
    (floor : ∀ offset ≤ text.length, -missing ≤ height text offset)
    (last : height text text.length = -missing) :
    Dyck (List.replicate missing '{' ++ text.filter isBrace) := by
  induction text generalizing missing with
  | nil =>
    obtain rfl : missing = 0 := by
      simp only [List.length_nil, height_zero] at last
      omega
    exact .empty
  | cons char rest ih =>
    have restFloor : ∀ offset ≤ rest.length, -missing ≤ step char + height rest offset := by
      intro offset bound
      rw [← height_cons_succ]
      exact floor (offset + 1) (Nat.succ_le_succ bound)
    rw [List.length_cons, height_cons_succ] at last
    by_cases opens : char = '{'
    · subst opens
      rw [step_opening] at restFloor last
      have dyck := ih (missing + 1) (fun offset bound => by
        have above := restFloor offset bound
        push_cast
        omega) (by push_cast; omega)
      rw [List.replicate_succ', List.append_assoc] at dyck
      exact dyck
    · by_cases closes : char = '}'
      · subst closes
        rw [step_closing] at restFloor last
        have start := restFloor 0 (Nat.zero_le _)
        rw [height_zero] at start
        obtain ⟨fewer, rfl⟩ : ∃ fewer, missing = fewer + 1 := ⟨missing - 1, by omega⟩
        have dyck := ih fewer (fun offset bound => by
          have above := restFloor offset bound
          push_cast at above
          omega) (by push_cast at last; omega)
        rw [List.replicate_succ', List.append_assoc]
        exact dyck.insert_pair
      · rw [step_other opens closes] at restFloor last
        have other : isBrace char = false := by simp [isBrace, opens, closes]
        rw [List.filter_cons_of_neg (by simp [other])]
        refine ih missing (fun offset bound => ?_) (by omega)
        have above := restFloor offset bound
        omega

/-- **Balanced braces are those whose height is never negative and zero at the end.** -/
theorem dyck_filter_iff (text : Text) :
    Dyck (text.filter isBrace) ↔
      (∀ offset ≤ text.length, 0 ≤ height text offset) ∧ height text text.length = 0 := by
  have counts : ∀ part : Text, (part.filter isBrace).count '{' = part.count '{' ∧
      (part.filter isBrace).count '}' = part.count '}' := by
    intro part
    exact ⟨List.count_filter rfl, List.count_filter rfl⟩
  constructor
  · intro dyck
    constructor
    · intro offset _
      have bound := dyck.count_le ((List.take_prefix offset text).filter isBrace)
      rw [(counts _).1, (counts _).2] at bound
      simp only [height]
      omega
    · have same := dyck.count_eq
      rw [(counts _).1, (counts _).2] at same
      simp only [height, List.take_length]
      omega
  · rintro ⟨floor, last⟩
    exact dyck_replicate_append 0 (by simpa using floor) (by simpa using last)

end ShallowCpp.Braces
