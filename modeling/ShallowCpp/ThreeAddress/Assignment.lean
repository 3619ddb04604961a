import ShallowCpp.Text.Basic

/-!
# Assignments in expressions

An expression assigns when it has an equals sign outside parentheses and brackets that is not part
of a comparison. The first such sign divides it into target and value. A compound assignment is
spelled out: `x += 1` gives the target `x` and the value `x + 1`.
-/

set_option autoImplicit false

namespace ShallowCpp.ThreeAddress

/-- A target and the text of the value it takes. -/
structure Assignment where
  /-- What is assigned to. -/
  target : Text
  /-- The value as text. -/
  value : Text
  deriving DecidableEq, Repr

namespace Assignment

/-- The operators that combine with an equals sign, the longer ones first. -/
def compoundOperators : List Text :=
  ["<<".toList, ">>".toList, "+".toList, "-".toList, "*".toList, "/".toList, "%".toList, "&".toList,
    "|".toList, "^".toList]

/-- The operator at the end of a left side, unless it is the whole of it. -/
def compoundOperator? (left : Text) : Option Text :=
  compoundOperators.find? fun operator =>
    operator.isSuffixOf left && decide (operator.length < left.length)

/-- The equals sign between the two texts belongs to a comparison for equality or inequality. -/
def isEquality (before behind : Text) : Bool :=
  behind.head? == some '=' || before.getLast? == some '=' || before.getLast? == some '!'

/-- The character in front of the equals sign makes it a comparison by order. -/
def isOrdering (before : Text) : Bool :=
  before.getLast? == some '<' || before.getLast? == some '>'

/-- The assignment made by an equals sign between the two texts. The compound operators are looked
for before the comparisons by order, so that `<<=` assigns and `<=` compares. -/
def at? (before behind : Text) : Option Assignment :=
  if isEquality before behind then none
  else
    let left := Text.trimEnd before
    let right := Text.trim behind
    match compoundOperator? left with
    | some operator =>
      let target := Text.trim (left.take (left.length - operator.length))
      some ⟨target, target ++ [' '] ++ operator ++ [' '] ++ right⟩
    | none => if isOrdering before then none else some ⟨left, right⟩

/-- The first assignment in the rest of an expression, with the text already passed and the number
of parentheses and brackets opened in it less those closed. -/
def find? (balance : Int) (before : Text) : Text → Option Assignment
  | [] => none
  | char :: behind =>
    let passed := before ++ [char]
    if char = '(' ∨ char = '[' then find? (balance + 1) passed behind
    else if char = ')' ∨ char = ']' then find? (balance - 1) passed behind
    else if char = '=' ∧ balance = 0 then
      match at? before behind with
      | some assignment => some assignment
      | none => find? balance passed behind
    else find? balance passed behind

/-- The assignment that an expression makes, if it makes one. -/
def ofExpression? (expression : Text) : Option Assignment :=
  find? 0 [] expression

end Assignment

end ShallowCpp.ThreeAddress
