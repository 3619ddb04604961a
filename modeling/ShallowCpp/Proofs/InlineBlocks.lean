import Mathlib.Data.List.Induction
import ShallowCpp.Proofs.Braces.Body
import ShallowCpp.Proofs.Text.Lines
import ShallowCpp.Termination

/-!
# Blocks within one line

A line is read with two things in hand: the blocks that are open, each with whether it holds
statements, and the segment, which is the text since the last brace or semicolon. Both can be told
from the text that is read so far. The segment is its last part without such a mark
(`isLastSegment_after`). A block is open when behind its brace the text is balanced, further blocks
that are open inside of it left aside; closing braces without partner leave no trace
(`openBlocks_after`).

A balanced text leaves the open blocks as it finds them, so a closing brace ends the block of its
partner. A statement without semicolon is therefore found exactly where two partners enclose a block
of statements and the segment in front of the second one is a statement (`hasOpenStatement_iff`).
-/

set_option autoImplicit false

namespace ShallowCpp.Termination

open Text Braces

/-! ## Reading a line -/

/-- The state of reading a line. -/
structure Reading where
  /-- The blocks that are open, innermost first, each with whether it holds statements. -/
  blocks : List Bool
  /-- The text since the last brace or semicolon. -/
  segment : Text

namespace Reading

/-- Nothing is read yet. -/
def start : Reading :=
  ⟨[], []⟩

/-- The state one character further. -/
def step (reading : Reading) (char : Char) : Reading :=
  if char = '{' then ⟨opensBlock (trim reading.segment) :: reading.blocks, []⟩
  else if char = '}' then ⟨reading.blocks.tail, []⟩
  else if char = ';' then ⟨reading.blocks, []⟩
  else ⟨reading.blocks, reading.segment ++ [char]⟩

/-- The state behind a text. -/
def after (reading : Reading) (text : Text) : Reading :=
  text.foldl step reading

/-- A closing brace would end a block of statements behind a statement without semicolon. -/
def leavesOpen (reading : Reading) : Bool :=
  reading.blocks.head? == some true && !(trim reading.segment).isEmpty &&
    !hasClause (trim reading.segment)

variable (reading : Reading)

@[simp] theorem step_opening :
    reading.step '{' = ⟨opensBlock (trim reading.segment) :: reading.blocks, []⟩ := rfl

@[simp] theorem step_closing : reading.step '}' = ⟨reading.blocks.tail, []⟩ := rfl

theorem after_cons (char : Char) (rest : Text) :
    reading.after (char :: rest) = (reading.step char).after rest := rfl

theorem after_append (front rest : Text) :
    reading.after (front ++ rest) = (reading.after front).after rest :=
  List.foldl_append

/-- Only braces change which blocks are open. -/
theorem blocks_step {char : Char} (other : isBrace char = false) :
    (reading.step char).blocks = reading.blocks := by
  simp only [isBrace, Bool.or_eq_false_iff, beq_eq_false_iff_ne] at other
  rw [step, if_neg other.1, if_neg other.2]
  split
  · rfl
  · rfl

end Reading

/-- One step of the search, by the state. -/
theorem hasOpenStatementFrom_cons (reading : Reading) (char : Char) (rest : Text) :
    hasOpenStatementFrom reading.blocks reading.segment (char :: rest) =
      (char == '}' && reading.leavesOpen ||
        hasOpenStatementFrom (reading.step char).blocks (reading.step char).segment rest) := by
  rw [hasOpenStatementFrom, Reading.step]
  split_ifs with opens closes ends
  · simp [opens]
  · simp [closes, Reading.leavesOpen]
  · simp [ends]
  · simp [closes]

/-- **The search finds a closing brace that leaves a statement open.** -/
theorem hasOpenStatementFrom_iff (reading : Reading) (text : Text) :
    hasOpenStatementFrom reading.blocks reading.segment text = true ↔
      ∃ before behind, text = before ++ '}' :: behind ∧
        (reading.after before).leavesOpen = true := by
  induction text generalizing reading with
  | nil => simp [hasOpenStatementFrom]
  | cons char rest ih =>
    rw [hasOpenStatementFrom_cons, Bool.or_eq_true, Bool.and_eq_true, beq_iff_eq, ih]
    constructor
    · rintro (⟨rfl, found⟩ | ⟨before, behind, rfl, found⟩)
      · exact ⟨[], rest, rfl, found⟩
      · exact ⟨char :: before, behind, rfl, found⟩
    · rintro ⟨before, behind, cut, found⟩
      cases before with
      | nil =>
        obtain ⟨rfl, -⟩ := List.cons.inj cut
        exact .inl ⟨rfl, found⟩
      | cons first before =>
        obtain ⟨rfl, rfl⟩ := List.cons.inj cut
        exact .inr ⟨before, behind, rfl, found⟩

/-! ## Segments -/

/-- The braces and the semicolon, at which a segment ends. -/
def isMark (char : Char) : Bool :=
  char == '{' || char == '}' || char == ';'

/-- The segment is the end of the text, from behind its last mark or from its front on. -/
def IsLastSegment (text segment : Text) : Prop :=
  ∃ before, text = before ++ segment ∧ (∀ char ∈ before.getLast?, isMark char = true) ∧
    ∀ char ∈ segment, isMark char = false

theorem isLastSegment_nil : IsLastSegment [] [] :=
  ⟨[], rfl, by simp, by simp⟩

theorem IsLastSegment.step {text : Text} {reading : Reading}
    (isLast : IsLastSegment text reading.segment) (char : Char) :
    IsLastSegment (text ++ [char]) (reading.step char).segment := by
  by_cases mark : isMark char = true
  · have ended : (reading.step char).segment = [] := by
      simp only [isMark, Bool.or_eq_true, beq_iff_eq, or_assoc] at mark
      rcases mark with rfl | rfl | rfl
      · rfl
      · rfl
      · rfl
    rw [ended]
    exact ⟨text ++ [char], by simp, by simp [mark], by simp⟩
  · have goesOn : (reading.step char).segment = reading.segment ++ [char] := by
      simp only [isMark, Bool.or_eq_true, beq_iff_eq, or_assoc, not_or] at mark
      rw [Reading.step, if_neg mark.1, if_neg mark.2.1, if_neg mark.2.2]
    obtain ⟨before, cut, ends, within⟩ := isLast
    refine ⟨before, by rw [goesOn, cut, List.append_assoc], ends, ?_⟩
    rw [goesOn]
    intro inside member
    rcases List.mem_append.mp member with earlier | last
    · exact within inside earlier
    · rw [List.mem_singleton.mp last]
      exact Bool.eq_false_iff.mpr mark

/-- The reading keeps the last segment of what it has read. -/
theorem isLastSegment_after (text : Text) :
    IsLastSegment text (Reading.start.after text).segment := by
  induction text using List.reverseRecOn with
  | nil => exact isLastSegment_nil
  | append_singleton text char ih =>
    rw [Reading.after_append]
    exact ih.step char

/-- A text has one last segment. -/
theorem IsLastSegment.unique {text segment segment' : Text} (isLast : IsLastSegment text segment)
    (isLast' : IsLastSegment text segment') : segment = segment' := by
  obtain ⟨before, rfl, ends, within⟩ := isLast
  obtain ⟨before', same, ends', within'⟩ := isLast'
  have mirrored : segment.reverse ++ before.reverse = segment'.reverse ++ before'.reverse := by
    rw [← List.reverse_append, same, List.reverse_append]
  have unmarked : ∀ part : Text, (∀ char ∈ part, isMark char = false) →
      ∀ char ∈ part.reverse, (!isMark char) = true := by
    intro part free char member
    rw [free char (List.mem_reverse.mp member), Bool.not_false]
  have marked : ∀ part : Text, (∀ char ∈ part.getLast?, isMark char = true) →
      EndsRun (fun char => !isMark char) part.reverse := by
    intro part last char first
    rw [List.head?_reverse] at first
    simp [last char first]
  exact List.reverse_injective (run_unique (unmarked _ within) (unmarked _ within')
    (marked _ ends) (marked _ ends') mirrored).1

/-! ## Open blocks -/

/-- The blocks that are open behind a text, innermost first, each with whether it holds statements:
what stands behind the brace of a block is balanced, up to the next block inside of it. -/
inductive OpenBlocks : Text → List Bool → Prop where
  | outside (text : Text) : OpenBlocks text []
  | inside {front heading inner : Text} {blocks : List Bool} : OpenBlocks front blocks →
      IsLastSegment front heading → Dyck (inner.filter isBrace) →
        OpenBlocks (front ++ '{' :: inner) (opensBlock (trim heading) :: blocks)

namespace OpenBlocks

variable {text : Text} {blocks : List Bool}

/-- Balanced text changes nothing. -/
theorem append (opened : OpenBlocks text blocks) {part : Text}
    (balanced : Dyck (part.filter isBrace)) : OpenBlocks (text ++ part) blocks := by
  cases opened with
  | outside => exact .outside _
  | @inside front heading inner blocks around isLast innerBalanced =>
    rw [List.append_assoc, List.cons_append]
    refine .inside around isLast ?_
    rw [List.filter_append]
    exact innerBalanced.append balanced

/-- A closing brace ends the innermost block. -/
theorem close (opened : OpenBlocks text blocks) : OpenBlocks (text ++ ['}']) blocks.tail := by
  cases opened with
  | outside => exact .outside _
  | @inside front heading inner blocks around isLast innerBalanced =>
    rw [List.append_assoc]
    refine around.append ?_
    rw [List.cons_append, List.filter_cons_of_pos rfl, List.filter_append]
    exact .pair innerBalanced .empty

theorem step {reading : Reading} (opened : OpenBlocks text reading.blocks)
    (isLast : IsLastSegment text reading.segment) (char : Char) :
    OpenBlocks (text ++ [char]) (reading.step char).blocks := by
  by_cases opens : char = '{'
  · subst opens
    exact .inside opened isLast .empty
  · by_cases closes : char = '}'
    · subst closes
      exact opened.close
    · have other : isBrace char = false := by simp [isBrace, opens, closes]
      rw [Reading.blocks_step reading other]
      refine opened.append ?_
      rw [List.filter_cons_of_neg (by simp [other])]
      exact .empty

/-- The innermost block that is open, if any, is balanced behind its brace. -/
theorem exists_innermost (opened : OpenBlocks text blocks) {ofStatements : Bool}
    (innermost : blocks.head? = some ofStatements) :
    ∃ front heading inner, text = front ++ '{' :: inner ∧ IsLastSegment front heading ∧
      opensBlock (trim heading) = ofStatements ∧ Dyck (inner.filter isBrace) := by
  cases opened with
  | outside => cases innermost
  | @inside front heading inner blocks _ isLast balanced =>
    exact ⟨front, heading, inner, rfl, isLast, Option.some.inj innermost, balanced⟩

end OpenBlocks

/-- **The reading knows the blocks that are open.** -/
theorem openBlocks_after (text : Text) : OpenBlocks text (Reading.start.after text).blocks := by
  induction text using List.reverseRecOn with
  | nil => exact .outside []
  | append_singleton text char ih =>
    rw [Reading.after_append]
    exact ih.step (isLastSegment_after text) char

/-! ## Balanced text -/

namespace Reading

theorem blocks_after_of_unbraced {text : Text} (free : ∀ char ∈ text, ¬isBrace char = true)
    (reading : Reading) : (reading.after text).blocks = reading.blocks := by
  induction text generalizing reading with
  | nil => rfl
  | cons char rest ih =>
    have other := Bool.eq_false_iff.mpr (free char List.mem_cons_self)
    rw [after_cons, ih (fun inside member => free inside (List.mem_cons_of_mem _ member)),
      blocks_step reading other]

/-- Reading a balanced text leaves the open blocks as they are. -/
theorem blocks_after_of_dyck {text : Text} (balanced : Dyck (text.filter isBrace))
    (reading : Reading) : (reading.after text).blocks = reading.blocks := by
  generalize braces : text.filter isBrace = word at balanced
  induction balanced generalizing text reading with
  | empty => exact blocks_after_of_unbraced (List.filter_eq_nil_iff.mp braces) reading
  | pair _ _ innerIh behindIh =>
    -- The two braces are found in the text, with other characters in front of either.
    obtain ⟨lead, rest, rfl, leadFree, -, restBraces⟩ := List.filter_eq_cons_iff.mp braces
    obtain ⟨inner, closing, rfl, innerBraces, closingBraces⟩ :=
      List.filter_eq_append_iff.mp restBraces
    obtain ⟨gap, behind, rfl, gapFree, -, behindBraces⟩ := List.filter_eq_cons_iff.mp closingBraces
    calc (reading.after (lead ++ '{' :: (inner ++ (gap ++ '}' :: behind)))).blocks
        = ((((reading.after lead).step '{').after inner).after gap).blocks.tail := by
          rw [after_append, after_cons, after_append, after_append, after_cons,
            behindIh _ behindBraces, step_closing]
      _ = (reading.after lead).blocks := by
          rw [blocks_after_of_unbraced gapFree, innerIh _ innerBraces, step_opening, List.tail_cons]
      _ = reading.blocks := blocks_after_of_unbraced leadFree reading

end Reading

/-! ## Headings and statements -/

/-- The text ends in a parenthesis or in a word that heads a block of statements. -/
def HeadsBlock (text : Text) : Prop :=
  text.getLast? = some ')' ∨
    ∃ front, ∃ word ∈ blockWords, text = front ++ word ∧
      ∀ char ∈ front.getLast?, isName char = false

theorem opensBlock_iff {text : Text} : opensBlock text = true ↔ HeadsBlock text := by
  rw [opensBlock, Bool.or_eq_true, beq_iff_eq, List.contains_iff_mem, HeadsBlock]
  refine or_congr_right ?_
  constructor
  · intro member
    refine ⟨(text.reverse.dropWhile isName).reverse, lastName text, member, ?_, ?_⟩
    · rw [lastName, ← List.reverse_append, List.takeWhile_append_dropWhile, List.reverse_reverse]
    · intro char last
      rw [List.getLast?_reverse] at last
      exact endsRun_dropWhile isName text.reverse char last
  · rintro ⟨front, word, member, rfl, ends⟩
    have named : blockWords.all (·.all isName) = true := by decide
    have within : ∀ char ∈ word.reverse, isName char = true := by
      intro char inside
      exact List.all_eq_true.mp (List.all_eq_true.mp named word member) char
        (List.mem_reverse.mp inside)
    have ends' : EndsRun isName front.reverse := by
      intro char first
      rw [List.head?_reverse] at first
      exact ends char first
    rw [lastName, List.reverse_append, takeWhile_run within ends', List.reverse_reverse]
    exact member

theorem hasClause_iff {text : Text} :
    hasClause text = true ↔ ∃ clause ∈ clauses, clause <:+: text := by
  simp only [hasClause, List.any_eq_true, occursIn_iff]

/-- The text is a statement that should have a semicolon behind it. -/
def IsOpenStatement (text : Text) : Prop :=
  text ≠ [] ∧ ∀ clause ∈ clauses, ¬clause <:+: text

theorem leavesOpen_iff {reading : Reading} :
    reading.leavesOpen = true ↔
      reading.blocks.head? = some true ∧ IsOpenStatement (trim reading.segment) := by
  have noClause : hasClause (trim reading.segment) = false ↔
      ∀ clause ∈ clauses, ¬clause <:+: trim reading.segment := by
    rw [Bool.eq_false_iff, ne_eq, hasClause_iff]
    simp only [not_exists, not_and]
  simp only [Reading.leavesOpen, IsOpenStatement, Bool.and_eq_true, beq_iff_eq, Bool.not_eq_true',
    List.isEmpty_eq_false_iff, noClause, and_assoc]

/-! ## Statements within blocks -/

/-- **A statement is left open inside of a line exactly where two partners enclose its block.** The
text in front of the first brace, from the last brace or semicolon on or from the front of the line
on, ends in a parenthesis or a word that heads a block. The text in front of the second brace, taken
in the same way, is not empty and contains no clause. Blanks at either end of a text do not count.
Braces elsewhere in the line need not be balanced. -/
theorem hasOpenStatement_iff (line : Text) :
    hasOpenStatement line = true ↔
      ∃ opening closing heading statement, ClosedAt line opening closing ∧
        IsLastSegment (line.take opening) heading ∧ HeadsBlock (trim heading) ∧
        IsLastSegment (line.take closing) statement ∧ IsOpenStatement (trim statement) := by
  have search : hasOpenStatement line = true ↔ _ := hasOpenStatementFrom_iff Reading.start line
  rw [search]
  constructor
  · rintro ⟨before, behind, rfl, found⟩
    obtain ⟨innermost, isOpen⟩ := leavesOpen_iff.mp found
    obtain ⟨front, heading, inner, rfl, isHeading, opens, balanced⟩ :=
      (openBlocks_after before).exists_innermost innermost
    refine ⟨front.length, (front ++ '{' :: inner).length, heading, _, ?_, ?_,
      opensBlock_iff.mp opens, ?_, isOpen⟩
    · exact closedAt_iff.mpr ⟨front, inner, behind, by simp, rfl, rfl, balanced⟩
    · rw [List.append_assoc, List.take_left]
      exact isHeading
    · rw [List.take_left]
      exact isLastSegment_after _
  · rintro ⟨opening, closing, heading, statement, partners, isHeading, heads, isStatement, isOpen⟩
    obtain ⟨front, inner, behind, rfl, rfl, rfl, balanced⟩ := closedAt_iff.mp partners
    rw [List.take_left] at isHeading
    rw [← List.cons_append, ← List.append_assoc] at isStatement ⊢
    rw [List.take_left] at isStatement
    refine ⟨front ++ '{' :: inner, behind, rfl, leavesOpen_iff.mpr ⟨?_, ?_⟩⟩
    · rw [Reading.after_append, Reading.after_cons, Reading.blocks_after_of_dyck balanced,
        Reading.step_opening, (isLastSegment_after front).unique isHeading, List.head?_cons,
        opensBlock_iff.mpr heads]
    · rw [(isLastSegment_after _).unique isStatement]
      exact isOpen

/-- A list of values is no block, and a brace without partner does not hide the block behind it. -/
example : hasOpenStatement "int a[] = \x7b 1 \x7d".toList = false ∧
    hasOpenStatement "\x7d void f() \x7b int a[] = \x7b 1 \x7d; g() \x7d".toList = true :=
  ⟨rfl, rfl⟩

end ShallowCpp.Termination
