import ShallowCpp.Proofs.Text.Occurrences
import ShallowCpp.Proofs.Text.Trim
import ShallowCpp.Termination

/-!
# The grammar of signatures

A signature is spelled by a name, a parenthesised list and an ending, in which `const` and `= 0` may
stand among blanks. Nothing is asked of the text in front of it, so a line ends in a signature as
soon as some end of it is spelled that way, be it the end of an expression (`endsLine_iff`).

The parenthesis of a signature stands directly behind its name, but for blanks. A character that is
neither blank nor part of a word cannot stand between the two, so behind such a character a
signature starts anew (`Spells.starts_behind`).
-/

set_option autoImplicit false

namespace ShallowCpp.Signature

open Text

/-- The ways to write an optional `= 0` among blanks. -/
inductive SpellsPure : Text → Prop where
  | absent {blanks : Text} : Blank blanks → SpellsPure blanks
  | zero {front middle back : Text} : Blank front → Blank middle → Blank back →
      SpellsPure (front ++ '=' :: (middle ++ '0' :: back))

/-- The ways to end a signature. -/
inductive SpellsEnding : Text → Prop where
  | plain {text : Text} : SpellsPure text → SpellsEnding text
  | const {front text : Text} : Blank front → SpellsPure text →
      SpellsEnding (front ++ ("const".toList ++ text))

/-- The ways to write a signature. -/
inductive Spells : Text → Prop where
  | parts {name space params ending : Text} : Word name → Blank space → ')' ∉ params →
      SpellsEnding ending → Spells (name ++ (space ++ '(' :: (params ++ ')' :: ending)))

/-- Some end of the text is a signature. -/
def EndsIn (text : Text) : Prop :=
  ∃ signature, signature <:+ text ∧ Spells signature

/-! ## Endings -/

variable {text : Text}

theorem isPureOrEnd_iff : isPureOrEnd text = true ↔ SpellsPure text := by
  constructor
  · intro accepted
    rw [isPureOrEnd] at accepted
    split at accepted
    next nothing => exact .absent (blank_of_trimStart_eq_nil nothing)
    next char rest trimmed =>
      obtain ⟨front, frontBlank, -, rfl⟩ := trimStart_eq_iff.mp trimmed
      rw [Bool.and_eq_true, beq_iff_eq] at accepted
      obtain ⟨rfl, accepted⟩ := accepted
      split at accepted
      next => cases accepted
      next digit behind trimmed' =>
        obtain ⟨middle, middleBlank, -, rfl⟩ := trimStart_eq_iff.mp trimmed'
        rw [Bool.and_eq_true, beq_iff_eq, List.isEmpty_iff] at accepted
        obtain ⟨rfl, nothing⟩ := accepted
        exact .zero frontBlank middleBlank (blank_of_trimStart_eq_nil nothing)
  · intro spelled
    rw [isPureOrEnd]
    cases spelled with
    | absent blank => rw [blank.trimStart_eq_nil]
    | @zero front middle back frontBlank middleBlank backBlank =>
      have sign : EndsRun isBlank ('=' :: (middle ++ '0' :: back)) := endsRun_cons.mpr rfl
      have digit : EndsRun isBlank ('0' :: back) := endsRun_cons.mpr rfl
      simp [frontBlank.trimStart_append sign, middleBlank.trimStart_append digit,
        backBlank.trimStart_eq_nil]

theorem endsBlank_const (rest : Text) : EndsRun isBlank ("const".toList ++ rest) :=
  endsRun_cons.mpr rfl

/-- Where `const` follows the blanks, there is no `= 0` and no end. -/
theorem not_spellsPure_const {front rest : Text} (blank : Blank front) :
    ¬SpellsPure (front ++ ("const".toList ++ rest)) := by
  rw [← isPureOrEnd_iff, isPureOrEnd, blank.trimStart_append (endsBlank_const rest)]
  exact Bool.false_ne_true

theorem isEnding_iff : isEnding text = true ↔ SpellsEnding text := by
  have reads : (Shape.literal "const".toList).Reads fun _ written => written = "const".toList :=
    Shape.reads_literal (by decide)
  rw [isEnding]
  split
  next rest read =>
    obtain ⟨_, rfl, trimmed⟩ := reads.eq_some_iff.mp read
    obtain ⟨front, blank, -, rfl⟩ := trimStart_eq_iff.mp trimmed
    rw [isPureOrEnd_iff]
    constructor
    · exact .const blank
    · intro spelled
      generalize written : front ++ ("const".toList ++ rest) = whole at spelled
      cases spelled with
      | plain pureSpelled => exact absurd (written ▸ pureSpelled) (not_spellsPure_const blank)
      | @const front' rest' blank' pureSpelled =>
        obtain ⟨-, same⟩ :=
          run_unique blank blank' (endsBlank_const rest) (endsBlank_const rest') written
        rwa [List.append_cancel_left same]
  next refused =>
    rw [isPureOrEnd_iff]
    constructor
    · exact .plain
    · intro spelled
      cases spelled with
      | plain pureSpelled => exact pureSpelled
      | @const front rest blank _ =>
        have read : Shape.literal "const".toList ("const".toList ++ rest) = some ((), rest) :=
          reads.eq_some rfl rest
        rw [blank.trimStart_append (endsBlank_const rest), read] at refused
        cases refused

/-! ## Whole signatures -/

theorem isWhole_iff : isWhole text = true ↔ Spells text := by
  constructor
  · intro accepted
    rw [isWhole] at accepted
    split at accepted
    next => cases accepted
    next name behind readName =>
      split at accepted
      next => cases accepted
      next params ending readParams =>
        obtain ⟨nameWord, -, rfl⟩ := Shape.word_eq_some_iff.mp readName
        obtain ⟨free, opened⟩ := Shape.parenthesised_eq_some_iff.mp readParams
        obtain ⟨space, spaceBlank, -, rfl⟩ := trimStart_eq_iff.mp opened
        exact .parts nameWord spaceBlank free (isEnding_iff.mp accepted)
  · intro spelled
    cases spelled with
    | @parts name space params ending nameWord spaceBlank free endingSpelled =>
      have readName : Shape.word (name ++ (space ++ '(' :: (params ++ ')' :: ending))) =
          some (name, space ++ '(' :: (params ++ ')' :: ending)) :=
        Shape.word_eq_some_iff.mpr ⟨nameWord, spaceBlank.endsWord (endsRun_cons.mpr rfl), rfl⟩
      have opened : EndsRun isBlank ('(' :: (params ++ ')' :: ending)) := endsRun_cons.mpr rfl
      have readParams : Shape.parenthesised ('(' :: (params ++ ')' :: ending)) =
          some (params, ending) :=
        Shape.parenthesised_eq_some_iff.mpr ⟨free, rfl⟩
      rw [isWhole, readName]
      simp only [spaceBlank.trimStart_append opened, readParams]
      exact isEnding_iff.mpr endingSpelled

theorem Spells.ne_nil (spelled : Spells text) : text ≠ [] := by
  cases spelled with
  | parts nameWord => exact List.append_ne_nil_of_left_ne_nil nameWord.ne_nil _

/-- **The search finds a signature exactly where a line ends in one.** -/
theorem endsLine_iff : endsLine text = true ↔ EndsIn text := by
  induction text with
  | nil =>
    refine iff_of_false Bool.false_ne_true ?_
    rintro ⟨signature, isEnd, spelled⟩
    exact spelled.ne_nil (List.suffix_nil.mp isEnd)
  | cons char rest ih =>
    rw [endsLine, Bool.or_eq_true, isWhole_iff, ih]
    constructor
    · rintro (whole | ⟨signature, isEnd, spelled⟩)
      · exact ⟨_, List.suffix_refl _, whole⟩
      · exact ⟨signature, isEnd.trans (List.suffix_cons char rest), spelled⟩
    · rintro ⟨signature, isEnd, spelled⟩
      rcases List.suffix_cons_iff.mp isEnd with rfl | later
      · exact .inl spelled
      · exact .inr ⟨signature, later, spelled⟩

instance (text : Text) : Decidable (EndsIn text) :=
  decidable_of_iff _ endsLine_iff

/-! ## Where a signature starts -/

/-- A signature starts behind a character that is neither blank nor part of a word, unless its
parenthesis stands in front of the character. -/
theorem Spells.starts_behind {sign : Char} {before rest front signature : Text}
    (spelled : Spells signature) (visible : isBlank sign = false) (noWord : isWord sign = false)
    (other : sign ≠ '(') (unopened : '(' ∉ before)
    (same : before ++ sign :: rest = front ++ signature) : signature <:+ rest := by
  cases spelled with
  | @parts name space params ending nameWord spaceBlank =>
    have inRun : ∀ char ∈ name ++ space, char ≠ sign := by
      rintro char member rfl
      rcases List.mem_append.mp member with inName | inSpace
      · exact nameWord.notMem noWord inName
      · exact spaceBlank.notMem visible inSpace
    rcases List.append_eq_append_iff.mp same with ⟨further, -, left⟩ | ⟨inside, cut, left⟩
    · cases further with
      | nil =>
        obtain ⟨first, others, rfl⟩ := List.exists_cons_of_ne_nil nameWord.ne_nil
        exact absurd (List.cons.inj left).1.symm (inRun first (by simp))
      | cons _ further => exact ⟨further, (List.cons.inj left).2.symm⟩
    · -- The signature would start in front of the character and be open there.
      exfalso
      rw [← List.append_assoc] at left
      rcases List.append_eq_append_iff.mp left with ⟨opened, whole, stop⟩ | ⟨run, whole, stop⟩
      · cases opened with
        | nil => exact other (List.cons.inj stop).1.symm
        | cons parenthesis _ =>
          obtain ⟨rfl, -⟩ := List.cons.inj stop
          exact unopened (by simp [cut, whole])
      · cases run with
        | nil => exact other (List.cons.inj stop).1
        | cons _ others =>
          obtain ⟨rfl, -⟩ := List.cons.inj stop
          exact inRun sign (by simp [whole]) rfl

/-- Behind such a character it is the rest of a text that decides whether the text ends in a
signature. -/
theorem endsIn_append_cons {sign : Char} {before rest : Text} (visible : isBlank sign = false)
    (noWord : isWord sign = false) (other : sign ≠ '(') (unopened : '(' ∉ before) :
    EndsIn (before ++ sign :: rest) ↔ EndsIn rest := by
  constructor
  · rintro ⟨signature, ⟨front, same⟩, spelled⟩
    exact ⟨signature, spelled.starts_behind visible noWord other unopened same.symm, spelled⟩
  · rintro ⟨signature, isEnd, spelled⟩
    have within := (List.suffix_cons sign rest).trans (List.suffix_append before _)
    exact ⟨signature, isEnd.trans within, spelled⟩

/-- Blanks in front of a text do not matter, since a signature starts with its name. -/
theorem endsIn_cons_blank {char : Char} {rest : Text} (blank : isBlank char = true) :
    EndsIn (char :: rest) ↔ EndsIn rest := by
  constructor
  · rintro ⟨signature, isEnd, spelled⟩
    rcases List.suffix_cons_iff.mp isEnd with rfl | later
    · generalize written : char :: rest = whole at spelled
      cases spelled with
      | @parts name space params ending nameWord =>
        have visible := nameWord.endsBlank (space ++ '(' :: (params ++ ')' :: ending))
        rw [← written, endsRun_cons, blank] at visible
        cases visible
    · exact ⟨signature, later, spelled⟩
  · rintro ⟨signature, isEnd, spelled⟩
    exact ⟨signature, isEnd.trans (List.suffix_cons char rest), spelled⟩

end ShallowCpp.Signature
