import Mathlib.Data.List.TakeDrop
import Mathlib.Data.List.TakeWhile
import ShallowCpp.Shape.Scan

/-!
# The parts of a shape

Shapes are put together from words, gaps and parenthesised lists. A word and a gap are runs of
characters of one class, and a run reaches as far as it can: it ends at the end of the text or in
front of a character outside the class. No blank is a word character, so words and gaps delimit each
other. Each small shape is characterised by the text it takes off and by what may follow
(`word_eq_some_iff`, `gap_eq_some_iff`, `parenthesised_eq_some_iff`).
-/

set_option autoImplicit false

namespace ShallowCpp

namespace Text

/-! ## Blanks and words -/

/-- The code points of the blank characters. -/
def blankPoints : List Nat :=
  [9, 10, 11, 12, 13, 0x20, 0x85, 0xA0, 0x1680, 0x2000, 0x2001, 0x2002, 0x2003, 0x2004, 0x2005,
    0x2006, 0x2007, 0x2008, 0x2009, 0x200A, 0x2028, 0x2029, 0x202F, 0x205F, 0x3000]

theorem mem_blankPoints {char : Char} (blank : isBlank char = true) : char.toNat ∈ blankPoints := by
  simp only [isBlank, Bool.or_eq_true, Bool.and_eq_true, decide_eq_true_eq, beq_iff_eq] at blank
  simp only [blankPoints, List.mem_cons, List.not_mem_nil, or_false]
  omega

/-- A blank is not a word character. -/
theorem isWord_of_isBlank {char : Char} (blank : isBlank char = true) : isWord char = false := by
  have separate : ∀ point ∈ blankPoints, isWord (Char.ofNat point) = false := by decide +kernel
  have known := separate char.toNat (mem_blankPoints blank)
  rwa [Char.ofNat_toNat] at known

/-- A word character is not a blank. -/
theorem isBlank_of_isWord {char : Char} (inWord : isWord char = true) : isBlank char = false := by
  apply Bool.eq_false_iff.mpr
  intro blank
  rw [isWord_of_isBlank blank] at inWord
  cases inWord

/-- The letters and digits of ASCII by their code points. -/
theorem isAlphanum_iff {char : Char} :
    char.isAlphanum = true ↔
      65 ≤ char.toNat ∧ char.toNat ≤ 90 ∨ 97 ≤ char.toNat ∧ char.toNat ≤ 122 ∨
        48 ≤ char.toNat ∧ char.toNat ≤ 57 := by
  have classes : char.isAlphanum =
      ((decide (char.val ≥ 65 ∧ char.val ≤ 90) ||
        decide (char.val ≥ 97) && decide (char.val ≤ 122)) ||
          decide (char.val ≥ 48) && decide (char.val ≤ 57)) := rfl
  simp only [classes, Bool.or_eq_true, Bool.and_eq_true, decide_eq_true_eq, ge_iff_le,
    UInt32.le_iff_toNat_le, UInt32.reduceToNat, Char.toNat_val, or_assoc]

/-- The letters and digits of ASCII are word characters. -/
theorem isWord_of_isAlphanum {char : Char} (alphanumeric : char.isAlphanum = true) :
    isWord char = true := by
  have small : char.toNat < 0x80 := by
    have points := isAlphanum_iff.mp alphanumeric
    omega
  simp [isWord, small, alphanumeric]

theorem isWord_of_isDigit {char : Char} (digit : char.isDigit = true) : isWord char = true :=
  isWord_of_isAlphanum (Bool.or_eq_true_iff.mpr (.inr digit))

/-- The text consists of blanks. -/
def Blank (text : Text) : Prop :=
  ∀ char ∈ text, isBlank char = true

theorem blank_nil : Blank [] :=
  fun _ member => absurd member List.not_mem_nil

theorem blank_space : Blank [' '] :=
  fun _ member => List.mem_singleton.mp member ▸ rfl

instance (text : Text) : Decidable (Blank text) :=
  decidable_of_iff (text.all isBlank = true) List.all_eq_true

/-- The text is a word. -/
structure Word (text : Text) : Prop where
  ne_nil : text ≠ []
  isWord : ∀ char ∈ text, Text.isWord char = true

instance (text : Text) : Decidable (Word text) :=
  decidable_of_iff (text ≠ [] ∧ text.all Text.isWord = true)
    ⟨fun ⟨nonempty, all⟩ => ⟨nonempty, List.all_eq_true.mp all⟩,
      fun word => ⟨word.ne_nil, List.all_eq_true.mpr word.isWord⟩⟩

theorem Word.notMem {text : Text} (word : Word text) {char : Char}
    (outside : Text.isWord char = false) : char ∉ text := by
  intro member
  rw [word.isWord char member] at outside
  cases outside

theorem Blank.notMem {text : Text} (blank : Blank text) {char : Char}
    (visible : isBlank char = false) : char ∉ text := by
  intro member
  rw [blank char member] at visible
  cases visible

/-- A word has no line feed in it. -/
theorem Word.lineFeed_notMem {text : Text} (word : Word text) : '\n' ∉ text :=
  word.notMem rfl

theorem Word.reverse {text : Text} (word : Word text) : Word text.reverse where
  ne_nil := List.reverse_ne_nil_iff.mpr word.ne_nil
  isWord := fun char member => word.isWord char (List.mem_reverse.mp member)

/-- A word ends with a word character. -/
theorem Word.exists_concat {text : Text} (word : Word text) :
    ∃ front char, text = front ++ [char] ∧ Text.isWord char = true :=
  ⟨_, _, (List.dropLast_concat_getLast word.ne_nil).symm,
    word.isWord _ (List.getLast_mem word.ne_nil)⟩

theorem Blank.reverse {text : Text} (blank : Blank text) : Blank text.reverse :=
  fun char member => blank char (List.mem_reverse.mp member)

/-! ## Runs of characters -/

/-- A run of characters of the class ends in front of the text. -/
def EndsRun (inClass : Char → Bool) (behind : Text) : Prop :=
  ∀ char ∈ behind.head?, inClass char = false

variable {inClass : Char → Bool} {run behind : Text}

theorem endsRun_cons {char : Char} {rest : Text} :
    EndsRun inClass (char :: rest) ↔ inClass char = false := by
  simp [EndsRun]

theorem EndsRun.of_prefix {front : Text} (ends : EndsRun inClass behind)
    (starts : front <+: behind) : EndsRun inClass front := by
  intro char first
  cases front with
  | nil => cases first
  | cons head rest =>
    obtain ⟨others, rfl⟩ := starts
    exact ends char first

theorem EndsRun.append {front : Text} (ends : EndsRun inClass front) (nonempty : front ≠ [])
    (rest : Text) : EndsRun inClass (front ++ rest) := by
  cases front with
  | nil => exact absurd rfl nonempty
  | cons char others => exact endsRun_cons.mpr (endsRun_cons.mp ends)

theorem endsRun_dropWhile (inClass : Char → Bool) (text : Text) :
    EndsRun inClass (text.dropWhile inClass) := by
  intro char first
  have outside := List.head?_dropWhile_not inClass text
  rw [Option.mem_def.mp first] at outside
  exact outside

theorem takeWhile_run (within : ∀ char ∈ run, inClass char = true)
    (ends : EndsRun inClass behind) : (run ++ behind).takeWhile inClass = run := by
  rw [List.takeWhile_append_of_pos within]
  cases behind with
  | nil => simp
  | cons char rest => simp [endsRun_cons.mp ends]

theorem dropWhile_run (within : ∀ char ∈ run, inClass char = true)
    (ends : EndsRun inClass behind) : (run ++ behind).dropWhile inClass = behind := by
  rw [List.dropWhile_append_of_pos within]
  cases behind with
  | nil => simp
  | cons char rest => simp [endsRun_cons.mp ends]

theorem ne_of_notMem {stop : Char} {text : Text} (free : stop ∉ text) :
    ∀ char ∈ text, (char != stop) = true :=
  fun _ member => bne_iff_ne.mpr fun same => free (same ▸ member)

theorem endsRun_ne (stop : Char) (rest : Text) : EndsRun (· != stop) (stop :: rest) :=
  endsRun_cons.mpr (bne_self_eq_false stop)

/-- A text that has the character `stop` in it is cut at its first occurrence. -/
theorem cut_at_first {stop closing : Char} {text behind : Text}
    (cut : text.dropWhile (· != stop) = closing :: behind) :
    stop ∉ text.takeWhile (· != stop) ∧ text = text.takeWhile (· != stop) ++ stop :: behind := by
  constructor
  · intro member
    simpa using List.mem_takeWhile_imp member
  · have ends := endsRun_dropWhile (· != stop) text
    rw [cut] at ends
    obtain rfl : closing = stop := by simpa using endsRun_cons.mp ends
    rw [← cut, List.takeWhile_append_dropWhile]

/-- A text starts with one run of a class that reaches as far as it can. -/
theorem run_unique {run run' behind behind' : Text} (within : ∀ char ∈ run, inClass char = true)
    (within' : ∀ char ∈ run', inClass char = true) (ends : EndsRun inClass behind)
    (ends' : EndsRun inClass behind') (same : run ++ behind = run' ++ behind') :
    run = run' ∧ behind = behind' := by
  have taken := takeWhile_run within ends
  have dropped := dropWhile_run within ends
  rw [same, takeWhile_run within' ends'] at taken
  rw [same, dropWhile_run within' ends'] at dropped
  exact ⟨taken.symm, dropped.symm⟩

/-- A run of blanks ends where a word starts. -/
theorem Word.endsBlank {word : Text} (isWord : Word word) (rest : Text) :
    EndsRun isBlank (word ++ rest) := by
  cases word with
  | nil => exact absurd rfl isWord.ne_nil
  | cons char others =>
    exact endsRun_cons.mpr (isBlank_of_isWord (isWord.isWord char List.mem_cons_self))

/-- A word ends where a gap starts. -/
theorem Blank.endsWord_of_ne_nil {gap : Text} (blank : Blank gap) (nonempty : gap ≠ [])
    (rest : Text) : EndsRun isWord (gap ++ rest) := by
  cases gap with
  | nil => exact absurd rfl nonempty
  | cons char others => exact endsRun_cons.mpr (isWord_of_isBlank (blank char List.mem_cons_self))

/-- Blanks in front of a text that ends a word end the word as well. -/
theorem Blank.endsWord {blanks rest : Text} (blank : Blank blanks) (ends : EndsRun isWord rest) :
    EndsRun isWord (blanks ++ rest) := by
  by_cases absent : blanks = []
  · rw [absent, List.nil_append]
    exact ends
  · exact blank.endsWord_of_ne_nil absent rest

/-- Trimming takes off the blanks at the front. -/
theorem trimStart_eq_iff {text behind : Text} :
    trimStart text = behind ↔
      ∃ blanks, Blank blanks ∧ EndsRun isBlank behind ∧ text = blanks ++ behind := by
  constructor
  · rintro rfl
    exact ⟨text.takeWhile isBlank, fun _ => List.mem_takeWhile_imp, endsRun_dropWhile _ _,
      List.takeWhile_append_dropWhile.symm⟩
  · rintro ⟨blanks, blank, ends, rfl⟩
    exact dropWhile_run blank ends

end Text

/-! ## Small shapes -/

namespace Shape

open Text

variable {text behind : Text}

theorem word_eq_some_iff {word : Text} :
    Shape.word text = some (word, behind) ↔
      Word word ∧ EndsRun isWord behind ∧ text = word ++ behind := by
  simp only [Shape.word, List.span_eq_takeWhile_dropWhile]
  constructor
  · intro read
    have within : ∀ char ∈ text.takeWhile isWord, isWord char = true :=
      fun _ => List.mem_takeWhile_imp
    cases taken : text.takeWhile isWord with
    | nil =>
      rw [taken] at read
      cases read
    | cons first others =>
      rw [taken] at read within
      simp only [Option.some.injEq, Prod.mk.injEq] at read
      obtain ⟨rfl, rfl⟩ := read
      refine ⟨⟨List.cons_ne_nil first others, within⟩, endsRun_dropWhile _ _, ?_⟩
      rw [← taken, List.takeWhile_append_dropWhile]
  · rintro ⟨isWord, ends, rfl⟩
    rw [takeWhile_run isWord.isWord ends, dropWhile_run isWord.isWord ends]
    cases word with
    | nil => exact absurd rfl isWord.ne_nil
    | cons first others => rfl

theorem gap_eq_some_iff :
    Shape.gap text = some ((), behind) ↔
      ∃ blanks, blanks ≠ [] ∧ Blank blanks ∧ EndsRun isBlank behind ∧ text = blanks ++ behind := by
  constructor
  · intro read
    cases text with
    | nil => cases read
    | cons char rest =>
      rw [Shape.gap] at read
      split at read
      next blank =>
        simp only [Option.some.injEq, Prod.mk.injEq, true_and] at read
        obtain ⟨blanks, others, ends, rfl⟩ := trimStart_eq_iff.mp read
        exact ⟨char :: blanks, List.cons_ne_nil char blanks,
          List.forall_mem_cons.mpr ⟨blank, others⟩, ends, rfl⟩
      next => cases read
  · rintro ⟨blanks, nonempty, blank, ends, rfl⟩
    cases blanks with
    | nil => exact absurd rfl nonempty
    | cons char others =>
      obtain ⟨first, rest⟩ := List.forall_mem_cons.mp blank
      rw [List.cons_append, Shape.gap, if_pos first,
        trimStart_eq_iff.mpr ⟨others, rest, ends, rfl⟩]

theorem parenthesised_eq_some_iff {list : Text} :
    Shape.parenthesised text = some (list, behind) ↔
      ')' ∉ list ∧ text = '(' :: (list ++ ')' :: behind) := by
  constructor
  · intro read
    cases text with
    | nil => cases read
    | cons char rest =>
      rw [Shape.parenthesised] at read
      split at read
      next opens =>
        split at read
        next => cases read
        next closing others cut =>
          simp only [Option.some.injEq, Prod.mk.injEq] at read
          obtain ⟨rfl, rfl⟩ := read
          obtain ⟨free, whole⟩ := cut_at_first cut
          exact ⟨free, by rw [opens, ← whole]⟩
      next => cases read
  · rintro ⟨free, rfl⟩
    have within := ne_of_notMem free
    have ends := endsRun_ne ')' behind
    rw [Shape.parenthesised, if_pos rfl, takeWhile_run within ends, dropWhile_run within ends]

end Shape

end ShallowCpp
