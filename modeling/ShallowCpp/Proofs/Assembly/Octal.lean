import Mathlib.Data.List.Basic
import ShallowCpp.Assembly.Render
import ShallowCpp.Proofs.Text.Lines

/-!
# Reading octal escapes back

An assembler takes a backslash and the three octal digits behind it for one character, and every
other character for itself. An escaped text is read back by this rule whatever it is made of
(`unescape_escape`): a backslash is escaped itself, so each one in the escaped text is the start of
an escape (`escapesBetween_of_escape`), and exactly three digits are read behind it, so digits that
follow in the text are not drawn in.

Neither the double quote nor a character that ends a line is left in an escaped text. A string
directive is therefore one line, with no quotes but those around the value, and its value is known
(`escape_reads_back`).
-/

set_option autoImplicit false

namespace ShallowCpp.Assembly.Octal

/-! ## The rule of the assembler -/

/-- A digit below eight. -/
def isOctalDigit (char : Char) : Bool :=
  48 ≤ char.toNat && char.toNat ≤ 55

/-- Reads the inside of a string directive: three octal digits behind a backslash are the number of
a character, and all other characters stand for themselves. -/
def unescape : Text → Text
  | '\\' :: first :: second :: third :: rest =>
    if [first, second, third].all isOctalDigit then
      Char.ofNat (Nat.ofDigitChars 8 [first, second, third] 0) :: unescape rest
    else '\\' :: unescape (first :: second :: third :: rest)
  | char :: rest => char :: unescape rest
  | [] => []

/-- The characters that are escaped, each with its digits. -/
def codes : List (Char × Text) :=
  [('\x07', "007".toList), ('\x08', "010".toList), ('\t', "011".toList), ('\n', "012".toList),
    ('\x0b', "013".toList), ('\x0c', "014".toList), ('\r', "015".toList), ('"', "042".toList),
    ('\\', "134".toList)]

/-! ## Single characters -/

theorem mem_codes {char : Char} (special : needsEscape char = true) :
    (char, digits char.toNat) ∈ codes := by
  simp only [needsEscape, Bool.or_eq_true, Bool.and_eq_true, decide_eq_true_eq, beq_iff_eq]
    at special
  rcases special with (⟨low, high⟩ | rfl) | rfl
  · have control : ∀ number < 14, 7 ≤ number →
        (Char.ofNat number, digits number) ∈ codes := by decide
    simpa only [Char.ofNat_toNat] using control char.toNat (Nat.lt_succ_of_le high) low
  · decide
  · decide

theorem isOctalDigit_digitChar {number : Nat} (bound : number < 8) :
    isOctalDigit (Nat.digitChar number) = true ∧
      (Nat.digitChar number).toNat - '0'.toNat = number := by
  have all : ∀ number < 8, isOctalDigit (Nat.digitChar number) = true ∧
      (Nat.digitChar number).toNat - '0'.toNat = number := by decide
  exact all number bound

theorem isOctalDigit_of_mem_digits {number : Nat} {char : Char} (member : char ∈ digits number) :
    isOctalDigit char = true := by
  simp only [digits, List.mem_cons, List.not_mem_nil, or_false] at member
  rcases member with rfl | rfl | rfl
  all_goals exact (isOctalDigit_digitChar (Nat.mod_lt _ (by decide))).1

/-- What stands for itself is no backslash. -/
theorem unescape_cons {char : Char} (plain : char ≠ '\\') (rest : Text) :
    unescape (char :: rest) = char :: unescape rest := by
  rw [unescape]
  rintro first second third rest rfl
  exact absurd rfl plain

/-- The digits of a number of up to nine bits are read back, whatever follows them. -/
theorem unescape_digits {number : Nat} (bound : number < 512) (rest : Text) :
    unescape ('\\' :: (digits number ++ rest)) = Char.ofNat number :: unescape rest := by
  have octal : (digits number).all isOctalDigit = true :=
    List.all_eq_true.mpr fun _ => isOctalDigit_of_mem_digits
  have value : Nat.ofDigitChars 8 (digits number) 0 = number := by
    simp only [digits, Nat.ofDigitChars, List.foldl_cons, List.foldl_nil]
    rw [(isOctalDigit_digitChar (Nat.mod_lt _ (by decide))).2,
      (isOctalDigit_digitChar (Nat.mod_lt _ (by decide))).2,
      (isOctalDigit_digitChar (Nat.mod_lt _ (by decide))).2]
    omega
  rw [digits] at octal value
  rw [digits, List.cons_append, List.cons_append, List.cons_append, List.nil_append, unescape,
    if_pos octal, value]

/-- A character is written as itself, or as a backslash and its digits. -/
theorem escapeChar_cases (char : Char) :
    (needsEscape char = true ∧ escapeChar char = '\\' :: digits char.toNat) ∨
      (needsEscape char = false ∧ escapeChar char = [char]) := by
  by_cases special : needsEscape char = true
  · exact .inl ⟨special, if_pos special⟩
  · exact .inr ⟨Bool.eq_false_iff.mpr special, if_neg special⟩

theorem toNat_lt_of_needsEscape {char : Char} (special : needsEscape char = true) :
    char.toNat < 512 := by
  have small : ∀ entry ∈ codes, entry.1.toNat < 512 := by decide
  exact small _ (mem_codes special)

theorem ne_backslash_of_plain {char : Char} (plain : needsEscape char = false) :
    char ≠ '\\' := by
  rintro rfl
  cases plain

/-! ## Texts -/

theorem escape_cons (char : Char) (rest : Text) :
    escape (char :: rest) = escapeChar char ++ escape rest :=
  List.flatMap_cons

theorem escape_append (text behind : Text) :
    escape (text ++ behind) = escape text ++ escape behind :=
  List.flatMap_append

/-- **An escaped text is read back.** -/
theorem unescape_escape (text : Text) : unescape (escape text) = text := by
  induction text with
  | nil => rfl
  | cons char rest ih =>
    rw [escape_cons]
    rcases escapeChar_cases char with ⟨special, written⟩ | ⟨plain, written⟩
    · rw [written, List.cons_append, unescape_digits (toNat_lt_of_needsEscape special), ih,
        Char.ofNat_toNat]
    · rw [written, List.singleton_append, unescape_cons (ne_backslash_of_plain plain), ih]

/-- An escaped text has no quotes in it and none of the characters from bell to carriage return. -/
theorem of_mem_escape {text : Text} {char : Char} (member : char ∈ escape text) :
    ¬(7 ≤ char.toNat ∧ char.toNat ≤ 13) ∧ char ≠ '"' := by
  obtain ⟨source, -, written⟩ := List.mem_flatMap.mp member
  rcases escapeChar_cases source with ⟨-, escaped⟩ | ⟨plain, itself⟩
  · rw [escaped, List.mem_cons] at written
    rcases written with rfl | digit
    · decide
    · have octal := isOctalDigit_of_mem_digits digit
      simp only [isOctalDigit, Bool.and_eq_true, decide_eq_true_eq] at octal
      refine ⟨by omega, ?_⟩
      rintro rfl
      exact absurd octal (by decide)
  · rw [itself, List.mem_singleton] at written
    subst written
    simp only [needsEscape, Bool.or_eq_false_iff, Bool.and_eq_false_iff, decide_eq_false_iff_not,
      beq_eq_false_iff_ne] at plain
    exact ⟨not_and_or.mpr plain.1.1, plain.2⟩

/-- A character that is not in a word stands behind the word. -/
theorem exists_behind_word {word rest front behind : Text} {char : Char} (absent : char ∉ word)
    (cut : word ++ rest = front ++ char :: behind) :
    ∃ part, front = word ++ part ∧ rest = part ++ char :: behind := by
  rcases List.append_eq_append_iff.mp cut with ⟨part, further, later⟩ | ⟨part, inside, later⟩
  · exact ⟨part, further, later⟩
  · cases part with
    | nil => exact ⟨[], by simpa using inside.symm, later.symm⟩
    | cons first part =>
      obtain ⟨rfl, -⟩ := List.cons.inj later
      simp [inside] at absent

/-- In the escaped form of the text, a backslash between the two parts starts the escape of one of
the characters: its code follows, and around that stand the escaped forms of what is around it. -/
def EscapesBetween (text front behind : Text) : Prop :=
  ∃ before char after code, text = before ++ char :: after ∧ (char, code) ∈ codes ∧
    front = escape before ∧ behind = code ++ escape after

/-- **Every backslash starts an escape.** -/
theorem escapesBetween_of_escape {text front behind : Text}
    (cut : escape text = front ++ '\\' :: behind) : EscapesBetween text front behind := by
  induction text generalizing front with
  | nil => simp [escape] at cut
  | cons first rest ih =>
    rw [escape_cons] at cut
    -- Behind what is written for the first character the rest of the text is in charge.
    have later : ∀ part, front = escapeChar first ++ part →
        escape rest = part ++ '\\' :: behind → EscapesBetween (first :: rest) front behind := by
      rintro part rfl cut
      obtain ⟨before, char, after, code, rfl, member, rfl, rfl⟩ := ih cut
      exact ⟨first :: before, char, after, code, rfl, member, (escape_cons _ _).symm, rfl⟩
    rcases escapeChar_cases first with ⟨special, written⟩ | ⟨plain, written⟩
    · rw [written, List.cons_append] at cut
      cases front with
      | nil => exact ⟨[], first, rest, _, rfl, mem_codes special, rfl, (List.cons.inj cut).2.symm⟩
      | cons backslash front =>
        obtain ⟨rfl, inside⟩ := List.cons.inj cut
        have absent : '\\' ∉ digits first.toNat :=
          fun digit => absurd (isOctalDigit_of_mem_digits digit) (by decide)
        obtain ⟨part, rfl, behind⟩ := exists_behind_word absent inside
        exact later part (by rw [written, List.cons_append]) behind
    · rw [written] at cut
      have absent : '\\' ∉ [first] := by
        simpa using (ne_backslash_of_plain plain).symm
      obtain ⟨part, rfl, behind⟩ := exists_behind_word absent cut
      exact later part (by rw [written]) behind

/-! ## Directives -/

/-- The string directive of a value. -/
def directive (value : Text) : Text :=
  "  .string \"".toList ++ escape value ++ ['"']

theorem lines_directive (value : Text) : Text.lines (directive value) = [directive value] := by
  have opening : '\n' ∉ "  .string \"".toList := by decide
  have inside : '\n' ∉ escape value := fun member => (of_mem_escape member).1 (by decide)
  have closing : '\n' ∉ ['"'] := by decide
  apply Text.lines_eq_singleton
  unfold directive
  simp only [List.mem_append, opening, inside, closing, or_false, not_false_eq_true]

theorem count_quote_directive (value : Text) : (directive value).count '"' = 2 := by
  have opening : "  .string \"".toList.count '"' = 1 := by decide
  have inside : (escape value).count '"' = 0 :=
    List.count_eq_zero.mpr fun member => (of_mem_escape member).2 rfl
  have closing : ['"'].count '"' = 1 := by decide
  unfold directive
  rw [List.count_append, List.count_append, opening, inside, closing]

theorem directive_injective : Function.Injective directive := by
  intro first second same
  have escaped : escape first = escape second :=
    List.append_cancel_left (List.append_cancel_right same)
  rw [← unescape_escape first, escaped, unescape_escape]

/-- **Octal escapes are read back, and keep a value inside its directive.** Any text is read back
from its escaped form by the rule of the assembler. The escaped form has no double quote and none of
the characters from bell to carriage return in it, and each backslash in it is followed by the
digits of one of the escaped characters. Texts are escaped part by part. So the directive of a
value, which is written as a line of its own, has no line feed in it and no quotes but the two
around the value, and different values have different directives. -/
theorem escape_reads_back :
    (∀ text, unescape (escape text) = text) ∧
      (∀ text, ∀ char ∈ escape text, ¬(7 ≤ char.toNat ∧ char.toNat ≤ 13) ∧ char ≠ '"') ∧
      (∀ text front behind, escape text = front ++ '\\' :: behind →
        EscapesBetween text front behind) ∧
      (∀ text behind, escape (text ++ behind) = escape text ++ escape behind) ∧
      (∀ string : StaticString,
        string.pieces = [line (string.label ++ [':']), line (directive string.value)]) ∧
      (∀ value, Text.lines (directive value) = [directive value] ∧
        (directive value).count '"' = 2) ∧
      ∀ first second, directive first = directive second → first = second :=
  ⟨unescape_escape, fun _ _ => of_mem_escape, fun _ _ _ => escapesBetween_of_escape, escape_append,
    fun _ => rfl, fun value => ⟨lines_directive value, count_quote_directive value⟩,
    directive_injective⟩

/-- A digit behind an escape is not drawn into it, and what looks like an escape is not read as
one. -/
theorem escape_reads_back_misleading_text :
    escape "\n7\\012".toList = "\\0127\\134012".toList ∧
      unescape "\\0127\\134012".toList = "\n7\\012".toList ∧
      '7' ≠ '"' ∧ EscapesBetween "\n7\\012".toList "\\0127".toList "134012".toList ∧
      directive "\n7\\012".toList ≠ directive "\\0127\\134012".toList := by
  obtain ⟨readsBack, free, escapes, -, -, -, injective⟩ := escape_reads_back
  have written : escape "\n7\\012".toList = "\\0127\\134012".toList := by decide
  refine ⟨written, ?_, ?_, escapes _ _ _ (by decide), fun same => ?_⟩
  · rw [← written]
    exact readsBack _
  · exact (free "\n7\\012".toList '7' (by decide)).2
  · exact absurd (injective _ _ same) (by decide)

end ShallowCpp.Assembly.Octal
