import ShallowCpp.Proofs.Shape.Parts

/-!
# Trimming and blanks

Trimming takes off all the blanks at either end, so it leaves nothing of a blank text
(`Blank.trim_eq_nil`), and blanks that are added at the end of a text make no difference to it
(`trim_append_blank`). A text is what trimming leaves of it with blanks around
(`exists_trim_append`), and trimming does not reach over a character that is not blank.
-/

set_option autoImplicit false

namespace ShallowCpp.Text

theorem Blank.trimStart_eq_nil {text : Text} (blank : Blank text) : trimStart text = [] :=
  List.dropWhile_eq_nil_iff.mpr blank

/-- Trimming takes blanks off the front up to where they end. -/
theorem Blank.trimStart_append {blanks rest : Text} (blank : Blank blanks)
    (ends : EndsRun isBlank rest) : trimStart (blanks ++ rest) = rest :=
  dropWhile_run blank ends

theorem Blank.trim_eq_nil {text : Text} (blank : Blank text) : trim text = [] := by
  rw [trim, blank.trimStart_eq_nil]
  rfl

theorem blank_of_trimStart_eq_nil {text : Text} (nothing : trimStart text = []) : Blank text :=
  List.dropWhile_eq_nil_iff.mp nothing

theorem trimEnd_append_blank {blanks : Text} (blank : Blank blanks) (text : Text) :
    trimEnd (text ++ blanks) = trimEnd text := by
  rw [trimEnd, List.reverse_append, List.dropWhile_append_of_pos blank.reverse, trimEnd]

/-- Blanks at the end of a text are trimmed off. -/
theorem trim_append_blank {blanks : Text} (blank : Blank blanks) (text : Text) :
    trim (text ++ blanks) = trim text := by
  by_cases nothing : Blank text
  · have all : Blank (text ++ blanks) := by
      intro char member
      rcases List.mem_append.mp member with inText | inBlanks
      · exact nothing char inText
      · exact blank char inBlanks
    rw [all.trim_eq_nil, nothing.trim_eq_nil]
  · have starts : trimStart (text ++ blanks) = trimStart text ++ blanks := by
      have remains : (text.dropWhile isBlank).isEmpty = false :=
        List.isEmpty_eq_false_iff.mpr (mt blank_of_trimStart_eq_nil nothing)
      rw [trimStart, List.dropWhile_append, remains]
      rfl
    rw [trim, starts, trimEnd_append_blank blank, trim]

/-! ## What is trimmed off -/

theorem exists_trimEnd_append (text : Text) :
    ∃ blanks, Blank blanks ∧ text = trimEnd text ++ blanks := by
  have blank : Blank (text.reverse.takeWhile isBlank) := fun _ member =>
    List.mem_takeWhile_imp member
  refine ⟨(text.reverse.takeWhile isBlank).reverse, blank.reverse, ?_⟩
  rw [trimEnd, ← List.reverse_append, List.takeWhile_append_dropWhile, List.reverse_reverse]

theorem exists_trim_append (text : Text) :
    ∃ front back, Blank front ∧ Blank back ∧ text = front ++ (trim text ++ back) := by
  obtain ⟨back, blank, cut⟩ := exists_trimEnd_append (trimStart text)
  refine ⟨text.takeWhile isBlank, back, fun _ member => List.mem_takeWhile_imp member, blank, ?_⟩
  rw [trim, ← cut, trimStart, List.takeWhile_append_dropWhile]

/-- Neither end of the text is blank. -/
def Trimmed (text : Text) : Prop :=
  EndsRun isBlank text ∧ EndsRun isBlank text.reverse

theorem trimmed_trim (text : Text) : Trimmed (trim text) := by
  constructor
  · obtain ⟨blanks, -, cut⟩ := exists_trimEnd_append (trimStart text)
    exact EndsRun.of_prefix (endsRun_dropWhile isBlank text) ⟨blanks, cut.symm⟩
  · rw [trim, trimEnd, List.reverse_reverse]
    exact endsRun_dropWhile isBlank _

/-- A text with no blank at either end is left as it is by trimming. -/
theorem Trimmed.trim_eq {text : Text} (trimmed : Trimmed text) : trim text = text := by
  have front : trimStart text = text := trimStart_eq_iff.mpr ⟨[], blank_nil, trimmed.1, rfl⟩
  have back : text.reverse.dropWhile isBlank = text.reverse :=
    trimStart_eq_iff.mpr ⟨[], blank_nil, trimmed.2, rfl⟩
  rw [trim, front, trimEnd, back, List.reverse_reverse]

theorem trim_isInfix (text : Text) : trim text <:+: text := by
  obtain ⟨front, back, -, -, cut⟩ := exists_trim_append text
  exact ⟨front, back, by rw [List.append_assoc, ← cut]⟩

/-! ## Where trimming stops -/

theorem dropWhile_append_of_endsRun {inClass : Char → Bool} {front rest : Text}
    (ends : EndsRun inClass rest) :
    (front ++ rest).dropWhile inClass = front.dropWhile inClass ++ rest := by
  have stays : ([] ++ rest).dropWhile inClass = rest := dropWhile_run (List.forall_mem_nil _) ends
  rw [List.dropWhile_append]
  split
  next nothing =>
    rw [List.isEmpty_iff.mp nothing]
    exact stays
  next => rfl

/-- Trimming the end does not reach over a character that is not blank. -/
theorem trimEnd_append_cons {char : Char} {front rest : Text} (visible : isBlank char = false) :
    trimEnd (front ++ char :: rest) = front ++ trimEnd (char :: rest) := by
  have remains : (rest.reverse ++ [char]).dropWhile isBlank ≠ [] := by
    intro nothing
    have blank := List.dropWhile_eq_nil_iff.mp nothing char (by simp)
    rw [visible] at blank
    cases blank
  rw [trimEnd, List.reverse_append, List.reverse_cons, List.dropWhile_append,
    if_neg (by simpa using remains), List.reverse_append, List.reverse_reverse, trimEnd,
    List.reverse_cons]

theorem trimEnd_concat {char : Char} (visible : isBlank char = false) (text : Text) :
    trimEnd (text ++ [char]) = text ++ [char] := by
  simp [trimEnd, visible]

/-- A word at the end of a text is not trimmed off. -/
theorem Word.trimEnd_append {word : Text} (isWord : Word word) (front : Text) :
    trimEnd (front ++ word) = front ++ word := by
  obtain ⟨others, char, rfl, inWord⟩ := isWord.exists_concat
  rw [← List.append_assoc, trimEnd_concat (isBlank_of_isWord inWord)]

theorem Word.trim_eq {word : Text} (isWord : Word word) : trim word = word := by
  have starts : trimStart word = word := by
    refine trimStart_eq_iff.mpr ⟨[], blank_nil, ?_, rfl⟩
    have ends := isWord.endsBlank []
    rwa [List.append_nil] at ends
  rw [trim, starts, ← List.nil_append word, isWord.trimEnd_append]

end ShallowCpp.Text
