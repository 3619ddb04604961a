import Mathlib.Data.List.SplitBy
import ShallowCpp.Proofs.Text.Trim
import ShallowCpp.Token.Basic

/-!
# How a text is cut into fragments

A delimiter is a fragment, and so is a run of plain characters that reaches as far as it can; blanks
are dropped. A text is cut wherever two neighbours are not both plain, so its fragments can be read
off from its front: a blank there is passed over, and anything else belongs to a piece that is cut
off in front of the rest. Every text is taken apart in these two ways, which gives an induction
along its fragments (`fragmentInduction`).

The fragments hold all characters that are not blank, so a text has none exactly when it is blank
(`fragments_eq_nil_iff`), and blanks at either end make no difference (`fragments_trim`).
-/

set_option autoImplicit false

namespace ShallowCpp.Token

open Text

/-! ## The two sorts of fragment -/

/-- The text is a delimiter. -/
def IsSingle (text : Text) : Prop :=
  ∃ char, isDelimiter char = true ∧ text = [char]

/-- The text is a run of plain characters. -/
structure IsRun (text : Text) : Prop where
  ne_nil : text ≠ []
  plain : ∀ char ∈ text, isPlain char = true

/-- The piece is cut off in front of the text behind it: it is a delimiter, or a run that does not
go on there. -/
def IsCutOff (piece behind : Text) : Prop :=
  IsSingle piece ∨ IsRun piece ∧ EndsRun isPlain behind

theorem isPlain_of_isBlank {char : Char} (blank : isBlank char = true) : isPlain char = false := by
  simp [isPlain, blank]

theorem isPlain_of_isDelimiter {char : Char} (delimiter : isDelimiter char = true) :
    isPlain char = false := by
  simp [isPlain, delimiter]

theorem isBlank_of_isPlain {char : Char} (plain : isPlain char = true) : isBlank char = false := by
  simpa using (Bool.and_eq_true_iff.mp plain).1

/-- A delimiter is neither blank nor part of a word. -/
theorem isBlank_and_isWord_of_isDelimiter {char : Char} (delimiter : isDelimiter char = true) :
    isBlank char = false ∧ isWord char = false := by
  have apart : delimiters.all (fun char => !isBlank char && !isWord char) = true := by decide
  simpa using List.all_eq_true.mp apart char (List.contains_iff_mem.mp delimiter)

theorem isBlank_of_isDelimiter {char : Char} (delimiter : isDelimiter char = true) :
    isBlank char = false :=
  (isBlank_and_isWord_of_isDelimiter delimiter).1

/-- Word characters are plain. -/
theorem isPlain_of_isWord {char : Char} (inWord : isWord char = true) : isPlain char = true := by
  have notDelimiter : isDelimiter char = false := by
    apply Bool.eq_false_iff.mpr
    intro delimiter
    rw [(isBlank_and_isWord_of_isDelimiter delimiter).2] at inWord
    cases inWord
  simp [isPlain, isBlank_of_isWord inWord, notDelimiter]

variable {piece behind : Text}

theorem isRun_of_word (word : Word piece) : IsRun piece :=
  ⟨word.ne_nil, fun char member => isPlain_of_isWord (word.isWord char member)⟩

theorem IsRun.not_endsRun (isRun : IsRun piece) (behind : Text) :
    ¬ EndsRun isPlain (piece ++ behind) := by
  intro ends
  obtain ⟨first, others, rfl⟩ := List.exists_cons_of_ne_nil isRun.ne_nil
  have plain := isRun.plain first List.mem_cons_self
  rw [endsRun_cons.mp ends] at plain
  cases plain

theorem IsSingle.endsRun (single : IsSingle piece) (behind : Text) :
    EndsRun isPlain (piece ++ behind) := by
  obtain ⟨char, delimiter, rfl⟩ := single
  exact endsRun_cons.mpr (isPlain_of_isDelimiter delimiter)

theorem isCutOff_of_endsRun (sort : IsSingle piece ∨ IsRun piece) (ends : EndsRun isPlain behind) :
    IsCutOff piece behind :=
  sort.imp_right fun isRun => ⟨isRun, ends⟩

theorem IsCutOff.isSingle_or_isRun (cutOff : IsCutOff piece behind) :
    IsSingle piece ∨ IsRun piece :=
  cutOff.imp_right And.left

theorem IsCutOff.ne_nil (cutOff : IsCutOff piece behind) : piece ≠ [] := by
  rcases cutOff with ⟨char, -, rfl⟩ | ⟨isRun, -⟩
  · exact List.cons_ne_nil char []
  · exact isRun.ne_nil

theorem IsCutOff.isBlank (cutOff : IsCutOff piece behind) :
    ∀ char ∈ piece, isBlank char = false := by
  intro char member
  rcases cutOff with ⟨other, delimiter, rfl⟩ | ⟨isRun, -⟩
  · rw [List.mem_singleton.mp member]
    exact isBlank_of_isDelimiter delimiter
  · exact isBlank_of_isPlain (isRun.plain char member)

/-- At most one piece is cut off from the front of a text. -/
theorem IsCutOff.unique {piece' behind' : Text} (cutOff : IsCutOff piece behind)
    (cutOff' : IsCutOff piece' behind') (same : piece ++ behind = piece' ++ behind') :
    piece = piece' := by
  rcases cutOff with single | ⟨isRun, ends⟩
  · rcases cutOff' with single' | ⟨isRun', -⟩
    · obtain ⟨char, -, rfl⟩ := single
      obtain ⟨char', -, rfl⟩ := single'
      obtain ⟨rfl, -⟩ := List.cons_eq_cons.mp same
      rfl
    · exact absurd (same ▸ single.endsRun behind) (isRun'.not_endsRun behind')
  · rcases cutOff' with single' | ⟨isRun', ends'⟩
    · exact absurd (same ▸ single'.endsRun behind') (isRun.not_endsRun behind)
    · exact (run_unique isRun.plain isRun'.plain ends ends' same).1

/-! ## Cutting -/

/-- A text is cut between neighbours that are not both plain. -/
theorem fragments_append (front rest : Text)
    (apart : ∀ left ∈ front.getLast?, ∀ right ∈ rest.head?,
      (isPlain left && isPlain right) = false) :
    fragments (front ++ rest) = fragments front ++ fragments rest := by
  rw [fragments, List.splitBy_append apart, List.filter_append, fragments, fragments]

theorem fragments_append_of_endsRun (front : Text) {rest : Text} (ends : EndsRun isPlain rest) :
    fragments (front ++ rest) = fragments front ++ fragments rest := by
  refine fragments_append front rest fun left _ right first => ?_
  rw [ends right first, Bool.and_false]

theorem fragments_blank {char : Char} (blank : isBlank char = true) : fragments [char] = [] := by
  simp [fragments, List.splitBy, List.splitBy.loop, blank]

theorem fragments_cons_blank {char : Char} (blank : isBlank char = true) (rest : Text) :
    fragments (char :: rest) = fragments rest := by
  have cut := fragments_append [char] rest (by simp [isPlain_of_isBlank blank])
  rwa [fragments_blank blank] at cut

theorem IsSingle.fragments_eq (single : IsSingle piece) : fragments piece = [piece] := by
  obtain ⟨char, delimiter, rfl⟩ := single
  simp [fragments, List.splitBy, List.splitBy.loop, isBlank_of_isDelimiter delimiter]

theorem IsRun.fragments_eq (isRun : IsRun piece) : fragments piece = [piece] := by
  have together : piece.IsChain fun left right => isPlain left && isPlain right := by
    refine List.Pairwise.isChain (List.pairwise_iff_forall_sublist.mpr fun pair => ?_)
    have inRun := fun char member => isRun.plain char (pair.subset member)
    simp [inRun]
  obtain ⟨first, others, rfl⟩ := List.exists_cons_of_ne_nil isRun.ne_nil
  have visible := isBlank_of_isPlain (isRun.plain first List.mem_cons_self)
  rw [fragments, List.splitBy_of_isChain isRun.ne_nil together]
  simp [visible]

/-- A piece that is cut off is the first fragment. -/
theorem IsCutOff.fragments_append (cutOff : IsCutOff piece behind) :
    fragments (piece ++ behind) = piece :: fragments behind := by
  rcases cutOff with single | ⟨isRun, ends⟩
  · obtain ⟨char, delimiter, rfl⟩ := single
    have apart := isPlain_of_isDelimiter delimiter
    rw [Token.fragments_append [char] behind (by simp [apart]),
      IsSingle.fragments_eq ⟨char, delimiter, rfl⟩, List.singleton_append]
  · rw [fragments_append_of_endsRun piece ends, isRun.fragments_eq, List.singleton_append]

/-- Induction along the fragments of a text. -/
theorem fragmentInduction {motive : Text → Prop} (empty : motive [])
    (blank : ∀ char rest, isBlank char = true → motive rest → motive (char :: rest))
    (fragment : ∀ piece rest, IsCutOff piece rest → motive rest → motive (piece ++ rest))
    (text : Text) : motive text := by
  induction size : text.length using Nat.strong_induction_on generalizing text with
  | _ bound ih =>
    cases text with
    | nil => exact empty
    | cons char rest =>
      have shorter : rest.length < bound := by simp [← size]
      by_cases isBlank : Text.isBlank char = true
      · exact blank char rest isBlank (ih _ shorter rest rfl)
      · by_cases isDelimiter : Token.isDelimiter char = true
        · exact fragment [char] rest (.inl ⟨char, isDelimiter, rfl⟩) (ih _ shorter rest rfl)
        · have plain : isPlain char = true := by simp [isPlain, isBlank, isDelimiter]
          have isRun : IsRun (char :: rest.takeWhile isPlain) :=
            ⟨List.cons_ne_nil _ _,
              List.forall_mem_cons.mpr ⟨plain, fun _ => List.mem_takeWhile_imp⟩⟩
          have remains : (rest.dropWhile isPlain).length < bound :=
            Nat.lt_of_le_of_lt (List.length_dropWhile_le _ _) shorter
          have taken := fragment _ _ (.inr ⟨isRun, endsRun_dropWhile isPlain rest⟩)
            (ih _ remains _ rfl)
          rwa [List.cons_append, List.takeWhile_append_dropWhile] at taken

/-- The fragments hold what is not blank. -/
theorem flatten_fragments (text : Text) :
    (fragments text).flatten = text.filter fun char => !isBlank char := by
  induction text using fragmentInduction with
  | empty => rfl
  | blank char rest blank ih => simp [fragments_cons_blank blank, blank, ih]
  | fragment piece rest cutOff ih =>
    have visible : ∀ char ∈ piece, (!isBlank char) = true := fun char member => by
      rw [cutOff.isBlank char member]
      rfl
    rw [cutOff.fragments_append, List.flatten_cons, ih, List.filter_append,
      List.filter_eq_self.mpr visible]

/-- A text is cut into no fragments exactly when it is blank. -/
theorem fragments_eq_nil_iff (text : Text) : fragments text = [] ↔ Blank text := by
  induction text using fragmentInduction with
  | empty => simp [fragments, Blank]
  | blank char rest blank ih => simp [fragments_cons_blank blank, Blank, blank, ih]
  | fragment piece rest cutOff ih =>
    obtain ⟨first, others, rfl⟩ := List.exists_cons_of_ne_nil cutOff.ne_nil
    rw [cutOff.fragments_append]
    simp [Blank, cutOff.isBlank first List.mem_cons_self]

/-! ## Blanks around a text -/

theorem fragments_blank_append {blanks : Text} (blank : Blank blanks) (rest : Text) :
    fragments (blanks ++ rest) = fragments rest := by
  induction blanks with
  | nil => rfl
  | cons char others ih =>
    obtain ⟨first, later⟩ := List.forall_mem_cons.mp blank
    rw [List.cons_append, fragments_cons_blank first, ih later]

theorem fragments_append_blank {blanks : Text} (blank : Blank blanks) (text : Text) :
    fragments (text ++ blanks) = fragments text := by
  have ends : EndsRun isPlain blanks := fun char first =>
    isPlain_of_isBlank (blank char (List.mem_of_mem_head? first))
  rw [fragments_append_of_endsRun text ends, (fragments_eq_nil_iff blanks).mpr blank,
    List.append_nil]

theorem fragments_concat_blank {char : Char} (blank : isBlank char = true) (text : Text) :
    fragments (text ++ [char]) = fragments text :=
  fragments_append_blank (List.forall_mem_singleton.mpr blank) text

/-- Trimming leaves the fragments as they are. -/
theorem fragments_trim (text : Text) : fragments (trim text) = fragments text := by
  obtain ⟨front, back, frontBlank, backBlank, around⟩ := exists_trim_append text
  calc fragments (trim text) = fragments (trim text ++ back) :=
        (fragments_append_blank backBlank _).symm
    _ = fragments (front ++ (trim text ++ back)) := (fragments_blank_append frontBlank _).symm
    _ = fragments text := by rw [← around]

end ShallowCpp.Token
