import Mathlib.Data.List.Flatten
import ShallowCpp.Proofs.Token.Fragments

/-!
# Where fragments stand

A delimiter stands wherever it occurs in a text. A run of plain characters stands where it occurs
and reaches as far as it can, to the front as well as to the back. The fragments of a text stand in
it one behind the other, and nothing is left over between them but blanks
(`standInOrder_fragments`).

This settles what they are. From each place of a text at most one piece is cut off, and no piece
starts inside of another, so any pieces that stand in a text in order are among its fragments
(`StandInOrder.sublist`). If they also hold all characters that are not blank, then none of the
fragments is missing (`fragments_canonical`).
-/

set_option autoImplicit false

namespace ShallowCpp.Token

open Text

/-- The piece stands at the offset of the text. A run reaches as far as it can to either side. -/
def StandsAt (text : Text) (offset : Nat) (piece : Text) : Prop :=
  ∃ before behind, text = before ++ (piece ++ behind) ∧ before.length = offset ∧
    (IsSingle piece ∨ IsRun piece ∧ EndsRun isPlain before.reverse ∧ EndsRun isPlain behind)

/-- The pieces stand in the text in their order, from the offset `start` on, each of them behind the
place where the one before it starts. -/
inductive StandInOrder (text : Text) : (start : Nat) → List Text → Prop where
  | nil (start : Nat) : StandInOrder text start []
  | cons {start offset : Nat} {piece : Text} {others : List Text} :
      start ≤ offset → StandsAt text offset piece → StandInOrder text (offset + 1) others →
        StandInOrder text start (piece :: others)

variable {text front rest piece : Text} {offset start : Nat} {pieces : List Text}

/-! ## The fragments stand in order -/

/-- What stands in a text stands there also behind other text, unless a run becomes longer. -/
theorem StandsAt.append (stands : StandsAt rest offset piece)
    (ends : EndsRun isPlain front.reverse ∨ EndsRun isPlain rest) :
    StandsAt (front ++ rest) (front.length + offset) piece := by
  obtain ⟨before, behind, rfl, rfl, sort⟩ := stands
  refine ⟨front ++ before, behind, by simp, by simp, sort.imp_right ?_⟩
  rintro ⟨isRun, starts, stops⟩
  refine ⟨isRun, ?_, stops⟩
  rw [List.reverse_append]
  by_cases first : before = []
  · subst first
    exact ends.resolve_right (isRun.not_endsRun behind)
  · exact starts.append (List.reverse_ne_nil_iff.mpr first) _

theorem StandInOrder.append (ordered : StandInOrder rest start pieces)
    (ends : EndsRun isPlain front.reverse ∨ EndsRun isPlain rest) :
    StandInOrder (front ++ rest) (front.length + start) pieces := by
  induction ordered with
  | nil => exact .nil _
  | cons bound stands _ ih => exact .cons (Nat.add_le_add_left bound _) (stands.append ends) ih

theorem StandInOrder.mono (ordered : StandInOrder text offset pieces) (bound : start ≤ offset) :
    StandInOrder text start pieces := by
  cases ordered with
  | nil => exact .nil start
  | cons above stands later => exact .cons (Nat.le_trans bound above) stands later

/-- Behind a piece that is cut off no run of the rest goes on to the front. -/
theorem IsCutOff.endsRun (cutOff : IsCutOff piece rest) :
    EndsRun isPlain piece.reverse ∨ EndsRun isPlain rest := by
  rcases cutOff with ⟨char, delimiter, rfl⟩ | ⟨-, ends⟩
  · exact .inl (endsRun_cons.mpr (isPlain_of_isDelimiter delimiter))
  · exact .inr ends

theorem standInOrder_fragments (text : Text) : StandInOrder text 0 (fragments text) := by
  induction text using fragmentInduction with
  | empty => exact .nil 0
  | blank char rest blank ih =>
    rw [fragments_cons_blank blank]
    have ends : EndsRun isPlain [char].reverse := endsRun_cons.mpr (isPlain_of_isBlank blank)
    exact (ih.append (.inl ends)).mono (Nat.zero_le _)
  | fragment piece rest cutOff ih =>
    rw [cutOff.fragments_append]
    have stands : StandsAt (piece ++ rest) 0 piece :=
      ⟨[], rest, rfl, rfl, cutOff.imp_right fun ⟨isRun, ends⟩ => ⟨isRun, by simp [EndsRun], ends⟩⟩
    refine .cons (Nat.le_refl 0) stands ((ih.append cutOff.endsRun).mono ?_)
    exact List.length_pos_iff.mpr cutOff.ne_nil

/-! ## Nothing else stands in order -/

/-- What stands behind the front of a text is cut off somewhere in the rest. -/
theorem StandsAt.exists_middle (stands : StandsAt (front ++ rest) offset piece)
    (bound : front.length ≤ offset) :
    ∃ middle behind, rest = middle ++ (piece ++ behind) ∧ offset = front.length + middle.length ∧
      IsCutOff piece behind ∧ (IsRun piece → EndsRun isPlain (front ++ middle).reverse) := by
  obtain ⟨before, behind, cut, rfl, sort⟩ := stands
  obtain ⟨middle, rfl⟩ : front <+: before :=
    List.prefix_of_prefix_length_le ⟨rest, rfl⟩ ⟨_, cut.symm⟩ bound
  refine ⟨middle, behind, by simpa using cut, List.length_append, ?_, ?_⟩
  · exact sort.imp_right fun ⟨isRun, _, ends⟩ => ⟨isRun, ends⟩
  · intro isRun
    rcases sort with single | ⟨-, starts, -⟩
    · exact absurd (single.endsRun behind) (isRun.not_endsRun behind)
    · exact starts

/-- Nothing stands where a blank is. -/
theorem StandsAt.lt_of_blank {char : Char} (blank : isBlank char = true)
    (stands : StandsAt (front ++ char :: rest) offset piece) (bound : front.length ≤ offset) :
    front.length + 1 ≤ offset := by
  obtain ⟨middle, behind, cut, rfl, cutOff, -⟩ := stands.exists_middle bound
  cases middle with
  | cons first others => simp
  | nil =>
    obtain ⟨first, others, rfl⟩ := List.exists_cons_of_ne_nil cutOff.ne_nil
    obtain ⟨rfl, -⟩ := List.cons_eq_cons.mp cut
    rw [cutOff.isBlank char List.mem_cons_self] at blank
    cases blank

/-- Where a piece is cut off, only this piece stands, and nothing starts inside of it. -/
theorem StandsAt.eq_or_le_of_isCutOff {first : Text} (cutOff : IsCutOff first rest)
    (stands : StandsAt (front ++ (first ++ rest)) offset piece) (bound : front.length ≤ offset) :
    offset = front.length ∧ piece = first ∨ front.length + first.length ≤ offset := by
  obtain ⟨middle, behind, cut, rfl, cutOff', starts⟩ := stands.exists_middle bound
  cases middle using List.reverseRecOn with
  | nil => exact .inl ⟨rfl, cutOff'.unique cutOff cut.symm⟩
  | append_singleton others last =>
    right
    rcases cutOff with ⟨char, -, rfl⟩ | ⟨isRun, -⟩
    · simp
    · by_contra! inside
      -- Behind a plain character no run starts, and where the run goes on no delimiter is.
      obtain ⟨tail, rfl⟩ : others ++ [last] <+: first :=
        List.prefix_of_prefix_length_le ⟨_, cut.symm⟩ ⟨rest, rfl⟩ (by omega)
      have isTail : IsRun tail := by
        refine ⟨fun nothing => ?_, fun char member => isRun.plain char (by simp [member])⟩
        simp [nothing] at inside
      rw [List.append_assoc, List.append_cancel_left_eq] at cut
      rcases cutOff' with single | ⟨isPiece, -⟩
      · exact absurd (cut ▸ single.endsRun behind) (isTail.not_endsRun rest)
      · have apart : isPlain last = false := by simpa [endsRun_cons] using starts isPiece
        rw [isRun.plain last (by simp)] at apart
        cases apart

/-- What stands in order behind the start of a piece that is cut off stands behind its end. -/
theorem StandInOrder.of_isCutOff {first : Text} (cutOff : IsCutOff first rest)
    (ordered : StandInOrder (front ++ (first ++ rest)) (front.length + 1) pieces) :
    StandInOrder (front ++ (first ++ rest)) (front.length + first.length) pieces := by
  cases ordered with
  | nil => exact .nil _
  | cons above stands later =>
    rcases stands.eq_or_le_of_isCutOff cutOff (by omega) with ⟨same, -⟩ | behind
    · omega
    · exact .cons behind stands later

/-- Pieces that stand in order from the end of the front on are among the fragments of the rest. -/
theorem StandInOrder.sublist (ordered : StandInOrder (front ++ rest) start pieces)
    (bound : front.length ≤ start) : pieces.Sublist (fragments rest) := by
  induction rest using fragmentInduction generalizing front start pieces with
  | empty =>
    cases ordered with
    | nil => exact List.nil_sublist _
    | cons above stands later =>
      obtain ⟨middle, behind, cut, -, cutOff, -⟩ := stands.exists_middle (bound.trans above)
      have nothing := (List.append_eq_nil_iff.mp (List.append_eq_nil_iff.mp cut.symm).2).1
      exact absurd nothing cutOff.ne_nil
  | blank char rest blank ih =>
    rw [fragments_cons_blank blank]
    cases ordered with
    | nil => exact List.nil_sublist _
    | cons above stands later =>
      have behind := stands.lt_of_blank blank (bound.trans above)
      rw [List.append_cons] at stands later
      exact ih (.cons behind stands later) (by simp)
  | fragment first rest cutOff ih =>
    rw [cutOff.fragments_append]
    cases ordered with
    | nil => exact List.nil_sublist _
    | cons above stands later =>
      rcases stands.eq_or_le_of_isCutOff cutOff (bound.trans above) with ⟨rfl, rfl⟩ | behind
      · have others := later.of_isCutOff cutOff
        rw [← List.append_assoc] at others
        exact (ih others (by simp)).cons_cons _
      · rw [← List.append_assoc] at stands later
        exact (ih (.cons behind stands later) (by simp)).cons _

/-- Some of the fragments that hold as many characters as all of them are all of them. -/
theorem eq_of_sublist_of_flatten_eq {chosen all : List Text} (among : chosen.Sublist all)
    (nonempty : ∀ piece ∈ all, piece ≠ []) (same : chosen.flatten = all.flatten) :
    chosen = all := by
  induction among with
  | slnil => rfl
  | @cons chosen all piece among ih =>
    have shorter := among.flatten.length_le
    have present := List.length_pos_iff.mpr (nonempty piece List.mem_cons_self)
    rw [same, List.flatten_cons, List.length_append] at shorter
    omega
  | @cons_cons chosen all piece among ih =>
    rw [List.flatten_cons, List.flatten_cons, List.append_cancel_left_eq] at same
    rw [ih (fun piece member => nonempty piece (List.mem_cons_of_mem _ member)) same]

/-! ## The characterisation -/

theorem isSingle_or_isRun_of_mem_fragments (member : piece ∈ fragments text) :
    IsSingle piece ∨ IsRun piece := by
  induction text using fragmentInduction with
  | empty => cases member
  | blank char rest blank ih => exact ih (fragments_cons_blank blank rest ▸ member)
  | fragment first rest cutOff ih =>
    rw [cutOff.fragments_append] at member
    rcases List.mem_cons.mp member with rfl | later
    · exact cutOff.isSingle_or_isRun
    · exact ih later

/-- Pieces that are set apart by spaces are cut off again. -/
theorem fragments_join_space (sorts : ∀ piece ∈ pieces, IsSingle piece ∨ IsRun piece) :
    fragments (join [' '] pieces) = pieces := by
  fun_induction join [' '] pieces with
  | case1 => rfl
  | case2 piece =>
    have cutOff : IsCutOff piece [] :=
      isCutOff_of_endsRun (sorts piece List.mem_cons_self) (by simp [EndsRun])
    have cut := cutOff.fragments_append
    rwa [List.append_nil] at cut
  | case3 piece others more ih =>
    obtain ⟨sort, sorts'⟩ := List.forall_mem_cons.mp sorts
    have cutOff : IsCutOff piece (' ' :: join [' '] others) :=
      isCutOff_of_endsRun sort (endsRun_cons.mpr rfl)
    rw [List.append_assoc, List.singleton_append, cutOff.fragments_append,
      fragments_cons_blank rfl, ih sorts']

/-- **The fragments of a text are lossless and canonical.** They hold all characters that are not
blank. Each is a delimiter or a run, they stand in the text in order, the runs at their full length,
and they are the fragments of what they give when they are set apart by spaces. Nothing else holds
all characters and stands in the text in order. -/
theorem fragments_canonical (text : Text) :
    (fragments text).flatten = text.filter (fun char => !isBlank char) ∧
      (∀ piece ∈ fragments text, IsSingle piece ∨ IsRun piece) ∧
      StandInOrder text 0 (fragments text) ∧
      fragments (join [' '] (fragments text)) = fragments text ∧
      ∀ pieces : List Text, pieces.flatten = text.filter (fun char => !isBlank char) →
        StandInOrder text 0 pieces → pieces = fragments text := by
  have sorts : ∀ piece ∈ fragments text, IsSingle piece ∨ IsRun piece :=
    fun _ => isSingle_or_isRun_of_mem_fragments
  refine ⟨flatten_fragments text, sorts, standInOrder_fragments text, fragments_join_space sorts,
    ?_⟩
  intro pieces lossless ordered
  have among : pieces.Sublist (fragments text) := by
    rw [← List.nil_append text] at ordered
    exact ordered.sublist (Nat.le_refl 0)
  have nonempty : ∀ piece ∈ fragments text, piece ≠ [] := by
    intro piece member
    have cutOff : IsCutOff piece [] := isCutOff_of_endsRun (sorts piece member) (by simp [EndsRun])
    exact cutOff.ne_nil
  exact eq_of_sublist_of_flatten_eq among nonempty (lossless.trans (flatten_fragments text).symm)

/-- The two characters of a comparison stand for themselves, next to a letter that is not ASCII. -/
theorem fragments_canonical_of_comparison :
    ["é".toList, "<".toList, "=".toList, "12".toList] = fragments "é<= 12".toList := by
  have single : ∀ {char : Char}, isDelimiter char = true → IsSingle [char] :=
    fun delimiter => ⟨_, delimiter, rfl⟩
  apply (fragments_canonical "é<= 12".toList).2.2.2.2
  · decide
  · refine .cons (Nat.le_refl 0) ⟨[], "<= 12".toList, rfl, rfl, .inr ?_⟩ ?_
    · exact ⟨⟨by decide, List.all_eq_true.mp (by decide)⟩, by simp [EndsRun],
        endsRun_cons.mpr (by decide)⟩
    refine .cons (Nat.le_refl 1) ⟨"é".toList, "= 12".toList, rfl, rfl, .inl (single rfl)⟩ ?_
    refine .cons (Nat.le_refl 2) ⟨"é<".toList, " 12".toList, rfl, rfl, .inl (single rfl)⟩ ?_
    refine .cons (by decide : 3 ≤ 4) ⟨"é<= ".toList, [], rfl, rfl, .inr ?_⟩ (.nil 5)
    exact ⟨⟨by decide, List.all_eq_true.mp (by decide)⟩, endsRun_cons.mpr (by decide),
      by simp [EndsRun]⟩

end ShallowCpp.Token
