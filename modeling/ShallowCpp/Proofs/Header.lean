import ShallowCpp.Header
import ShallowCpp.Proofs.Shape.Steps

/-!
# The grammar of headers

A header is spelled by two words with a gap between them, a list in parentheses that has no closing
parenthesis in it, and a final character; blanks may stand in front of the list and in front of the
final character. Every part ends where the next one starts, so the header that starts a text can be
read off in one way only, and the shape of a header reads this grammar (`reads_shape`).

The headers found in a source are those of the scan of the source by the grammar (`foundIn_iff`).
-/

set_option autoImplicit false

namespace ShallowCpp.Header

open Text

/-- The ways to write a header that ends in the character `final`. -/
inductive Spells (final : Char) : Header → Text → Prop where
  | parts {returnType gap name space params blanks : Text} :
      Word returnType → gap ≠ [] → Blank gap → Word name → Blank space → ')' ∉ params →
        Blank blanks →
        Spells final ⟨returnType, name, params⟩
          (returnType ++ (gap ++ (name ++ (space ++
            '(' :: (params ++ ')' :: (blanks ++ [final]))))))

/-- The span is one of those that a scan of the source for headers finds. -/
def FoundIn (final : Char) (source : Text) (span : Span Header) : Prop :=
  ∃ spans, Span.Scans (Span.OccursIn (Spells final) source) 0 spans ∧ span ∈ spans

/-! ## The shape reads the grammar -/

/-- The shape reads the parts of a header one after the other. -/
theorem shape_eq_some_iff {final : Char} {text behind : Text} {header : Header} :
    shape final text = some (header, behind) ↔
      ∃ afterType afterGap afterName afterParams,
        Shape.word text = some (header.returnType, afterType) ∧
        Shape.gap afterType = some ((), afterGap) ∧
        Shape.word afterGap = some (header.name, afterName) ∧
        Shape.parenthesised (trimStart afterName) = some (header.params, afterParams) ∧
        trimStart afterParams = final :: behind := by
  simp only [shape, Option.bind_eq_bind, Option.bind_eq_some_iff, Prod.exists]
  constructor
  · rintro ⟨returnType, afterType, type, ⟨⟩, afterGap, gap, name, afterName, second, params,
      afterParams, list, last⟩
    split at last
    next => cases last
    next char rest remaining =>
      split at last
      next isFinal =>
        simp only [Option.some.injEq, Prod.mk.injEq] at last
        obtain ⟨rfl, rfl⟩ := last
        exact ⟨afterType, afterGap, afterName, afterParams, type, gap, second, list,
          isFinal ▸ remaining⟩
      next => cases last
  · rintro ⟨afterType, afterGap, afterName, afterParams, type, gap, second, list, last⟩
    refine ⟨_, afterType, type, (), afterGap, gap, _, afterName, second, _, afterParams, list, ?_⟩
    simp [last]

/-- What the shape reads is a header as the grammar spells it. -/
theorem spells_of_shape {final : Char} {text behind : Text} {header : Header}
    (read : shape final text = some (header, behind)) :
    ∃ written, Spells final header written ∧ text = written ++ behind := by
  obtain ⟨afterType, afterGap, afterName, afterParams, type, gap, name, list, last⟩ :=
    shape_eq_some_iff.mp read
  obtain ⟨typeWord, -, rfl⟩ := Shape.word_eq_some_iff.mp type
  obtain ⟨gap, nonempty, gapBlank, -, rfl⟩ := Shape.gap_eq_some_iff.mp gap
  obtain ⟨nameWord, -, rfl⟩ := Shape.word_eq_some_iff.mp name
  obtain ⟨free, parenthesis⟩ := Shape.parenthesised_eq_some_iff.mp list
  obtain ⟨space, spaceBlank, -, rfl⟩ := trimStart_eq_iff.mp parenthesis
  obtain ⟨blanks, blank, -, rfl⟩ := trimStart_eq_iff.mp last
  exact ⟨_, .parts typeWord nonempty gapBlank nameWord spaceBlank free blank, by simp⟩

/-- The shape reads a header however the grammar spells it and whatever follows it. -/
theorem shape_of_spells {final : Char} (final_notBlank : isBlank final = false) {header : Header}
    {written : Text} (spelled : Spells final header written) (behind : Text) :
    shape final (written ++ behind) = some (header, behind) := by
  cases spelled with
  | @parts returnType gap name space params blanks typeWord nonempty gapBlank nameWord spaceBlank
      free blank =>
    simp only [List.append_assoc, List.cons_append, List.nil_append]
    -- Each part ends where the text behind it starts, so it is read in full.
    refine shape_eq_some_iff.mpr ⟨_, _, _, blanks ++ final :: behind,
      Shape.word_eq_some_iff.mpr ⟨typeWord, ?_, rfl⟩,
      Shape.gap_eq_some_iff.mpr ⟨gap, nonempty, gapBlank, nameWord.endsBlank _, rfl⟩,
      Shape.word_eq_some_iff.mpr ⟨nameWord, ?_, rfl⟩, ?_, ?_⟩
    · exact gapBlank.endsWord_of_ne_nil nonempty _
    · exact spaceBlank.endsWord (endsRun_cons.mpr (by decide))
    · rw [trimStart_eq_iff.mpr ⟨space, spaceBlank, endsRun_cons.mpr (by decide), rfl⟩]
      exact Shape.parenthesised_eq_some_iff.mpr ⟨free, rfl⟩
    · exact trimStart_eq_iff.mpr ⟨blanks, blank, endsRun_cons.mpr final_notBlank, rfl⟩

/-- **The shape of a header reads the grammar of headers.** -/
theorem reads_shape {final : Char} (final_notBlank : isBlank final = false) :
    (shape final).Reads (Spells final) where
  eq_some_iff := by
    intro text behind header
    constructor
    · exact spells_of_shape
    · rintro ⟨written, spelled, rfl⟩
      exact shape_of_spells final_notBlank spelled behind
  ne_nil := by
    intro header written spelled
    cases spelled
    simp

/-- No header starts with a blank. -/
theorem refusesBlanks_shape {final : Char} (final_notBlank : isBlank final = false) :
    (shape final).RefusesBlanks := by
  apply (reads_shape final_notBlank).refusesBlanks
  intro header written spelled rest
  cases spelled with
  | parts typeWord =>
    rw [List.append_assoc]
    exact typeWord.endsBlank _

/-- The headers found in a source are the spans of the shape. -/
theorem foundIn_iff {final : Char} (final_notBlank : isBlank final = false) {source : Text}
    {span : Span Header} : FoundIn final source span ↔ span ∈ (shape final).spans source := by
  constructor
  · rintro ⟨spans, scans, member⟩
    rwa [Shape.eq_spans_of_scans (reads_shape final_notBlank) scans] at member
  · intro member
    exact ⟨_, Shape.scans_spans (reads_shape final_notBlank) source, member⟩

/-- A header ends in its final character, and there the text behind it begins. -/
theorem exists_final_of_occursIn {final : Char} {source : Text} {span : Span Header}
    (occurs : span.OccursIn (Spells final) source) :
    ∃ front, span.stop = front.length + 1 ∧ source = front ++ final :: source.drop span.stop := by
  obtain ⟨before, written, behind, rfl, spelled, -, stop⟩ := occurs
  obtain ⟨front, rfl⟩ : ∃ front, written = front ++ [final] := by
    generalize span.value = header at spelled
    cases spelled with
    | @parts returnType gap name space params blanks =>
      exact ⟨returnType ++ (gap ++ (name ++ (space ++ '(' :: (params ++ ')' :: blanks)))),
        by simp⟩
  refine ⟨before ++ front, ?_, ?_⟩
  · simp only [stop, List.length_append, List.length_singleton]
    omega
  · rw [stop, ← List.length_append, ← List.append_assoc, List.drop_left]
    simp

theorem FoundIn.occursIn {final : Char} {source : Text} {span : Span Header}
    (found : FoundIn final source span) : span.OccursIn (Spells final) source := by
  obtain ⟨spans, scans, member⟩ := found
  exact scans.occurs_of_mem member

/-- The name of a header that is found is a word. -/
theorem FoundIn.word_name {final : Char} {source : Text} {span : Span Header}
    (found : FoundIn final source span) : Word span.value.name := by
  obtain ⟨before, written, behind, -, spelled, -, -⟩ := found.occursIn
  generalize span.value = header at spelled
  cases spelled with
  | parts _ _ _ nameWord => exact nameWord

/-- A word character in front of a header makes a header with a longer first word. -/
theorem Spells.cons {final char : Char} (inWord : isWord char = true) {header : Header}
    {written : Text} (spelled : Spells final header written) :
    Spells final ⟨char :: header.returnType, header.name, header.params⟩ (char :: written) := by
  cases spelled with
  | parts typeWord nonempty gapBlank nameWord spaceBlank free blank =>
    have longer : Word (char :: _) :=
      ⟨List.cons_ne_nil char _, List.forall_mem_cons.mpr ⟨inWord, typeWord.isWord⟩⟩
    exact .parts longer nonempty gapBlank nameWord spaceBlank free blank

/-- The first word of a header that is found is not the end of a longer word: with a word character
in front of it, the scan would have found the longer header, unless the span before it ends there,
and that one ends in the final character. -/
theorem FoundIn.endsWord_before {final : Char} (final_notWord : isWord final = false)
    {before rest : Text} {span : Span Header} (found : FoundIn final (before ++ rest) span)
    (start : span.start = before.length) : EndsRun isWord before.reverse := by
  intro char last
  by_contra inWord
  rw [Bool.not_eq_false] at inWord
  obtain ⟨front, rfl⟩ : ∃ front, before = front ++ [char] := by
    rw [List.head?_reverse, Option.mem_def] at last
    exact List.getLast?_eq_some_iff.mp last
  obtain ⟨spans, scans, member⟩ := found
  obtain ⟨resume, origin, leftmost⟩ := scans.exists_isLeftmost member
  obtain ⟨before', written, behind, cut, spelled, start', stop⟩ := leftmost.occurs
  obtain ⟨rfl, rfl⟩ := List.append_inj cut (by omega)
  simp only [List.length_append, List.length_singleton] at start stop
  have longer : Span.OccursIn (Spells final) (front ++ [char] ++ (written ++ behind))
      ⟨front.length, span.stop, ⟨char :: span.value.returnType, span.value.name,
        span.value.params⟩⟩ := by
    refine ⟨front, char :: written, behind, by simp, spelled.cons inWord, rfl, ?_⟩
    simp only [stop, List.length_cons]
    omega
  have resumes : resume = front.length + 1 := by
    have bound := leftmost.start_le _ longer
    have behindStart := leftmost.offset_le
    simp only at bound
    omega
  rcases origin with atStart | ⟨earlier, earlierFound, atStop⟩
  · omega
  · obtain ⟨front', stop', cut'⟩ := exists_final_of_occursIn (scans.occurs_of_mem earlierFound)
    rw [List.append_assoc, List.singleton_append] at cut'
    obtain ⟨-, same⟩ := List.append_inj cut' (by omega)
    rw [(List.cons.inj same).1, final_notWord] at inWord
    cases inWord

end ShallowCpp.Header
