import ShallowCpp.Proofs.Comment
import ShallowCpp.Proofs.Shape.Cover
import ShallowCpp.Proofs.Text.Occurrences
import ShallowCpp.Proofs.Text.Places

/-!
# Occurrences by their offsets

An occurrence of a needle is known by its offset. Occurrences are apart when each starts behind the
end of the one before it. Counting from the left takes the leftmost occurrence and goes on behind
it, and no choice of occurrences that are apart has more members (`Apart.length_le_occurrences`):
the first of them does not start in front of the leftmost one, so the others start behind it as
well. A needle is therefore counted in a text at least as often as in a part of it
(`occurrences_le_of_isInfix`).

A word that stands by itself, with no word character on either side, is apart from all other
occurrences of the word. It is therefore counted once exactly when it is the only occurrence
(`occurrences_le_one_iff`).

Searching line by line for a needle without line feeds finds the line of its first occurrence
(`findLine_eq_lineAt`).
-/

set_option autoImplicit false

namespace ShallowCpp

open Text

/-! ## Offsets of a needle -/

namespace Text

variable {needle text : Text} {offset : Nat}

theorem occursAt_length (before needle behind : Text) :
    OccursAt needle (before ++ (needle ++ behind)) before.length := by
  rw [OccursAt, List.drop_left]
  exact List.prefix_append needle behind

/-- What stands at an offset divides the text. -/
theorem OccursAt.exists_append (occurs : OccursAt needle text offset) (nonempty : needle ≠ []) :
    ∃ before behind, text = before ++ (needle ++ behind) ∧ before.length = offset := by
  obtain ⟨behind, rest⟩ := occurs
  have within : offset ≤ text.length := by
    by_contra beyond
    rw [List.drop_of_length_le (Nat.le_of_not_le beyond)] at rest
    exact nonempty (List.append_eq_nil_iff.mp rest).1
  refine ⟨text.take offset, behind, ?_, List.length_take_of_le within⟩
  rw [rest, List.take_append_drop]

theorem OccursAt.append (occurs : OccursAt needle text offset) (before behind : Text) :
    OccursAt needle (before ++ (text ++ behind)) (before.length + offset) := by
  rw [OccursAt, List.drop_length_add_append, List.drop_append]
  exact occurs.trans (List.prefix_append _ _)

theorem OccursAt.getElem? (occurs : OccursAt needle text offset) {index : Nat}
    (within : index < needle.length) : text[offset + index]? = needle[index]? := by
  obtain ⟨behind, rest⟩ := occurs
  rw [← List.getElem?_drop, ← rest, List.getElem?_append_left within]

end Text

/-! ## Counting from the left -/

/-- A scan finds at least as many spans as there are in any choice of occurrences that are apart, if
all occurrences have one size. -/
theorem Span.Scans.length_le {α : Type} {isOccurrence : Span α → Prop} {offset size : Nat}
    {spans : List (Span α)} (scans : Scans isOccurrence offset spans)
    (sized : ∀ span, isOccurrence span → span.stop = span.start + size) {chosen : List (Span α)}
    (occurs : ∀ span ∈ chosen, isOccurrence span)
    (apart : chosen.Pairwise fun first second => first.stop ≤ second.start)
    (behind : ∀ span ∈ chosen, offset ≤ span.start) : chosen.length ≤ spans.length := by
  induction scans generalizing chosen with
  | done exhausted =>
    cases chosen with
    | nil => exact Nat.le_refl _
    | cons first others =>
      have bound := exhausted first (occurs first List.mem_cons_self)
      exact absurd (behind first List.mem_cons_self) (Nat.not_le_of_lt bound)
  | @found offset span others leftmost _ ih =>
    cases chosen with
    | nil => exact Nat.zero_le _
    | cons first rest =>
      obtain ⟨firstOccurs, restOccur⟩ := List.forall_mem_cons.mp occurs
      obtain ⟨firstApart, restApart⟩ := List.pairwise_cons.mp apart
      have starts := leftmost.start_le first firstOccurs (behind first List.mem_cons_self)
      refine Nat.succ_le_succ (ih restOccur restApart fun later member => ?_)
      calc span.stop = span.start + size := sized span leftmost.occurs
        _ ≤ first.start + size := Nat.add_le_add_right starts size
        _ = first.stop := (sized first firstOccurs).symm
        _ ≤ later.start := firstApart later member

namespace Text

variable {needle text : Text}

/-- The offsets are those of occurrences, each of which ends before the next one starts. -/
structure Apart (needle text : Text) (offsets : List Nat) : Prop where
  occurs : ∀ offset ∈ offsets, OccursAt needle text offset
  ordered : offsets.Pairwise fun first second => first + needle.length ≤ second

/-- The span that an occurrence takes up. -/
def spanAt (needle : Text) (offset : Nat) : Span Unit :=
  ⟨offset, offset + needle.length, ()⟩

theorem occursIn_spanAt (nonempty : needle ≠ []) {offset : Nat}
    (occurs : OccursAt needle text offset) :
    (spanAt needle offset).OccursIn (fun _ written => written = needle) text := by
  obtain ⟨before, behind, rfl, rfl⟩ := occurs.exists_append nonempty
  exact ⟨before, needle, behind, rfl, rfl, rfl, rfl⟩

theorem occursAt_of_occursIn {span : Span Unit}
    (occurs : span.OccursIn (fun _ written => written = needle) text) :
    OccursAt needle text span.start ∧ span.stop = span.start + needle.length := by
  obtain ⟨before, written, behind, rfl, rfl, start, stop⟩ := occurs
  rw [start, stop]
  exact ⟨occursAt_length before written behind, rfl⟩

/-- **No more occurrences are apart than are counted.** -/
theorem Apart.length_le_occurrences {offsets : List Nat} (apart : Apart needle text offsets)
    (nonempty : needle ≠ []) : offsets.length ≤ occurrences needle text := by
  have scans := Shape.scans_spans (Shape.reads_literal nonempty) text
  rw [Shape.occurrences_eq nonempty, ← List.length_map (spanAt needle)]
  refine scans.length_le (fun _ occurs => (occursAt_of_occursIn occurs).2) ?_ ?_
    fun _ _ => Nat.zero_le _
  · intro span member
    obtain ⟨offset, listed, rfl⟩ := List.mem_map.mp member
    exact occursIn_spanAt nonempty (apart.occurs offset listed)
  · exact List.pairwise_map.mpr apart.ordered

/-- **The occurrences that are counted are apart.** -/
theorem exists_apart_of_occurrences (nonempty : needle ≠ []) (text : Text) :
    ∃ offsets, Apart needle text offsets ∧ offsets.length = occurrences needle text := by
  have cover := (Shape.reads_literal nonempty).cover_spans text
  refine ⟨((Shape.literal needle).spans text).map Span.start, ⟨?_, ?_⟩, ?_⟩
  · intro offset member
    obtain ⟨span, found, rfl⟩ := List.mem_map.mp member
    exact (occursAt_of_occursIn (cover.occurs span found)).1
  · refine List.pairwise_map.mpr (cover.ordered.imp_of_mem fun found _ ordered => ?_)
    rwa [(occursAt_of_occursIn (cover.occurs _ found)).2] at ordered
  · rw [List.length_map, Shape.occurrences_eq nonempty]

/-- Occurrences in a part of a text that are apart are so in the whole text. -/
theorem Apart.append {offsets : List Nat} (apart : Apart needle text offsets)
    (before behind : Text) :
    Apart needle (before ++ (text ++ behind)) (offsets.map (before.length + ·)) where
  occurs := by
    intro offset member
    obtain ⟨inPart, listed, rfl⟩ := List.mem_map.mp member
    exact (apart.occurs inPart listed).append before behind
  ordered := by
    refine List.pairwise_map.mpr (apart.ordered.imp fun ordered => ?_)
    rw [Nat.add_assoc]
    exact Nat.add_le_add_left ordered _

/-- **A needle is counted in a text at least as often as in any part of it.** The occurrences that
are counted in the part need not be those that are counted in the whole. -/
theorem occurrences_le_of_isInfix {part : Text} (inside : part <:+: text) :
    occurrences needle part ≤ occurrences needle text := by
  by_cases nonempty : needle ≠ []
  · obtain ⟨before, behind, rfl⟩ := inside
    obtain ⟨offsets, apart, counted⟩ := exists_apart_of_occurrences nonempty part
    have inWhole := (apart.append before behind).length_le_occurrences nonempty
    rwa [List.length_map, counted, ← List.append_assoc] at inWhole
  · obtain rfl := not_not.mp nonempty
    exact Nat.succ_le_succ inside.length_le

/-- An occurrence that no other one overlaps is counted alone exactly when there is no other. -/
theorem occurrences_le_one_iff (nonempty : needle ≠ []) {offset : Nat}
    (occurs : OccursAt needle text offset)
    (clear : ∀ other, OccursAt needle text other →
      other = offset ∨ other + needle.length ≤ offset ∨ offset + needle.length ≤ other) :
    occurrences needle text ≤ 1 ↔ ∀ other, OccursAt needle text other → other = offset := by
  constructor
  · intro counted other alsoOccurs
    have two : ∀ first second, OccursAt needle text first → OccursAt needle text second →
        ¬first + needle.length ≤ second := by
      intro first second occursFirst occursSecond ordered
      have apart : Apart needle text [first, second] := by
        refine ⟨?_, List.pairwise_pair.mpr ordered⟩
        simp [occursFirst, occursSecond]
      have atLeastTwo : 2 ≤ occurrences needle text := apart.length_le_occurrences nonempty
      omega
    rcases clear other alsoOccurs with same | before | behind
    · exact same
    · exact absurd before (two other offset alsoOccurs occurs)
    · exact absurd behind (two offset other occurs alsoOccurs)
  · intro alone
    obtain ⟨offsets, apart, counted⟩ := exists_apart_of_occurrences nonempty text
    rw [← counted]
    by_contra many
    obtain ⟨first, second, others, rfl⟩ : ∃ first second others,
        offsets = first :: second :: others := by
      rcases offsets with - | ⟨first, - | ⟨second, others⟩⟩
      · simp at many
      · simp at many
      · exact ⟨first, second, others, rfl⟩
    have ordered := (List.pairwise_cons.mp apart.ordered).1 second List.mem_cons_self
    have sameFirst := alone first (apart.occurs first List.mem_cons_self)
    have sameSecond := alone second (apart.occurs second (by simp))
    have positive := List.length_pos_iff.mpr nonempty
    omega

end Text

/-! ## Words that stand by themselves -/

namespace Text

variable {word before behind : Text}

/-- Inside of an occurrence of a word there are word characters only. -/
theorem Word.isWord_of_occursAt {text : Text} (isWord : Word word) {offset : Nat}
    (occurs : OccursAt word text offset) (place : Nat) (starts : offset ≤ place)
    (stops : place < offset + word.length) :
    ∃ char, text[place]? = some char ∧ Text.isWord char = true := by
  obtain ⟨index, rfl⟩ := Nat.exists_eq_add_of_le starts
  have within : index < word.length := by omega
  refine ⟨word[index], ?_, isWord.isWord _ (List.getElem_mem within)⟩
  rw [occurs.getElem? within, List.getElem?_eq_getElem within]

/-- A word that stands by itself is not overlapped by another occurrence of the word. -/
theorem Word.clear_of_endsRun (isWord : Word word) (starts : EndsRun Text.isWord before.reverse)
    (stops : EndsRun Text.isWord behind) {other : Nat}
    (occurs : OccursAt word (before ++ (word ++ behind)) other) :
    other = before.length ∨ other + word.length ≤ before.length ∨
      before.length + word.length ≤ other := by
  by_contra! overlaps
  obtain ⟨different, reaches, inside⟩ := overlaps
  rcases Nat.lt_or_gt_of_ne different with earlier | later
  · -- The character in front of the word would be a part of the other occurrence.
    obtain ⟨char, here, inWord⟩ :=
      isWord.isWord_of_occursAt occurs (before.length - 1) (by omega) (by omega)
    rw [List.getElem?_append_left (by omega), ← List.getLast?_eq_getElem?] at here
    rw [starts char (by rwa [List.head?_reverse])] at inWord
    cases inWord
  · -- The character behind the word would be a part of the other occurrence.
    obtain ⟨char, here, inWord⟩ :=
      isWord.isWord_of_occursAt occurs (before.length + word.length) (by omega) (by omega)
    rw [← List.append_assoc, List.getElem?_append_right (by simp), List.length_append,
      Nat.sub_self, ← List.head?_eq_getElem?] at here
    rw [stops char here] at inWord
    cases inWord

end Text

/-! ## The line of the first occurrence -/

namespace Text

variable {needle : Text}

/-- A text without a character is not reached over it. -/
theorem prefix_of_prefix_append_cons {stop : Char} {front rest : Text} (free : stop ∉ needle)
    (starts : needle <+: front ++ stop :: rest) : needle <+: front := by
  by_cases short : needle.length ≤ front.length
  · exact List.prefix_of_prefix_length_le starts (List.prefix_append front _) short
  · have longer : front ++ [stop] <+: needle := by
      refine List.prefix_of_prefix_length_le ⟨rest, by simp⟩ starts ?_
      rw [List.length_append, List.length_singleton]
      omega
    exact absurd (longer.subset (by simp)) free

/-- An occurrence starts on the first line and is a part of it, or starts behind its line feed. -/
theorem OccursAt.of_append_cons {line rest : Text} {offset : Nat} (oneLine : '\n' ∉ needle)
    (occurs : OccursAt needle (line ++ '\n' :: rest) offset) :
    OccursAt needle line offset ∧ offset ≤ line.length ∨
      ∃ later, offset = line.length + (later + 1) ∧ OccursAt needle rest later := by
  rw [OccursAt] at occurs
  by_cases within : offset ≤ line.length
  · rw [List.drop_append_of_le_length within] at occurs
    exact .inl ⟨prefix_of_prefix_append_cons oneLine occurs, within⟩
  · obtain ⟨later, rfl⟩ := Nat.exists_eq_add_of_lt (Nat.lt_of_not_le within)
    rw [Nat.add_assoc, List.drop_length_add_append, List.drop_succ_cons] at occurs
    exact .inr ⟨later, Nat.add_assoc _ _ _, occurs⟩

theorem lineAt_first_line {line : Text} (noFeed : '\n' ∉ line) {offset : Nat}
    (within : offset ≤ line.length) (rest : Text) : lineAt (line ++ rest) offset = 1 := by
  have noneBefore : '\n' ∉ line.take offset := fun member => noFeed (List.mem_of_mem_take member)
  rw [lineAt, List.take_append_of_le_length within, List.count_eq_zero_of_not_mem noneBefore]

theorem lineAt_behind_line {line : Text} (noFeed : '\n' ∉ line) (rest : Text) (offset : Nat) :
    lineAt (line ++ '\n' :: rest) (line.length + (offset + 1)) = lineAt rest offset + 1 := by
  rw [lineAt, List.take_length_add_append, List.take_succ_cons, List.count_append,
    List.count_eq_zero_of_not_mem noFeed, List.count_cons_self, lineAt]
  omega

theorem findLine_first_line {line : Text} (noFeed : '\n' ∉ line) (onLine : needle <:+: line)
    (rest : Text) : findLine (line ++ '\n' :: rest) needle = 1 := by
  rw [findLine, lines_cons_line noFeed, List.findIdx?_cons, (occursIn_iff needle line).mpr onLine]
  rfl

theorem findLine_behind_line {line rest : Text} (oneLine : '\n' ∉ needle) (noFeed : '\n' ∉ line)
    (notOnLine : ¬needle <:+: line) (further : needle <:+: rest) :
    findLine (line ++ '\n' :: rest) needle = findLine rest needle + 1 := by
  obtain ⟨index, found⟩ := exists_findIdx?_lines oneLine further
  have absent := Bool.eq_false_iff.mpr (mt (occursIn_iff needle line).mp notOnLine)
  rw [findLine, lines_cons_line noFeed, List.findIdx?_cons, absent, found, findLine, found]
  rfl

/-- **Searching line by line finds the line of the first occurrence.** -/
theorem findLine_eq_lineAt {text : Text} (oneLine : '\n' ∉ needle) {offset : Nat}
    (occurs : OccursAt needle text offset)
    (first : ∀ earlier, earlier < offset → ¬OccursAt needle text earlier) :
    findLine text needle = lineAt text offset := by
  induction text using lineInduction generalizing offset with
  | last line noFeed =>
    have onLine := (occursIn_iff needle line).mpr (infix_iff_exists_occursAt.mpr ⟨offset, occurs⟩)
    have noneBefore : '\n' ∉ line.take offset := fun member => noFeed (List.mem_of_mem_take member)
    rw [findLine, lines_eq_singleton noFeed, List.findIdx?_cons, onLine, lineAt,
      List.count_eq_zero_of_not_mem noneBefore]
    rfl
  | more line rest noFeed ih =>
    rcases occurs.of_append_cons oneLine with ⟨here, within⟩ | ⟨later, rfl, there⟩
    · have onLine := infix_iff_exists_occursAt.mpr ⟨offset, here⟩
      rw [findLine_first_line noFeed onLine, lineAt_first_line noFeed within]
    · have notOnLine : ¬needle <:+: line := by
        rintro ⟨before, behind, rfl⟩
        refine first before.length ?_ ?_
        · simp only [List.length_append]
          omega
        · simpa using occursAt_length before needle (behind ++ '\n' :: rest)
      have found := ih there fun earlier before alsoThere => by
        refine first (line.length + (earlier + 1)) (by omega) ?_
        rwa [OccursAt, List.drop_length_add_append, List.drop_succ_cons]
      rw [findLine_behind_line oneLine noFeed notOnLine
        (infix_iff_exists_occursAt.mpr ⟨later, there⟩), found, lineAt_behind_line noFeed]

end Text

end ShallowCpp
