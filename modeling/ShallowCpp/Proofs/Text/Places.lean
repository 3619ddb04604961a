import ShallowCpp.Proofs.Text.Lines

/-!
# Places and their lines

A place in a text is reached by counting characters from the front or by counting lines. The two
ways agree: a text without line feeds that stands at some place stands on the line whose number is
one more than the number of line feeds in front of the place, together with as much of the text
around it as fits on that line (`exists_isLine_append`).

It follows that searching line by line finds a needle without line feeds exactly when the needle
occurs in the text, and that the line found is one that contains it (`exists_isLine_findLine`).
-/

set_option autoImplicit false

namespace ShallowCpp.Text

/-! ## Texts as sequences of lines -/

/-- A text is a line, or a line with a line feed and a further text behind it. -/
@[elab_as_elim]
theorem lineInduction {motive : Text → Prop} (last : ∀ line, '\n' ∉ line → motive line)
    (more : ∀ line rest, '\n' ∉ line → motive rest → motive (line ++ '\n' :: rest)) (text : Text) :
    motive text := by
  by_cases within : '\n' ∈ text
  · obtain ⟨line, rest, rfl, oneLine⟩ := List.eq_append_cons_of_mem within
    exact more line rest oneLine (lineInduction last more rest)
  · exact last text within
termination_by text.length

theorem lines_cons_line {line : Text} (oneLine : '\n' ∉ line) (rest : Text) :
    lines (line ++ '\n' :: rest) = line :: lines rest := by
  rw [lines_append_lineFeed, lines_eq_singleton oneLine, List.singleton_append]

/-- A text has one line more than it has line feeds. -/
theorem length_lines (text : Text) : (lines text).length = 1 + text.count '\n' := by
  induction text using lineInduction with
  | last line oneLine =>
    rw [lines_eq_singleton oneLine, List.count_eq_zero_of_not_mem oneLine, List.length_singleton]
  | more line rest oneLine ih =>
    rw [lines_cons_line oneLine, List.length_cons, ih, List.count_append, List.count_cons_self,
      List.count_eq_zero_of_not_mem oneLine]
    omega

theorem infix_of_mem_lines {text line : Text} (member : line ∈ lines text) : line <:+: text := by
  induction text using lineInduction with
  | last only oneLine =>
    rw [lines_eq_singleton oneLine, List.mem_singleton] at member
    exact member ▸ List.infix_refl line
  | more first rest oneLine ih =>
    rw [lines_cons_line oneLine, List.mem_cons] at member
    rcases member with rfl | later
    · exact (List.prefix_append line _).isInfix
    · have within := (List.suffix_cons '\n' rest).trans (List.suffix_append first _)
      exact (ih later).trans within.isInfix

/-- The first line of a text goes on from whatever is written in front of it on that line. -/
theorem exists_first_line (behind : Text) :
    ∃ back others, back <+: behind ∧
      ∀ front, '\n' ∉ front → lines (front ++ behind) = (front ++ back) :: others := by
  by_cases within : '\n' ∈ behind
  · obtain ⟨back, rest, rfl, oneLine⟩ := List.eq_append_cons_of_mem within
    refine ⟨back, lines rest, List.prefix_append back _, fun front frontLine => ?_⟩
    rw [← List.append_assoc, lines_cons_line]
    simp [frontLine, oneLine]
  · refine ⟨behind, [], List.prefix_refl behind, fun front frontLine => ?_⟩
    rw [lines_eq_singleton]
    simp [frontLine, within]

/-! ## The line of a place -/

/-- The text has the line under the given number, counted from one. -/
def IsLine (text : Text) (number : Nat) (line : Text) : Prop :=
  ∃ index, number = index + 1 ∧ (lines text)[index]? = some line

/-- The numbers of lines are those from one to one more than the number of line feeds. -/
theorem IsLine.bounds {text line : Text} {number : Nat} (isLine : IsLine text number line) :
    1 ≤ number ∧ number ≤ 1 + text.count '\n' := by
  obtain ⟨index, rfl, here⟩ := isLine
  have bound := (List.getElem?_eq_some_iff.mp here).1
  rw [length_lines] at bound
  omega

theorem IsLine.unique {text line other : Text} {number : Nat} (isLine : IsLine text number line)
    (alsoLine : IsLine text number other) : line = other := by
  obtain ⟨index, rfl, here⟩ := isLine
  obtain ⟨index', same, there⟩ := alsoLine
  rw [← Nat.succ.inj same, here] at there
  exact Option.some.inj there

/-- **What stands at a place stands on its line**, with parts of the text around it. -/
theorem exists_isLine_append {needle : Text} (oneLine : '\n' ∉ needle) (before behind : Text) :
    ∃ front back, front <:+ before ∧ back <+: behind ∧
      IsLine (before ++ (needle ++ behind)) (lineAt (before ++ (needle ++ behind)) before.length)
        (front ++ (needle ++ back)) := by
  simp only [IsLine, lineAt, List.take_left, Nat.add_comm 1, Nat.add_right_cancel_iff,
    exists_eq_left']
  induction before using lineInduction with
  | last before noFeed =>
    obtain ⟨back, others, starts, cut⟩ := exists_first_line behind
    refine ⟨before, back, List.suffix_refl before, starts, ?_⟩
    rw [← List.append_assoc, cut (before ++ needle) (by simp [noFeed, oneLine]),
      List.count_eq_zero_of_not_mem noFeed, List.getElem?_cons_zero, List.append_assoc]
  | more line rest noFeed ih =>
    obtain ⟨front, back, ends, starts, found⟩ := ih
    have within := (List.suffix_cons '\n' rest).trans (List.suffix_append line _)
    refine ⟨front, back, ends.trans within, starts, ?_⟩
    rw [List.append_assoc, List.cons_append, lines_cons_line noFeed, List.count_append,
      List.count_cons_self, List.count_eq_zero_of_not_mem noFeed, Nat.zero_add,
      List.getElem?_cons_succ, found]

theorem exists_isLine_of_getElem? {text : Text} {offset : Nat} {char : Char}
    (here : text[offset]? = some char) (ordinary : char ≠ '\n') :
    ∃ line, IsLine text (lineAt text offset) line ∧ char ∈ line := by
  obtain ⟨bound, rfl⟩ := List.getElem?_eq_some_iff.mp here
  have oneLine : '\n' ∉ [text[offset]] := by simpa using Ne.symm ordinary
  obtain ⟨front, back, -, -, isLine⟩ :=
    exists_isLine_append oneLine (text.take offset) (text.drop (offset + 1))
  rw [List.singleton_append, ← List.drop_eq_getElem_cons bound, List.take_append_drop,
    List.length_take_of_le (Nat.le_of_lt bound)] at isLine
  exact ⟨_, isLine, by simp⟩

/-! ## Searching line by line -/

/-- A needle without line feeds occurs in a text exactly when it occurs on a line. -/
theorem infix_iff_exists_line {needle : Text} (oneLine : '\n' ∉ needle) (text : Text) :
    needle <:+: text ↔ ∃ line ∈ lines text, needle <:+: line := by
  constructor
  · rintro ⟨before, behind, rfl⟩
    obtain ⟨front, back, -, -, index, -, found⟩ := exists_isLine_append oneLine before behind
    rw [← List.append_assoc] at found
    exact ⟨_, List.mem_of_getElem? found, front, back, List.append_assoc _ _ _⟩
  · rintro ⟨line, member, occurs⟩
    exact occurs.trans (infix_of_mem_lines member)

/-- Wherever a needle without line feeds occurs, searching line by line finds a line. -/
theorem exists_findIdx?_lines {needle text : Text} (oneLine : '\n' ∉ needle)
    (occurs : needle <:+: text) :
    ∃ index, (lines text).findIdx? (occursIn needle) = some index := by
  obtain ⟨line, member, onLine⟩ := (infix_iff_exists_line oneLine text).mp occurs
  apply Option.ne_none_iff_exists'.mp
  intro nowhere
  have absent := List.findIdx?_eq_none_iff.mp nowhere line member
  rw [(occursIn_iff needle line).mpr onLine] at absent
  cases absent

/-- The line that a search finds contains the needle, and one is found wherever the needle
occurs. -/
theorem exists_isLine_findLine {needle text : Text} (oneLine : '\n' ∉ needle)
    (occurs : needle <:+: text) :
    ∃ line, IsLine text (findLine text needle) line ∧ needle <:+: line := by
  obtain ⟨index, found⟩ := exists_findIdx?_lines oneLine occurs
  obtain ⟨bound, holds, -⟩ := List.findIdx?_eq_some_iff_getElem.mp found
  rw [findLine, found]
  exact ⟨_, ⟨index, rfl, List.getElem?_eq_getElem bound⟩, (occursIn_iff needle _).mp holds⟩

end ShallowCpp.Text
