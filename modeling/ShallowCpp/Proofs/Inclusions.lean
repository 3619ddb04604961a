import ShallowCpp.Outline.Source
import ShallowCpp.Proofs.Token.Stream

/-!
# Include directives among the tokens and in the outline

The outline takes its include directives from the lines of a source, and knows nothing of comments.
The token stream has a token for a directive too, but passes over the lines of block comments. So
the directives among the tokens are some of those in the outline, in the same order. One is missing
exactly where a directive stands on a line with a marker or inside of an open block comment
(`inclusion_tokens_agree`).

A line that starts like an include directive is no line comment
(`Text.IsInclusion.not_isLineComment`), so line comments hide nothing.
-/

set_option autoImplicit false

namespace ShallowCpp

open Text Comment

/-! ## One line -/

/-- The line is an include directive, with blanks around it. -/
def Text.IsInclusion (line : Text) : Prop :=
  "#include".toList <+: trim line

instance (line : Text) : Decidable (IsInclusion line) :=
  decidable_of_iff ("#include".toList.isPrefixOf (trim line) = true) List.isPrefixOf_iff_prefix

/-- The include directive on the line, if there is one. -/
def Text.inclusionOn (line : Text) : List Text :=
  if IsInclusion line then [trim line] else []

theorem Text.IsInclusion.head?_trim {line : Text} (inclusion : IsInclusion line) :
    (trim line).head? = some '#' := by
  obtain ⟨rest, written⟩ := inclusion
  rw [← written]
  rfl

theorem Text.IsInclusion.not_isLineComment {line : Text} (inclusion : IsInclusion line) :
    ¬IsLineComment line := by
  rintro ⟨rest, written⟩
  have starts := inclusion.head?_trim
  rw [← written] at starts
  cases starts

theorem Text.flatMap_inclusionOn (rows : List Text) :
    rows.flatMap inclusionOn =
      (rows.map trim).filter fun line => "#include".toList.isPrefixOf line := by
  induction rows with
  | nil => rfl
  | cons row rows ih =>
    rw [List.flatMap_cons, ih, List.map_cons, inclusionOn]
    split
    next inclusion =>
      rw [List.filter_cons_of_pos (List.isPrefixOf_iff_prefix.mpr inclusion)]
      rfl
    next other =>
      rw [List.filter_cons_of_neg (mt List.isPrefixOf_iff_prefix.mp other)]
      rfl

/-- The directives of the outline are those on the lines of the source. -/
theorem Program.inclusions_eq_flatMap (source : Text) :
    (ofSource source).inclusions = (lines source).flatMap inclusionOn := by
  rw [inclusions_ofSource, inclusionsIn, flatMap_inclusionOn]

namespace Token

/-- No fragment is classified as a directive. -/
theorem classify_ne_preprocessor (value : Text) : classify value ≠ .preprocessor := by
  unfold classify
  split_ifs <;> exact nofun

/-- The token is an include directive. -/
def isInclusion (token : Token) : Bool :=
  token.kind == .preprocessor && "#include".toList.isPrefixOf token.value

/-- The include directives among the tokens, as they are written. -/
def inclusions (tokens : List Token) : List Text :=
  (tokens.filter isInclusion).map Token.value

theorem inclusions_append (tokens others : List Token) :
    inclusions (tokens ++ others) = inclusions tokens ++ inclusions others := by
  simp only [inclusions, List.filter_append, List.map_append]

/-- The line belongs to a block comment: it has a marker, or a comment is open behind the earlier
lines. -/
def InComment (earlier : List Text) (line : Text) : Prop :=
  Marked line ∨ CommentOpen earlier

instance (earlier : List Text) (line : Text) : Decidable (InComment earlier line) :=
  inferInstanceAs (Decidable (_ ∨ _))

/-- A directive is found again by its text. -/
theorem inclusions_directive (line : Text) (number : Nat) :
    inclusions [⟨trim line, .preprocessor, number⟩] = inclusionOn line := by
  have kept : isInclusion ⟨trim line, .preprocessor, number⟩ = true ↔ IsInclusion line :=
    List.isPrefixOf_iff_prefix
  rw [inclusionOn, inclusions]
  split
  next inclusion =>
    rw [List.filter_cons_of_pos (kept.mpr inclusion)]
    rfl
  next other =>
    rw [List.filter_cons_of_neg (mt kept.mp other)]
    rfl

theorem inclusions_fragments (values : List Text) (number : Nat) :
    inclusions (values.map fun value => ⟨value, classify value, number⟩) = [] := by
  simp [inclusions, isInclusion, classify_ne_preprocessor]

/-- One step: a line contributes its directive unless it belongs to a block comment. -/
theorem inclusions_onLine (earlier : List Text) (line : Text) :
    inclusions (onLine earlier line) = if InComment earlier line then [] else inclusionOn line := by
  rw [onLine]
  by_cases hidden : InComment earlier line
  · rw [if_pos hidden, if_pos (.inr hidden)]
    rfl
  · rw [if_neg hidden]
    by_cases inclusion : IsInclusion line
    · have code : ¬(IsLineComment line ∨ Marked line ∨ CommentOpen earlier) :=
        not_or.mpr ⟨inclusion.not_isLineComment, hidden⟩
      rw [if_neg code, if_pos inclusion.head?_trim, inclusions_directive]
    · have nothing : inclusionOn line = [] := if_neg inclusion
      split_ifs
      · rw [nothing]
        rfl
      · exact inclusions_directive line _
      · rw [inclusions_fragments, nothing]

theorem inclusions_onLine_sublist (earlier : List Text) (line : Text) :
    (inclusions (onLine earlier line)).Sublist (inclusionOn line) := by
  rw [inclusions_onLine]
  split
  · exact List.nil_sublist _
  · exact List.Sublist.refl _

theorem inclusions_onLine_eq_iff (earlier : List Text) (line : Text) :
    inclusions (onLine earlier line) = inclusionOn line ↔
      (IsInclusion line → ¬InComment earlier line) := by
  rw [inclusions_onLine]
  by_cases inclusion : IsInclusion line
  · simp [inclusionOn, inclusion]
  · simp [inclusionOn, inclusion]

/-! ## Successive lines -/

theorem append_eq_iff_of_sublist {α : Type} {left right left' right' : List α}
    (first : left.Sublist left') (second : right.Sublist right') :
    left ++ right = left' ++ right' ↔ left = left' ∧ right = right' := by
  constructor
  · intro same
    have lengths := congrArg List.length same
    simp only [List.length_append] at lengths
    have firstLength := first.length_le
    have secondLength := second.length_le
    exact ⟨first.eq_of_length (by omega), second.eq_of_length (by omega)⟩
  · rintro ⟨rfl, rfl⟩
    rfl

/-- **The directives among the tokens of successive lines.** They are some of those on the lines,
and all of them exactly when no directive belongs to a block comment. -/
theorem inclusions_ofLines {earlier : List Text} {commentOpen : Bool}
    (flag : commentOpen = true ↔ CommentOpen earlier) (rest : List Text) :
    (inclusions (ofLines (earlier.length + 1) commentOpen rest)).Sublist
        (rest.flatMap inclusionOn) ∧
      (inclusions (ofLines (earlier.length + 1) commentOpen rest) = rest.flatMap inclusionOn ↔
        ∀ front line later, rest = front ++ line :: later →
          IsInclusion line → ¬InComment (earlier ++ front) line) := by
  induction rest generalizing earlier commentOpen with
  | nil => exact ⟨List.Sublist.refl _, by simp [ofLines, inclusions]⟩
  | cons line rest ih =>
    obtain ⟨tokens, flagBehind⟩ := ofLine_step flag line
    obtain ⟨sublist, equal_iff⟩ := ih flagBehind
    rw [List.length_append, List.length_singleton] at sublist equal_iff
    have here := inclusions_onLine_sublist earlier line
    rw [ofLines_cons, tokens, inclusions_append, List.flatMap_cons]
    refine ⟨here.append sublist, ?_⟩
    rw [append_eq_iff_of_sublist here sublist, inclusions_onLine_eq_iff, equal_iff]
    constructor
    · rintro ⟨first, others⟩ front second later cut
      rcases List.cons_eq_append_iff.mp cut with ⟨rfl, same⟩ | ⟨further, rfl, behind⟩
      · obtain ⟨rfl, rfl⟩ := List.cons.inj same
        rwa [List.append_nil]
      · have visible := others further second later behind
        rwa [List.append_assoc] at visible
    · intro visible
      refine ⟨?_, fun front second later cut => ?_⟩
      · have first := visible [] line rest rfl
        rwa [List.append_nil] at first
      · rw [List.append_assoc]
        exact visible (line :: front) second later (congrArg (line :: ·) cut)

end Token

/-! ## Whole sources -/

theorem Token.not_commentOpen_of_not_marked {earlier : List Text}
    (unmarked : ∀ line ∈ earlier, ¬Marked line) : ¬CommentOpen earlier := by
  rintro ⟨last, isLast, -⟩
  obtain ⟨code, marked⟩ := List.mem_filter.mp (List.mem_of_mem_getLast? isLast)
  exact unmarked last (List.mem_of_mem_filter code) (of_decide_eq_true marked)

/-- **The token stream and the outline agree on include directives.** The directives among the
tokens of a source are some of those in its outline, in the same order. They are all of them exactly
when no directive stands on a line with a marker of a block comment or behind lines that leave one
open. So they are the same if no line has a marker. -/
theorem inclusion_tokens_agree (source : Text) :
    (Token.inclusions (tokenize source)).Sublist (Program.ofSource source).inclusions ∧
      (Token.inclusions (tokenize source) = (Program.ofSource source).inclusions ↔
        ∀ earlier line later, lines source = earlier ++ line :: later →
          IsInclusion line → ¬Marked line ∧ ¬Token.CommentOpen earlier) ∧
      ((∀ line ∈ lines source, ¬Marked line) →
        Token.inclusions (tokenize source) = (Program.ofSource source).inclusions) := by
  obtain ⟨sublist, equal_iff⟩ := Token.inclusions_ofLines
    (iff_of_false Bool.false_ne_true Token.not_commentOpen_nil) (lines source)
  rw [Program.inclusions_eq_flatMap, tokenize_eq_ofLines]
  simp only [List.nil_append, Token.InComment, not_or] at equal_iff
  refine ⟨sublist, equal_iff, fun unmarked => equal_iff.mpr ?_⟩
  intro earlier line later cut _
  rw [cut] at unmarked
  refine ⟨unmarked line (by simp), Token.not_commentOpen_of_not_marked fun other member => ?_⟩
  exact unmarked other (List.mem_append_left _ member)

/-- A directive inside of a block comment is in the outline and not among the tokens, and those in
front of the comment and behind it are in both. -/
theorem inclusion_tokens_agree_around_comment :
    (Token.inclusions (tokenize "#include a\n/*\n#include b\n*/\n #include c".toList)).Sublist
        (Program.ofSource "#include a\n/*\n#include b\n*/\n #include c".toList).inclusions ∧
      Token.inclusions (tokenize "#include a\n/*\n#include b\n*/\n #include c".toList) =
        ["#include a".toList, "#include c".toList] ∧
      Token.inclusions (tokenize "#include a\n// #include b\n#x\n #include c".toList) =
        (Program.ofSource "#include a\n// #include b\n#x\n #include c".toList).inclusions := by
  refine ⟨(inclusion_tokens_agree _).1, by decide +kernel, (inclusion_tokens_agree _).2.2 ?_⟩
  decide +kernel

end ShallowCpp
