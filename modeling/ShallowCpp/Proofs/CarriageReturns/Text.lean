import ShallowCpp.Proofs.Comment
import ShallowCpp.Proofs.Shape.Parts
import ShallowCpp.Proofs.Text.Places
import ShallowCpp.Proofs.Text.Trim

/-!
# Carriage returns in front of line feeds

A text is given carriage returns by putting one in front of every line feed. The carriage return is
a blank at the end of a line. Ways of taking a text apart that tell a carriage return from a line
feed in no respect commute with this: runs of a class (`takeWhile_withReturns`,
`dropWhile_withReturns`), trimming (`trim_withReturns`), cutting into fields (`fields_withReturns`).
Those for which both are separators do not see the carriage returns at all. Of the lines, each but
the last gets a carriage return at its end, so whatever looks at a line and does not see a carriage
return at its end sees the same lines (`map_lines_withReturns`).
-/

set_option autoImplicit false

namespace ShallowCpp

namespace Text

/-- The text with a carriage return in front of every line feed. -/
def withReturns (text : Text) : Text :=
  text.flatMap fun char => if char = '\n' then ['\r', '\n'] else [char]

@[simp] theorem withReturns_nil : withReturns [] = [] := rfl

@[simp] theorem withReturns_append (front behind : Text) :
    withReturns (front ++ behind) = withReturns front ++ withReturns behind :=
  List.flatMap_append

@[simp] theorem withReturns_lineFeed (rest : Text) :
    withReturns ('\n' :: rest) = '\r' :: '\n' :: withReturns rest := rfl

theorem withReturns_cons {char : Char} (ordinary : char ≠ '\n') (rest : Text) :
    withReturns (char :: rest) = char :: withReturns rest := by
  rw [withReturns, List.flatMap_cons, if_neg ordinary, List.singleton_append]
  rfl

/-- A text without line feeds gets no carriage returns. -/
theorem withReturns_of_notMem {text : Text} (oneLine : '\n' ∉ text) : withReturns text = text := by
  induction text with
  | nil => rfl
  | cons char rest ih =>
    obtain ⟨ordinary, others⟩ := not_or.mp (mt List.mem_cons.mpr oneLine)
    rw [withReturns_cons (Ne.symm ordinary), ih others]

theorem count_lineFeed_withReturns (text : Text) :
    (withReturns text).count '\n' = text.count '\n' := by
  induction text with
  | nil => rfl
  | cons char rest ih =>
    by_cases feed : char = '\n'
    · rw [feed, withReturns_lineFeed, List.count_cons_of_ne (by decide), List.count_cons_self, ih,
        List.count_cons_self]
    · rw [withReturns_cons feed, List.count_cons_of_ne feed, List.count_cons_of_ne feed, ih]

theorem withReturns_eq_iff {text other : Text} (oneLine : '\n' ∉ other) :
    withReturns text = other ↔ text = other := by
  constructor
  · rintro rfl
    have inText : '\n' ∉ text := by
      rw [← List.count_eq_zero, count_lineFeed_withReturns, List.count_eq_zero] at oneLine
      exact oneLine
    exact (withReturns_of_notMem inText).symm
  · rintro rfl
    exact withReturns_of_notMem oneLine

theorem isEmpty_withReturns (text : Text) : (withReturns text).isEmpty = text.isEmpty := by
  rw [Bool.eq_iff_iff, List.isEmpty_iff, List.isEmpty_iff, withReturns_eq_iff List.not_mem_nil]

/-! ## Runs and trimming -/

section Runs

variable (inClass : Char → Bool) (alike : inClass '\r' = inClass '\n')

include alike

theorem takeWhile_withReturns (text : Text) :
    (withReturns text).takeWhile inClass = withReturns (text.takeWhile inClass) := by
  induction text with
  | nil => rfl
  | cons char rest ih =>
    by_cases feed : char = '\n'
    · rw [feed, withReturns_lineFeed, List.takeWhile_cons, List.takeWhile_cons, List.takeWhile_cons,
        alike, ih]
      split
      · rfl
      · rfl
    · rw [withReturns_cons feed, List.takeWhile_cons, List.takeWhile_cons, ih]
      split
      · rw [withReturns_cons feed]
      · rfl

theorem dropWhile_withReturns (text : Text) :
    (withReturns text).dropWhile inClass = withReturns (text.dropWhile inClass) := by
  induction text with
  | nil => rfl
  | cons char rest ih =>
    by_cases feed : char = '\n'
    · rw [feed, withReturns_lineFeed, List.dropWhile_cons, List.dropWhile_cons, List.dropWhile_cons,
        alike, ih]
      split
      · rfl
      · rfl
    · rw [withReturns_cons feed, List.dropWhile_cons, List.dropWhile_cons, ih]
      split
      · rfl
      · rw [withReturns_cons feed]

end Runs

/-- A text is cut at the corresponding place if it is cut at neither of the two characters. -/
theorem cut_withReturns {stop closing : Char} {text behind : Text} (noReturn : stop ≠ '\r')
    (noFeed : stop ≠ '\n') (cut : text.dropWhile (· != stop) = closing :: behind) :
    (withReturns text).dropWhile (· != stop) = closing :: withReturns behind := by
  have ends := endsRun_dropWhile (· != stop) text
  rw [cut] at ends
  obtain rfl : closing = stop := by simpa using endsRun_cons.mp ends
  have alike : ('\r' != closing) = ('\n' != closing) := by
    rw [bne_iff_ne.mpr noReturn.symm, bne_iff_ne.mpr noFeed.symm]
  rw [dropWhile_withReturns (· != closing) alike, cut, withReturns_cons noFeed]

theorem trimStart_withReturns (text : Text) :
    trimStart (withReturns text) = withReturns (trimStart text) :=
  dropWhile_withReturns isBlank rfl text

theorem trimEnd_withReturns (text : Text) :
    trimEnd (withReturns text) = withReturns (trimEnd text) := by
  -- From the end: a blank is trimmed off either text, and any other character ends the trimming.
  induction text using List.reverseRecOn with
  | nil => rfl
  | append_singleton front char ih =>
    cases blank : isBlank char with
    | true =>
      have last : Blank [char] := by simpa [Blank] using blank
      have lastWithReturns : Blank (withReturns [char]) := by
        by_cases feed : char = '\n'
        · rw [feed]
          decide
        · rwa [withReturns_cons feed]
      rw [withReturns_append, trimEnd_append_blank lastWithReturns, ih, trimEnd_append_blank last]
    | false =>
      have ordinary : char ≠ '\n' := by
        rintro rfl
        cases blank
      rw [trimEnd_concat blank, withReturns_append, withReturns_cons ordinary, withReturns_nil,
        trimEnd_concat blank]

theorem trim_withReturns (text : Text) : trim (withReturns text) = withReturns (trim text) := by
  rw [trim, trimStart_withReturns, trimEnd_withReturns, trim]

/-! ## Fields and words -/

/-- Separators apart from both characters cut at the same places. -/
theorem fields_withReturns (isSeparator : Char → Bool) (noReturn : isSeparator '\r' = false)
    (noFeed : isSeparator '\n' = false) (text : Text) :
    fields isSeparator (withReturns text) = (fields isSeparator text).map withReturns := by
  simp only [fields_eq_splitOnP]
  induction text with
  | nil => rfl
  | cons char rest ih =>
    obtain ⟨field, others, cut⟩ :=
      List.exists_cons_of_ne_nil (List.splitOnP_ne_nil isSeparator rest)
    rw [cut] at ih
    by_cases feed : char = '\n'
    · simp [feed, List.splitOnP_cons_eq_if_modifyHead, noReturn, noFeed, ih, cut]
    · rw [withReturns_cons feed, List.splitOnP_cons_eq_if_modifyHead,
        List.splitOnP_cons_eq_if_modifyHead, ih, cut]
      split
      · rfl
      · simp [withReturns_cons feed]

/-- A blank divides the words of a text. -/
theorem words_append_cons {char : Char} (blank : isBlank char = true) (front behind : Text) :
    words (front ++ char :: behind) = words front ++ words behind := by
  simp only [words, fields_eq_splitOnP, List.splitOnP_append_cons front behind blank,
    List.filter_append]

/-- The words of a text do not see the carriage returns. -/
theorem words_withReturns (text : Text) : words (withReturns text) = words text := by
  induction text using lineInduction with
  | last line oneLine => rw [withReturns_of_notMem oneLine]
  | more line rest oneLine ih =>
    rw [withReturns_append, withReturns_lineFeed, withReturns_of_notMem oneLine,
      words_append_cons rfl, words_append_cons rfl, ← ih]
    -- There is no word between the carriage return and the line feed.
    rfl

/-! ## Lines -/

theorem lines_withReturns_cons {line : Text} (oneLine : '\n' ∉ line) (rest : Text) :
    lines (withReturns (line ++ '\n' :: rest)) = (line ++ ['\r']) :: lines (withReturns rest) := by
  have stillLine : '\n' ∉ line ++ ['\r'] := by simp [oneLine]
  rw [withReturns_append, withReturns_lineFeed, withReturns_of_notMem oneLine,
    ← lines_cons_line stillLine, List.append_assoc, List.singleton_append]

/-- A view of lines that does not see a carriage return at the end. -/
theorem map_lines_withReturns {α : Type} {view : Text → α}
    (blind : ∀ line, view (line ++ ['\r']) = view line) (text : Text) :
    (lines (withReturns text)).map view = (lines text).map view := by
  induction text using lineInduction with
  | last line oneLine => rw [withReturns_of_notMem oneLine]
  | more line rest oneLine ih =>
    rw [lines_withReturns_cons oneLine, lines_cons_line oneLine, List.map_cons, List.map_cons, ih,
      blind]

theorem trim_concat_return (line : Text) : trim (line ++ ['\r']) = trim line :=
  trim_append_blank (by decide) line

theorem Word.carriageReturn_notMem {text : Text} (word : Word text) : '\r' ∉ text :=
  word.notMem rfl

/-! ## Searching -/

section Needle

variable {needle : Text} (noReturn : '\r' ∉ needle)

include noReturn

theorem prefix_concat_return (text : Text) : needle <+: text ++ ['\r'] ↔ needle <+: text := by
  rw [List.prefix_concat_iff, or_iff_right]
  rintro rfl
  simp at noReturn

theorem infix_concat_return (line : Text) : needle <:+: line ++ ['\r'] ↔ needle <:+: line := by
  rw [List.infix_concat_iff, or_iff_right_of_imp]
  intro ends
  rcases List.suffix_concat_iff.mp ends with rfl | ⟨front, rfl, -⟩
  · exact List.nil_infix
  · simp at noReturn

theorem occursIn_concat_return (line : Text) :
    occursIn needle (line ++ ['\r']) = occursIn needle line := by
  rw [Bool.eq_iff_iff, occursIn_iff, occursIn_iff, infix_concat_return noReturn]

theorem occursAt_concat_return (line : Text) (offset : Nat) :
    OccursAt needle (line ++ ['\r']) offset ↔ OccursAt needle line offset := by
  rw [OccursAt, OccursAt]
  rcases Nat.lt_or_ge line.length offset with behind | within
  · rw [List.drop_eq_nil_of_le (Nat.le_of_lt behind), List.drop_eq_nil_of_le]
    rw [List.length_append, List.length_singleton]
    exact behind
  · rw [List.drop_append_of_le_length within, prefix_concat_return noReturn]

theorem lastIndex?_concat_return (nonempty : needle ≠ []) (line : Text) :
    lastIndex? needle (line ++ ['\r']) = lastIndex? needle line := by
  apply Option.ext
  intro offset
  rw [lastIndex?_eq_some_iff nonempty, lastIndex?_eq_some_iff nonempty]
  have same := occursAt_concat_return noReturn line
  constructor
  · intro isLast
    exact ⟨(same offset).mp isLast.occurs,
      fun later behind occurs => isLast.last later behind ((same later).mpr occurs)⟩
  · intro isLast
    exact ⟨(same offset).mpr isLast.occurs,
      fun later behind occurs => isLast.last later behind ((same later).mp occurs)⟩

/-- A search line by line finds the same line. -/
theorem findLine_withReturns (text : Text) :
    findLine (withReturns text) needle = findLine text needle := by
  have byView : ∀ rows : List Text,
      rows.findIdx? (occursIn needle) = (rows.map (occursIn needle)).findIdx? id := by
    intro rows
    rw [List.findIdx?_map]
    rfl
  rw [findLine, findLine, byView, byView,
    map_lines_withReturns (occursIn_concat_return noReturn)]

/-- A needle without line feeds and carriage returns occurs in the one text as in the other. -/
theorem occursIn_withReturns (oneLine : '\n' ∉ needle) (text : Text) :
    occursIn needle (withReturns text) = occursIn needle text := by
  have byView : ∀ other : Text,
      occursIn needle other = ((lines other).map (occursIn needle)).any id := by
    intro other
    rw [Bool.eq_iff_iff, occursIn_iff, infix_iff_exists_line oneLine]
    simp [occursIn_iff]
  rw [byView, byView, map_lines_withReturns (occursIn_concat_return noReturn)]

end Needle

end Text

theorem Comment.openBehind?_concat_return (line : Text) :
    openBehind? (line ++ ['\r']) = openBehind? line := by
  rw [openBehind?, openBehind?, Text.lastIndex?_concat_return (by decide) opening_ne_nil,
    Text.lastIndex?_concat_return (by decide) closing_ne_nil]

end ShallowCpp
