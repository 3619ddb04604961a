import ShallowCpp.Proofs.Termination
import ShallowCpp.Proofs.Token.Stream

/-!
# Two views of block comments

The token stream and the check of semicolons both follow block comments from line to line, each with
a flag of its own. The stream passes over a line comment before it looks for markers; the check
looks for markers first. So a marker behind the mark of a line comment moves the flag of the check
and not that of the stream.

Both flags go by the last line with a marker, and the stream leaves line comments out. They can only
differ while the last line with a marker is a line comment, and any other line with a marker brings
them together again (`Token.commentOpen_iff_openBehind`). A line with tokens on it is therefore
passed over by the check exactly when the last marker in front of it is one that opens a comment for
the check alone (`comment_flags_differ_iff`).
-/

set_option autoImplicit false

namespace ShallowCpp

open Text Comment

/-! ## The states of a stream -/

namespace TokenStream

/-- The stream once it has cut up its next line, with the tokens of the line behind those that are
pending. -/
def readLine (stream : TokenStream) : TokenStream :=
  match stream.linesLeft with
  | [] => stream
  | line :: rest =>
    let (tokens, openBehind) := Token.ofLine (stream.linesRead + 1) stream.commentOpen line
    ⟨stream.pending ++ tokens, stream.linesRead + 1, openBehind, rest⟩

/-- The states in which the stream of a source can be: a pull reads lines until a token is pending
or no line is left, and takes the token. -/
inductive Reached (source : Text) : TokenStream → Prop where
  | start : Reached source (ofSource source)
  | line {stream : TokenStream} : Reached source stream → Reached source stream.readLine
  | token {stream : TokenStream} : Reached source stream → Reached source stream.next.2

/-- The stream has read the earlier lines and not the rest. -/
structure Between (earlier rest : List Text) (stream : TokenStream) : Prop where
  linesRead : stream.linesRead = earlier.length
  linesLeft : stream.linesLeft = rest
  flag : stream.commentOpen = true ↔ Token.CommentOpen earlier

theorem between_ofSource (source : Text) : Between [] (lines source) (ofSource source) where
  linesRead := rfl
  linesLeft := rfl
  flag := iff_of_false Bool.false_ne_true Token.not_commentOpen_nil

/-- One step of the stream: it reads a line. -/
theorem Between.readLine {earlier rest : List Text} {line : Text} {stream : TokenStream}
    (between : Between earlier (line :: rest) stream) :
    Between (earlier ++ [line]) rest stream.readLine := by
  have step := (Token.ofLine_step between.flag line).2
  rw [← between.linesRead] at step
  rw [TokenStream.readLine, between.linesLeft]
  exact ⟨by simp [between.linesRead], rfl, step⟩

/-- When no token is pending, a pull reads a line first. -/
theorem next_readLine {stream : TokenStream} {line : Text} {rest : List Text}
    (nonePending : stream.pending = []) (someLeft : stream.linesLeft = line :: rest) :
    stream.readLine.next = stream.next := by
  rw [next, next, TokenStream.readLine, someLeft, nonePending]
  simp only [List.nil_append, pull]
  rcases Token.ofLine (stream.linesRead + 1) stream.commentOpen line with ⟨tokens, openBehind⟩
  cases tokens with
  | nil => rfl
  | cons token others => rfl

/-- A pull takes a pending token, or reads further lines until there is one or no line is left. -/
theorem Between.next {earlier rest : List Text} {stream : TokenStream}
    (between : Between earlier rest stream) :
    ∃ more left, rest = more ++ left ∧ Between (earlier ++ more) left stream.next.2 := by
  cases held : stream.pending with
  | cons first others =>
    refine ⟨[], rest, rfl, ?_⟩
    rw [List.append_nil, TokenStream.next, held]
    exact ⟨between.linesRead, between.linesLeft, between.flag⟩
  | nil =>
    cases rest with
    | nil =>
      refine ⟨[], [], rfl, ?_⟩
      rw [List.append_nil, TokenStream.next, held, between.linesLeft]
      exact ⟨between.linesRead, rfl, between.flag⟩
    | cons line rest =>
      obtain ⟨more, left, rfl, further⟩ := between.readLine.next
      refine ⟨line :: more, left, rfl, ?_⟩
      rwa [List.append_assoc, List.singleton_append, next_readLine held between.linesLeft]
        at further
termination_by rest.length

/-- Whatever was pulled, the stream has read the lines in front of some line and goes by them. -/
theorem Reached.between {source : Text} {stream : TokenStream} (reached : Reached source stream) :
    Between ((lines source).take stream.linesRead) ((lines source).drop stream.linesRead)
      stream := by
  suffices parts : ∃ earlier rest, lines source = earlier ++ rest ∧ Between earlier rest stream by
    obtain ⟨earlier, rest, cut, between⟩ := parts
    rwa [cut, between.linesRead, List.take_left, List.drop_left]
  induction reached with
  | start => exact ⟨[], lines source, rfl, between_ofSource source⟩
  | @line stream _ ih =>
    obtain ⟨earlier, rest, cut, between⟩ := ih
    cases rest with
    | nil =>
      refine ⟨earlier, [], cut, ?_⟩
      rwa [TokenStream.readLine, between.linesLeft]
    | cons line rest => exact ⟨earlier ++ [line], rest, by simp [cut], between.readLine⟩
  | token _ ih =>
    obtain ⟨earlier, rest, cut, between⟩ := ih
    obtain ⟨more, left, rfl, further⟩ := between.next
    exact ⟨earlier ++ more, left, by simp [cut], further⟩

/-- The stream comes to every line. -/
theorem exists_reached (source : Text) {index : Nat} (within : index ≤ (lines source).length) :
    ∃ stream, Reached source stream ∧ stream.linesRead = index := by
  induction index with
  | zero => exact ⟨ofSource source, .start, rfl⟩
  | succ index ih =>
    obtain ⟨stream, reached, rfl⟩ := ih (Nat.le_of_succ_le within)
    refine ⟨stream.readLine, .line reached, ?_⟩
    have left := reached.between.linesLeft
    rw [List.drop_eq_getElem_cons within] at left
    rw [readLine, left]

end TokenStream

/-! ## The two flags -/

namespace Comment

/-- The last of the lines that carry a marker. -/
def lastMarked? (lines : List Text) : Option Text :=
  (lines.filter fun line => Marked line).getLast?

theorem openBehind_iff (lines : List Text) :
    OpenBehind lines ↔ ∃ last ∈ lastMarked? lines, LeavesOpen last :=
  Iff.rfl

/-- Leaving out line comments does not change the last line with a marker, unless that line is a
line comment. -/
theorem lastMarked?_filter {lines : List Text} {last : Text}
    (isLast : lastMarked? lines = some last) (code : ¬IsLineComment last) :
    lastMarked? (lines.filter fun line => ¬IsLineComment line) = some last := by
  obtain ⟨front, cut⟩ := List.getLast?_eq_some_iff.mp isLast
  rw [lastMarked?, List.filter_comm, cut, List.filter_append]
  simp [code]

/-- Where no line has a marker, leaving out line comments leaves none with a marker either. -/
theorem lastMarked?_filter_of_none {lines : List Text} (noneMarked : lastMarked? lines = none) :
    lastMarked? (lines.filter fun line => ¬IsLineComment line) = none := by
  rw [lastMarked?, List.getLast?_eq_none_iff] at noneMarked ⊢
  rw [List.filter_comm, noneMarked, List.filter_nil]

end Comment

/-- **Where the two views of the lines differ**: the last line with a marker is a line comment, and
says the opposite of what the other lines say. -/
theorem Token.commentOpen_iff_openBehind (lines : List Text) :
    ¬(CommentOpen lines ↔ OpenBehind lines) ↔
      ∃ last ∈ lastMarked? lines, IsLineComment last ∧ (LeavesOpen last ↔ ¬CommentOpen lines) := by
  cases marked : lastMarked? lines with
  | none =>
    have closed : ¬OpenBehind lines := by
      simp [openBehind_iff, marked]
    have alsoClosed : ¬CommentOpen lines := by
      rw [CommentOpen, openBehind_iff, lastMarked?_filter_of_none marked]
      simp
    simp [closed, alsoClosed]
  | some last =>
    have decided : OpenBehind lines ↔ LeavesOpen last := by
      simp [openBehind_iff, marked]
    rw [decided]
    by_cases comment : IsLineComment last
    · simp only [Option.mem_def, Option.some.injEq, exists_eq_left', comment, true_and]
      tauto
    · have alsoDecided : CommentOpen lines ↔ LeavesOpen last := by
        rw [CommentOpen, openBehind_iff, lastMarked?_filter marked comment]
        simp
      simp [alsoDecided, comment]

/-! ## Lines with tokens -/

theorem Token.line_of_mem_onLine {earlier : List Text} {line : Text} {token : Token}
    (member : token ∈ onLine earlier line) : token.line = earlier.length + 1 := by
  have flag : decide (CommentOpen earlier) = true ↔ CommentOpen earlier := decide_eq_true_iff
  rw [← (ofLine_step flag line).1] at member
  exact line_of_mem_ofLine member

/-- A token stands on a line that the stream takes for code. -/
theorem exists_line_of_mem_tokenize {source : Text} {token : Token}
    (member : token ∈ tokenize source) :
    ∃ index line, token.line = index + 1 ∧ (lines source)[index]? = some line ∧
      ¬Marked line ∧ ¬Token.CommentOpen ((lines source).take index) := by
  rw [tokenize_eq, List.mem_flatten] at member
  obtain ⟨tokens, isRow, inRow⟩ := member
  obtain ⟨index, bound, rfl⟩ := List.mem_mapIdx.mp isRow
  have number := Token.line_of_mem_onLine inRow
  rw [List.length_take_of_le (Nat.le_of_lt bound)] at number
  refine ⟨index, _, number, List.getElem?_eq_getElem bound, ?_⟩
  have present := mt (Token.onLine_eq_nil_iff _ _).mpr (List.ne_nil_of_mem inRow)
  tauto

/-- **The stream and the check on block comments.** The stream comes to every line, and the check
goes on from every line with a flag of its own. In front of a line the two flags differ exactly when
the last line with a marker is a line comment and leaves the opposite of the flag of the stream. A
line with tokens on it is covered for the check exactly when the last line with a marker in front of
it is a line comment that leaves a comment open; where it is not covered, it is reported if it lacks
a semicolon. -/
theorem comment_flags_differ_iff (source : Text) :
    (∀ index ≤ (lines source).length,
        ∃ stream, TokenStream.Reached source stream ∧ stream.linesRead = index) ∧
      (∀ index ≤ (lines source).length,
        Termination.check source =
          Termination.checkLines 1 false ((lines source).take index) ++
            Termination.checkLines (index + 1) (Termination.openBefore source index)
              ((lines source).drop index)) ∧
      (∀ stream, TokenStream.Reached source stream →
        (stream.commentOpen ≠ Termination.openBefore source stream.linesRead ↔
          ∃ last ∈ lastMarked? ((lines source).take stream.linesRead),
            IsLineComment last ∧ (LeavesOpen last ↔ stream.commentOpen = false))) ∧
      ∀ token ∈ tokenize source, ∃ index line,
        token.line = index + 1 ∧ (lines source)[index]? = some line ∧
          (Termination.covers (Termination.openBefore source index) line = true ↔
            ∃ last ∈ lastMarked? ((lines source).take index),
              IsLineComment last ∧ LeavesOpen last) ∧
          (.missingSemicolon (index + 1) ∈ Termination.check source ↔
            Termination.covers (Termination.openBefore source index) line = false ∧
              Termination.lacksSemicolon (trim line) = true) := by
  refine ⟨fun index => TokenStream.exists_reached source,
    fun index => Termination.check_eq_append source, ?_, ?_⟩
  · intro stream reached
    have differ := Token.commentOpen_iff_openBehind ((lines source).take stream.linesRead)
    rw [← reached.between.flag, ← Termination.openBefore_iff, Bool.not_eq_true] at differ
    rw [← differ, Ne, Bool.eq_iff_iff]
  · intro token member
    obtain ⟨index, line, number, here, unmarked, notOpen⟩ := exists_line_of_mem_tokenize member
    refine ⟨index, line, number, here, ?_, Termination.missingSemicolon_mem_check_iff here⟩
    have differ := Token.commentOpen_iff_openBehind ((lines source).take index)
    rw [Termination.covers_iff, or_iff_left unmarked, Termination.openBefore_iff]
    simpa only [notOpen, false_iff, not_not, not_false_eq_true, iff_true] using differ

/-- Behind `// /*` the two flags differ and the tokens of the second line stand on a line that is
covered; the third line has markers and brings the flags together, so the fourth is reported. -/
theorem comment_flags_differ_until_marker :
    (TokenStream.ofSource "// /*\nint x\n/* */\nint y".toList).readLine.commentOpen ≠
        Termination.openBefore "// /*\nint x\n/* */\nint y".toList 1 ∧
      (⟨"y".toList, .identifier, 4⟩ ∈ tokenize "// /*\nint x\n/* */\nint y".toList ∧
        .missingSemicolon 4 ∈ Termination.check "// /*\nint x\n/* */\nint y".toList) := by
  obtain ⟨-, -, flags, examined⟩ :=
    comment_flags_differ_iff "// /*\nint x\n/* */\nint y".toList
  have member : ⟨"y".toList, .identifier, 4⟩ ∈
      tokenize "// /*\nint x\n/* */\nint y".toList := by decide +kernel
  obtain ⟨index, line, number, here, -, reported⟩ := examined _ member
  obtain rfl : 3 = index := Nat.succ.inj number
  obtain rfl : "int y".toList = line := Option.some.inj here
  refine ⟨?_, member, reported.mpr (by decide +kernel)⟩
  exact (flags _ (.line .start)).mpr ⟨"// /*".toList, by decide, by decide, by decide⟩

/-- The flags are not the same in front of every line, and a line with a token on it may be covered:
a marker in a line comment keeps the check from the line below. -/
theorem comment_flags_differ :
    TokenStream.Reached "// /*\nint x".toList
        (TokenStream.ofSource "// /*\nint x".toList).readLine ∧
      (TokenStream.ofSource "// /*\nint x".toList).readLine.linesRead = 1 ∧
      (TokenStream.ofSource "// /*\nint x".toList).readLine.commentOpen = false ∧
      Termination.openBefore "// /*\nint x".toList 1 = true ∧
      ⟨"x".toList, .identifier, 2⟩ ∈ tokenize "// /*\nint x".toList ∧
      (lines "// /*\nint x".toList)[1]? = some "int x".toList ∧
      Termination.covers (Termination.openBefore "// /*\nint x".toList 1) "int x".toList = true ∧
      Termination.lacksSemicolon (trim "int x".toList) = true ∧
      Termination.check "// /*\nint x".toList = [] := by
  refine ⟨.line .start, ?_⟩
  decide +kernel

end ShallowCpp
