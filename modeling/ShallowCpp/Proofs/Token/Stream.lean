import Mathlib.Algebra.Ring.Nat
import ShallowCpp.Proofs.Comment
import ShallowCpp.Proofs.Text.Lines
import ShallowCpp.Proofs.Token.Fragments
import ShallowCpp.Token.Stream

/-!
# The tokens of a source, line by line

A stream is pulled one token at a time or in groups of any size. Whatever the groups, they are
consecutive parts of one list, the tokens of the source (`TokenStream.takeEach_spec`), and once this
list is used up every further pull comes back empty (`TokenStream.atEnd_next`).

The list itself has a closed form. What a line contributes depends on the line and on the lines in
front of it, and of these only on whether they leave a block comment open. The stream carries this
as a flag from line to line, and several sorts of line leave the flag alone; the closed form looks
at the last line with a marker on it, line comments apart (`Token.ofLines_eq`, `stream_by_lines`).
-/

set_option autoImplicit false

namespace ShallowCpp

open Text Comment

/-! ## Pulling -/

namespace TokenStream

/-- Successive groups of tokens, each of up to so many, with the stream behind them. -/
def takeEach : (counts : List Nat) → TokenStream → List (List Token) × TokenStream
  | [], stream => ([], stream)
  | count :: counts, stream =>
    let (tokens, behind) := stream.take count
    let (groups, rest) := takeEach counts behind
    (tokens :: groups, rest)

/-- A pull answers with the first of the tokens that remain. -/
theorem fst_next (stream : TokenStream) : stream.next.1 = stream.toList.head? := by
  rw [toList_eq_next]
  cases pulled : stream.next.1 with
  | none =>
    rw [(atEnd_next pulled).toList]
    rfl
  | some token => rfl

/-- A group takes its tokens off the front of those that remain. -/
theorem take_spec (count : Nat) (stream : TokenStream) :
    (stream.take count).1 = stream.toList.take count ∧
      (stream.take count).2.toList = stream.toList.drop count := by
  induction count generalizing stream with
  | zero => exact ⟨rfl, rfl⟩
  | succ count ih =>
    have remaining := stream.toList_eq_next
    rw [TokenStream.take]
    split
    next behind pulled =>
      have atEnd := atEnd_next (congrArg Prod.fst pulled)
      rw [pulled] at remaining atEnd
      simp [remaining, atEnd.toList]
    next token behind pulled =>
      obtain ⟨taken, left⟩ := ih behind
      rw [remaining, pulled]
      exact ⟨congrArg (token :: ·) taken, left⟩

/-- Groups are consecutive parts of the tokens that remain. -/
theorem takeEach_spec (counts : List Nat) (stream : TokenStream) :
    (stream.takeEach counts).1.flatten = stream.toList.take counts.sum ∧
      (stream.takeEach counts).2.toList = stream.toList.drop counts.sum := by
  induction counts generalizing stream with
  | nil => exact ⟨rfl, rfl⟩
  | cons count counts ih =>
    obtain ⟨taken, left⟩ := take_spec count stream
    obtain ⟨others, rest⟩ := ih (stream.take count).2
    rw [left] at others rest
    constructor
    · rw [takeEach, List.flatten_cons, taken, others, List.sum_cons, List.take_add]
    · rw [takeEach, rest, List.drop_drop, List.sum_cons]

end TokenStream

/-! ## One line -/

namespace Token

/-- The line comments among the lines left out, a block comment is open behind them. -/
def CommentOpen (lines : List Text) : Prop :=
  OpenBehind (lines.filter fun line => ¬IsLineComment line)

instance (lines : List Text) : Decidable (CommentOpen lines) :=
  inferInstanceAs (Decidable (OpenBehind _))

/-- The tokens on a line that stands behind the earlier lines. -/
def onLine (earlier : List Text) (line : Text) : List Token :=
  if IsLineComment line ∨ Marked line ∨ CommentOpen earlier then []
  else if (trim line).head? = some '#' then [⟨trim line, .preprocessor, earlier.length + 1⟩]
  else (fragments line).map fun value => ⟨value, classify value, earlier.length + 1⟩

theorem not_commentOpen_nil : ¬CommentOpen [] :=
  not_openBehind_nil

theorem commentOpen_concat_of_isLineComment {earlier : List Text} {line : Text}
    (comment : IsLineComment line) : CommentOpen (earlier ++ [line]) ↔ CommentOpen earlier := by
  simp [CommentOpen, List.filter_append, comment]

theorem commentOpen_concat {earlier : List Text} {line : Text} (code : ¬IsLineComment line) :
    CommentOpen (earlier ++ [line]) ↔
      OpenBehind ((earlier.filter fun line => ¬IsLineComment line) ++ [line]) := by
  simp [CommentOpen, List.filter_append, code]

/-- One step of the stream: cutting up a line yields its tokens, and takes the state of the comments
in front of the line to that behind it. -/
theorem ofLine_step {earlier : List Text} {commentOpen : Bool}
    (flag : commentOpen = true ↔ CommentOpen earlier) (line : Text) :
    (ofLine (earlier.length + 1) commentOpen line).1 = onLine earlier line ∧
      ((ofLine (earlier.length + 1) commentOpen line).2 = true ↔
        CommentOpen (earlier ++ [line])) := by
  have starts : lineMark.isPrefixOf (trim line) = true ↔ IsLineComment line :=
    List.isPrefixOf_iff_prefix
  rw [ofLine, onLine]
  by_cases comment : IsLineComment line
  · rw [if_pos (starts.mpr comment), if_pos (.inl comment),
      commentOpen_concat_of_isLineComment comment]
    exact ⟨rfl, flag⟩
  · rw [if_neg (mt starts.mp comment), commentOpen_concat comment]
    split
    next openBehind decided =>
      obtain ⟨marked, isOpen⟩ := (openBehind?_eq_some_iff line openBehind).mp decided
      rw [if_pos (.inr (.inl marked)), openBehind_concat_of_marked marked]
      exact ⟨rfl, isOpen⟩
    next undecided =>
      have unmarked := (openBehind?_eq_none_iff line).mp undecided
      rw [openBehind_concat_of_not_marked unmarked]
      by_cases inside : CommentOpen earlier
      · rw [if_pos (flag.mpr inside), if_pos (.inr (.inr inside))]
        exact ⟨rfl, iff_of_true rfl inside⟩
      · have outside : ¬(IsLineComment line ∨ Marked line ∨ CommentOpen earlier) := by
          simp [comment, unmarked, inside]
        rw [if_neg (mt flag.mp inside), if_neg outside]
        split
        · exact ⟨rfl, iff_of_false Bool.false_ne_true inside⟩
        · exact ⟨rfl, iff_of_false Bool.false_ne_true inside⟩

/-- A line contributes nothing exactly when it is blank or a comment. -/
theorem onLine_eq_nil_iff (earlier : List Text) (line : Text) :
    onLine earlier line = [] ↔
      Blank line ∨ IsLineComment line ∨ Marked line ∨ CommentOpen earlier := by
  rw [onLine]
  split
  next comment => exact iff_of_true rfl (.inr comment)
  next code =>
    rw [or_iff_left code]
    split
    next directive =>
      refine iff_of_false (List.cons_ne_nil _ _) fun blank => ?_
      have first := trim_subset line (List.mem_of_mem_head? directive)
      exact absurd (blank '#' first) (by decide)
    next => rw [List.map_eq_nil_iff, fragments_eq_nil_iff]

theorem line_of_mem_ofLine {number : Nat} {commentOpen : Bool} {line : Text} {token : Token}
    (member : token ∈ (ofLine number commentOpen line).1) : token.line = number := by
  rw [ofLine] at member
  split at member
  next => cases member
  next =>
    split at member
    next => cases member
    next =>
      split_ifs at member
      · cases member
      · rw [List.mem_singleton.mp member]
      · obtain ⟨value, -, rfl⟩ := List.mem_map.mp member
        rfl

/-! ## Successive lines -/

theorem ofLines_cons (number : Nat) (commentOpen : Bool) (line : Text) (rest : List Text) :
    ofLines number commentOpen (line :: rest) =
      (ofLine number commentOpen line).1 ++
        ofLines (number + 1) (ofLine number commentOpen line).2 rest :=
  rfl

/-- **The tokens of successive lines**, the flag of the stream being what the earlier lines say. -/
theorem ofLines_eq {earlier : List Text} {commentOpen : Bool}
    (flag : commentOpen = true ↔ CommentOpen earlier) (rest : List Text) :
    ofLines (earlier.length + 1) commentOpen rest =
      (rest.mapIdx fun index line => onLine (earlier ++ rest.take index) line).flatten := by
  induction rest generalizing earlier commentOpen with
  | nil => rfl
  | cons line rest ih =>
    obtain ⟨tokens, flagBehind⟩ := ofLine_step flag line
    have others := ih flagBehind
    simp only [List.length_append, List.length_singleton, List.append_assoc,
      List.singleton_append] at others
    rw [ofLines_cons, tokens, others, List.mapIdx_cons, List.flatten_cons]
    simp only [List.take_zero, List.append_nil, List.take_succ_cons]

theorem line_bounds_of_mem_ofLines {number : Nat} {commentOpen : Bool} {lines : List Text}
    {token : Token} (member : token ∈ ofLines number commentOpen lines) :
    number ≤ token.line ∧ token.line < number + lines.length := by
  induction lines generalizing number commentOpen with
  | nil => cases member
  | cons line rest ih =>
    rw [ofLines_cons, List.mem_append] at member
    rw [List.length_cons]
    rcases member with here | later
    · have same := line_of_mem_ofLine here
      omega
    · have bounds := ih later
      omega

theorem pairwise_line_ofLines (number : Nat) (commentOpen : Bool) (lines : List Text) :
    (ofLines number commentOpen lines).Pairwise fun first second => first.line ≤ second.line := by
  induction lines generalizing number commentOpen with
  | nil => exact .nil
  | cons line rest ih =>
    rw [ofLines_cons]
    refine List.pairwise_append.mpr ⟨?_, ih _ _, ?_⟩
    · refine List.pairwise_of_forall_mem_list fun first inFirst second inSecond => ?_
      rw [line_of_mem_ofLine inFirst, line_of_mem_ofLine inSecond]
    · intro first inFirst second inSecond
      have bounds := line_bounds_of_mem_ofLines inSecond
      rw [line_of_mem_ofLine inFirst]
      omega

end Token

/-! ## Whole sources -/

theorem tokenize_eq_ofLines (source : Text) :
    tokenize source = Token.ofLines 1 false (lines source) :=
  rfl

/-- The tokens of a source, by its lines. -/
theorem tokenize_eq (source : Text) :
    tokenize source =
      ((lines source).mapIdx fun index line =>
        Token.onLine ((lines source).take index) line).flatten :=
  Token.ofLines_eq (iff_of_false Bool.false_ne_true Token.not_commentOpen_nil) (lines source)

theorem tokenize_eq_nil_iff (source : Text) :
    tokenize source = [] ↔
      ∀ index line, (lines source)[index]? = some line →
        Blank line ∨ IsLineComment line ∨ Marked line ∨
          Token.CommentOpen ((lines source).take index) := by
  rw [tokenize_eq, List.flatten_eq_nil_iff]
  simp only [List.mem_mapIdx]
  constructor
  · intro silent index line here
    obtain ⟨bound, rfl⟩ := List.getElem?_eq_some_iff.mp here
    exact (Token.onLine_eq_nil_iff _ _).mp (silent _ ⟨index, bound, rfl⟩)
  · rintro silent tokens ⟨index, bound, rfl⟩
    exact (Token.onLine_eq_nil_iff _ _).mpr (silent index _ (List.getElem?_eq_getElem bound))

/-- **The token stream, by the lines of the source.** However the stream is pulled, the groups make
up the front of one list, and the pull behind them answers with the next token of the list, if there
is one; a pull that finds none leaves the stream at its end, where a further pull finds nothing and
changes nothing. The list is put together line by line: a line comment, a line with a marker of a
block comment and a line inside a block comment contribute nothing, a directive contributes one
token, and any other line its fragments. So tokens come in the order of lines, and there are none
exactly when every line is blank or a comment. -/
theorem stream_by_lines (source : Text) :
    (∀ counts : List Nat,
        ((TokenStream.ofSource source).takeEach counts).1.flatten =
            (tokenize source).take counts.sum ∧
          ((TokenStream.ofSource source).takeEach counts).2.next.1 =
            (tokenize source)[counts.sum]? ∧
          (((TokenStream.ofSource source).takeEach counts).2.next.1 = none →
            ((TokenStream.ofSource source).takeEach counts).2.next.2.next =
              (none, ((TokenStream.ofSource source).takeEach counts).2.next.2))) ∧
      tokenize source =
        ((lines source).mapIdx fun index line =>
          Token.onLine ((lines source).take index) line).flatten ∧
      ((tokenize source).Pairwise fun first second => first.line ≤ second.line) ∧
      (∀ token ∈ tokenize source, 1 ≤ token.line ∧ token.line ≤ (lines source).length) ∧
      (tokenize source = [] ↔
        ∀ index line, (lines source)[index]? = some line →
          Blank line ∨ IsLineComment line ∨ Marked line ∨
            Token.CommentOpen ((lines source).take index)) := by
  refine ⟨?_, tokenize_eq source, ?_, ?_, tokenize_eq_nil_iff source⟩
  · intro counts
    obtain ⟨taken, left⟩ := TokenStream.takeEach_spec counts (TokenStream.ofSource source)
    refine ⟨taken, ?_, fun silent => (TokenStream.atEnd_next silent).next⟩
    rw [TokenStream.fst_next, left, List.head?_drop]
    rfl
  · exact Token.pairwise_line_ofLines 1 false (lines source)
  · intro token member
    have bounds := Token.line_bounds_of_mem_ofLines (tokenize_eq_ofLines source ▸ member)
    omega

/-- A marker behind the mark of a line comment opens nothing, and a directive inside a block comment
is no token, so the only token stands on the last line. It is pulled once. -/
theorem stream_by_lines_around_comments :
    (⟨"b".toList, .identifier, 5⟩ ∈ tokenize "// /*\na /*\n#x\n*/\nb".toList ∧
        5 ≤ (lines "// /*\na /*\n#x\n*/\nb".toList).length) ∧
      ((TokenStream.ofSource "// /*\na /*\n#x\n*/\nb".toList).takeEach [0, 1, 3]).2.next.1 =
        none := by
  have closedForm := stream_by_lines "// /*\na /*\n#x\n*/\nb".toList
  have member : ⟨"b".toList, .identifier, 5⟩ ∈ tokenize "// /*\na /*\n#x\n*/\nb".toList := by
    decide +kernel
  refine ⟨⟨member, (closedForm.2.2.2.1 _ member).2⟩, ?_⟩
  rw [(closedForm.1 [0, 1, 3]).2.1]
  decide +kernel

end ShallowCpp
