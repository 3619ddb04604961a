import ShallowCpp.Text.Search
import ShallowCpp.Token.Basic

/-!
# The token stream

The tokens of a source are produced one line at a time, on demand. A line that is a line comment is
passed over first, whatever block comment markers it carries; then markers and open block comments
are honoured; a preprocessor line is one token; any other line is cut into classified fragments.

A stream is read through its list of remaining tokens, `toList`: pulling one token takes the head of
that list.
-/

set_option autoImplicit false

namespace ShallowCpp

namespace Token

/-- The tokens of one line, and whether a block comment is open behind it. -/
def ofLine (number : Nat) (commentOpen : Bool) (line : Text) : List Token × Bool :=
  if Comment.lineMark.isPrefixOf (Text.trim line) then ([], commentOpen)
  else
    match Comment.openBehind? line with
    | some openBehind => ([], openBehind)
    | none =>
      if commentOpen then ([], true)
      else if (Text.trim line).head? = some '#' then
        ([⟨Text.trim line, .preprocessor, number⟩], false)
      else ((fragments line).map fun value => ⟨value, classify value, number⟩, false)

/-- The tokens of successive lines, the first of which has the given number. -/
def ofLines (number : Nat) (commentOpen : Bool) : List Text → List Token
  | [] => []
  | line :: rest =>
    let (tokens, openBehind) := ofLine number commentOpen line
    tokens ++ ofLines (number + 1) openBehind rest

end Token

/-- A source that is being read token by token. -/
structure TokenStream where
  /-- Tokens of lines already cut up. -/
  pending : List Token
  /-- How many lines were cut up. -/
  linesRead : Nat
  /-- A block comment is open behind those lines. -/
  commentOpen : Bool
  /-- The lines still to come. -/
  linesLeft : List Text
  deriving DecidableEq, Repr

namespace TokenStream

/-- The stream at the beginning of a source. -/
def ofSource (source : Text) : TokenStream :=
  ⟨[], 0, false, Text.lines source⟩

/-- The tokens that remain. -/
def toList (stream : TokenStream) : List Token :=
  stream.pending ++
    Token.ofLines (stream.linesRead + 1) stream.commentOpen stream.linesLeft

/-- The first token of the lines to come, if there is one, with the stream behind it. -/
def pull (linesRead : Nat) (commentOpen : Bool) : List Text → Option Token × TokenStream
  | [] => (none, ⟨[], linesRead, commentOpen, []⟩)
  | line :: rest =>
    match Token.ofLine (linesRead + 1) commentOpen line with
    | ([], openBehind) => pull (linesRead + 1) openBehind rest
    | (token :: pending, openBehind) => (some token, ⟨pending, linesRead + 1, openBehind, rest⟩)

/-- The next token, if there is one, with the stream behind it. A stream that has no token left is
read to its end. -/
def next (stream : TokenStream) : Option Token × TokenStream :=
  match stream.pending with
  | token :: pending => (some token, { stream with pending })
  | [] => pull stream.linesRead stream.commentOpen stream.linesLeft

/-! ## Pulling a token takes the head of the list -/

theorem ofLines_eq_pull (linesRead : Nat) (commentOpen : Bool) (lines : List Text) :
    Token.ofLines (linesRead + 1) commentOpen lines =
      (pull linesRead commentOpen lines).1.toList ++
        (pull linesRead commentOpen lines).2.toList := by
  induction lines generalizing linesRead commentOpen with
  | nil => rfl
  | cons line rest ih =>
    rcases cut : Token.ofLine (linesRead + 1) commentOpen line with ⟨tokens, openBehind⟩
    cases tokens with
    | nil => simp [Token.ofLines, pull, cut, ih]
    | cons first others => simp [Token.ofLines, pull, cut, toList]

/-- Pulling a token takes the head of the remaining tokens. -/
theorem toList_eq_next (stream : TokenStream) :
    stream.toList = stream.next.1.toList ++ stream.next.2.toList := by
  cases held : stream.pending with
  | nil => simp [toList, next, held, ofLines_eq_pull stream.linesRead]
  | cons first others => simp [toList, next, held]

/-- The stream has been read to its end. -/
structure AtEnd (stream : TokenStream) : Prop where
  pending : stream.pending = []
  linesLeft : stream.linesLeft = []

theorem AtEnd.toList {stream : TokenStream} (atEnd : stream.AtEnd) : stream.toList = [] := by
  simp [TokenStream.toList, atEnd.pending, atEnd.linesLeft, Token.ofLines]

/-- Behind its end a stream yields no token and stays as it is. -/
theorem AtEnd.next {stream : TokenStream} (atEnd : stream.AtEnd) :
    stream.next = (none, stream) := by
  obtain ⟨pending, linesRead, commentOpen, linesLeft⟩ := stream
  obtain ⟨rfl, rfl⟩ := atEnd
  rfl

theorem atEnd_pull {linesRead : Nat} {commentOpen : Bool} {lines : List Text}
    (silent : (pull linesRead commentOpen lines).1 = none) :
    (pull linesRead commentOpen lines).2.AtEnd := by
  induction lines generalizing linesRead commentOpen with
  | nil => exact ⟨rfl, rfl⟩
  | cons line rest ih =>
    rw [pull] at silent ⊢
    split at silent
    next => exact ih silent
    next => cases silent

/-- A pull that finds no token leaves the stream at its end. -/
theorem atEnd_next {stream : TokenStream} (silent : stream.next.1 = none) :
    stream.next.2.AtEnd := by
  cases held : stream.pending with
  | nil =>
    rw [next, held] at silent ⊢
    exact atEnd_pull silent
  | cons first others =>
    rw [next, held] at silent
    cases silent

/-! ## Longer steps -/

/-- Up to `count` tokens, with the stream behind them. -/
def take : (count : Nat) → TokenStream → List Token × TokenStream
  | 0, stream => ([], stream)
  | count + 1, stream =>
    match stream.next with
    | (none, behind) => ([], behind)
    | (some token, behind) =>
      let (tokens, rest) := take count behind
      (token :: tokens, rest)

/-- All remaining tokens, with the stream at its end. -/
def drain (stream : TokenStream) : List Token × TokenStream :=
  take (stream.toList.length + 1) stream

/-- Passes over the rest of the line on which the next token stands, and yields the first token
behind that line. -/
def skipLine (stream : TokenStream) : Option Token × TokenStream :=
  match stream.next with
  | (none, behind) => (none, behind)
  | (some first, behind) =>
    let sameLine := behind.toList.takeWhile fun token => token.line == first.line
    (take sameLine.length behind).2.next

end TokenStream

/-- All tokens of a source. -/
def tokenize (source : Text) : List Token :=
  (TokenStream.ofSource source).toList

end ShallowCpp
