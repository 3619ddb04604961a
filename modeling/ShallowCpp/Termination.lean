import ShallowCpp.Diagnostic
import ShallowCpp.Shape.Scan
import ShallowCpp.Text.Search

/-!
# Statements end in semicolons

Each line is judged by itself, once the lines that block comments cover are set aside. A line may
lack a semicolon when it is blank, a directive or a line comment, when it contains a keyword clause
such as `if ` anywhere, when it ends or starts with a brace, or when it ends in a signature. A block
that is opened and closed within one line is looked into: the text in front of its closing brace is
a statement too.

A line that ends in `name(parameters)`, possibly followed by `const` and by `= 0`, looks like the
signature of a function.

Block comment markers are honoured on every line, also behind the mark of a line comment.
-/

set_option autoImplicit false

namespace ShallowCpp

/-! ## Signatures -/

namespace Signature

/-- Nothing but blanks, or `= 0` among blanks. -/
def isPureOrEnd (text : Text) : Bool :=
  match Text.trimStart text with
  | [] => true
  | char :: rest =>
    char == '=' &&
      match Text.trimStart rest with
      | [] => false
      | digit :: behind => digit == '0' && (Text.trimStart behind).isEmpty

/-- What may follow the parameters: `const`, then `= 0`, both optional. -/
def isEnding (text : Text) : Bool :=
  match Shape.literal "const".toList (Text.trimStart text) with
  | some ((), behind) => isPureOrEnd behind
  | none => isPureOrEnd text

/-- The whole text is a name, a parenthesised list and a proper ending. -/
def isWhole (text : Text) : Bool :=
  match Shape.word text with
  | none => false
  | some (_, behind) =>
    match Shape.parenthesised (Text.trimStart behind) with
    | none => false
    | some (_, ending) => isEnding ending

/-- Some end of the line is a signature. -/
def endsLine : Text → Bool
  | [] => false
  | char :: rest => isWhole (char :: rest) || endsLine rest

end Signature

/-! ## Clauses -/

namespace Termination

/-- The beginnings of clauses that need no semicolon of their own. -/
def clauses : List Text :=
  ["namespace ".toList, "class ".toList, "struct ".toList, "enum ".toList, "typedef ".toList,
    "using ".toList, "template ".toList, "return ".toList, "if ".toList, "else ".toList,
    "for ".toList, "while ".toList, "do ".toList, "switch ".toList, "case ".toList,
    "default:".toList]

/-- The text contains the beginning of such a clause, be it inside a longer word. -/
def hasClause (text : Text) : Bool :=
  clauses.any fun clause => Text.occursIn clause text

/-! ## Blocks within one line -/

/-- Words behind which a brace opens a block of statements. -/
def blockWords : List Text :=
  ["const".toList, "else".toList, "do".toList, "try".toList]

/-- The run of name characters at the end of a text. -/
def lastName (text : Text) : Text :=
  (text.reverse.takeWhile Text.isName).reverse

/-- A brace behind this text opens a block of statements, not a list of values or members. -/
def opensBlock (heading : Text) : Bool :=
  heading.getLast? == some ')' || blockWords.contains (lastName heading)

/-- In the rest of a line, some block of statements is closed with a statement in front of the brace
that has no semicolon. The blocks opened so far are listed innermost first, each with whether it
holds statements, and `segment` is the text since the last brace or semicolon. -/
def hasOpenStatementFrom (blocks : List Bool) (segment : Text) : Text → Bool
  | [] => false
  | char :: rest =>
    if char = '{' then hasOpenStatementFrom (opensBlock (Text.trim segment) :: blocks) [] rest
    else if char = '}' then
      let statement := Text.trim segment
      (blocks.head? == some true && !statement.isEmpty && !hasClause statement) ||
        hasOpenStatementFrom blocks.tail [] rest
    else if char = ';' then hasOpenStatementFrom blocks [] rest
    else hasOpenStatementFrom blocks (segment ++ [char]) rest

/-- Some block within the line is closed behind a statement that has no semicolon. -/
def hasOpenStatement (line : Text) : Bool :=
  hasOpenStatementFrom [] [] line

/-! ## Lines -/

/-- The trimmed line carries no statement that could lack a semicolon. -/
def isExempt (line : Text) : Bool :=
  line.isEmpty || line.head? == some '#' || Comment.lineMark.isPrefixOf line || hasClause line

/-- The trimmed line starts or ends with a brace, so it opens or closes a block. -/
def isBlockBoundary (line : Text) : Bool :=
  line.getLast? == some '{' || line.getLast? == some '}' || line.head? == some '}'

/-- The trimmed line lacks a semicolon. -/
def lacksSemicolon (line : Text) : Bool :=
  !isExempt line &&
    (hasOpenStatement line ||
      (!isBlockBoundary line && line.getLast? != some ';' && !Signature.endsLine line))

/-- The findings on successive lines, the first of which has the given number. -/
def checkLines (number : Nat) (commentOpen : Bool) : List Text → List Diagnostic
  | [] => []
  | line :: rest =>
    match Comment.openBehind? line with
    | some openBehind => checkLines (number + 1) openBehind rest
    | none =>
      if !commentOpen && lacksSemicolon (Text.trim line) then
        .missingSemicolon number :: checkLines (number + 1) commentOpen rest
      else checkLines (number + 1) commentOpen rest

/-- The lines of a source that lack a semicolon. -/
def check (source : Text) : List Diagnostic :=
  checkLines 1 false (Text.lines source)

end Termination

end ShallowCpp
