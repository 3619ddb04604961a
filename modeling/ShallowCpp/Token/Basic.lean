import ShallowCpp.Token.Number

/-!
# Tokens

A token is a fragment of source text with its kind and its line. The kind of a fragment follows from
its text alone: the tables of keywords, operators and punctuation are asked in turn, with literals
recognised between operators and punctuation, and whatever is left is an identifier.

A line is cut at blanks and at delimiters. A delimiter is a fragment of its own, even where two of
them form an operator or a quotation mark opens a string; the characters between are kept together
in maximal runs; blanks are dropped.
-/

set_option autoImplicit false

namespace ShallowCpp

namespace Token

/-- The kinds of token. -/
inductive Kind where
  | keyword
  | operator
  | literal
  | punctuation
  | preprocessor
  | identifier
  deriving DecidableEq, Repr

/-- The name under which a kind is listed. -/
def Kind.label : Kind → Text
  | .keyword => "Keyword".toList
  | .operator => "Operator".toList
  | .literal => "Literal".toList
  | .punctuation => "Punctuation".toList
  | .preprocessor => "Preprocessor".toList
  | .identifier => "Identifier".toList

/-- The word under which a kind appears in data. -/
def Kind.word : Kind → Text
  | .keyword => "keyword".toList
  | .operator => "operator".toList
  | .literal => "literal".toList
  | .punctuation => "punctuation".toList
  | .preprocessor => "preprocessor".toList
  | .identifier => "identifier".toList

/-! ## The tables -/

/-- The reserved words. -/
def keywords : List Text :=
  ["alignas".toList, "alignof".toList, "and".toList, "and_eq".toList, "asm".toList, "auto".toList,
    "bitand".toList, "bitor".toList, "bool".toList, "break".toList, "case".toList, "catch".toList,
    "char".toList, "char8_t".toList, "char16_t".toList, "char32_t".toList, "class".toList,
    "compl".toList, "concept".toList, "const".toList, "consteval".toList, "constexpr".toList,
    "const_cast".toList, "continue".toList, "co_await".toList, "co_return".toList,
    "co_yield".toList, "decltype".toList, "default".toList, "delete".toList, "do".toList,
    "double".toList, "dynamic_cast".toList, "else".toList, "enum".toList, "explicit".toList,
    "export".toList, "extern".toList, "false".toList, "float".toList, "for".toList, "friend".toList,
    "goto".toList, "if".toList, "inline".toList, "int".toList, "long".toList, "mutable".toList,
    "namespace".toList, "new".toList, "noexcept".toList, "not".toList, "not_eq".toList,
    "nullptr".toList, "operator".toList, "or".toList, "or_eq".toList, "private".toList,
    "protected".toList, "public".toList, "register".toList, "reinterpret_cast".toList,
    "requires".toList, "return".toList, "short".toList, "signed".toList, "sizeof".toList,
    "static".toList, "static_assert".toList, "static_cast".toList, "struct".toList, "switch".toList,
    "template".toList, "this".toList, "thread_local".toList, "throw".toList, "true".toList,
    "try".toList, "typedef".toList, "typeid".toList, "typename".toList, "union".toList,
    "unsigned".toList, "using".toList, "virtual".toList, "void".toList, "volatile".toList,
    "wchar_t".toList, "while".toList, "xor".toList, "xor_eq".toList]

/-- The operators. Those of more than one character are recognised when they are asked for as a
whole; cutting a line into fragments never yields them. -/
def operators : List Text :=
  ["+".toList, "-".toList, "*".toList, "/".toList, "%".toList, "=".toList, "==".toList, "!=".toList,
    ">".toList, "<".toList, ">=".toList, "<=".toList, "&&".toList, "||".toList, "!".toList,
    "++".toList, "--".toList, "+=".toList, "-=".toList, "*=".toList, "/=".toList, "%=".toList,
    "<<".toList, ">>".toList, "&".toList, "|".toList, "^".toList, "~".toList, "?".toList]

/-- The punctuation marks. -/
def punctuationMarks : List Text :=
  [";".toList, "\x7b".toList, "\x7d".toList, "(".toList, ")".toList, "[".toList, "]".toList,
    ",".toList, ".".toList, ":".toList, "\\".toList]

/-- A number, or a fragment that starts with a quotation mark. -/
def isLiteral (text : Text) : Bool :=
  isNumber text || text.head? == some '"' || text.head? == some '\''

/-- The kind of a fragment. -/
def classify (text : Text) : Kind :=
  if keywords.contains text then .keyword
  else if operators.contains text then .operator
  else if isLiteral text then .literal
  else if punctuationMarks.contains text then .punctuation
  else .identifier

/-! ## Fragments -/

/-- The characters that always stand alone. -/
def delimiters : List Char :=
  ";\x7b\x7d()[],.:&|^~!+-*/%=><\"'\\?".toList

/-- The character is a fragment of its own. -/
def isDelimiter (char : Char) : Bool :=
  delimiters.contains char

/-- The character joins with its neighbours of the same sort. -/
def isPlain (char : Char) : Bool :=
  !Text.isBlank char && !isDelimiter char

/-- The fragments of a text: neighbours stay together exactly when both are plain, and what consists
of blanks is left out. -/
def fragments (text : Text) : List Text :=
  (text.splitBy fun left right => isPlain left && isPlain right).filter fun piece =>
    !piece.all Text.isBlank

end Token

/-- A classified piece of source text. -/
structure Token where
  /-- The text itself. -/
  value : Text
  /-- Its kind. -/
  kind : Token.Kind
  /-- The line it stands on, counted from one. -/
  line : Nat
  deriving DecidableEq, Repr

end ShallowCpp
