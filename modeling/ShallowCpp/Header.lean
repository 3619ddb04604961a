import ShallowCpp.Diagnostic
import ShallowCpp.Shape.Scan
import ShallowCpp.Text.Search

/-!
# Function headers

A header reads `type name(parameters)`, with blanks allowed around the parenthesised list. Followed
by an opening brace it heads a definition, followed by a semicolon it is a prototype. Two words
before a parenthesis need not declare anything: `return f(x);` and `else if (a) {` have the same
look, so a header whose first word starts a statement is not counted.

A prototype promises a definition. Every prototype whose name no definition of the source bears is
reported at the line where it starts. Names alone are compared, not types or parameters.
-/

set_option autoImplicit false

namespace ShallowCpp

/-- The parts of a function header as they are written. -/
structure Header where
  /-- The word in front of the name. -/
  returnType : Text
  /-- The name of the function. -/
  name : Text
  /-- Everything between the parentheses. -/
  params : Text
  deriving DecidableEq, Repr

namespace Header

/-- A header that is followed by the character `final`. -/
def shape (final : Char) : Shape Header := fun text => do
  let (returnType, text) ← Shape.word text
  let ((), text) ← Shape.gap text
  let (name, text) ← Shape.word text
  let (params, text) ← Shape.parenthesised (Text.trimStart text)
  match Text.trimStart text with
  | [] => none
  | char :: behind => if char = final then some (⟨returnType, name, params⟩, behind) else none

/-- The word where the return type would stand is one of the given words. -/
def startsWith (words : List Text) (header : Header) : Bool :=
  words.contains header.returnType

/-- The name is one of the given words. -/
def isNamed (words : List Text) (header : Header) : Bool :=
  words.contains header.name

end Header

/-! ## Prototypes and definitions -/

namespace Linkage

/-- The header of a definition, up to and including the brace that opens its body. -/
def definition : Shape Header := Header.shape '{'

/-- A prototype, up to and including its semicolon. -/
def prototype : Shape Header := Header.shape ';'

/-- Words that can stand in front of a call and are never a return type. -/
def statementWords : List Text :=
  ["return".toList, "else".toList, "new".toList, "delete".toList, "throw".toList, "case".toList,
    "goto".toList]

/-- The headers of a shape in a source, those left out that start with a statement word. -/
def headers (shape : Shape Header) (source : Text) : List (Span Header) :=
  (shape.spans source).filter fun span => !span.value.startsWith statementWords

/-- The names that are defined in a source. -/
def definedNames (source : Text) : List Text :=
  (headers definition source).map fun span => span.value.name

/-- The prototypes of a source that have no definition in it. -/
def check (source : Text) : List Diagnostic :=
  let defined := definedNames source
  (headers prototype source).filterMap fun span =>
    if defined.contains span.value.name then none
    else some (.undefinedFunction span.value.name (Text.lineAt source span.start))

end Linkage

end ShallowCpp
