import ShallowCpp.Outline.Basic
import ShallowCpp.Shape.Scan
import ShallowCpp.Text.Search

/-!
# Declarations and statements

The shape of a declaration is a primitive type, a gap, a name, an optional initial value and a
semicolon. Nothing is asked of the text in front, so the type may be the end of a longer word.

A body is read line by line, and a line yields at most one statement: the first declaration of
primitive type in it, else a return, else an expression if the line ends in a semicolon. Blank
lines, line comments and all other lines yield nothing.
-/

set_option autoImplicit false

namespace ShallowCpp

/-! ## Declarations of primitive type -/

namespace VariableDecl

/-- The primitive types. -/
def primitiveTypes : List Text :=
  ["int".toList, "float".toList, "double".toList, "char".toList, "bool".toList, "auto".toList]

/-- A primitive type at the front of a text. -/
def primitiveType : Shape Text := fun text =>
  primitiveTypes.findSome? fun type => (type.isPrefixOf? text).map fun behind => (type, behind)

/-- The initial value in the text behind an equals sign: further equals signs at the front are
dropped, then the blanks around. -/
def initialValue (text : Text) : Text :=
  Text.trim (text.dropWhile (· == '='))

/-- The end of a declaration: a semicolon, possibly behind an equals sign and an initial value. -/
def ending : Shape (Option Text)
  | [] => none
  | char :: rest =>
    if char = ';' then some (none, rest)
    else if char = '=' then
      match rest.dropWhile (· != ';') with
      | [] => none
      | _ :: behind => some (some (initialValue (rest.takeWhile (· != ';'))), behind)
    else none

/-- A declaration of primitive type, up to and including its semicolon. -/
def shape : Shape VariableDecl := fun text => do
  let (type, text) ← primitiveType text
  let ((), text) ← Shape.gap text
  let (name, text) ← Shape.word text
  let (init, text) ← ending (Text.trimStart text)
  some (⟨name, type, init⟩, text)

end VariableDecl

/-! ## Statements of a body -/

namespace Statement

/-- What follows the word `return` at the front of a line, provided that the word ends there. -/
def afterReturn? (line : Text) : Option Text :=
  match "return".toList.isPrefixOf? line with
  | none => none
  | some rest => if rest.head?.any Text.isName then none else some rest

/-- The text without one semicolon at its end. -/
def dropSemicolon (text : Text) : Text :=
  if text.getLast? = some ';' then text.dropLast else text

/-- The statement on a trimmed line. -/
def ofLine? (line : Text) : Option Statement :=
  if line.isEmpty || Comment.lineMark.isPrefixOf line then none
  else
    match (VariableDecl.shape.spans line).head? with
    | some span => some (.declaration span.value)
    | none =>
      match afterReturn? line with
      | some value => some (.returns (Text.trim (dropSemicolon (Text.trim value))))
      | none =>
        if line.getLast? = some ';' then some (.expression (Text.trim line.dropLast)) else none

/-- The statements of a body. -/
def ofBody (body : Text) : List Statement :=
  (Text.lines body).filterMap fun line => ofLine? (Text.trim line)

end Statement

end ShallowCpp
