import ShallowCpp.Braces
import ShallowCpp.Header
import ShallowCpp.Outline.Body
import ShallowCpp.Text.Search

/-!
# Reading an outline

Three passes over the source find the include directives, the function definitions and the
variables. The passes know nothing of each other: variables declared inside functions are found
again as variables of the program. A header whose first word starts a statement, or whose name is a
control keyword, heads no function.
-/

set_option autoImplicit false

namespace ShallowCpp

/-- The parameter written in one field of a parameter list. -/
def Param.ofField (field : Text) : Param :=
  let words := Text.words field
  ⟨words.head?.getD [], words[1]?.getD []⟩

/-- The parameters of a list. A blank list and the list `void` have none. -/
def Param.ofList (list : Text) : List Param :=
  let trimmed := Text.trim list
  if trimmed.isEmpty || trimmed == "void".toList then []
  else (Text.fields (· == ',') trimmed).map Param.ofField

/-- The function whose header was found at the given place of a source. -/
def FunctionDecl.ofSpan (source : Text) (span : Span Header) : FunctionDecl where
  name := span.value.name
  returnType := span.value.returnType
  params := Param.ofList span.value.params
  body := Statement.ofBody (Braces.body (source.drop span.stop))
  line := Text.lineAt source span.start

namespace Program

/-- The include directives of a source: its trimmed lines that begin with `#include`. -/
def inclusionsIn (source : Text) : List Text :=
  ((Text.lines source).map Text.trim).filter fun line => "#include".toList.isPrefixOf line

/-- The header of a function, up to and including the brace that opens its body. -/
def functionHeader : Shape Header := Header.shape '{'

/-- Words that start a statement when they stand where a return type would. -/
def statementWords : List Text :=
  ["return".toList, "else".toList, "new".toList, "delete".toList, "throw".toList, "case".toList,
    "goto".toList]

/-- Keywords that are followed by a parenthesis without being a function. -/
def controlWords : List Text :=
  ["if".toList, "while".toList, "for".toList, "switch".toList, "catch".toList]

/-- The functions defined in a source. -/
def functionsIn (source : Text) : List FunctionDecl :=
  ((functionHeader.spans source).filter fun span =>
    !span.value.startsWith statementWords && !span.value.isNamed controlWords).map
    (FunctionDecl.ofSpan source)

/-- The declarations of primitive type in a source. -/
def declarationsIn (source : Text) : List VariableDecl :=
  (VariableDecl.shape.spans source).map Span.value

/-- The outline of a source. -/
def ofSource (source : Text) : Program where
  nodes := (inclusionsIn source).map .inclusion ++ (functionsIn source).map .function
    ++ (declarationsIn source).map .declaration

/-! ## The parts of an outline -/

/-- A view of one sort of node passes over the nodes of the other sorts. -/
theorem filterMap_none {α β : Type} (rows : List α) :
    rows.filterMap (fun _ => (none : Option β)) = [] := by
  simp

theorem inclusions_ofSource (source : Text) :
    (ofSource source).inclusions = inclusionsIn source := by
  simp only [inclusions, ofSource, List.filterMap_append, List.filterMap_map, Function.comp_def,
    filterMap_none, List.filterMap_some, List.append_nil]

theorem functions_ofSource (source : Text) : (ofSource source).functions = functionsIn source := by
  simp only [functions, ofSource, List.filterMap_append, List.filterMap_map, Function.comp_def,
    filterMap_none, List.filterMap_some, List.nil_append, List.append_nil]

theorem declarations_ofSource (source : Text) :
    (ofSource source).declarations = declarationsIn source := by
  simp only [declarations, ofSource, List.filterMap_append, List.filterMap_map, Function.comp_def,
    filterMap_none, List.filterMap_some, List.nil_append]

end Program

end ShallowCpp
