import ShallowCpp.Layout.Json
import ShallowCpp.Report.Basic

/-!
# Reports as JSON

The JSON values of a report and of its parts. Nodes and statements carry a member `type` that tells
them apart.
-/

set_option autoImplicit false

namespace ShallowCpp

/-- A token: its text, kind and line. -/
def Token.toJson (token : Token) : Json :=
  .object [("value", .text token.value), ("kind", .text token.kind.word),
    ("line", .number token.line)]

/-- A diagnostic: its line, wording and kind. -/
def Diagnostic.toJson (diagnostic : Diagnostic) : Json :=
  .object [("line", .number diagnostic.line), ("message", .text diagnostic.message),
    ("kind", .text diagnostic.kind.label)]

/-- A parameter: its type and name. -/
def Param.toJson (param : Param) : Json :=
  .object [("type", .text param.type), ("name", .text param.name)]

/-- A declaration, with null for a missing initial value. -/
def VariableDecl.toJson (decl : VariableDecl) : Json :=
  .object [("type", .text "VariableDeclaration".toList), ("name", .text decl.name),
    ("varType", .text decl.type), ("value", (decl.init.map Json.text).getD .null)]

/-- A statement, told apart by its type. -/
def Statement.toJson : Statement → Json
  | .declaration decl => decl.toJson
  | .returns value => .object [("type", .text "ReturnStatement".toList), ("value", .text value)]
  | .expression text =>
    .object [("type", .text "ExpressionStatement".toList), ("expression", .text text)]

/-- A function with its parameters and statements. -/
def FunctionDecl.toJson (decl : FunctionDecl) : Json :=
  .object [("type", .text "FunctionDeclaration".toList), ("name", .text decl.name),
    ("returnType", .text decl.returnType), ("params", .list Param.toJson decl.params),
    ("body", .list Statement.toJson decl.body), ("line", .number decl.line)]

/-- A node, told apart by its type. -/
def Node.toJson : Node → Json
  | .inclusion directive =>
    .object [("type", .text "IncludeDirective".toList), ("value", .text directive)]
  | .function decl => decl.toJson
  | .declaration decl => decl.toJson

/-- A program: its nodes. -/
def Program.toJson (program : Program) : Json :=
  .object [("body", .list Node.toJson program.nodes)]

/-- A variable symbol. -/
def VariableSymbol.toJson (symbol : VariableSymbol) : Json :=
  .object [("name", .text symbol.name), ("type", .text symbol.type), ("line", .number symbol.line)]

/-- A function symbol. -/
def FunctionSymbol.toJson (symbol : FunctionSymbol) : Json :=
  .object [("name", .text symbol.name), ("returnType", .text symbol.returnType),
    ("params", .list Param.toJson symbol.params), ("line", .number symbol.line)]

/-- The symbols with their warnings. -/
def Symbols.toJson (symbols : Symbols) : Json :=
  .object [("variables", .list VariableSymbol.toJson symbols.variableSymbols),
    ("functions", .list FunctionSymbol.toJson symbols.functionSymbols),
    ("warnings", .list Diagnostic.toJson symbols.warnings)]

/-- A whole report. -/
def Report.toJson (report : Report) : Json :=
  .object [("success", .bool report.success), ("tokens", .list Token.toJson report.tokens),
    ("ast", report.program.toJson), ("errors", .list Diagnostic.toJson report.errors),
    ("intermediateCode", .text report.listing), ("semanticAnalysis", report.symbols.toJson),
    ("targetCode", .text report.assembly)]

end ShallowCpp
