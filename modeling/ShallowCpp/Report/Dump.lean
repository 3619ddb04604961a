import ShallowCpp.Layout.Dump
import ShallowCpp.Outline.Basic
import ShallowCpp.Symbols

/-!
# Dumps of outlines and symbols

The structure of a program and of its symbols, laid open for inspection.
-/

set_option autoImplicit false

namespace ShallowCpp

/-- A parameter. -/
def Param.dump (param : Param) : Dump :=
  .record "Param" [("_type", .text param.type), ("name", .text param.name)]

/-- A declaration. -/
def VariableDecl.dump (decl : VariableDecl) : Dump :=
  .record "VariableDeclaration" [("name", .text decl.name), ("_type", .text decl.type),
    ("init", .option .text decl.init)]

/-- A statement. -/
def Statement.dump : Statement → Dump
  | .declaration decl => .variant "Variable" decl.dump
  | .returns value => .variant "Return" (.record "ReturnStatement" [("value", .text value)])
  | .expression text =>
    .variant "Expression" (.record "ExpressionStatement" [("expression", .text text)])

/-- A function. -/
def FunctionDecl.dump (decl : FunctionDecl) : Dump :=
  .record "FunctionDeclaration" [("name", .text decl.name), ("return_type", .text decl.returnType),
    ("params", .list (decl.params.map Param.dump)),
    ("body", .list (decl.body.map Statement.dump)), ("line", .number decl.line)]

/-- A node. -/
def Node.dump : Node → Dump
  | .inclusion directive =>
    .variant "Include" (.record "IncludeDirective" [("value", .text directive)])
  | .function decl => .variant "Function" decl.dump
  | .declaration decl => .variant "Variable" decl.dump

/-- A program. -/
def Program.dump (program : Program) : Dump :=
  .record "Program" [("body", .list (program.nodes.map Node.dump))]

/-- A variable symbol. -/
def VariableSymbol.dump (symbol : VariableSymbol) : Dump :=
  .record "VariableSymbol" [("name", .text symbol.name), ("_type", .text symbol.type),
    ("line", .number symbol.line)]

/-- A function symbol. -/
def FunctionSymbol.dump (symbol : FunctionSymbol) : Dump :=
  .record "FunctionSymbol" [("name", .text symbol.name), ("return_type", .text symbol.returnType),
    ("params", .list (symbol.params.map Param.dump)), ("line", .number symbol.line)]

/-- A diagnostic. -/
def Diagnostic.dump (diagnostic : Diagnostic) : Dump :=
  .record "Diagnostic" [("line", .number diagnostic.line), ("message", .text diagnostic.message),
    ("kind", .name (String.ofList diagnostic.kind.label))]

/-- The symbols of a program with their warnings. -/
def Symbols.dump (symbols : Symbols) : Dump :=
  .record "SemanticReport" [("variables", .list (symbols.variableSymbols.map VariableSymbol.dump)),
    ("functions", .list (symbols.functionSymbols.map FunctionSymbol.dump)),
    ("warnings", .list (symbols.warnings.map Diagnostic.dump))]

end ShallowCpp
