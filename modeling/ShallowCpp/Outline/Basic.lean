import ShallowCpp.Text.Basic

/-!
# The outline of a program

An outline keeps of a source what later stages need: its include directives, its functions with
their parameters and statements, and its declarations of variables of primitive type. Expressions
stay text.
-/

set_option autoImplicit false

namespace ShallowCpp

/-- A parameter of a function. Either part is empty if it is not written. -/
structure Param where
  /-- The first word of the parameter. -/
  type : Text
  /-- The second word of the parameter. -/
  name : Text
  deriving DecidableEq, Repr

/-- The declaration of a variable. -/
structure VariableDecl where
  /-- The name that is declared. -/
  name : Text
  /-- The primitive type. -/
  type : Text
  /-- The initial value, if one is given. -/
  init : Option Text
  deriving DecidableEq, Repr

/-- A statement in the body of a function. -/
inductive Statement where
  /-- A variable is declared. -/
  | declaration (decl : VariableDecl)
  /-- The function returns the value, which is empty for a bare return. -/
  | returns (value : Text)
  /-- An expression is evaluated. -/
  | expression (text : Text)
  deriving DecidableEq, Repr

/-- The declaration a statement makes, if it makes one. -/
def Statement.declared? : Statement → Option VariableDecl
  | .declaration decl => some decl
  | _ => none

/-- The definition of a function. -/
structure FunctionDecl where
  /-- Its name. -/
  name : Text
  /-- The word in front of its name. -/
  returnType : Text
  /-- Its parameters. -/
  params : List Param
  /-- The statements of its body. -/
  body : List Statement
  /-- The line on which its header starts. -/
  line : Nat
  deriving DecidableEq, Repr

/-- The variables declared in the body of a function. -/
def FunctionDecl.locals (function : FunctionDecl) : List VariableDecl :=
  function.body.filterMap Statement.declared?

/-- A part of a program. -/
inductive Node where
  /-- An include directive, as it is written. -/
  | inclusion (directive : Text)
  /-- The definition of a function. -/
  | function (decl : FunctionDecl)
  /-- The declaration of a variable, at top level or inside a function. -/
  | declaration (decl : VariableDecl)
  deriving DecidableEq, Repr

/-- The outline of a source: its nodes in the order in which they are looked for. -/
structure Program where
  /-- Include directives, then functions, then variables, when read from a source. -/
  nodes : List Node
  deriving DecidableEq, Repr

namespace Program

/-- The include directives. -/
def inclusions (program : Program) : List Text :=
  program.nodes.filterMap fun
    | .inclusion directive => some directive
    | _ => none

/-- The functions. -/
def functions (program : Program) : List FunctionDecl :=
  program.nodes.filterMap fun
    | .function decl => some decl
    | _ => none

/-- The declarations of variables. -/
def declarations (program : Program) : List VariableDecl :=
  program.nodes.filterMap fun
    | .declaration decl => some decl
    | _ => none

end Program

end ShallowCpp
