import ShallowCpp.Diagnostic
import ShallowCpp.EntryPoint
import ShallowCpp.Outline.Basic
import ShallowCpp.Text.Search

/-!
# Symbols and their use

The variables and functions of a program are listed with the first line that mentions them. Use is
judged by counting in the raw text: a variable that is mentioned at most once, and a function whose
name is followed by a parenthesis at most once, is only declared, and draws a warning. The entry
point needs no caller.
-/

set_option autoImplicit false

namespace ShallowCpp

/-- A variable in the table of symbols. -/
structure VariableSymbol where
  /-- Its name. -/
  name : Text
  /-- Its type. -/
  type : Text
  /-- The first line that contains its name. -/
  line : Nat
  deriving DecidableEq, Repr

/-- A function in the table of symbols. -/
structure FunctionSymbol where
  /-- Its name. -/
  name : Text
  /-- Its return type. -/
  returnType : Text
  /-- Its parameters. -/
  params : List Param
  /-- The first line that contains its name. -/
  line : Nat
  deriving DecidableEq, Repr

/-- The symbols of a program, and warnings about those that seem unused. -/
structure Symbols where
  /-- The variables. -/
  variableSymbols : List VariableSymbol
  /-- The functions. -/
  functionSymbols : List FunctionSymbol
  /-- Warnings about variables, then about functions. -/
  warnings : List Diagnostic
  deriving DecidableEq, Repr

namespace VariableSymbol

/-- The symbol of a declaration. -/
def ofDecl (source : Text) (decl : VariableDecl) : VariableSymbol :=
  ⟨decl.name, decl.type, Text.findLine source decl.name⟩

/-- The name is mentioned nowhere but in the declaration. -/
def isUnused (source : Text) (symbol : VariableSymbol) : Bool :=
  Text.occurrences symbol.name source ≤ 1

end VariableSymbol

namespace FunctionSymbol

/-- The symbol of a function. -/
def ofDecl (source : Text) (decl : FunctionDecl) : FunctionSymbol :=
  ⟨decl.name, decl.returnType, decl.params, Text.findLine source decl.name⟩

/-- No call is written besides the header, and the function is not the entry point. -/
def isUnused (source : Text) (symbol : FunctionSymbol) : Bool :=
  symbol.name != EntryPoint.name && Text.occurrences (symbol.name ++ ['(']) source ≤ 1

end FunctionSymbol

/-- The symbols of a program that was read from a source. -/
def Symbols.ofProgram (program : Program) (source : Text) : Symbols :=
  let variableSymbols := program.declarations.map (VariableSymbol.ofDecl source)
  let functionSymbols := program.functions.map (FunctionSymbol.ofDecl source)
  { variableSymbols
    functionSymbols
    warnings :=
      (variableSymbols.filter (VariableSymbol.isUnused source)).map
          (fun symbol => .unusedVariable symbol.name symbol.line)
        ++ (functionSymbols.filter (FunctionSymbol.isUnused source)).map
          (fun symbol => .unusedFunction symbol.name symbol.line) }

end ShallowCpp
