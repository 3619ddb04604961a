import ShallowCpp.Report.Basic

/-!
# Summaries

The report for a reader at a terminal: a verdict, then a section for each part of the report. The
sections for errors and warnings are left out when they are empty.
-/

set_option autoImplicit false

namespace ShallowCpp

/-- A parameter as it is shown: type and name, or whichever is there. -/
def Param.render (param : Param) : Text :=
  Text.trim (param.type ++ [' '] ++ param.name)

/-- A function as it is shown. -/
def FunctionSymbol.render (symbol : FunctionSymbol) : Text :=
  symbol.returnType ++ [' '] ++ symbol.name ++ ['(']
    ++ Text.join ", ".toList (symbol.params.map Param.render)
    ++ ") line ".toList ++ Text.ofNat symbol.line

/-- A variable as it is shown. -/
def VariableSymbol.render (symbol : VariableSymbol) : Text :=
  symbol.type ++ [' '] ++ symbol.name ++ " line ".toList ++ Text.ofNat symbol.line

namespace Report

/-- A section: an empty line, its title, and an indented line for each entry. -/
def entries (title : Text) (rows : List Text) : Text :=
  ['\n'] ++ title ++ ":\n".toList ++ rows.flatMap fun row => "  ".toList ++ row ++ ['\n']

/-- A section that is left out when it has no entries. -/
def entriesIfAny (title : Text) (rows : List Text) : Text :=
  if rows.isEmpty then [] else entries title rows

/-- The verdict. -/
def verdict (report : Report) : Text :=
  if report.success then "Compilation succeeded\n".toList else "Compilation failed\n".toList

/-- The summary of a report. -/
def summary (report : Report) : Text :=
  report.verdict
    ++ entriesIfAny "Errors".toList (report.errors.map Diagnostic.render)
    ++ entriesIfAny "Warnings".toList (report.warnings.map Diagnostic.render)
    ++ entries "Includes".toList report.program.inclusions
    ++ entries "Functions".toList (report.symbols.functionSymbols.map FunctionSymbol.render)
    ++ entries "Variables".toList (report.symbols.variableSymbols.map VariableSymbol.render)
    ++ "\nIntermediate code:\n".toList ++ report.listing ++ ['\n']
    ++ "\nTarget code:\n".toList ++ report.assembly

end Report

end ShallowCpp
