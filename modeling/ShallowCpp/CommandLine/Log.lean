import ShallowCpp.CommandLine.Options
import ShallowCpp.Report.Basic

/-!
# Log entries

While a source goes through the stages, entries are made in a log: how many tokens, nodes, symbols
and instructions there are, how the compilation ended, and that target code was asked for in vain.
An entry is neither output nor error message. Only errors are logged, unless the run is verbose, and
none of the entries is an error.
-/

set_option autoImplicit false

namespace ShallowCpp

/-- How serious an entry is. -/
inductive LogLevel where
  | error
  | warning
  | debug
  deriving DecidableEq, Repr

/-- The place of a level, the most serious one first. -/
def LogLevel.rank : LogLevel → Nat
  | .error => 1
  | .warning => 2
  | .debug => 4

/-- An entry in the log, without the time at which it is made. -/
structure LogEntry where
  /-- How serious it is. -/
  level : LogLevel
  /-- Its wording. -/
  text : Text
  deriving DecidableEq, Repr

namespace LogEntry

/-- The entry on the tokens of a source. -/
def ofTokens (tokens : List Token) : LogEntry :=
  ⟨.debug, "lexer produced ".toList ++ Text.ofNat tokens.length ++ " tokens".toList⟩

/-- The entry on an outline. -/
def ofProgram (program : Program) : LogEntry :=
  ⟨.debug, "parser built ".toList ++ Text.ofNat program.nodes.length ++ " top-level nodes".toList⟩

/-- The entry on the symbols of a program. -/
def ofSymbols (symbols : Symbols) : LogEntry :=
  ⟨.debug, "semantic analysis: ".toList ++ Text.ofNat symbols.variableSymbols.length
    ++ " variables, ".toList ++ Text.ofNat symbols.functionSymbols.length
    ++ " functions, ".toList ++ Text.ofNat symbols.warnings.length ++ " warnings".toList⟩

/-- The entry on three-address code. -/
def ofCode (code : ThreeAddress.Code) : LogEntry :=
  ⟨.debug, "IR generator emitted ".toList ++ Text.ofNat code.instructions.length
    ++ " lines".toList⟩

/-- The entry on a compilation that came to its end. -/
def ofReport (report : Report) : LogEntry :=
  ⟨.debug, "compile finished: success=".toList
    ++ (if report.success then "true".toList else "false".toList)
    ++ ", ".toList ++ Text.ofNat report.errors.length ++ " errors, ".toList
    ++ Text.ofNat report.warnings.length ++ " warnings".toList⟩

/-- The entry on a file that takes no target code because there is none. -/
def notWriting (output : Text) : LogEntry :=
  ⟨.warning, "compile failed, not writing ".toList ++ output⟩

end LogEntry

/-- The entries made while a stage is worked out. -/
def Stage.log (source : Text) : Stage → List LogEntry
  | .tokens => [.ofTokens (tokenize source)]
  | .validation => []
  | .outline | .assembly => [.ofProgram (Program.ofSource source)]
  | .symbols =>
    let program := Program.ofSource source
    [.ofProgram program, .ofSymbols (Symbols.ofProgram program source)]
  | .threeAddress =>
    let program := Program.ofSource source
    [.ofProgram program, .ofCode (ThreeAddress.Code.ofProgram program)]

/-- The entries made while a source is compiled. -/
def compilationLog (source : Text) : List LogEntry :=
  let program := Program.ofSource source
  [.ofTokens (tokenize source), .ofProgram program, .ofSymbols (Symbols.ofProgram program source),
    .ofCode (ThreeAddress.Code.ofProgram program), .ofReport (compile source)]

/-- The least serious level that is logged. -/
def Options.logLevel (options : Options) : LogLevel :=
  if options.verbose then .debug else .error

/-- The entries that are serious enough to be logged. -/
def Options.logged (options : Options) (entries : List LogEntry) : List LogEntry :=
  entries.filter fun entry => entry.level.rank ≤ options.logLevel.rank

end ShallowCpp
