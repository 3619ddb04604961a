import ShallowCpp.Assembly.Lower
import ShallowCpp.Assembly.Render
import ShallowCpp.Braces
import ShallowCpp.EntryPoint
import ShallowCpp.Header
import ShallowCpp.Outline.Source
import ShallowCpp.Symbols
import ShallowCpp.Termination
import ShallowCpp.ThreeAddress.Lower
import ShallowCpp.Token.Stream

/-!
# Compilation reports

Compiling a source runs every stage over it, whatever the checks find, and gathers the results in
one report. There are four checks, reported one after the other: entry point, semicolons, braces,
prototypes. The compilation succeeds when the source has an entry point and no errors; only then is
there target code to be had.
-/

set_option autoImplicit false

namespace ShallowCpp

/-- All errors of a source, check by check. -/
def validate (source : Text) : List Diagnostic :=
  EntryPoint.check source ++ Termination.check source ++ Braces.check source
    ++ Linkage.check source

/-- All that is known about a source after compiling it. -/
structure Report where
  /-- The source was accepted. -/
  success : Bool
  /-- The tokens of the source. -/
  tokens : List Token
  /-- The outline of the source. -/
  program : Program
  /-- The findings of the checks. -/
  errors : List Diagnostic
  /-- The listing of the three-address code. -/
  listing : Text
  /-- The symbols of the program. -/
  symbols : Symbols
  /-- The text of the assembly code. -/
  assembly : Text
  deriving DecidableEq, Repr

/-- Compiles a source. -/
def compile (source : Text) : Report :=
  let program := Program.ofSource source
  let errors := validate source
  { success := EntryPoint.occursIn source && errors.all Diagnostic.isWarning
    tokens := tokenize source
    program
    errors
    listing := (ThreeAddress.Code.ofProgram program).listing
    symbols := Symbols.ofProgram program source
    assembly := (Assembly.Code.ofProgram program).render }

namespace Report

/-- The warnings. -/
def warnings (report : Report) : List Diagnostic :=
  report.symbols.warnings

/-- The target code of a successful compilation. -/
def target (report : Report) : Except Failure Text :=
  if report.success then .ok report.assembly else .error .noTarget

end Report

end ShallowCpp
