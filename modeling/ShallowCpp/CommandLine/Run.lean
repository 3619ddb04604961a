import ShallowCpp.Assembly.Emission
import ShallowCpp.CommandLine.Host
import ShallowCpp.Report.Dump
import ShallowCpp.Report.Json
import ShallowCpp.Report.Summary

/-!
# A run of the command line

A run checks the name of the source file, reads it, and either shows one stage or compiles the
source, hands the target code over if there is any, and prints the report. The first failure ends
it, and all that is printed then is the reason. A run is the same whatever system provides its
services.
-/

set_option autoImplicit false

namespace ShallowCpp

/-- The text with spaces in front, up to the given width. -/
def Text.padLeft (width : Nat) (text : Text) : Text :=
  List.replicate (width - text.length) ' ' ++ text

/-- The text with spaces behind, up to the given width. -/
def Text.padRight (width : Nat) (text : Text) : Text :=
  text ++ List.replicate (width - text.length) ' '

/-- The bytes of a text in UTF-8. -/
def Text.utf8 (text : Text) : ByteArray :=
  (String.ofList text).toUTF8

/-- A row of the table of tokens: line, kind, text. -/
def Token.row (token : Token) : Text :=
  Text.padLeft 4 (Text.ofNat token.line) ++ [' '] ++ Text.padRight 12 token.kind.label ++ [' ']
    ++ token.value ++ ['\n']

variable {m : Type → Type} [Monad m] {File : Type}

/-- Emits what is shown of a stage, in as many parts as it comes in. -/
def Stage.emit (put : Text → m Unit) (source : Text) : Stage → m Unit
  | .tokens => forM (tokenize source) fun token => put token.row
  | .validation => forM (validate source) fun diagnostic => put (diagnostic.render ++ ['\n'])
  | .outline => put ((Program.ofSource source).dump.render ++ ['\n'])
  | .symbols => put ((Symbols.ofProgram (Program.ofSource source) source).dump.render ++ ['\n'])
  | .threeAddress =>
    put ((ThreeAddress.Code.ofProgram (Program.ofSource source)).listing ++ ['\n'])
  | .assembly => (Assembly.Code.ofProgram (Program.ofSource source)).emit put

/-- What is printed for a failure. -/
def Failure.complaint (failure : Failure) : Text :=
  "cppfront: ".toList ++ failure.message ++ ['\n']

/-- Turns the reason of a refusal into a failure. -/
def attempt {α : Type} (failure : Text → Failure) (request : m (Except Text α)) :
    ExceptT Failure m α := do
  match ← request with
  | .ok value => return value
  | .error reason => throw (failure reason)

namespace Services

/-- Makes those entries in the log that are serious enough. -/
def logAll (services : Services m File) (options : Options) (entries : List LogEntry) : m Unit :=
  forM (options.logged entries) services.log

/-- The source in a file, once its name is found proper. -/
def source (services : Services m File) (path : Text) : ExceptT Failure m Text := do
  if Path.isSource path then
    let bytes ← attempt .unread (services.read path)
    match String.fromUTF8? bytes with
    | some string => return string.toList
    | none => throw .invalidEncoding
  else throw .unknownExtension

end Services

/-- Writes the target code of a successful compilation. -/
def Report.writeTarget (report : Report) (write : ByteArray → ExceptT Failure m Unit) :
    ExceptT Failure m Unit :=
  match report.target with
  | .ok target => write target.utf8
  | .error failure => throw failure

namespace Options

/-- Hands the target code over to the file that is to take it, if there is target code. -/
def deliver (options : Options) (services : Services m File) (report : Report) :
    ExceptT Failure m Unit := do
  match options.output with
  | none => return
  | some output =>
    if report.success then
      let file ← attempt .uncreated (services.create output)
      report.writeTarget fun bytes => attempt .unwritten (services.write file bytes)
    else services.logAll options [.notWriting output]

/-- A report as it is printed. -/
def render (options : Options) (report : Report) : Text :=
  (if options.json then report.toJson.render else report.summary) ++ ['\n']

/-- Compiles a source and reports on it. -/
def report (options : Options) (services : Services m File) (source : Text) :
    ExceptT Failure m Nat := do
  services.logAll options (compilationLog source)
  let report := compile source
  options.deliver services report
  services.print (options.render report)
  return if report.success then 0 else 1

/-- Does what is asked for, up to the first failure. -/
def tryRun (options : Options) (services : Services m File) (path : Text) :
    ExceptT Failure m Nat := do
  let source ← services.source path
  match options.stage? with
  | some stage => do
    services.logAll options (stage.log source)
    (stage.emit services.print source : m Unit)
    return 0
  | none => options.report services source

/-- Runs the command line on a source file. The exit code of a failure is 1. -/
def run (options : Options) (services : Services m File) (path : Text) : m Nat := do
  match ← (options.tryRun services path).run with
  | .ok exitCode => return exitCode
  | .error failure =>
    services.complain failure.complaint
    return 1

/-- What a run on a host leaves behind. -/
def outcome (options : Options) (host : Host) (path : Text) : Outcome :=
  let (exitCode, outcome) := (options.run host.services path).run .empty
  { outcome with exitCode }

end Options

end ShallowCpp
