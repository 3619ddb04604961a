import ShallowCpp.CommandLine.Run

/-!
# The command line

Provides the services of the system on which the program is started. All decisions are made by
`Options.run`.
-/

set_option autoImplicit false

namespace ShallowCpp

/-- The reason of the system for an error: its wording and its number. -/
def reason : IO.Error → Text
  | .otherError code details | .resourceBusy code details | .resourceVanished code details
  | .unsupportedOperation code details | .hardwareFault code details
  | .unsatisfiedConstraints code details | .illegalOperation code details
  | .protocolError code details | .timeExpired code details | .interrupted _ code details
  | .noFileOrDirectory _ code details | .alreadyExists _ code details
  | .invalidArgument _ code details | .permissionDenied _ code details
  | .resourceExhausted _ code details | .inappropriateType _ code details
  | .noSuchThing _ code details =>
    details.toList ++ " (os error ".toList ++ Text.ofNat code.toNat ++ [')']
  | .unexpectedEof => "unexpected end of file".toList
  | .userError message => message.toList

/-- The answer to a request: its result or the reason for which it was refused. -/
def answer {α : Type} (request : IO α) : IO (Except Text α) := do
  try
    return .ok (← request)
  catch error =>
    return .error (reason error)

/-- How an entry is printed in the log. -/
def LogEntry.line (entry : LogEntry) : Text :=
  let level := match entry.level with
    | .error => "ERROR".toList
    | .warning => "WARN".toList
    | .debug => "DEBUG".toList
  ['['] ++ level ++ "] ".toList ++ entry.text

/-- The services of the system. -/
def systemServices : Services IO IO.FS.Handle where
  read path := answer do
    let file ← IO.FS.Handle.mk (String.ofList path) .read
    file.readBinToEnd
  create path := answer (IO.FS.Handle.mk (String.ofList path) .write)
  write file bytes := answer do
    file.write bytes
    file.flush
  print text := IO.print (String.ofList text)
  complain text := IO.eprint (String.ofList text)
  log entry := IO.eprintln (String.ofList entry.line)

end ShallowCpp

/-- Takes one source file and any options. -/
def main (arguments : List String) : IO UInt32 := do
  if let some options := ShallowCpp.Options.ofArguments? (arguments.map String.toList) then
    if let [path] := options.paths then
      return (← options.run ShallowCpp.systemServices path).toUInt32
  IO.eprintln "usage: cppfront [options] <path>"
  return 1
