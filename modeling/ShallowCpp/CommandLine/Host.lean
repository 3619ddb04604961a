import ShallowCpp.CommandLine.Log

/-!
# The system around a run

A run reads a file, may create another one and write to it, prints, and makes entries in the log. It
does so through a few services, each of which is one action of the system. The system may refuse to
read, to create and to write, each by itself and for a reason of its own; standard output, standard
error and the log take whatever they are given.

A host answers these requests without a system: what a file has to give and to take is fixed in
advance, and all that a run leaves behind is kept.
-/

set_option autoImplicit false

namespace ShallowCpp

/-- What a run asks of the system. A request that is refused is answered with the reason. -/
structure Services (m : Type → Type) (File : Type) where
  /-- The bytes of the file at a path. -/
  read : Text → m (Except Text ByteArray)
  /-- Creates the file at a path, and empties the one that is there. -/
  create : Text → m (Except Text File)
  /-- Writes bytes into a file that was created. -/
  write : File → ByteArray → m (Except Text Unit)
  /-- Prints on standard output. -/
  print : Text → m Unit
  /-- Prints on standard error. -/
  complain : Text → m Unit
  /-- Makes an entry in the log. -/
  log : LogEntry → m Unit

/-- How much a file takes. -/
inductive Medium where
  /-- All that is written. -/
  | unbounded
  /-- Up to so many bytes, and no more for the given reason. -/
  | bounded (room : Nat) (reason : Text)
  deriving DecidableEq, Repr

/-- What a file holds once bytes are written behind those that it holds already, and whether it took
them all. Of bytes that do not fit it takes the first ones. -/
def Medium.write (held bytes : ByteArray) : Medium → ByteArray × Except Text Unit
  | .unbounded => (held ++ bytes, .ok ())
  | .bounded room reason =>
    if held.size + bytes.size ≤ room then (held ++ bytes, .ok ())
    else (held ++ bytes.extract 0 (room - held.size), .error reason)

/-- The files that a run meets. -/
structure Host where
  /-- What reading the file at a path gives. -/
  read : Text → Except Text ByteArray
  /-- What creating the file at a path gives. -/
  create : Text → Except Text Medium

/-- What a run leaves behind. -/
structure Outcome where
  /-- The exit code. -/
  exitCode : Nat
  /-- What is printed on standard output. -/
  stdout : Text
  /-- The error message, which is printed on standard error. -/
  message : Text
  /-- The entries in the log, which go to standard error as well. -/
  log : List LogEntry
  /-- The file that was created, if one was: its path and the bytes that it holds. -/
  file : Option (Text × ByteArray)

namespace Outcome

/-- Nothing was done yet. -/
def empty : Outcome :=
  ⟨0, [], [], [], none⟩

/-- The bytes in the file that was created. -/
def held (outcome : Outcome) : ByteArray :=
  (outcome.file.map Prod.snd).getD .empty

end Outcome

/-- The services of a host. What is done is kept in the outcome. -/
def Host.services (host : Host) : Services (StateM Outcome) (Text × Medium) where
  read path := return host.read path
  create path :=
    match host.create path with
    | .ok medium => do
      modify fun outcome => { outcome with file := some (path, .empty) }
      return .ok (path, medium)
    | .error reason => return .error reason
  write file bytes := do
    let (held, answer) := file.2.write (← get).held bytes
    modify fun outcome => { outcome with file := some (file.1, held) }
    return answer
  print text := modify fun outcome => { outcome with stdout := outcome.stdout ++ text }
  complain text := modify fun outcome => { outcome with message := outcome.message ++ text }
  log entry := modify fun outcome => { outcome with log := outcome.log ++ [entry] }

end ShallowCpp
