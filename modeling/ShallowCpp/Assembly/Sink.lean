import ShallowCpp.Assembly.Emission

/-!
# Writing into a sink of limited size

A sink takes bytes until it is full. What is written into it is encoded in UTF-8; a text that does
not fit is written as far as there is room, and then writing stops with a fault. A program is
emitted into the sink part by part, so the fault may arise in the middle of a line.
-/

set_option autoImplicit false

namespace ShallowCpp.Assembly

/-- A destination for bytes that takes a limited number of them. -/
structure Sink where
  /-- How many bytes still fit. -/
  room : Nat
  /-- The bytes taken so far. -/
  written : List UInt8
  deriving DecidableEq, Repr

/-- Why writing stopped. -/
inductive Sink.Fault where
  /-- The sink takes no more bytes. -/
  | full
  deriving DecidableEq, Repr

/-- The wording of a fault. -/
def Sink.Fault.message : Sink.Fault → Text
  | .full => "writer full".toList

namespace Sink

/-- A sink that has taken nothing yet. -/
def empty (room : Nat) : Sink :=
  ⟨room, []⟩

/-- The bytes of a text in UTF-8. -/
def bytes (text : Text) : List UInt8 :=
  text.flatMap String.utf8EncodeChar

/-- Takes as many of the bytes as fit. -/
def take (sink : Sink) (bytes : List UInt8) : Sink :=
  ⟨sink.room - bytes.length, sink.written ++ bytes.take sink.room⟩

/-- Writes a text, which is a fault unless all of it fits. -/
def put (text : Text) : ExceptT Fault (StateM Sink) Unit := do
  let sink ← get
  set (sink.take (bytes text))
  if sink.room < (bytes text).length then throw .full

end Sink

/-- Writes the text of a program into a sink. -/
def Code.writeTo (sink : Sink) (code : Code) : Sink × Option Sink.Fault :=
  match (code.emit Sink.put).run.run sink with
  | (.ok (), sink) => (sink, none)
  | (.error fault, sink) => (sink, some fault)

end ShallowCpp.Assembly
