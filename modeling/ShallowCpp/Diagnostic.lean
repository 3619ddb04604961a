import ShallowCpp.Text.Basic

/-!
# Diagnostics and failures

A diagnostic is a finding about a source: its kind, the line it points at and its wording. Line zero
means that the finding belongs to no line. Two kinds are warnings, which never keep a source from
being accepted.

Failures are the reasons for which a run ends without an answer, as opposed to the findings about a
source, which are part of the answer. Where the system refuses to read, to create or to write a
file, the failure carries the reason that the system gives.
-/

set_option autoImplicit false

namespace ShallowCpp

namespace Diagnostic

/-- What a diagnostic is about. -/
inductive Kind where
  | missingEntryPoint
  | missingSemicolon
  | unmatchedOpeningBracket
  | unmatchedClosingBracket
  | undefinedFunction
  | unusedVariable
  | unusedFunction
  | internalFault
  deriving DecidableEq, Repr

namespace Kind

/-- Warnings do not count as errors. -/
def isWarning : Kind → Bool
  | unusedVariable | unusedFunction => true
  | _ => false

/-- The name under which a kind is reported. -/
def label : Kind → Text
  | missingEntryPoint => "MissingEntryPoint".toList
  | missingSemicolon => "MissingSemicolon".toList
  | unmatchedOpeningBracket => "UnmatchedOpeningBracket".toList
  | unmatchedClosingBracket => "UnmatchedClosingBracket".toList
  | undefinedFunction => "UndefinedFunction".toList
  | unusedVariable => "UnusedVariable".toList
  | unusedFunction => "UnusedFunction".toList
  | internalFault => "InternalFault".toList

/-- All kinds, in the order of their declaration. -/
def all : List Kind :=
  [missingEntryPoint, missingSemicolon, unmatchedOpeningBracket, unmatchedClosingBracket,
    undefinedFunction, unusedVariable, unusedFunction, internalFault]

/-- The kind with the given label. -/
def ofLabel? (label : Text) : Option Kind :=
  all.find? fun kind => kind.label == label

end Kind

end Diagnostic

/-- A finding about a source. -/
structure Diagnostic where
  /-- The line it points at, counted from one, or zero for none. -/
  line : Nat
  /-- The wording. -/
  message : Text
  /-- What it is about. -/
  kind : Diagnostic.Kind
  deriving DecidableEq, Repr

namespace Diagnostic

/-! ## The findings and their wording -/

/-- No function can be entered first. -/
def missingEntryPoint (line : Nat) : Diagnostic :=
  ⟨line, "Missing main function".toList, .missingEntryPoint⟩

/-- A statement has no semicolon. -/
def missingSemicolon (line : Nat) : Diagnostic :=
  ⟨line, "Missing semicolon".toList, .missingSemicolon⟩

/-- A brace is opened and never closed. -/
def unmatchedOpening (line : Nat) : Diagnostic :=
  ⟨line, "Unmatched opening bracket".toList, .unmatchedOpeningBracket⟩

/-- A brace closes nothing. -/
def unmatchedClosing (line : Nat) : Diagnostic :=
  ⟨line, "Unmatched closing bracket".toList, .unmatchedClosingBracket⟩

/-- A prototype has no definition. -/
def undefinedFunction (name : Text) (line : Nat) : Diagnostic :=
  ⟨line, "Function '".toList ++ name ++ "' declared but not defined".toList, .undefinedFunction⟩

/-- The name of a variable is not mentioned again. -/
def unusedVariable (name : Text) (line : Nat) : Diagnostic :=
  ⟨line, "Unused variable '".toList ++ name ++ "'".toList, .unusedVariable⟩

/-- A function is not called. -/
def unusedFunction (name : Text) (line : Nat) : Diagnostic :=
  ⟨line, "Unused function '".toList ++ name ++ "'".toList, .unusedFunction⟩

/-- Compilation broke off for a reason that lies outside the source. -/
def internalFault (fault : Text) : Diagnostic :=
  ⟨0, "Compilation error: ".toList ++ fault, .internalFault⟩

/-- Whether this is a warning rather than an error. -/
def isWarning (diagnostic : Diagnostic) : Bool :=
  diagnostic.kind.isWarning

/-- The diagnostic as one line of a report. -/
def render (diagnostic : Diagnostic) : Text :=
  "line ".toList ++ Text.ofNat diagnostic.line ++ ": ".toList ++ diagnostic.message

end Diagnostic

/-! ## Failures -/

/-- Why a run ended without an answer. -/
inductive Failure where
  /-- The name of the source file does not end like that of a C++ file. -/
  | unknownExtension
  /-- The source file cannot be read. -/
  | unread (reason : Text)
  /-- The source file is not UTF-8. -/
  | invalidEncoding
  /-- Target code was asked for and the source has errors. -/
  | noTarget
  /-- The file for the target code cannot be created. -/
  | uncreated (reason : Text)
  /-- The file for the target code was created and does not take all of the target code. -/
  | unwritten (reason : Text)
  deriving DecidableEq, Repr

/-- The wording of a failure. -/
def Failure.message : Failure → Text
  | .unknownExtension => "Please upload a C++ file (.cpp, .cxx, .cc)".toList
  | .invalidEncoding => "stream did not contain valid UTF-8".toList
  | .noTarget => "compile failed, no target code written".toList
  | .unread reason | .uncreated reason | .unwritten reason => reason

end ShallowCpp
