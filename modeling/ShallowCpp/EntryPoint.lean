import ShallowCpp.Diagnostic
import ShallowCpp.Text.Search

/-!
# The entry point

A program is entered at `main`. A source has an entry point when the beginning of such a function is
written in it with exactly one space, wherever it stands.
-/

set_option autoImplicit false

namespace ShallowCpp.EntryPoint

/-- The name of the function that is entered first. -/
def name : Text := "main".toList

/-- How the function that is entered first can begin. -/
def beginnings : List Text :=
  ["int main(".toList, "void main(".toList]

/-- One of the beginnings occurs in the text. -/
def occursIn (text : Text) : Bool :=
  beginnings.any fun beginning => Text.occursIn beginning text

/-- The first line with an entry point, counted from one, or zero if there is none. -/
def line (source : Text) : Nat :=
  match (Text.lines source).findIdx? occursIn with
  | some index => index + 1
  | none => 0

/-- A source without an entry point is reported once. -/
def check (source : Text) : List Diagnostic :=
  if occursIn source then [] else [.missingEntryPoint (line source)]

end ShallowCpp.EntryPoint
