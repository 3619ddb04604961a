import ShallowCpp.Diagnostic

/-!
# Braces

Braces are matched up in the raw text: those inside comments and string literals count like any
other. Every closing brace without a partner is reported where it stands; of the opening braces that
are never closed only the outermost is reported. The body of a function is what its brace encloses.
-/

set_option autoImplicit false

namespace ShallowCpp.Braces

/-- The findings in the rest of a text. The lines of the braces that are open are listed innermost
first. -/
def checkFrom (line : Nat) (openLines : List Nat) : Text → List Diagnostic
  | [] =>
    match openLines.getLast? with
    | none => []
    | some outermost => [.unmatchedOpening outermost]
  | char :: rest =>
    if char = '\n' then checkFrom (line + 1) openLines rest
    else if char = '{' then checkFrom line (line :: openLines) rest
    else if char = '}' then
      match openLines with
      | [] => .unmatchedClosing line :: checkFrom line [] rest
      | _ :: others => checkFrom line others rest
    else checkFrom line openLines rest

/-- The braces of a source that have no partner. -/
def check (source : Text) : List Diagnostic :=
  checkFrom 1 [] source

/-- The text up to the brace that closes the block around it, while `depth` further blocks are open
inside that block; the whole text if the brace is missing. -/
def enclosed (depth : Nat) : Text → Text
  | [] => []
  | char :: rest =>
    if char = '{' then char :: enclosed (depth + 1) rest
    else if char = '}' then
      match depth with
      | 0 => []
      | depth + 1 => char :: enclosed depth rest
    else char :: enclosed depth rest

/-- The body of a block, given the text behind its opening brace. A block that is never closed
reaches to the end. -/
def body (behind : Text) : Text :=
  enclosed 0 behind

end ShallowCpp.Braces
