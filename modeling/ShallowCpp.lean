import ShallowCpp.Assembly.Sink
import ShallowCpp.Main
import ShallowCpp.Proofs.Text.Lines
import ShallowCpp.Proofs.Shape.Parts
import ShallowCpp.Proofs.Shape.Scan
import ShallowCpp.Proofs.Header
import ShallowCpp.Proofs.Braces.Balance
import ShallowCpp.Proofs.Braces.Check
import ShallowCpp.Proofs.Braces.Body
import ShallowCpp.Proofs.Outline.Declaration
import ShallowCpp.Proofs.Outline.Texts
import ShallowCpp.Proofs.Linkage
import ShallowCpp.Proofs.Acceptance
import ShallowCpp.Proofs.EntryFunction
import ShallowCpp.Proofs.ThreeAddress.Listing
import ShallowCpp.Proofs.ThreeAddress.Temporaries
import ShallowCpp.Proofs.ThreeAddress.Assignment
import ShallowCpp.Proofs.ThreeAddress.Decoding
import ShallowCpp.Proofs.Assembly.Rows
import ShallowCpp.Proofs.Assembly.Decoding
import ShallowCpp.Proofs.Comment
import ShallowCpp.Proofs.Token.Fragments
import ShallowCpp.Proofs.Token.Stream
import ShallowCpp.Proofs.Text.Places
import ShallowCpp.Proofs.Text.Trim
import ShallowCpp.Proofs.Resolution
import ShallowCpp.Proofs.Shape.Steps
import ShallowCpp.Proofs.Text.Occurrences
import ShallowCpp.Proofs.Outline.Map
import ShallowCpp.Proofs.MoveDown
import ShallowCpp.Proofs.BlankRows
import ShallowCpp.Proofs.CarriageReturns.Text
import ShallowCpp.Proofs.CarriageReturns.Shape
import ShallowCpp.Proofs.CarriageReturns.Report
import ShallowCpp.Proofs.Termination
import ShallowCpp.Proofs.CommentTracking
import ShallowCpp.Proofs.Outline.Locals
import ShallowCpp.Proofs.ThreeAddress.Capture
import ShallowCpp.Proofs.CommandLine
import ShallowCpp.Proofs.Token.Places
import ShallowCpp.Proofs.Arithmetic
import ShallowCpp.Proofs.ThreeAddress.Signs
import ShallowCpp.Proofs.ThreeAddress.Expansion
import ShallowCpp.Proofs.BackEnds
import ShallowCpp.Proofs.Token.Kinds
import ShallowCpp.Proofs.Outline.Scans
import ShallowCpp.Proofs.InlineBlocks
import ShallowCpp.Proofs.Prototypes
import ShallowCpp.Proofs.OpenDeclarations
import ShallowCpp.Proofs.TerminationParts
import ShallowCpp.Proofs.Outline.TypeWords
import ShallowCpp.Proofs.Text.Offsets
import ShallowCpp.Proofs.UnusedVariables
import ShallowCpp.Proofs.UsageWarnings
import ShallowCpp.Proofs.UnusedFunctions
import ShallowCpp.Proofs.LineSearch
import ShallowCpp.Proofs.Inclusions
import ShallowCpp.Proofs.Token.Literals
import ShallowCpp.Proofs.Assembly.Emission
import ShallowCpp.Proofs.Assembly.Octal
import ShallowCpp.Proofs.Braces.Nesting
