import ShallowCpp.Text.Search

/-!
# Command line options

What is asked of a run: the path of the source, the stages to show, the form of the report and the
path of the file that takes the target code.

A path names a source file by the extension of its last component. Empty components and single dots
do not count as components, and a double dot names no file. The extension is what follows the last
dot of the name, unless that dot is its first character.
-/

set_option autoImplicit false

namespace ShallowCpp

/-- A stage that can be shown by itself. -/
inductive Stage where
  | tokens
  | validation
  | outline
  | symbols
  | threeAddress
  | assembly
  deriving DecidableEq, Repr

namespace Stage

/-- The stages, in the order in which they take precedence. -/
def all : List Stage :=
  [tokens, validation, outline, symbols, threeAddress, assembly]

/-- The option that asks for a stage. -/
def flag : Stage → Text
  | tokens => "--lex".toList
  | validation => "--validate".toList
  | outline => "--parse".toList
  | symbols => "--semantic".toList
  | threeAddress => "--ir".toList
  | assembly => "--asm".toList

end Stage

/-- What is asked of a run. -/
structure Options where
  /-- The paths given for the source. -/
  paths : List Text
  /-- The stages asked for. -/
  stages : List Stage
  /-- The report is to be JSON. -/
  json : Bool
  /-- Progress may be logged. -/
  verbose : Bool
  /-- The path of the file that takes the target code. -/
  output : Option Text
  deriving DecidableEq, Repr

namespace Options

/-- Nothing is asked for. -/
def empty : Options :=
  ⟨[], [], false, false, none⟩

/-- Reads arguments in any order; an option that is not known makes the whole line unusable. -/
def ofArguments? : List Text → Option Options
  | [] => some empty
  | argument :: rest =>
    if argument = "-o".toList then
      match rest with
      | [] => none
      | path :: rest => (ofArguments? rest).map fun options => { options with output := some path }
    else
      (ofArguments? rest).bind fun options =>
        if argument = "--json".toList then some { options with json := true }
        else if argument = "--verbose".toList ∨ argument = "-v".toList then
          some { options with verbose := true }
        else
          match Stage.all.find? fun stage => stage.flag == argument with
          | some stage => some { options with stages := stage :: options.stages }
          | none =>
            if argument.head? = some '-' then none
            else some { options with paths := argument :: options.paths }

/-- The stage to show: of those asked for, the one that takes precedence. -/
def stage? (options : Options) : Option Stage :=
  Stage.all.find? options.stages.contains

end Options

/-! ## Names of source files -/

namespace Path

/-- The components of a path that say something. -/
def components (path : Text) : List Text :=
  (Text.fields (· == '/') path).filter fun component => component != [] && component != ['.']

/-- The name of the file that a path leads to. -/
def fileName? (path : Text) : Option Text :=
  (components path).getLast?.filter (· != ['.', '.'])

/-- The extension of a file name. -/
def extension? (name : Text) : Option Text :=
  match Text.lastIndex? ['.'] name with
  | some (index + 1) => some (name.drop (index + 2))
  | _ => none

/-- The extensions of source files. -/
def sourceExtensions : List Text :=
  ["cpp".toList, "cxx".toList, "cc".toList]

/-- The path leads to a file that is named like a source file. -/
def isSource (path : Text) : Bool :=
  ((fileName? path).bind extension?).any sourceExtensions.contains

end Path

end ShallowCpp
