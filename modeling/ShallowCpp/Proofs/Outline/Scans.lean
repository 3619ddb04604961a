import ShallowCpp.Proofs.Outline.Locals
import ShallowCpp.Proofs.Shape.Cover

/-!
# The outline by its scans

The functions and the variables of an outline come from two scans of the whole source, for headers
in front of a brace and for declarations of primitive type. A third scan, for headers in front of a
semicolon, tells what a source promises. Each of the three finds all that its grammar spells, in the
sense that every occurrence starts inside a span that is found.

So a function stands for each header that is found, in the order of the source, unless its first
word starts a statement or its name is a control keyword. A variable stands for each declaration
that is found. Of the parts of a declaration only its ending may hold an equals sign, and it has an
initial value exactly when there is one (`outline_by_scans`).
-/

set_option autoImplicit false

namespace ShallowCpp

open Text

/-! ## Initial values -/

namespace VariableDecl

/-- A declaration has an initial value exactly when it is written with an equals sign. -/
theorem Spells.init_eq_none_iff {decl : VariableDecl} {written : Text}
    (spelled : Spells decl written) : decl.init = none ↔ '=' ∉ written := by
  cases spelled with
  | parts primitive _ gapBlank nameWord spaceBlank ends =>
    have inType : '=' ∉ _ := (word_of_mem_primitiveTypes primitive).notMem rfl
    have inGap : '=' ∉ _ := gapBlank.notMem rfl
    have inName : '=' ∉ _ := nameWord.notMem rfl
    have inSpace : '=' ∉ _ := spaceBlank.notMem rfl
    cases ends with
    | bare => simp [inType, inGap, inName, inSpace]
    | initialised _ => simp

/-- An initial value is trimmed and ends in front of the semicolon. -/
theorem Spells.init_trimmed {decl : VariableDecl} {written value : Text}
    (spelled : Spells decl written) (initialised : decl.init = some value) :
    Trimmed value ∧ ';' ∉ value := by
  cases spelled with
  | parts _ _ _ _ _ ends =>
    cases ends with
    | bare => cases initialised
    | initialised free =>
      obtain rfl := Option.some.inj initialised
      exact ⟨trimmed_trim _, fun member => free (initialValue_subset _ member)⟩

/-- What is known of the initial value at a span that the scan finds. -/
theorem init_of_mem_spans {source : Text} {span : Span VariableDecl}
    (found : span ∈ shape.spans source) :
    (span.value.init = none ↔ '=' ∉ span.textIn source) ∧
      ∀ value, span.value.init = some value → Trimmed value ∧ ';' ∉ value := by
  obtain ⟨before, written, behind, cut, spelled, start, stop⟩ :=
    (reads_shape.cover_spans source).occurs span found
  rw [Span.textIn_eq cut start stop]
  exact ⟨spelled.init_eq_none_iff, fun _ => spelled.init_trimmed⟩

end VariableDecl

/-! ## Functions -/

theorem Program.functions_eq_map (source : Text) :
    (ofSource source).functions =
      ((Program.functionHeader.spans source).filter fun span =>
        span.value.returnType ∉ Program.statementWords ∧
          span.value.name ∉ Program.controlWords).map (FunctionDecl.ofSpan source) := by
  rw [functions_ofSource, functionsIn]
  congr 2
  funext span
  simp [Header.startsWith, Header.isNamed]

/-! ## All that is spelled -/

/-- **The outline is what its scans find.** Each of the three scans yields the one list of spans
that lie in the source one behind the other, are spelled as the grammar says, and have the start of
every other occurrence inside of them. The functions are the headers in front of a brace, in order,
except for those that start a statement or name a control keyword; each has the two words of its
header and the line on which it starts. The variables are the declarations in order. The initial
value of one is missing exactly when its text has no equals sign, and is otherwise trimmed and free
of semicolons. -/
theorem outline_by_scans (source : Text) :
    (∀ spans, Span.Cover (Header.Spells '{') source spans ↔
        spans = Program.functionHeader.spans source) ∧
      (∀ spans, Span.Cover (Header.Spells ';') source spans ↔
        spans = Linkage.prototype.spans source) ∧
      (∀ spans, Span.Cover VariableDecl.Spells source spans ↔
        spans = VariableDecl.shape.spans source) ∧
      (Program.ofSource source).functions.map
          (fun function => (function.returnType, function.name, function.line)) =
        ((Program.functionHeader.spans source).filter fun span =>
          span.value.returnType ∉ Program.statementWords ∧
            span.value.name ∉ Program.controlWords).map
          (fun span => (span.value.returnType, span.value.name,
            1 + (source.take span.start).count '\n')) ∧
      (Program.ofSource source).declarations =
        (VariableDecl.shape.spans source).map Span.value ∧
      ∀ span ∈ VariableDecl.shape.spans source,
        (span.value.init = none ↔ '=' ∉ span.textIn source) ∧
          ∀ value, span.value.init = some value → Trimmed value ∧ ';' ∉ value := by
  refine ⟨fun _ => (Header.reads_shape rfl).cover_iff,
    fun _ => (Header.reads_shape rfl).cover_iff,
    fun _ => VariableDecl.reads_shape.cover_iff, ?_, ?_, fun _ => VariableDecl.init_of_mem_spans⟩
  · rw [Program.functions_eq_map, List.map_map]
    rfl
  · rw [Program.declarations_ofSource]
    rfl

/-- A second equals sign belongs to the text of the declaration and not to its initial value. -/
theorem outline_by_scans_of_two_signs :
    ⟨0, 11, ⟨"x".toList, "int".toList, some "5".toList⟩⟩ ∈
        VariableDecl.shape.spans "int x == 5;".toList ∧
      Trimmed "5".toList ∧ ';' ∉ "5".toList := by
  obtain ⟨-, -, -, -, -, initial⟩ := outline_by_scans "int x == 5;".toList
  have found : ⟨0, 11, ⟨"x".toList, "int".toList, some "5".toList⟩⟩ ∈
      VariableDecl.shape.spans "int x == 5;".toList := by decide
  exact ⟨found, (initial _ found).2 _ rfl⟩

end ShallowCpp
