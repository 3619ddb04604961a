import ShallowCpp.Header
import ShallowCpp.Outline.Source
import ShallowCpp.Proofs.Assembly.Rows
import ShallowCpp.Proofs.Header
import ShallowCpp.Proofs.ThreeAddress.Listing

/-!
# Prototypes, definitions and functions

The prototypes and the definitions of a source are the headers that a scan of it finds, those left
out whose first word starts a statement. A prototype is reported exactly when no definition bears
its name (`mem_check_iff`), and nothing is reported exactly when every prototype has a definition
(`check_eq_nil_iff`).

The outline has a function for every definition whose name is not a control keyword
(`Program.mem_functions_iff`). It looks for definitions with a shape of its own and leaves some out
by a list of its own; shape and list agree with those of the check (`Program.functionHeader_eq`,
`Program.statementWords_eq`). So a name that is reported belongs to no function, and a prototype
that is not reported belongs to one, which is carried on into the three-address code and into the
assembly text (`linkage_agrees_with_outline`).
-/

set_option autoImplicit false

namespace ShallowCpp

namespace Linkage

/-- The span is a prototype of the source. -/
def IsPrototype (source : Text) (span : Span Header) : Prop :=
  Header.FoundIn ';' source span ∧ span.value.returnType ∉ statementWords

/-- The span is a definition in the source. -/
def IsDefinition (source : Text) (span : Span Header) : Prop :=
  Header.FoundIn '{' source span ∧ span.value.returnType ∉ statementWords

theorem mem_headers_iff {final : Char} (final_notBlank : Text.isBlank final = false) {source : Text}
    {span : Span Header} :
    span ∈ headers (Header.shape final) source ↔
      Header.FoundIn final source span ∧ span.value.returnType ∉ statementWords := by
  rw [headers, List.mem_filter, Header.foundIn_iff final_notBlank]
  simp [Header.startsWith]

theorem mem_prototypes_iff {source : Text} {span : Span Header} :
    span ∈ headers prototype source ↔ IsPrototype source span :=
  mem_headers_iff (by decide)

theorem mem_definitions_iff {source : Text} {span : Span Header} :
    span ∈ headers definition source ↔ IsDefinition source span :=
  mem_headers_iff (by decide)

theorem mem_definedNames_iff {source name : Text} :
    name ∈ definedNames source ↔ ∃ span, IsDefinition source span ∧ span.value.name = name := by
  simp only [definedNames, List.mem_map, mem_definitions_iff]

/-! ## What is reported -/

/-- A prototype is reported at its line when its name is not defined. -/
theorem mem_check_iff {source : Text} {diagnostic : Diagnostic} :
    diagnostic ∈ check source ↔
      ∃ span, IsPrototype source span ∧ span.value.name ∉ definedNames source ∧
        diagnostic = .undefinedFunction span.value.name (Text.lineAt source span.start) := by
  simp only [check, List.mem_filterMap, mem_prototypes_iff]
  refine exists_congr fun span => and_congr_right fun _ => ?_
  by_cases defined : span.value.name ∈ definedNames source
  · simp [defined]
  · simp [defined, eq_comm]

/-- Nothing is reported exactly when every prototype has a definition of its name. -/
theorem check_eq_nil_iff (source : Text) :
    check source = [] ↔
      ∀ prototype, IsPrototype source prototype →
        ∃ definition, IsDefinition source definition ∧
          definition.value.name = prototype.value.name := by
  simp only [List.eq_nil_iff_forall_not_mem, mem_check_iff, ← mem_definedNames_iff]
  constructor
  · intro silent prototype isPrototype
    by_contra undefined
    exact silent _ ⟨prototype, isPrototype, undefined, rfl⟩
  · rintro defined diagnostic ⟨span, isPrototype, undefined, -⟩
    exact undefined (defined span isPrototype)

/-- The wording of a report tells the name it is about. -/
theorem name_eq_of_undefinedFunction {name name' : Text} {line line' : Nat}
    (same : Diagnostic.undefinedFunction name line = .undefinedFunction name' line') :
    name = name' := by
  have message := congrArg Diagnostic.message same
  simpa [Diagnostic.undefinedFunction] using message

end Linkage

/-! ## Functions of the outline -/

namespace Program

/-- The outline and the check of prototypes look for the same headers, and leave the same ones out.
Each has a shape and a list of its own. -/
theorem functionHeader_eq : functionHeader = Linkage.definition :=
  rfl

theorem statementWords_eq : statementWords = Linkage.statementWords :=
  rfl

/-- The functions of a source are its definitions, those left out that are named like a control
keyword. -/
theorem mem_functions_iff {source : Text} {function : FunctionDecl} :
    function ∈ (ofSource source).functions ↔
      ∃ span, Linkage.IsDefinition source span ∧ span.value.name ∉ Program.controlWords ∧
        function = .ofSpan source span := by
  have found : ∀ span, span ∈ Linkage.definition.spans source ↔ Header.FoundIn '{' source span :=
    fun span => (Header.foundIn_iff (by decide)).symm
  rw [functions_ofSource, functionsIn, functionHeader_eq, statementWords_eq, List.mem_map]
  simp only [List.mem_filter, found, Linkage.IsDefinition, Header.startsWith, Header.isNamed,
    Bool.and_eq_true, Bool.not_eq_true', List.contains_eq_mem, decide_eq_false_iff_not]
  refine exists_congr fun span => ?_
  rw [eq_comm (a := function), and_assoc, and_assoc, and_assoc]

/-- A function of a source bears a name exactly when the name is defined and not a control
keyword. -/
theorem exists_function_iff {source name : Text} :
    (∃ function ∈ (ofSource source).functions, function.name = name) ↔
      name ∈ Linkage.definedNames source ∧ name ∉ Program.controlWords := by
  rw [Linkage.mem_definedNames_iff]
  constructor
  · rintro ⟨function, member, rfl⟩
    obtain ⟨span, definition, ordinary, rfl⟩ := mem_functions_iff.mp member
    exact ⟨⟨span, definition, rfl⟩, ordinary⟩
  · rintro ⟨⟨span, definition, rfl⟩, ordinary⟩
    exact ⟨_, mem_functions_iff.mpr ⟨span, definition, ordinary, rfl⟩, rfl⟩

/-- The name of a function of a source has no line feed in it. -/
theorem lineFeed_notMem_name {source : Text} {function : FunctionDecl}
    (member : function ∈ (ofSource source).functions) : '\n' ∉ function.name := by
  obtain ⟨span, definition, -, rfl⟩ := mem_functions_iff.mp member
  exact definition.1.word_name.lineFeed_notMem

end Program

/-! ## Agreement -/

/-- **Prototypes and functions agree on what is defined.** A name that is reported belongs to no
function of the outline. A prototype that is not reported, and is not named like a control keyword,
belongs to a function, to a routine of the three-address code and to a label of the assembly
text. -/
theorem linkage_agrees_with_outline (source name : Text) :
    ((∃ line, Diagnostic.undefinedFunction name line ∈ Linkage.check source) →
        ∀ function ∈ (Program.ofSource source).functions, function.name ≠ name) ∧
      ∀ span, Linkage.IsPrototype source span → span.value.name = name →
        .undefinedFunction name (Text.lineAt source span.start) ∉ Linkage.check source →
        name ∉ Program.controlWords →
          (∃ function ∈ (Program.ofSource source).functions, function.name = name) ∧
          (∃ routine ∈ (ThreeAddress.Code.ofProgram (Program.ofSource source)).routines,
            routine.name = name) ∧
          name ++ [':'] ∈
            Text.lines (Assembly.Code.ofProgram (Program.ofSource source)).render := by
  constructor
  · rintro ⟨line, reported⟩ function member rfl
    obtain ⟨span, -, undefined, same⟩ := Linkage.mem_check_iff.mp reported
    rw [← Linkage.name_eq_of_undefinedFunction same] at undefined
    exact undefined (Program.exists_function_iff.mp ⟨function, member, rfl⟩).1
  · rintro span isPrototype rfl silent ordinary
    have defined : span.value.name ∈ Linkage.definedNames source := by
      by_contra undefined
      exact silent (Linkage.mem_check_iff.mpr ⟨span, isPrototype, undefined, rfl⟩)
    obtain ⟨function, member, name⟩ := Program.exists_function_iff.mpr ⟨defined, ordinary⟩
    rw [← name]
    exact ⟨⟨function, member, rfl⟩, ThreeAddress.Code.exists_routine member,
      Assembly.Code.label_mem_lines member (Program.lineFeed_notMem_name member)⟩

/-- In a source with two prototypes and one definition, the prototype without definition names no
function and the other names a label. -/
theorem linkage_agrees_on_two_prototypes :
    (∀ function ∈ (Program.ofSource "int f();\nvoid g();\nint f() {}".toList).functions,
        function.name ≠ "g".toList) ∧
      "f:".toList ∈ Text.lines (Assembly.Code.ofProgram
        (Program.ofSource "int f();\nvoid g();\nint f() {}".toList)).render :=
  ⟨(linkage_agrees_with_outline _ "g".toList).1 ⟨2, by decide⟩,
    ((linkage_agrees_with_outline _ "f".toList).2 ⟨0, 8, ⟨"int".toList, "f".toList, []⟩⟩
      (Linkage.mem_prototypes_iff.mp (by decide)) rfl (by decide) (by decide)).2.2⟩

end ShallowCpp
