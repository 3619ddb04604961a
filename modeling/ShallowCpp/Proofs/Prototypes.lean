import ShallowCpp.Proofs.Linkage
import ShallowCpp.Proofs.Shape.Cover
import ShallowCpp.Proofs.Text.Lines

/-!
# The report on prototypes

A source is scanned twice, for prototypes and for definitions, and the two scans share nothing but
names. The report has one finding for each prototype whose name no definition bears, in the order in
which the scan comes to them, so that the lines of the findings never fall (`prototypes_reported`).

Whether a prototype is reported depends on its name alone. A name that is promised several times is
therefore reported as often as it is promised, or not at all (`filter_isAbout_check`).
-/

set_option autoImplicit false

namespace ShallowCpp.Linkage

/-- The headers among the spans whose first word does not start a statement. -/
def declaring (spans : List (Span Header)) : List (Span Header) :=
  spans.filter fun span => span.value.returnType ∉ statementWords

/-- The names that the spans declare. -/
def declaredNames (spans : List (Span Header)) : List Text :=
  (declaring spans).map fun span => span.value.name

/-- The finding on a prototype, with its name and the line on which it starts. -/
def finding (source : Text) (span : Span Header) : Diagnostic :=
  .undefinedFunction span.value.name (1 + (source.take span.start).count '\n')

/-- The finding is about the name. -/
def IsAbout (name : Text) (diagnostic : Diagnostic) : Prop :=
  diagnostic = .undefinedFunction name diagnostic.line

instance (name : Text) (diagnostic : Diagnostic) : Decidable (IsAbout name diagnostic) :=
  inferInstanceAs (Decidable (_ = _))

/-! ## One finding for each prototype -/

theorem headers_eq_declaring (shape : Shape Header) (source : Text) :
    headers shape source = declaring (shape.spans source) := by
  rw [headers, declaring]
  congr 1
  funext span
  simp [Header.startsWith]

theorem definedNames_eq (source : Text) :
    definedNames source = declaredNames (definition.spans source) := by
  rw [definedNames, declaredNames, headers_eq_declaring]

/-- The report goes through the prototypes and leaves those out whose name is defined. -/
theorem check_eq_map (source : Text) :
    check source =
      ((declaring (prototype.spans source)).filter fun span =>
        span.value.name ∉ declaredNames (definition.spans source)).map
        (finding source) := by
  rw [check, headers_eq_declaring, definedNames_eq, ← List.filterMap_eq_map, List.filterMap_filter]
  congr 1
  funext span
  by_cases defined : span.value.name ∈ declaredNames (definition.spans source)
  · simp [defined]
  · simp [defined, finding, Text.lineAt]

/-! ## Lines -/

/-- The prototypes of a source start one behind the other. -/
theorem pairwise_start_declaring (source : Text) :
    (declaring (prototype.spans source)).Pairwise fun first second =>
      first.start ≤ second.start := by
  have cover := (Header.reads_shape (rfl : Text.isBlank ';' = false)).cover_spans source
  have ordered : (prototype.spans source).Pairwise fun first second =>
      first.start ≤ second.start := by
    refine cover.ordered.imp_of_mem ?_
    intro first second found _ behind
    have nonempty := cover.start_lt_stop first found
    omega
  exact ordered.filter _

/-- The lines of the findings do not fall. -/
theorem pairwise_line_check (source : Text) :
    (check source).Pairwise fun first second => first.line ≤ second.line := by
  rw [check_eq_map, List.pairwise_map]
  refine ((pairwise_start_declaring source).imp ?_).filter _
  intro first second starts
  exact Text.lineAt_mono source starts

/-! ## Findings about one name -/

theorem isAbout_finding {source name : Text} {span : Span Header} :
    IsAbout name (finding source span) ↔ span.value.name = name := by
  constructor
  · intro about
    exact name_eq_of_undefinedFunction about
  · rintro rfl
    rfl

/-- A name that is not defined is reported for each of its prototypes, and a name that is defined is
not reported. -/
theorem filter_isAbout_check (source name : Text) :
    (check source).filter (fun diagnostic => IsAbout name diagnostic) =
      if name ∈ declaredNames (definition.spans source) then []
      else ((declaring (prototype.spans source)).filter fun span =>
        span.value.name = name).map (finding source) := by
  rw [check_eq_map, List.filter_map, List.filter_filter]
  split
  next defined =>
    rw [List.map_eq_nil_iff, List.filter_eq_nil_iff]
    intro span _ reported
    simp only [Function.comp_apply, isAbout_finding, Bool.and_eq_true,
      decide_eq_true_eq] at reported
    exact reported.2 (reported.1 ▸ defined)
  next undefined =>
    congr 2
    funext span
    simp only [Function.comp_apply, isAbout_finding]
    by_cases named : span.value.name = name
    · simp [named, undefined]
    · simp [named]

/-- **The report has one finding for each prototype without definition.** Prototypes and definitions
are what two scans from the left find, those aside whose first word starts a statement. The findings
follow the order of the prototypes, with the name of each and the line on which it starts, so their
lines do not fall. The prototypes of one name are all reported if no definition bears the name, one
finding each, and none of them otherwise. -/
theorem prototypes_reported (source : Text) :
    Span.Scans (Span.OccursIn (Header.Spells ';') source) 0 (prototype.spans source) ∧
      Span.Scans (Span.OccursIn (Header.Spells '{') source) 0 (definition.spans source) ∧
      check source =
        ((declaring (prototype.spans source)).filter fun span =>
          span.value.name ∉ declaredNames (definition.spans source)).map
          (finding source) ∧
      ((check source).Pairwise fun first second => first.line ≤ second.line) ∧
      ∀ name, (check source).filter (fun diagnostic => IsAbout name diagnostic) =
        if name ∈ declaredNames (definition.spans source) then []
        else ((declaring (prototype.spans source)).filter fun span =>
          span.value.name = name).map (finding source) := by
  refine ⟨?_, ?_, check_eq_map source, pairwise_line_check source, filter_isAbout_check source⟩
  · exact Shape.scans_spans (Header.reads_shape rfl) source
  · exact Shape.scans_spans (Header.reads_shape rfl) source

end ShallowCpp.Linkage
