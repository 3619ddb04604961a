import ShallowCpp.Proofs.Braces.Check
import ShallowCpp.Proofs.Linkage
import ShallowCpp.Proofs.Termination
import ShallowCpp.Report.Basic

/-!
# When a source is accepted

A source is accepted when it has an entry point and none of its findings is an error. The four
checks report errors only (`isWarning_of_mem_validate`), and the warnings about symbols are warnings
only, so the warnings have no part in the verdict: a source is accepted exactly when its checks find
nothing. Each check finds nothing exactly under a condition on the text (`compile_verdict`). An
entry point is written somewhere; no line lacks a semicolon; the braces are balanced; every
prototype has a definition.
-/

set_option autoImplicit false

namespace ShallowCpp

/-! ## The entry point -/

theorem EntryPoint.occursIn_iff (text : Text) :
    EntryPoint.occursIn text = true ↔
      "int main(".toList <:+: text ∨ "void main(".toList <:+: text := by
  simp only [EntryPoint.occursIn, EntryPoint.beginnings, List.any_cons, List.any_nil,
    Bool.or_false, Bool.or_eq_true, Text.occursIn_iff]

theorem EntryPoint.check_eq_nil_iff (source : Text) :
    EntryPoint.check source = [] ↔ EntryPoint.occursIn source = true := by
  by_cases occurs : EntryPoint.occursIn source = true
  · rw [EntryPoint.check, if_pos occurs]
    exact iff_of_true rfl occurs
  · rw [EntryPoint.check, if_neg occurs]
    exact iff_of_false (List.cons_ne_nil _ _) occurs

/-! ## Checks report errors only -/

theorem EntryPoint.isWarning_of_mem {source : Text} {diagnostic : Diagnostic}
    (member : diagnostic ∈ EntryPoint.check source) : diagnostic.isWarning = false := by
  rw [EntryPoint.check] at member
  split_ifs at member with occurs
  · cases member
  · rw [List.mem_singleton.mp member]
    rfl

/-- **No check reports a warning.** -/
theorem isWarning_of_mem_validate {source : Text} {diagnostic : Diagnostic}
    (member : diagnostic ∈ validate source) : diagnostic.isWarning = false := by
  simp only [validate, List.mem_append] at member
  rcases member with ((entry | semicolon) | brace) | prototype
  · exact EntryPoint.isWarning_of_mem entry
  · obtain ⟨index, line, -, rfl, -⟩ := Termination.mem_check_iff.mp semicolon
    rfl
  · rw [Braces.check_eq, List.mem_append, List.mem_map, List.mem_map] at brace
    rcases brace with ⟨offset, -, rfl⟩ | ⟨offset, -, rfl⟩
    · rfl
    · rfl
  · obtain ⟨span, -, -, rfl⟩ := Linkage.mem_check_iff.mp prototype
    rfl

/-- Whatever is reported about symbols is a warning. -/
theorem Symbols.isWarning_of_mem {program : Program} {source : Text} {diagnostic : Diagnostic}
    (member : diagnostic ∈ (Symbols.ofProgram program source).warnings) :
    diagnostic.isWarning = true := by
  simp only [Symbols.ofProgram, List.mem_append, List.mem_map] at member
  rcases member with ⟨symbol, -, rfl⟩ | ⟨symbol, -, rfl⟩
  · rfl
  · rfl

/-! ## The verdict -/

/-- A source is accepted exactly when its checks find nothing. -/
theorem success_iff (source : Text) : (compile source).success = true ↔ validate source = [] := by
  have verdict : (compile source).success =
      (EntryPoint.occursIn source && (validate source).all Diagnostic.isWarning) := rfl
  rw [verdict, Bool.and_eq_true, List.all_eq_true]
  constructor
  · rintro ⟨-, warnings⟩
    refine List.eq_nil_iff_forall_not_mem.mpr fun diagnostic member => ?_
    have warning := warnings diagnostic member
    rw [isWarning_of_mem_validate member] at warning
    cases warning
  · intro silent
    have entry : EntryPoint.check source = [] := by
      simp only [validate, List.append_eq_nil_iff] at silent
      exact silent.1.1.1
    refine ⟨(EntryPoint.check_eq_nil_iff source).mp entry, fun diagnostic member => ?_⟩
    rw [silent] at member
    cases member

/-- The checks find nothing exactly when the text meets their four conditions. -/
theorem validate_eq_nil_iff (source : Text) :
    validate source = [] ↔
      ("int main(".toList <:+: source ∨ "void main(".toList <:+: source) ∧
      Termination.check source = [] ∧ Braces.Dyck (source.filter Braces.isBrace) ∧
      ∀ prototype, Linkage.IsPrototype source prototype →
        ∃ definition, Linkage.IsDefinition source definition ∧
          definition.value.name = prototype.value.name := by
  simp only [validate, List.append_eq_nil_iff, EntryPoint.check_eq_nil_iff, EntryPoint.occursIn_iff,
    Braces.check_eq_nil_iff, Linkage.check_eq_nil_iff, and_assoc]

/-- **The verdict on a source.** A source is accepted exactly when no error is reported, and exactly
when it contains the beginning of an entry point, no line lacks a semicolon, its braces are balanced
and every prototype has a definition. No error is a warning and every warning is one, so sources
with the same errors get the same verdict. -/
theorem compile_verdict (source : Text) :
    ((compile source).success = true ↔ (compile source).errors = []) ∧
      ((compile source).errors = [] ↔
        ("int main(".toList <:+: source ∨ "void main(".toList <:+: source) ∧
        Termination.check source = [] ∧ Braces.Dyck (source.filter Braces.isBrace) ∧
        ∀ prototype, Linkage.IsPrototype source prototype →
          ∃ definition, Linkage.IsDefinition source definition ∧
            definition.value.name = prototype.value.name) ∧
      (∀ diagnostic ∈ (compile source).errors, diagnostic.isWarning = false) ∧
      (∀ diagnostic ∈ (compile source).warnings, diagnostic.isWarning = true) ∧
      ∀ other, validate other = validate source →
        (compile other).success = (compile source).success := by
  refine ⟨success_iff source, validate_eq_nil_iff source, ?_, ?_, ?_⟩
  · intro diagnostic member
    exact isWarning_of_mem_validate member
  · intro diagnostic member
    exact Symbols.isWarning_of_mem member
  · intro other same
    rw [Bool.eq_iff_iff, success_iff, success_iff, same]

/-- Two sources without errors are both accepted although only one of them draws a warning. -/
theorem compile_verdict_despite_warning :
    (compile "void f() {}\nint main() {}".toList).warnings ≠
        (compile "int main() {}".toList).warnings ∧
      (compile "void f() {}\nint main() {}".toList).success =
        (compile "int main() {}".toList).success :=
  ⟨by decide, (compile_verdict "int main() {}".toList).2.2.2.2 _ (by decide)⟩

end ShallowCpp
