import ShallowCpp.Proofs.Shape.Parts
import ShallowCpp.Proofs.Shape.Scan

/-!
# A scan, step by step

A scan takes a text apart: where the shape reads nothing it passes over one character, and where it
reads a spelling it passes over the spelling. Every text is used up by such steps, so a statement
about the spans of a text can be proved along them (`Reads.scanInduction`). The offset at which a
scan starts only moves the spans (`spansFrom_add`), and blanks in front of a text only move them
too, as long as no spelling starts with a blank (`spans_append_blank`).
-/

set_option autoImplicit false

namespace ShallowCpp

open Text

variable {α : Type}

/-- The span so many characters further on. -/
def Span.moveBy (distance : Nat) (span : Span α) : Span α :=
  ⟨span.start + distance, span.stop + distance, span.value⟩

namespace Shape

variable {shape : Shape α} {spells : α → Text → Prop}

/-! ## Single steps -/

/-- Characters that belong to a span found already are passed over. -/
theorem spansFrom_append (shape : Shape α) (offset skip : Nat) (front rest : Text) :
    spansFrom shape offset (front.length + skip) (front ++ rest) =
      spansFrom shape (offset + front.length) skip rest := by
  induction front generalizing offset with
  | nil => simp
  | cons char front ih =>
    rw [List.length_cons, Nat.add_right_comm, List.cons_append, spansFrom, ih, Nat.add_assoc,
      Nat.add_comm 1]

theorem spansFrom_of_none {char : Char} {rest : Text} (refused : shape (char :: rest) = none)
    (offset : Nat) :
    spansFrom shape offset 0 (char :: rest) = spansFrom shape (offset + 1) 0 rest := by
  rw [spansFrom, refused]

theorem Reads.spansFrom_of_spells (reads : shape.Reads spells) {value : α} {written : Text}
    (spelled : spells value written) (behind : Text) (offset : Nat) :
    spansFrom shape offset 0 (written ++ behind) =
      ⟨offset, offset + written.length, value⟩ ::
        spansFrom shape (offset + written.length) 0 behind := by
  have read := reads.eq_some spelled behind
  cases written with
  | nil => exact absurd rfl (reads.ne_nil spelled)
  | cons char others =>
    have size : (char :: (others ++ behind)).length - behind.length = (char :: others).length := by
      simp only [List.length_cons, List.length_append]
      omega
    rw [List.cons_append] at read ⊢
    rw [spansFrom, read]
    simp only [size]
    rw [List.length_cons, Nat.add_sub_cancel, ← Nat.add_zero others.length, spansFrom_append,
      Nat.add_zero, Nat.add_assoc, Nat.add_comm 1]

/-- **Induction along a scan.** -/
@[elab_as_elim]
theorem Reads.scanInduction (reads : shape.Reads spells) {motive : Text → Prop} (nil : motive [])
    (refused : ∀ char rest, shape (char :: rest) = none → motive rest → motive (char :: rest))
    (found : ∀ value written behind, spells value written → motive behind →
      motive (written ++ behind)) (text : Text) : motive text := by
  cases text with
  | nil => exact nil
  | cons char rest =>
    cases read : shape (char :: rest) with
    | none => exact refused char rest read (reads.scanInduction nil refused found rest)
    | some result =>
      obtain ⟨value, behind⟩ := result
      obtain ⟨written, spelled, cut⟩ := reads.eq_some_iff.mp read
      have nonempty := List.length_pos_iff.mpr (reads.ne_nil spelled)
      have shorter : behind.length < (char :: rest).length := by
        rw [cut, List.length_append]
        omega
      rw [cut]
      exact found value written behind spelled (reads.scanInduction nil refused found behind)
termination_by text.length
decreasing_by
  · simp
  · exact shorter

/-! ## Moving the text -/

theorem spansFrom_add (shape : Shape α) (offset distance skip : Nat) (text : Text) :
    spansFrom shape (offset + distance) skip text =
      (spansFrom shape offset skip text).map (Span.moveBy distance) := by
  induction text generalizing offset skip with
  | nil => rfl
  | cons char rest ih =>
    have next := ih (offset + 1)
    rw [Nat.add_right_comm] at next
    cases skip with
    | succ skip => rw [spansFrom, spansFrom, next]
    | zero =>
      rw [spansFrom, spansFrom]
      split
      next => exact next 0
      next value behind read =>
        simp only [next, List.map_cons, Span.moveBy]
        rw [Nat.add_right_comm]

/-- No spelling starts with a blank. -/
def RefusesBlanks (shape : Shape α) : Prop :=
  ∀ char rest, isBlank char = true → shape (char :: rest) = none

theorem Reads.refusesBlanks (reads : shape.Reads spells)
    (ends : ∀ {value written}, spells value written → ∀ rest, EndsRun isBlank (written ++ rest)) :
    shape.RefusesBlanks := by
  intro char rest blank
  by_contra read
  obtain ⟨⟨value, behind⟩, read⟩ := Option.ne_none_iff_exists'.mp read
  obtain ⟨written, spelled, cut⟩ := reads.eq_some_iff.mp read
  have notBlank := ends spelled behind
  rw [← cut, endsRun_cons, blank] at notBlank
  cases notBlank

theorem spansFrom_append_blank (refuses : shape.RefusesBlanks) {blanks : Text}
    (blank : Blank blanks) (offset : Nat) (text : Text) :
    spansFrom shape offset 0 (blanks ++ text) =
      spansFrom shape (offset + blanks.length) 0 text := by
  induction blanks generalizing offset with
  | nil => rfl
  | cons char blanks ih =>
    obtain ⟨first, others⟩ := List.forall_mem_cons.mp blank
    rw [List.cons_append, spansFrom_of_none (refuses char _ first), ih others, List.length_cons,
      Nat.add_assoc, Nat.add_comm 1]

/-- Blanks in front of a text move its spans. -/
theorem spans_append_blank (refuses : shape.RefusesBlanks) {blanks : Text} (blank : Blank blanks)
    (text : Text) :
    shape.spans (blanks ++ text) = (shape.spans text).map (Span.moveBy blanks.length) := by
  rw [spans, spansFrom_append_blank refuses blank, spansFrom_add]
  rfl

end Shape

end ShallowCpp
