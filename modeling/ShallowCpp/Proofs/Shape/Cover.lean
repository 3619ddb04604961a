import ShallowCpp.Proofs.Shape.Scan

/-!
# Scans that find everything

The spans of a scan lie one behind the other. Each of them is an occurrence, there is at most one
occurrence at each offset, and every occurrence starts inside a span (`Reads.cover_spans`). Nothing
in this mentions that a scan goes from left to right, and yet it settles the list
(`Reads.cover_iff`): the first span cannot start behind the leftmost occurrence, because that one
would not be covered, and behind the end of a span the same holds of what is left.
-/

set_option autoImplicit false

namespace ShallowCpp

variable {α : Type}

namespace Span

/-- The spans are the occurrences of a spelling in a text, those left out that start inside another
one that is listed. -/
structure Cover (spells : α → Text → Prop) (text : Text) (spans : List (Span α)) : Prop where
  /-- Each span is an occurrence. -/
  occurs : ∀ span ∈ spans, span.OccursIn spells text
  /-- A span has at least one character. -/
  start_lt_stop : ∀ span ∈ spans, span.start < span.stop
  /-- A span starts where the one before it ends, or behind. -/
  ordered : spans.Pairwise fun first second => first.stop ≤ second.start
  /-- Two occurrences do not start at one offset. -/
  known : ∀ {first second : Span α}, first.OccursIn spells text → second.OccursIn spells text →
    first.start = second.start → first = second
  /-- Every occurrence starts inside a span. -/
  covered : ∀ span : Span α, span.OccursIn spells text →
    ∃ around ∈ spans, around.start ≤ span.start ∧ span.start < around.stop

/-! ## Order -/

namespace Scans

variable {isOccurrence : Span α → Prop} {offset : Nat} {spans : List (Span α)}

theorem offset_le (nonempty : ∀ span, isOccurrence span → span.start < span.stop)
    (scans : Scans isOccurrence offset spans) : ∀ span ∈ spans, offset ≤ span.start := by
  induction scans with
  | done _ => exact List.forall_mem_nil _
  | @found offset first others leftmost _ ih =>
    refine List.forall_mem_cons.mpr ⟨leftmost.offset_le, ?_⟩
    intro span later
    calc offset ≤ first.start := leftmost.offset_le
      _ ≤ first.stop := Nat.le_of_lt (nonempty first leftmost.occurs)
      _ ≤ span.start := ih span later

/-- The spans that a scan finds lie one behind the other. -/
theorem pairwise_stop_le_start (nonempty : ∀ span, isOccurrence span → span.start < span.stop)
    (scans : Scans isOccurrence offset spans) :
    spans.Pairwise fun first second => first.stop ≤ second.start := by
  induction scans with
  | done _ => exact .nil
  | found _ rest ih => exact .cons (rest.offset_le nonempty) ih

/-- Spans that lie one behind the other, and in one of which every occurrence starts, are found by a
scan. -/
theorem of_covered (occurs : ∀ span ∈ spans, isOccurrence span)
    (nonempty : ∀ span ∈ spans, span.start < span.stop)
    (behind : ∀ span ∈ spans, offset ≤ span.start)
    (ordered : spans.Pairwise fun first second => first.stop ≤ second.start)
    (covered : ∀ span, isOccurrence span → offset ≤ span.start →
      ∃ around ∈ spans, around.start ≤ span.start ∧ span.start < around.stop) :
    Scans isOccurrence offset spans := by
  induction spans generalizing offset with
  | nil =>
    refine .done fun span occurs => Nat.lt_of_not_le fun later => ?_
    obtain ⟨around, found, -⟩ := covered span occurs later
    cases found
  | cons first others ih =>
    obtain ⟨firstOccurs, othersOccur⟩ := List.forall_mem_cons.mp occurs
    obtain ⟨firstNonempty, othersNonempty⟩ := List.forall_mem_cons.mp nonempty
    obtain ⟨firstOrdered, othersOrdered⟩ := List.pairwise_cons.mp ordered
    have isLeftmost : IsLeftmost isOccurrence offset first := by
      refine ⟨firstOccurs, behind first List.mem_cons_self, ?_⟩
      intro span occurs later
      obtain ⟨around, found, starts, -⟩ := covered span occurs later
      rcases List.mem_cons.mp found with rfl | further
      · exact starts
      · have after := firstOrdered around further
        omega
    refine .found isLeftmost (ih othersOccur othersNonempty firstOrdered othersOrdered ?_)
    intro span occurs later
    have fromOffset : offset ≤ span.start := by
      have start := isLeftmost.offset_le
      omega
    obtain ⟨around, found, starts, inside⟩ := covered span occurs fromOffset
    -- The first span ends in front of this occurrence, so another one has its start.
    rcases List.mem_cons.mp found with rfl | further
    · omega
    · exact ⟨around, further, starts, inside⟩

end Scans

end Span

/-! ## The spans of a shape -/

namespace Shape

variable {shape : Shape α} {spells : α → Text → Prop}

theorem Reads.cover_spans (reads : shape.Reads spells) (text : Text) :
    Span.Cover spells text (shape.spans text) where
  occurs := fun _ => (scans_spans reads text).occurs_of_mem
  start_lt_stop := by
    intro span found
    exact ((scans_spans reads text).occurs_of_mem found).start_lt_stop reads
  ordered :=
    (scans_spans reads text).pairwise_stop_le_start fun _ occurs => occurs.start_lt_stop reads
  known := fun first second => first.eq_of_start reads second
  covered := fun _ occurs => (scans_spans reads text).covers occurs (Nat.zero_le _)

/-- **The spans of a shape are all that its spelling covers**, and no other list is. -/
theorem Reads.cover_iff (reads : shape.Reads spells) {text : Text} {spans : List (Span α)} :
    Span.Cover spells text spans ↔ spans = shape.spans text := by
  constructor
  · intro cover
    apply eq_spans_of_scans reads
    exact .of_covered cover.occurs cover.start_lt_stop (fun _ _ => Nat.zero_le _) cover.ordered
      fun span occurs _ => cover.covered span occurs
  · rintro rfl
    exact reads.cover_spans text

end Shape

end ShallowCpp
