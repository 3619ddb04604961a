import ShallowCpp.Shape.Scan

/-!
# What a scan finds

A spelling says which texts spell which values. A shape reads a spelling when it takes a value off
the front of a text exactly where the text starts with a spelling of that value. The value and the
text behind it are then fixed by the text, because a shape is a function.

A value occurs in a text at a span when the text between the ends of the span spells it. Scanning
from an offset means to go to the leftmost occurrence that starts at the offset or behind it, and to
scan on from the end of that occurrence, until no occurrence is left. This describes one list of
spans for each text, and the spans of a shape are that list (`scans_spans`, `eq_spans_of_scans`).
Occurrences may overlap, and then a scan passes over some of them; but every occurrence starts
inside a span that the scan finds (`Span.Scans.covers`).
-/

set_option autoImplicit false

namespace ShallowCpp

variable {α : Type}

namespace Shape

/-- The shape takes exactly the spelled values off the front of a text, and no spelling is empty. -/
structure Reads (shape : Shape α) (spells : α → Text → Prop) : Prop where
  /-- A value is read where the text starts with a spelling of it. -/
  eq_some_iff : ∀ {text behind : Text} {value : α},
    shape text = some (value, behind) ↔ ∃ written, spells value written ∧ text = written ++ behind
  /-- A spelling has at least one character. -/
  ne_nil : ∀ {value : α} {written : Text}, spells value written → written ≠ []

/-- A spelling is read whatever follows it. -/
theorem Reads.eq_some {shape : Shape α} {spells : α → Text → Prop} (reads : shape.Reads spells)
    {value : α} {written : Text} (spelled : spells value written) (behind : Text) :
    shape (written ++ behind) = some (value, behind) :=
  reads.eq_some_iff.mpr ⟨written, spelled, rfl⟩

end Shape

namespace Span

/-- The text between the ends of the span spells its value. -/
def OccursIn (spells : α → Text → Prop) (text : Text) (span : Span α) : Prop :=
  ∃ before written behind, text = before ++ (written ++ behind) ∧ spells span.value written ∧
    span.start = before.length ∧ span.stop = before.length + written.length

/-- The span is an occurrence at or behind the offset, and no such occurrence starts before it. -/
structure IsLeftmost (isOccurrence : Span α → Prop) (offset : Nat) (span : Span α) : Prop where
  occurs : isOccurrence span
  offset_le : offset ≤ span.start
  start_le : ∀ other, isOccurrence other → offset ≤ other.start → span.start ≤ other.start

/-- The spans found from an offset on: the leftmost occurrence, then those found from its end on. -/
inductive Scans (isOccurrence : Span α → Prop) : Nat → List (Span α) → Prop where
  | done {offset : Nat} :
      (∀ span, isOccurrence span → span.start < offset) → Scans isOccurrence offset []
  | found {offset : Nat} {span : Span α} {others : List (Span α)} :
      IsLeftmost isOccurrence offset span → Scans isOccurrence span.stop others →
        Scans isOccurrence offset (span :: others)

end Span

/-! ## Occurrences of what a shape reads -/

namespace Span.OccursIn

variable {shape : Shape α} {spells : α → Text → Prop} {text : Text} {first second : Span α}

theorem start_lt_stop (reads : shape.Reads spells) (occurs : first.OccursIn spells text) :
    first.start < first.stop := by
  obtain ⟨before, written, behind, -, spelled, start, stop⟩ := occurs
  have nonempty := List.length_pos_iff.mpr (reads.ne_nil spelled)
  omega

theorem stop_le (occurs : first.OccursIn spells text) : first.stop ≤ text.length := by
  obtain ⟨before, written, behind, rfl, -, -, stop⟩ := occurs
  simp only [List.length_append]
  omega

/-- From one offset a shape reads at most one value, so an occurrence is known by its start. -/
theorem eq_of_start (reads : shape.Reads spells) (occursFirst : first.OccursIn spells text)
    (occursSecond : second.OccursIn spells text) (start : first.start = second.start) :
    first = second := by
  obtain ⟨before, written, behind, rfl, spelled, startFirst, stopFirst⟩ := occursFirst
  obtain ⟨before', written', behind', cut, spelled', startSecond, stopSecond⟩ := occursSecond
  obtain ⟨rfl, rest⟩ := List.append_inj cut (by omega)
  have readFirst := reads.eq_some spelled behind
  have readSecond := reads.eq_some spelled' behind'
  rw [← rest] at readSecond
  obtain ⟨value, rfl⟩ := Prod.mk.inj (Option.some.inj (readFirst.symm.trans readSecond))
  obtain rfl := List.append_cancel_right rest
  rcases first with ⟨start₁, stop₁, value₁⟩
  rcases second with ⟨start₂, stop₂, value₂⟩
  simp only at start startFirst startSecond stopFirst stopSecond value
  rw [Span.mk.injEq]
  exact ⟨start, by omega, value⟩

end Span.OccursIn

/-! ## Scans -/

namespace Span.Scans

variable {isOccurrence : Span α → Prop} {offset : Nat} {spans others : List (Span α)}

/-- Whatever a scan finds is an occurrence. -/
theorem occurs_of_mem (scans : Scans isOccurrence offset spans) {span : Span α}
    (member : span ∈ spans) : isOccurrence span := by
  induction scans with
  | done _ => cases member
  | found leftmost _ ih =>
    rcases List.mem_cons.mp member with rfl | later
    · exact leftmost.occurs
    · exact ih later

/-- **Every occurrence starts inside a span that is found.** -/
theorem covers (scans : Scans isOccurrence offset spans) {span : Span α}
    (occurs : isOccurrence span) (behind : offset ≤ span.start) :
    ∃ around ∈ spans, around.start ≤ span.start ∧ span.start < around.stop := by
  induction scans with
  | done exhausted => exact absurd (exhausted span occurs) (Nat.not_lt.mpr behind)
  | @found offset first others leftmost _ ih =>
    by_cases inside : span.start < first.stop
    · exact ⟨first, List.mem_cons_self, leftmost.start_le span occurs behind, inside⟩
    · obtain ⟨around, member, bounds⟩ := ih (Nat.not_lt.mp inside)
      exact ⟨around, List.mem_cons_of_mem first member, bounds⟩

/-- A span that is found is the leftmost one behind the start of the scan or behind another span
that is found. -/
theorem exists_isLeftmost (scans : Scans isOccurrence offset spans) {span : Span α}
    (member : span ∈ spans) :
    ∃ resume, (resume = offset ∨ ∃ earlier ∈ spans, resume = earlier.stop) ∧
      IsLeftmost isOccurrence resume span := by
  induction scans with
  | done _ => cases member
  | @found offset first others leftmost _ ih =>
    rcases List.mem_cons.mp member with rfl | later
    · exact ⟨offset, .inl rfl, leftmost⟩
    · obtain ⟨resume, origin, isLeftmost⟩ := ih later
      refine ⟨resume, .inr ?_, isLeftmost⟩
      rcases origin with rfl | ⟨earlier, found, rfl⟩
      · exact ⟨first, List.mem_cons_self, rfl⟩
      · exact ⟨earlier, List.mem_cons_of_mem first found, rfl⟩

/-- A text has one scan, provided that an occurrence is known by its start. -/
theorem unique
    (known : ∀ {first second : Span α}, isOccurrence first → isOccurrence second →
      first.start = second.start → first = second)
    (scans : Scans isOccurrence offset spans) (alsoScans : Scans isOccurrence offset others) :
    spans = others := by
  induction scans generalizing others with
  | done exhausted =>
    cases alsoScans with
    | done _ => rfl
    | found leftmost _ =>
      exact absurd (exhausted _ leftmost.occurs) (Nat.not_lt.mpr leftmost.offset_le)
  | found leftmost _ ih =>
    cases alsoScans with
    | done exhausted =>
      exact absurd (exhausted _ leftmost.occurs) (Nat.not_lt.mpr leftmost.offset_le)
    | found leftmost' rest =>
      have start := Nat.le_antisymm (leftmost.start_le _ leftmost'.occurs leftmost'.offset_le)
        (leftmost'.start_le _ leftmost.occurs leftmost.offset_le)
      obtain rfl := known leftmost.occurs leftmost'.occurs start
      rw [ih rest]

/-- Where no occurrence starts, a scan may as well begin one character later. -/
theorem of_succ (nowhere : ∀ span, isOccurrence span → span.start ≠ offset)
    (scans : Scans isOccurrence (offset + 1) spans) : Scans isOccurrence offset spans := by
  cases scans with
  | done exhausted =>
    refine .done fun span occurs => ?_
    have bound := exhausted span occurs
    have elsewhere := nowhere span occurs
    omega
  | found leftmost rest =>
    refine .found ⟨leftmost.occurs, Nat.le_of_succ_le leftmost.offset_le, ?_⟩ rest
    intro other occurs behind
    have elsewhere := nowhere other occurs
    exact leftmost.start_le other occurs (by omega)

end Span.Scans

namespace Shape

variable {shape : Shape α} {spells : α → Text → Prop}

/-- One step of the scan: a span that the shape reads at the front of the rest of a text is the
leftmost occurrence there. -/
theorem Reads.isLeftmost (reads : shape.Reads spells) (before : Text) {rest behind : Text}
    {value : α} (read : shape rest = some (value, behind)) :
    Span.IsLeftmost (Span.OccursIn spells (before ++ rest)) before.length
      ⟨before.length, before.length + (rest.length - behind.length), value⟩ := by
  obtain ⟨written, spelled, rfl⟩ := reads.eq_some_iff.mp read
  refine ⟨⟨before, written, behind, rfl, spelled, rfl, ?_⟩, Nat.le_refl _, fun _ _ => id⟩
  simp

/-- One step of the scan: where the shape reads nothing, no occurrence starts. -/
theorem Reads.start_ne (reads : shape.Reads spells) {before rest : Text}
    (refused : shape rest = none) (span : Span α) (occurs : span.OccursIn spells (before ++ rest)) :
    span.start ≠ before.length := by
  intro start
  obtain ⟨before', written, behind, cut, spelled, start', -⟩ := occurs
  obtain ⟨-, rfl⟩ := List.append_inj cut (by omega)
  have read := reads.eq_some spelled behind
  rw [refused] at read
  cases read

/-- The spans of a shape behind the part of a text that is passed already, of which `skip` further
characters belong to the span found last. -/
theorem scans_spansFrom (reads : shape.Reads spells) (before rest : Text) (skip : Nat) :
    Span.Scans (Span.OccursIn spells (before ++ rest)) (before.length + skip)
      (spansFrom shape before.length skip rest) := by
  -- The text passed grows by the character that the recursion takes, so the whole text is kept.
  induction rest generalizing before skip with
  | nil =>
    refine .done fun span occurs => ?_
    have nonempty := occurs.start_lt_stop reads
    have bound := occurs.stop_le
    simp only [List.append_nil] at bound
    omega
  | cons char rest ih =>
    have step := ih (before ++ [char])
    simp only [List.append_assoc, List.singleton_append, List.length_append, List.length_singleton]
      at step
    cases skip with
    | succ skip =>
      rw [spansFrom, Nat.add_comm skip 1, ← Nat.add_assoc]
      exact step skip
    | zero =>
      rw [spansFrom]
      split
      next refused => exact Span.Scans.of_succ (reads.start_ne refused) (step 0)
      next value behind read =>
        have leftmost := reads.isLeftmost before read
        have nonempty := leftmost.occurs.start_lt_stop reads
        refine .found leftmost ?_
        have resume := step ((char :: rest).length - behind.length - 1)
        have stop : before.length + 1 + ((char :: rest).length - behind.length - 1)
            = before.length + ((char :: rest).length - behind.length) := by
          simp only at nonempty
          omega
        rwa [stop] at resume

/-- **The spans of a shape are the scan of the text.** -/
theorem scans_spans (reads : shape.Reads spells) (text : Text) :
    Span.Scans (Span.OccursIn spells text) 0 (shape.spans text) :=
  scans_spansFrom reads [] text 0

/-- The scan of a text is the list of spans of the shape. -/
theorem eq_spans_of_scans (reads : shape.Reads spells) {text : Text} {spans : List (Span α)}
    (scans : Span.Scans (Span.OccursIn spells text) 0 spans) : spans = shape.spans text :=
  scans.unique (fun occursFirst occursSecond => occursFirst.eq_of_start reads occursSecond)
    (scans_spans reads text)

end Shape

end ShallowCpp
