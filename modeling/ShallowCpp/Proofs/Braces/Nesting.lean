import ShallowCpp.Proofs.Braces.Body

/-!
# Nested bodies

Every body is cut out by a count of its own, in a text that need not be balanced. Measured by the
height of the whole text, however, all counts do the same: inside a body the height stays at or
above that at its start, and where the body is closed it is back at that height (`isBlock_body`).

A body that starts inside another one starts behind an opening brace, so it starts higher, and it
cannot contain the place where the outer body is closed. Only where the outer body is not closed may
both end at the same place, the end of the text (`bodies_nested_or_apart`).
-/

set_option autoImplicit false

namespace ShallowCpp

namespace Braces

theorem body_isPrefix (text : Text) : body text <+: text := by
  rcases (isCut_body text).ends with ⟨behind, cut, -⟩ | whole
  · exact ⟨'}' :: behind, cut.symm⟩
  · exact ⟨[], by rw [List.append_nil, whole]⟩

/-- Up to the end of a beginning, its heights are those of the text. -/
theorem height_of_isPrefix {text beginning : Text} (isPrefix : beginning <+: text) {offset : Nat}
    (bound : offset ≤ beginning.length) : height beginning offset = height text offset := by
  obtain ⟨behind, rfl⟩ := isPrefix
  rw [height, height, List.take_append_of_le_length bound]

/-- The block from one offset to the other stays at the height of its start or above, and is back at
that height where it ends, unless it reaches to the end of the text. -/
structure IsBlock (text : Text) (start stop : Nat) : Prop where
  start_le : start ≤ stop
  stop_le : stop ≤ text.length
  floor : ∀ offset, start ≤ offset → offset ≤ stop → height text start ≤ height text offset
  level : stop < text.length → height text stop = height text start

/-- **A body is a block of the text in which it is cut out**, whatever stands in front of it. -/
theorem isBlock_body (before rest : Text) :
    IsBlock (before ++ rest) before.length (before.length + (body rest).length) := by
  have inside := body_isPrefix rest
  have start : height (before ++ rest) before.length = height before before.length := by
    simpa using height_append before rest 0
  refine ⟨Nat.le_add_right _ _, ?_, ?_, ?_⟩
  · rw [List.length_append]
    exact Nat.add_le_add_left inside.length_le _
  · intro offset behind bound
    obtain ⟨size, rfl⟩ := Nat.exists_eq_add_of_le behind
    have above := height_body_nonneg rest size
    rw [height_of_isPrefix inside (Nat.le_of_add_le_add_left bound)] at above
    rw [height_append, start]
    omega
  · intro closed
    rcases (isCut_body rest).ends with ⟨behind, -, down⟩ | whole
    · rw [height_of_isPrefix inside (Nat.le_refl _)] at down
      rw [height_append, start, down]
      simp
    · rw [whole, List.length_append] at closed
      exact absurd closed (Nat.lt_irrefl _)

/-- A block that starts behind an opening brace inside another block ends inside it, and before it
does unless both reach to the end of the text. -/
theorem IsBlock.nested_or_apart {text : Text} {start stop start' stop' : Nat}
    (outer : IsBlock text start stop) (inner : IsBlock text start' stop') (ordered : start < start')
    (opens : text[start' - 1]? = some '{') :
    (stop < start' ∨ stop' ≤ stop) ∧ (stop = stop' → stop = text.length) := by
  by_cases apart : stop < start'
  · have later := inner.start_le
    exact ⟨.inl apart, fun same => by omega⟩
  · have above := outer.floor (start' - 1) (by omega) (by omega)
    have rises := height_succ opens
    rw [Nat.sub_add_cancel (by omega), step_opening] at rises
    rcases Nat.lt_or_ge stop text.length with closed | reaches
    · have level := outer.level closed
      have before : stop' < stop := by
        by_contra later
        have floor := inner.floor stop (by omega) (by omega)
        omega
      exact ⟨.inr (Nat.le_of_lt before), fun same => by omega⟩
    · have bound := outer.stop_le
      have bound' := inner.stop_le
      exact ⟨.inr (by omega), fun _ => by omega⟩

end Braces

/-! ## The bodies of functions -/

namespace Header

/-- The offset at which the body behind a header ends: that of the brace that closes it, or the end
of the source. -/
def bodyEnd (source : Text) (span : Span Header) : Nat :=
  span.stop + (bodyAt source span).length

theorem isBlock_bodyEnd {source : Text} {span : Span Header}
    (occurs : span.OccursIn (Spells '{') source) :
    Braces.IsBlock source span.stop (bodyEnd source span) := by
  have block := Braces.isBlock_body (source.take span.stop) (source.drop span.stop)
  rwa [List.take_append_drop, List.length_take_of_le occurs.stop_le] at block

/-- The body is what stands between its two ends. -/
theorem bodyAt_eq_range (source : Text) (span : Span Header) :
    bodyAt source span = (source.take (bodyEnd source span)).drop span.stop := by
  rw [bodyEnd, List.drop_take, Nat.add_sub_cancel_left]
  exact List.prefix_iff_eq_take.mp (Braces.body_isPrefix _)

theorem opens_before_stop {source : Text} {span : Span Header}
    (occurs : span.OccursIn (Spells '{') source) : source[span.stop - 1]? = some '{' := by
  obtain ⟨front, stop, cut⟩ := exists_final_of_occursIn occurs
  rw [cut, stop, Nat.add_sub_cancel]
  simp

end Header

/-- **Bodies are nested or apart.** The statements of a function are read from what stands between
the two ends of its body. Of two headers that occur in a source, the body of the first ends in front
of that of the second, or contains it. The bodies end at the same place only if both reach to the
end of the source. -/
theorem bodies_nested_or_apart (source : Text) :
    (∀ span, (FunctionDecl.ofSpan source span).body =
      Statement.ofBody ((source.take (Header.bodyEnd source span)).drop span.stop)) ∧
    ∀ first second, Span.OccursIn (Header.Spells '{') source first →
      Span.OccursIn (Header.Spells '{') source second → first.stop < second.stop →
        (Header.bodyEnd source first < second.stop ∨
          Header.bodyEnd source second ≤ Header.bodyEnd source first) ∧
        (Header.bodyEnd source first = Header.bodyEnd source second →
          Header.bodyEnd source first = source.length ∧
            Header.bodyEnd source second = source.length) := by
  constructor
  · intro span
    rw [← Header.bodyAt_eq_range]
    rfl
  · intro first second occurs occurs' ordered
    have outer := Header.isBlock_bodyEnd occurs
    have inner := Header.isBlock_bodyEnd occurs'
    obtain ⟨placed, ends⟩ := outer.nested_or_apart inner ordered (Header.opens_before_stop occurs')
    exact ⟨placed, fun same => ⟨ends same, same ▸ ends same⟩⟩

/-- The first body is closed in front of the second header, and the bodies behind the second and the
third header are never closed. -/
theorem bodies_nested_or_apart_of_open_bodies :
    (Header.bodyEnd "int f() {}int g() \x7bint h() \x7b".toList
        ⟨0, 9, ⟨"int".toList, "f".toList, []⟩⟩ < 19 ∨
      Header.bodyEnd "int f() {}int g() \x7bint h() \x7b".toList
          ⟨10, 19, ⟨"int".toList, "g".toList, []⟩⟩ ≤
        Header.bodyEnd "int f() {}int g() \x7bint h() \x7b".toList
          ⟨0, 9, ⟨"int".toList, "f".toList, []⟩⟩) ∧
      Header.bodyEnd "int f() {}int g() \x7bint h() \x7b".toList
        ⟨10, 19, ⟨"int".toList, "g".toList, []⟩⟩ = 28 ∧
      Header.bodyEnd "int f() {}int g() \x7bint h() \x7b".toList
        ⟨19, 28, ⟨"int".toList, "h".toList, []⟩⟩ = 28 := by
  have found : ∀ span ∈ Program.functionHeader.spans "int f() {}int g() \x7bint h() \x7b".toList,
      Span.OccursIn (Header.Spells '{') "int f() {}int g() \x7bint h() \x7b".toList span :=
    fun _ member => ((Header.foundIn_iff (by decide)).mpr member).occursIn
  obtain ⟨-, placed⟩ := bodies_nested_or_apart "int f() {}int g() \x7bint h() \x7b".toList
  have second := found ⟨10, 19, ⟨"int".toList, "g".toList, []⟩⟩ (by decide)
  refine ⟨(placed _ _ (found _ (by decide)) second (by decide)).1, ?_⟩
  exact (placed _ _ second (found _ (by decide)) (by decide)).2 (by decide)

end ShallowCpp
