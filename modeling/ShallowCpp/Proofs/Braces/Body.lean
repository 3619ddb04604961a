import ShallowCpp.Proofs.Braces.Check
import ShallowCpp.Proofs.Linkage

/-!
# The body that braces enclose

The body of a function is cut out by a count that starts behind the brace of its header, without
regard to what stands in front. Inside the body the height never falls below zero. The body ends in
front of a closing brace, and is balanced then, or it reaches to the end of the text; in the latter
case no brace closes the one that opens it (`bodyCloses_or_bodyStaysOpen`).

In a source in which the check of braces finds nothing the latter case cannot arise: the height of
the whole would have to come down behind the brace of the header, and it does not
(`check_vouches_for_bodies`).
-/

set_option autoImplicit false

namespace ShallowCpp

namespace Braces

/-- The two braces are partners: what stands between them is balanced. -/
structure ClosedAt (text : Text) (opening closing : Nat) : Prop where
  opens : text[opening]? = some '{'
  closes : text[closing]? = some '}'
  ordered : opening < closing
  balanced : Dyck (((text.take closing).drop (opening + 1)).filter isBrace)

/-- Two partners cut a text into three parts, the middle one of which is balanced. -/
theorem closedAt_iff {text : Text} {opening closing : Nat} :
    ClosedAt text opening closing ↔
      ∃ front inner behind, text = front ++ '{' :: (inner ++ '}' :: behind) ∧
        front.length = opening ∧ (front ++ '{' :: inner).length = closing ∧
        Dyck (inner.filter isBrace) := by
  constructor
  · rintro ⟨opens, closes, ordered, balanced⟩
    obtain ⟨inText, there⟩ := List.getElem?_eq_some_iff.mp opens
    obtain ⟨inText', there'⟩ := List.getElem?_eq_some_iff.mp closes
    have inFront : (text.take closing).take opening = text.take opening := by
      rw [List.take_take, Nat.min_eq_left (Nat.le_of_lt ordered)]
    have shorter : opening < (text.take closing).length := by
      rw [List.length_take]
      omega
    have cut : text.take closing =
        text.take opening ++ '{' :: (text.take closing).drop (opening + 1) := by
      conv_lhs => rw [← List.take_append_drop opening (text.take closing)]
      rw [inFront, List.drop_eq_getElem_cons shorter, List.getElem_take, there]
    refine ⟨text.take opening, (text.take closing).drop (opening + 1), text.drop (closing + 1),
      ?_, ?_, ?_, balanced⟩
    · rw [← List.cons_append, ← List.append_assoc, ← cut, ← there',
        ← List.drop_eq_getElem_cons inText', List.take_append_drop]
    · rw [List.length_take]
      omega
    · rw [← cut, List.length_take]
      omega
  · rintro ⟨front, inner, behind, rfl, rfl, rfl, balanced⟩
    have front_lt : front.length < (front ++ '{' :: inner).length := by simp
    have between : ((front ++ '{' :: (inner ++ '}' :: behind)).take
        (front ++ '{' :: inner).length).drop (front.length + 1) = inner := by
      rw [← List.cons_append, ← List.append_assoc, List.take_left]
      simp
    refine ⟨by simp, ?_, front_lt, ?_⟩
    · rw [← List.cons_append, ← List.append_assoc]
      simp
    · rw [between]
      exact balanced

/-! ## Counting from the inside -/

/-- While `depth` blocks are open, the text is cut in front of the first brace that closes one more,
or nowhere. -/
structure IsCut (depth : Nat) (text inside : Text) : Prop where
  floor : ∀ offset, -(depth : Int) ≤ height inside offset
  ends : (∃ behind, text = inside ++ '}' :: behind ∧ height inside inside.length = -(depth : Int)) ∨
    inside = text

/-- A character that stays inside moves the number of open blocks by what it adds to the height. -/
theorem IsCut.cons {depth deeper : Nat} {char : Char} {rest inside : Text}
    (cut : IsCut deeper rest inside) (moves : (deeper : Int) = depth + step char) :
    IsCut depth (char :: rest) (char :: inside) where
  floor := by
    intro offset
    cases offset with
    | zero => simp
    | succ offset =>
      have above := cut.floor offset
      rw [height_cons_succ]
      omega
  ends := by
    rcases cut.ends with ⟨behind, rfl, down⟩ | rfl
    · refine .inl ⟨behind, rfl, ?_⟩
      rw [List.length_cons, height_cons_succ, down]
      omega
    · exact .inr rfl

theorem isCut_enclosed (depth : Nat) (text : Text) : IsCut depth text (enclosed depth text) := by
  fun_induction enclosed depth text with
  | case1 depth => exact ⟨by simp [height], .inr rfl⟩
  | case2 depth rest ih => exact ih.cons (by simp)
  | case3 rest => exact ⟨by simp [height], .inl ⟨rest, rfl, by simp⟩⟩
  | case4 rest _ depth ih => exact ih.cons (by simp)
  | case5 depth char rest opensNone closesNone ih =>
    exact ih.cons (by simp [step_other opensNone closesNone])

/-! ## Bodies -/

theorem isCut_body (text : Text) : IsCut 0 text (body text) :=
  isCut_enclosed 0 text

theorem height_body_nonneg (text : Text) (offset : Nat) : 0 ≤ height (body text) offset := by
  simpa using (isCut_body text).floor offset

/-- No beginning of a body has more closing than opening braces. -/
theorem count_le_of_prefix_body {text beginning : Text} (isPrefix : beginning <+: body text) :
    beginning.count '}' ≤ beginning.count '{' := by
  have floor := height_body_nonneg text beginning.length
  rw [height, ← List.prefix_iff_eq_take.mp isPrefix] at floor
  omega

/-- A body is balanced and ends in front of a closing brace, or it is all of the text. -/
theorem body_cases (text : Text) :
    (∃ behind, text = body text ++ '}' :: behind ∧ Dyck ((body text).filter isBrace)) ∨
      body text = text := by
  rcases (isCut_body text).ends with ⟨behind, cut, down⟩ | whole
  · refine .inl ⟨behind, cut, (dyck_filter_iff _).mpr ⟨fun offset _ => ?_, ?_⟩⟩
    · exact height_body_nonneg text offset
    · simpa using down
  · exact .inr whole

/-- If a body reaches to the end, nothing in it closes the brace in front of it. -/
theorem not_closedAt_of_body_eq {before text : Text} (whole : body text = text) (closing : Nat) :
    ¬ClosedAt (before ++ '{' :: text) before.length closing := by
  rintro ⟨-, closes, ordered, balanced⟩
  obtain ⟨size, rfl⟩ : ∃ size, closing = before.length + 1 + size :=
    ⟨closing - (before.length + 1), by omega⟩
  have between : ((before ++ '{' :: text).take (before.length + 1 + size)).drop
      (before.length + 1) = text.take size := by
    rw [List.drop_take, Nat.add_sub_cancel_left]
    simp
  have here : text[size]? = some '}' := by
    rw [← closes, Nat.add_assoc, List.getElem?_append_right (Nat.le_add_right _ _)]
    simp [Nat.add_comm 1 size]
  -- Up to the partner the text is balanced, so the partner would take the height below zero.
  have level : height text size = 0 := by
    rw [between] at balanced
    have last := ((dyck_filter_iff _).mp balanced).2
    rwa [height, List.take_length] at last
  have falls := height_succ here
  have floor := height_body_nonneg text (size + 1)
  rw [whole] at floor
  rw [step_closing] at falls
  omega

/-- Behind an opening brace of a balanced text no body reaches to the end. -/
theorem body_ne_of_dyck {before text : Text}
    (balanced : Dyck ((before ++ '{' :: text).filter isBrace)) : body text ≠ text := by
  intro whole
  obtain ⟨floor, last⟩ := (dyck_filter_iff _).mp balanced
  have front := floor before.length (by simp)
  have inside := height_body_nonneg text text.length
  rw [whole] at inside
  have start := height_append before ('{' :: text) 0
  rw [height_zero, Nat.add_zero] at start
  rw [List.length_append, height_append, List.length_cons, height_cons_succ, step_opening] at last
  omega

end Braces

/-! ## Bodies behind headers -/

namespace Header

/-- The body that is cut out behind a header. -/
def bodyAt (source : Text) (span : Span Header) : Text :=
  Braces.body (source.drop span.stop)

/-- The body is balanced and a closing brace follows it in the source. -/
def BodyCloses (source : Text) (span : Span Header) : Prop :=
  (∃ behind, source.drop span.stop = bodyAt source span ++ '}' :: behind) ∧
    Braces.Dyck ((bodyAt source span).filter Braces.isBrace)

/-- The body reaches to the end of the source, where nothing has closed the brace of the header. -/
def BodyStaysOpen (source : Text) (span : Span Header) : Prop :=
  bodyAt source span = source.drop span.stop ∧
    ∀ closing, ¬Braces.ClosedAt source (span.stop - 1) closing

theorem bodyCloses_or_bodyStaysOpen {source : Text} {span : Span Header}
    (occurs : span.OccursIn (Spells '{') source) :
    BodyCloses source span ∨ BodyStaysOpen source span := by
  obtain ⟨front, stop, cut⟩ := exists_final_of_occursIn occurs
  rcases Braces.body_cases (source.drop span.stop) with ⟨behind, closed, balanced⟩ | whole
  · exact .inl ⟨⟨behind, closed⟩, balanced⟩
  · refine .inr ⟨whole, fun closing partners => ?_⟩
    rw [stop, Nat.add_sub_cancel, cut] at partners
    exact Braces.not_closedAt_of_body_eq whole closing partners

theorem BodyCloses.not_bodyStaysOpen {source : Text} {span : Span Header}
    (closes : BodyCloses source span) : ¬BodyStaysOpen source span := by
  rintro ⟨whole, -⟩
  obtain ⟨behind, cut⟩ := closes.1
  rw [whole, List.self_eq_append_right] at cut
  cases cut

/-- Where the check finds nothing in the source, the body of a header is closed. -/
theorem bodyCloses_of_check {source : Text} (silent : Braces.check source = [])
    {span : Span Header} (occurs : span.OccursIn (Spells '{') source) :
    BodyCloses source span := by
  obtain ⟨front, -, cut⟩ := exists_final_of_occursIn occurs
  have balanced := (Braces.check_eq_nil_iff source).mp silent
  rw [cut] at balanced
  rcases bodyCloses_or_bodyStaysOpen occurs with closed | ⟨whole, -⟩
  · exact closed
  · exact absurd whole (Braces.body_ne_of_dyck balanced)

end Header

/-- **The check of braces vouches for the bodies that are cut out.** Behind a header, no beginning
of the body has more closing than opening braces; the body is balanced and a closing brace follows
it, or it reaches to the end and no brace closes that of the header. Where the check finds nothing
in the source, all bodies are of the former sort, those of the functions of the outline among them,
and the check finds nothing in a body either. -/
theorem check_vouches_for_bodies (source : Text) :
    (∀ span, Span.OccursIn (Header.Spells '{') source span →
      (∀ beginning, beginning <+: Header.bodyAt source span →
        beginning.count '}' ≤ beginning.count '{') ∧
      (Header.BodyCloses source span ∨ Header.BodyStaysOpen source span)) ∧
    (Braces.check source = [] →
      (∀ span, Span.OccursIn (Header.Spells '{') source span →
        ¬Header.BodyStaysOpen source span) ∧
      ∀ function ∈ (Program.ofSource source).functions, ∃ span,
        Header.FoundIn '{' source span ∧ function = .ofSpan source span ∧
          function.body = Statement.ofBody (Header.bodyAt source span) ∧
          Header.BodyCloses source span ∧ Braces.check (Header.bodyAt source span) = []) := by
  constructor
  · intro span occurs
    exact ⟨fun _ => Braces.count_le_of_prefix_body, Header.bodyCloses_or_bodyStaysOpen occurs⟩
  · intro silent
    constructor
    · intro span occurs
      exact (Header.bodyCloses_of_check silent occurs).not_bodyStaysOpen
    · intro function member
      obtain ⟨span, definition, -, rfl⟩ := Program.mem_functions_iff.mp member
      have closes := Header.bodyCloses_of_check silent definition.1.occursIn
      exact ⟨span, definition.1, rfl, rfl, closes, (Braces.check_eq_nil_iff _).mpr closes.2⟩

/-- The function has a block in its body, and a second function stands behind it. -/
theorem check_vouches_for_nested_body :
    Braces.check "int f() { {} }\nint g() {}".toList = [] ∧
      Header.bodyAt "int f() { {} }\nint g() {}".toList ⟨0, 9, ⟨"int".toList, "f".toList, []⟩⟩ =
        " {} ".toList ∧
      ¬Header.BodyStaysOpen "int f() { {} }\nint g() {}".toList
        ⟨0, 9, ⟨"int".toList, "f".toList, []⟩⟩ ∧
      ∃ function ∈ (Program.ofSource "int f() { {} }\nint g() {}".toList).functions,
        function.name = "f".toList ∧ ∃ span,
          Header.BodyCloses "int f() { {} }\nint g() {}".toList span ∧
            function.body =
              Statement.ofBody (Header.bodyAt "int f() { {} }\nint g() {}".toList span) := by
  have silent : Braces.check "int f() { {} }\nint g() {}".toList = [] := by decide
  have found : Header.FoundIn '{' "int f() { {} }\nint g() {}".toList
      ⟨0, 9, ⟨"int".toList, "f".toList, []⟩⟩ := (Header.foundIn_iff (by decide)).mpr (by decide)
  have listed : ∃ function ∈ (Program.ofSource "int f() { {} }\nint g() {}".toList).functions,
      function.name = "f".toList := by decide
  obtain ⟨stays, bodies⟩ := (check_vouches_for_bodies "int f() { {} }\nint g() {}".toList).2 silent
  obtain ⟨function, member, named⟩ := listed
  obtain ⟨span, -, -, cut, closes, -⟩ := bodies function member
  exact ⟨silent, rfl, stays _ found.occursIn, function, member, named, span, closes, cut⟩

end ShallowCpp
