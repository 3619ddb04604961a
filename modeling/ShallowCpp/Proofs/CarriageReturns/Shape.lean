import ShallowCpp.Proofs.CarriageReturns.Text
import ShallowCpp.Proofs.Header
import ShallowCpp.Proofs.Outline.Declaration
import ShallowCpp.Proofs.Shape.Steps

/-!
# Shapes and carriage returns

A shape keeps carriage returns when it reads off a text with carriage returns what it reads off the
text without them, the value adapted, and leaves the rest of the text with carriage returns. The
parts of headers and of declarations have this property, so headers and declarations have it too
(`Header.keepsReturns_shape`, `VariableDecl.keepsReturns_shape`): the parameters of a header and the
initial value of a declaration may reach over several lines and get carriage returns, while names
and types are words and get none.

A scan for such a shape finds spans at corresponding places (`Shape.spans_withReturns`). The place
that corresponds to an offset is behind the text in front of it, with its carriage returns.
-/

set_option autoImplicit false

namespace ShallowCpp

open Text

/-! ## Corresponding places -/

namespace Text

/-- The offset in the text with carriage returns that corresponds to an offset in the text. -/
def placeOf (text : Text) (offset : Nat) : Nat :=
  (withReturns (text.take offset)).length

theorem placeOf_length (front behind : Text) :
    placeOf (front ++ behind) front.length = (withReturns front).length := by
  rw [placeOf, List.take_left]

theorem withReturns_eq_append (text : Text) (offset : Nat) :
    withReturns text = withReturns (text.take offset) ++ withReturns (text.drop offset) := by
  rw [← withReturns_append, List.take_append_drop]

theorem drop_placeOf (text : Text) (offset : Nat) :
    (withReturns text).drop (placeOf text offset) = withReturns (text.drop offset) := by
  rw [withReturns_eq_append text offset, placeOf, List.drop_left]

/-- Corresponding places are on the same line. -/
theorem lineAt_placeOf (text : Text) (offset : Nat) :
    lineAt (withReturns text) (placeOf text offset) = lineAt text offset := by
  rw [lineAt, lineAt, withReturns_eq_append text offset, placeOf, List.take_left,
    count_lineFeed_withReturns]

end Text

/-- The span at the corresponding places, with its value adapted. -/
def Span.withReturns {α : Type} (adapt : α → α) (text : Text) (span : Span α) : Span α :=
  ⟨placeOf text span.start, placeOf text span.stop, adapt span.value⟩

namespace Shape

variable {α β : Type}

/-- What is read off a text with carriage returns is what is read off the text, adapted. -/
def KeepsReturns (shape : Shape α) (adapt : α → α) : Prop :=
  ∀ text, shape (withReturns text) = (shape text).map (Prod.map adapt withReturns)

/-- One reader behind another. -/
theorem bind_withReturns {read read' : Option (α × Text)}
    {next next' : α × Text → Option (β × Text)} {adapt : α → α} {adaptNext : β → β}
    (first : read' = read.map (Prod.map adapt withReturns))
    (second : ∀ value behind, next' (adapt value, withReturns behind) =
      (next (value, behind)).map (Prod.map adaptNext withReturns)) :
    read'.bind next' = (read.bind next).map (Prod.map adaptNext withReturns) := by
  rw [first]
  cases read with
  | none => rfl
  | some result => exact second result.1 result.2

/-! ## Small shapes -/

theorem keepsReturns_word : KeepsReturns word id := by
  intro text
  have oneLine : '\n' ∉ text.takeWhile isWord := by
    intro member
    exact absurd (List.mem_takeWhile_imp member) (by decide)
  simp only [word, List.span_eq_takeWhile_dropWhile, takeWhile_withReturns isWord (by decide),
    dropWhile_withReturns isWord (by decide), withReturns_of_notMem oneLine]
  cases text.takeWhile isWord with
  | nil => rfl
  | cons first others => rfl

theorem keepsReturns_gap : KeepsReturns gap id := by
  intro text
  cases text with
  | nil => rfl
  | cons char rest =>
    by_cases feed : char = '\n'
    · rw [feed]
      exact congrArg (fun behind => some ((), behind)) (trimStart_withReturns rest)
    · rw [withReturns_cons feed, gap, gap, trimStart_withReturns]
      split
      · rfl
      · rfl

theorem keepsReturns_parenthesised : KeepsReturns parenthesised withReturns := by
  intro text
  cases text with
  | nil => rfl
  | cons char rest =>
    by_cases feed : char = '\n'
    · rw [feed]
      rfl
    · rw [withReturns_cons feed, parenthesised, parenthesised,
        takeWhile_withReturns (· != ')') (by decide)]
      split_ifs
      · cases cut : rest.dropWhile (· != ')') with
        | nil =>
          rw [dropWhile_withReturns (· != ')') (by decide), cut]
          rfl
        | cons closing behind =>
          rw [cut_withReturns (by decide) (by decide) cut]
          rfl
      · rfl

theorem isPrefixOf?_withReturns {expected : Text} (noReturn : '\r' ∉ expected)
    (noFeed : '\n' ∉ expected) (text : Text) :
    expected.isPrefixOf? (withReturns text) = (expected.isPrefixOf? text).map withReturns := by
  induction expected generalizing text with
  | nil => simp [List.isPrefixOf?]
  | cons first others ih =>
    obtain ⟨firstNoReturn, othersNoReturn⟩ := not_or.mp (mt List.mem_cons.mpr noReturn)
    obtain ⟨firstNoFeed, othersNoFeed⟩ := not_or.mp (mt List.mem_cons.mpr noFeed)
    cases text with
    | nil => rfl
    | cons char rest =>
      by_cases feed : char = '\n'
      · simp [feed, List.isPrefixOf?, Ne.symm firstNoReturn, Ne.symm firstNoFeed]
      · rw [withReturns_cons feed, List.isPrefixOf?, List.isPrefixOf?,
          ih othersNoReturn othersNoFeed]
        split
        · rfl
        · rfl

theorem keepsReturns_literal {expected : Text} (noReturn : '\r' ∉ expected)
    (noFeed : '\n' ∉ expected) : KeepsReturns (literal expected) id := by
  intro text
  rw [literal, literal, isPrefixOf?_withReturns noReturn noFeed, Option.map_map, Option.map_map]
  rfl

/-! ## Scans -/

variable {shape : Shape α} {spells : α → Text → Prop} {adapt : α → α}

theorem spansFrom_withReturns (reads : shape.Reads spells) (keeps : shape.KeepsReturns adapt)
    (refuses : shape.RefusesBlanks) (before rest : Text) :
    spansFrom shape (withReturns before).length 0 (withReturns rest) =
      (spansFrom shape before.length 0 rest).map (Span.withReturns adapt (before ++ rest)) := by
  -- The text passed grows with every step, so that the whole text stays the same.
  induction rest using reads.scanInduction generalizing before with
  | nil => rfl
  | refused char rest read ih =>
    have step := ih (before ++ [char])
    rw [withReturns_append, List.length_append, List.append_assoc, List.singleton_append,
      List.length_append, List.length_singleton] at step
    rw [spansFrom_of_none read]
    by_cases feed : char = '\n'
    · subst feed
      rw [withReturns_lineFeed, spansFrom_of_none (refuses '\r' _ rfl),
        spansFrom_of_none (refuses '\n' _ rfl)]
      exact step
    · have stillRefused : shape (char :: withReturns rest) = none := by
        rw [← withReturns_cons feed, keeps, read]
        rfl
      rw [withReturns_cons feed, spansFrom_of_none stillRefused]
      rw [withReturns_cons feed] at step
      exact step
  | found value written behind spelled ih =>
    have step := ih (before ++ written)
    have spelledWithReturns : spells (adapt value) (withReturns written) := by
      have read : shape (withReturns (written ++ behind)) =
          some (adapt value, withReturns behind) := by
        rw [keeps, reads.eq_some spelled]
        rfl
      obtain ⟨other, otherSpelled, cut⟩ := reads.eq_some_iff.mp read
      rw [withReturns_append] at cut
      rwa [List.append_cancel_right cut]
    rw [withReturns_append, List.length_append, List.append_assoc, List.length_append] at step
    have stop : placeOf (before ++ (written ++ behind)) (before.length + written.length) =
        (withReturns before).length + (withReturns written).length := by
      rw [← List.append_assoc, ← List.length_append, placeOf_length, withReturns_append,
        List.length_append]
    rw [withReturns_append, reads.spansFrom_of_spells spelledWithReturns,
      reads.spansFrom_of_spells spelled, List.map_cons, step]
    simp only [Span.withReturns, placeOf_length, stop]

/-- **A scan finds spans at corresponding places.** -/
theorem spans_withReturns (reads : shape.Reads spells) (keeps : shape.KeepsReturns adapt)
    (refuses : shape.RefusesBlanks) (text : Text) :
    shape.spans (withReturns text) = (shape.spans text).map (Span.withReturns adapt text) :=
  spansFrom_withReturns reads keeps refuses [] text

end Shape

/-! ## Headers -/

/-- The header with carriage returns in its parameters. -/
def Header.withReturns (header : Header) : Header :=
  { header with params := Text.withReturns header.params }

theorem Header.keepsReturns_shape (final : Char) :
    (shape final).KeepsReturns Header.withReturns := by
  intro text
  refine Shape.bind_withReturns (Shape.keepsReturns_word text) fun returnType afterType => ?_
  refine Shape.bind_withReturns (Shape.keepsReturns_gap afterType) fun _ afterGap => ?_
  refine Shape.bind_withReturns (Shape.keepsReturns_word afterGap) fun name afterName => ?_
  have list := Shape.keepsReturns_parenthesised (trimStart afterName)
  rw [← trimStart_withReturns] at list
  refine Shape.bind_withReturns list fun params afterParams => ?_
  have remaining := trimStart_withReturns afterParams
  have visible : EndsRun isBlank (trimStart afterParams) := endsRun_dropWhile isBlank afterParams
  simp only [remaining]
  cases cut : trimStart afterParams with
  | nil => rfl
  | cons char behind =>
    have ordinary : char ≠ '\n' := by
      rintro rfl
      rw [cut, endsRun_cons] at visible
      cases visible
    rw [withReturns_cons ordinary]
    simp only
    split_ifs
    · rfl
    · rfl

/-! ## Declarations -/

namespace VariableDecl

/-- The declaration with carriage returns in its initial value. -/
def withReturns (decl : VariableDecl) : VariableDecl :=
  { decl with init := decl.init.map Text.withReturns }

theorem initialValue_withReturns (text : Text) :
    initialValue (Text.withReturns text) = Text.withReturns (initialValue text) := by
  rw [initialValue, dropWhile_withReturns (· == '=') (by decide), trim_withReturns, initialValue]

theorem findSome?_withReturns {types : List Text}
    (plain : ∀ type ∈ types, '\r' ∉ type ∧ '\n' ∉ type) (text : Text) :
    types.findSome? (fun type => (type.isPrefixOf? (Text.withReturns text)).map (type, ·)) =
      (types.findSome? fun type => (type.isPrefixOf? text).map (type, ·)).map
        (Prod.map id Text.withReturns) := by
  induction types with
  | nil => rfl
  | cons type others ih =>
    obtain ⟨⟨noReturn, noFeed⟩, rest⟩ := List.forall_mem_cons.mp plain
    rw [List.findSome?_cons, List.findSome?_cons, Shape.isPrefixOf?_withReturns noReturn noFeed,
      ih rest]
    cases type.isPrefixOf? text with
    | none => rfl
    | some behind => rfl

theorem keepsReturns_primitiveType : primitiveType.KeepsReturns id := by
  intro text
  exact findSome?_withReturns (by decide) text

theorem keepsReturns_ending : ending.KeepsReturns (Option.map Text.withReturns) := by
  intro text
  cases text with
  | nil => rfl
  | cons char rest =>
    by_cases feed : char = '\n'
    · rw [feed]
      rfl
    · rw [withReturns_cons feed, ending, ending, takeWhile_withReturns (· != ';') (by decide)]
      split_ifs
      · rfl
      · cases cut : rest.dropWhile (· != ';') with
        | nil =>
          rw [dropWhile_withReturns (· != ';') (by decide), cut]
          rfl
        | cons closing behind =>
          rw [cut_withReturns (by decide) (by decide) cut, initialValue_withReturns]
          rfl
      · rfl

theorem keepsReturns_shape : shape.KeepsReturns withReturns := by
  intro text
  refine Shape.bind_withReturns (keepsReturns_primitiveType text) fun type afterType => ?_
  refine Shape.bind_withReturns (Shape.keepsReturns_gap afterType) fun _ afterGap => ?_
  refine Shape.bind_withReturns (Shape.keepsReturns_word afterGap) fun name afterName => ?_
  have last := keepsReturns_ending (trimStart afterName)
  rw [← trimStart_withReturns] at last
  refine Shape.bind_withReturns last fun init behind => ?_
  rfl

end VariableDecl

end ShallowCpp
