import ShallowCpp.Outline.Body
import ShallowCpp.Proofs.Outline.Declaration
import ShallowCpp.Proofs.Token.Places

/-!
# Types of declarations among the fragments of a line

A declaration on a line is looked for from its type on, and nothing is asked of the text in front. A
blank follows the type, so it is the end of a fragment of the line. The fragment starts where the
run of plain characters in front of the type starts, and goes beyond the type if there is any such
character (`IsRun.exists_endsFragmentAt`): then the type is no word of the line but the end of a
longer one (`declared_type_ends_fragment`).
-/

set_option autoImplicit false

namespace ShallowCpp

open Text Token

/-! ## Words at the end of a fragment -/

/-- A text ends in a run of a class that reaches to the front as far as it can. -/
theorem Text.exists_append_run (inClass : Char → Bool) (text : Text) :
    ∃ front run, text = front ++ run ∧ EndsRun inClass front.reverse ∧
      ∀ char ∈ run, inClass char = true := by
  refine ⟨(text.reverse.dropWhile inClass).reverse, (text.reverse.takeWhile inClass).reverse,
    ?_, ?_, ?_⟩
  · rw [← List.reverse_append, List.takeWhile_append_dropWhile, List.reverse_reverse]
  · rw [List.reverse_reverse]
    exact endsRun_dropWhile inClass _
  · intro char member
    exact List.mem_takeWhile_imp (List.mem_reverse.mp member)

namespace Token

/-- The word stands at the offset as the end of a fragment, with the rest of this fragment, `lead`,
in front of it. -/
def EndsFragmentAt (text : Text) (offset : Nat) (lead word : Text) : Prop :=
  ∃ front behind, text = front ++ (lead ++ (word ++ behind)) ∧
    offset = front.length + lead.length ∧
    fragments text = fragments front ++ (lead ++ word) :: fragments behind

/-- The fragment of which a word is the end. -/
theorem EndsFragmentAt.mem_fragments {text lead word : Text} {offset : Nat}
    (ends : EndsFragmentAt text offset lead word) : lead ++ word ∈ fragments text := by
  obtain ⟨front, behind, -, -, cut⟩ := ends
  simp [cut]

/-- **A run is the end of a fragment**: the plain characters in front of it belong to the fragment
as well. It is the whole fragment if it does not go on to the front. -/
theorem IsRun.exists_endsFragmentAt {word behind : Text} (isRun : IsRun word)
    (ends : EndsRun isPlain behind) (before : Text) :
    ∃ lead, EndsFragmentAt (before ++ (word ++ behind)) before.length lead word ∧
      (lead = [] ↔ EndsRun isPlain before.reverse) := by
  obtain ⟨front, lead, rfl, starts, plain⟩ := exists_append_run isPlain before
  refine ⟨lead, ⟨front, behind, List.append_assoc _ _ _, List.length_append, ?_⟩, ?_⟩
  · have isLonger : IsRun (lead ++ word) := by
      refine ⟨List.append_ne_nil_of_right_ne_nil lead isRun.ne_nil, fun char member => ?_⟩
      exact (List.mem_append.mp member).elim (plain char) (isRun.plain char)
    have apart : ∀ left ∈ front.getLast?, ∀ right ∈ (lead ++ word ++ behind).head?,
        (isPlain left && isPlain right) = false := by
      intro left last right _
      rw [starts left (by rwa [List.head?_reverse]), Bool.false_and]
    rw [List.append_assoc, ← List.append_assoc lead, fragments_append front _ apart,
      IsCutOff.fragments_append (.inr ⟨isLonger, ends⟩)]
  · constructor
    · rintro rfl
      rwa [List.append_nil]
    · intro stops
      by_contra goesOn
      rw [List.reverse_append] at stops
      have isLead : IsRun lead.reverse := by
        refine ⟨List.reverse_ne_nil_iff.mpr goesOn, fun char member => ?_⟩
        exact plain char (List.mem_reverse.mp member)
      exact isLead.not_endsRun front.reverse stops

/-- A run stands at an offset exactly when it does not go on to the front. -/
theorem IsRun.standsAt_iff {before word behind : Text} (isRun : IsRun word)
    (ends : EndsRun isPlain behind) :
    StandsAt (before ++ (word ++ behind)) before.length word ↔ EndsRun isPlain before.reverse := by
  constructor
  · rintro ⟨before', behind', cut, size, sort⟩
    obtain ⟨rfl, -⟩ := List.append_inj cut size.symm
    rcases sort with single | ⟨-, stops, -⟩
    · exact absurd (single.endsRun behind) (isRun.not_endsRun behind)
    · exact stops
  · intro stops
    exact ⟨before, behind, rfl, rfl, .inr ⟨isRun, stops, ends⟩⟩

end Token

/-! ## Lines with declarations -/

/-- The declaration on a line is the leftmost one that is spelled on it. -/
theorem Statement.exists_isLeftmost_of_ofLine? {line : Text} {decl : VariableDecl}
    (read : ofLine? line = some (.declaration decl)) :
    ∃ span : Span VariableDecl, span.value = decl ∧
      Span.IsLeftmost (Span.OccursIn VariableDecl.Spells line) 0 span := by
  rw [ofLine?] at read
  split at read
  next => cases read
  next =>
    split at read
    next span first =>
      have scans := Shape.scans_spans VariableDecl.reads_shape line
      refine ⟨span, Statement.declaration.inj (Option.some.inj read), ?_⟩
      generalize VariableDecl.shape.spans line = spans at first scans
      cases scans with
      | done => cases first
      | found leftmost => exact Option.some.inj first ▸ leftmost
    next =>
      split at read
      next => cases read
      next =>
        split at read
        next => cases read
        next => cases read

/-- The type of a declaration is the end of a fragment. -/
theorem VariableDecl.exists_endsFragmentAt {line : Text} {span : Span VariableDecl}
    (occurs : span.OccursIn Spells line) :
    ∃ lead, EndsFragmentAt line span.start lead span.value.type ∧
      (lead = [] ↔ StandsAt line span.start span.value.type) := by
  obtain ⟨before, written, behind, rfl, spelled, start, -⟩ := occurs
  rw [start]
  generalize span.value = decl at spelled
  cases spelled with
  | @parts type gap name space ending init primitive nonempty gapBlank =>
    rw [List.append_assoc]
    have isRun := isRun_of_word (word_of_mem_primitiveTypes primitive)
    have ends : EndsRun isPlain (gap ++ (name ++ (space ++ ending)) ++ behind) := by
      obtain ⟨char, others, rfl⟩ := List.exists_cons_of_ne_nil nonempty
      exact endsRun_cons.mpr (isPlain_of_isBlank (gapBlank char List.mem_cons_self))
    rw [isRun.standsAt_iff ends]
    exact isRun.exists_endsFragmentAt ends before

/-- **The type of a declaration is the end of a fragment of its line.** A line of a body that yields
a declaration is read from the leftmost one that is spelled on it. The type that is found there is
the end of a fragment. It is a fragment of its own, and so a word of the line, exactly when the
fragment has nothing in front of the type. -/
theorem declared_type_ends_fragment (body line : Text) (isLine : line ∈ lines body)
    (decl : VariableDecl) (read : Statement.ofLine? (trim line) = some (.declaration decl)) :
    .declaration decl ∈ Statement.ofBody body ∧
      ∃ (span : Span VariableDecl) (lead : Text), span.value = decl ∧
        Span.IsLeftmost (Span.OccursIn VariableDecl.Spells (trim line)) 0 span ∧
        EndsFragmentAt (trim line) span.start lead decl.type ∧
        lead ++ decl.type ∈ fragments line ∧
        (lead = [] ↔ StandsAt (trim line) span.start decl.type) := by
  refine ⟨List.mem_filterMap.mpr ⟨line, isLine, read⟩, ?_⟩
  obtain ⟨span, rfl, leftmost⟩ := Statement.exists_isLeftmost_of_ofLine? read
  obtain ⟨lead, ends, whole⟩ := VariableDecl.exists_endsFragmentAt leftmost.occurs
  refine ⟨span, lead, rfl, leftmost, ends, ?_, whole⟩
  rw [← fragments_trim]
  exact ends.mem_fragments

/-- The end of the word `print` is taken for the type of `x`. -/
theorem declared_type_ends_fragment_of_print :
    "  print x = 2;".toList ∈ lines "int y;\n  print x = 2;".toList ∧
      Statement.ofLine? (trim "  print x = 2;".toList) =
        some (.declaration ⟨"x".toList, "int".toList, some "2".toList⟩) ∧
      ∃ (span : Span VariableDecl) (lead : Text),
        EndsFragmentAt (trim "  print x = 2;".toList) span.start lead "int".toList ∧
        lead ++ "int".toList ∈ fragments "  print x = 2;".toList ∧ lead ≠ [] ∧
        ¬StandsAt (trim "  print x = 2;".toList) span.start "int".toList := by
  have isLine : "  print x = 2;".toList ∈ lines "int y;\n  print x = 2;".toList := by decide
  have read : Statement.ofLine? (trim "  print x = 2;".toList) =
      some (.declaration ⟨"x".toList, "int".toList, some "2".toList⟩) := by decide
  obtain ⟨-, span, lead, -, -, ends, member, whole⟩ :=
    declared_type_ends_fragment _ _ isLine _ read
  have longer : lead ≠ [] := by
    rintro rfl
    exact absurd member (by decide)
  exact ⟨isLine, read, span, lead, ends, member, longer, mt whole.mpr longer⟩

/-- The type of a declaration need not be a word of its line. -/
theorem declared_type_missing_among_fragments :
    lines "print x;".toList = ["print x;".toList] ∧
      Statement.ofBody "print x;".toList = [.declaration ⟨"x".toList, "int".toList, none⟩] ∧
      fragments "print x;".toList = ["print".toList, "x".toList, ";".toList] ∧
      "int".toList ∉ fragments "print x;".toList := by
  decide

end ShallowCpp
