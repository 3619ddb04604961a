import ShallowCpp.Proofs.Acceptance

/-!
# The entry function of an accepted source

An accepted source mentions an entry point, but the mention may stand in a comment, and then no
function of the outline need be the entry function. It is one once the mention goes on to be a whole
header, of a definition or of a prototype, and does not stand among the parameters of another
header. A scan finds such a header, or one that starts further left in the same word
(`EntryPoint.exists_found`): any other header that reached over the mention would have to hold it
between its parentheses.

The listing then has a line on which the entry function starts, and the assembly text, which always
declares the entry point as a global symbol, has its label (`accepted_has_entry_function`).
-/

set_option autoImplicit false

namespace ShallowCpp

open Text

/-- The offset lies behind the opening parenthesis of a header that is found around it. -/
def Header.InParams (final : Char) (source : Text) (offset : Nat) : Prop :=
  ∃ span, Header.FoundIn final source span ∧ span.start ≤ offset ∧ offset < span.stop ∧
    '(' ∈ (source.take offset).drop span.start

/-- At the offset one of the beginnings of an entry point goes on to a whole header. -/
def EntryPoint.WrittenAt (final : Char) (source : Text) (offset : Nat) : Prop :=
  ∃ beginning ∈ EntryPoint.beginnings, ∃ before params blanks behind,
    before.length = offset ∧ ')' ∉ params ∧ Blank blanks ∧
      source = before ++ (beginning ++ (params ++ ')' :: (blanks ++ final :: behind)))

/-! ## Headers around a place -/

/-- The last two words of a text are read off from its end. -/
theorem Text.lastWords_unique {returnType gap name space inside first second : Text}
    (typeWord : Word returnType) (nonempty : gap ≠ []) (gapBlank : Blank gap) (nameWord : Word name)
    (spaceBlank : Blank space) (firstWord : Word first) (secondWord : Word second)
    (same : returnType ++ (gap ++ (name ++ space)) = inside ++ (first ++ ' ' :: second)) :
    returnType = inside ++ first ∧ name = second := by
  have backwards := congrArg List.reverse same
  simp only [List.reverse_append, List.reverse_cons, List.append_assoc] at backwards
  obtain ⟨-, backwards⟩ := run_unique spaceBlank.reverse blank_nil (nameWord.reverse.endsBlank _)
    (secondWord.reverse.endsBlank _) backwards
  obtain ⟨nameEq, backwards⟩ := run_unique nameWord.reverse.isWord secondWord.reverse.isWord
    (gapBlank.reverse.endsWord_of_ne_nil (List.reverse_ne_nil_iff.mpr nonempty) _)
    (blank_space.endsWord_of_ne_nil (List.cons_ne_nil _ _) _) backwards
  have typeEnds : EndsRun isBlank returnType.reverse := by
    simpa using typeWord.reverse.endsBlank []
  obtain ⟨-, backwards⟩ := run_unique gapBlank.reverse blank_space typeEnds
    (firstWord.reverse.endsBlank _) backwards
  refine ⟨?_, List.reverse_injective nameEq⟩
  rw [← List.reverse_append] at backwards
  exact List.reverse_injective backwards

/-- In front of its parenthesis a header has two words. If from some place there the text goes on
with two words and a parenthesis, then the second is the name and the first ends the return type. -/
theorem Header.Spells.eq_of_front {final : Char} {header : Header} {written : Text}
    (spelled : Header.Spells final header written) {inside first second rest behind : Text}
    (firstWord : Word first) (secondWord : Word second) (outside : '(' ∉ inside)
    (cut : written ++ behind = inside ++ (first ++ ' ' :: (second ++ '(' :: rest))) :
    header.returnType = inside ++ first ∧ header.name = second := by
  have wordFree : ∀ {word : Text}, Word word → '(' ∉ word := fun word => word.notMem rfl
  have blankFree : ∀ {blanks : Text}, Blank blanks → '(' ∉ blanks := fun blank => blank.notMem rfl
  cases spelled with
  | @parts returnType gap name space params blanks typeWord nonempty gapBlank nameWord spaceBlank
      paramsFree blank =>
    have free : '(' ∉ returnType ++ (gap ++ (name ++ space)) := by
      simp [wordFree typeWord, blankFree gapBlank, wordFree nameWord, blankFree spaceBlank]
    have free' : '(' ∉ inside ++ (first ++ ' ' :: second) := by
      simp [outside, wordFree firstWord, wordFree secondWord]
    -- Up to the first parenthesis the two readings of the text agree.
    have fronts := run_unique (ne_of_notMem free) (ne_of_notMem free') (endsRun_ne '(' _)
      (endsRun_ne '(' _) (by simpa using cut)
    exact lastWords_unique typeWord nonempty gapBlank nameWord spaceBlank firstWord secondWord
      fronts.1

/-- A beginning of an entry point is a type, a space, the name and a parenthesis, and no word that
starts a statement ends in that type. -/
theorem EntryPoint.parts_of_mem {beginning : Text} (member : beginning ∈ EntryPoint.beginnings) :
    ∃ type, Word type ∧ beginning = type ++ ' ' :: (EntryPoint.name ++ ['(']) ∧
      ∀ word ∈ Linkage.statementWords, ¬type <:+ word := by
  rcases List.mem_pair.mp member with rfl | rfl
  · exact ⟨"int".toList, ⟨by decide, List.all_eq_true.mp (by decide)⟩, rfl, by decide⟩
  · exact ⟨"void".toList, ⟨by decide, List.all_eq_true.mp (by decide)⟩, rfl, by decide⟩

theorem EntryPoint.word_name : Word EntryPoint.name :=
  ⟨by decide, List.all_eq_true.mp (by decide)⟩

/-- **A scan finds the header of an entry point** that is written out and stands among no other
header's parameters. -/
theorem EntryPoint.exists_found {final : Char} (final_notBlank : isBlank final = false)
    {source : Text} {offset : Nat} (written : EntryPoint.WrittenAt final source offset)
    (outside : ¬Header.InParams final source offset) :
    ∃ span, Header.FoundIn final source span ∧ span.value.returnType ∉ Linkage.statementWords ∧
      span.value.name = EntryPoint.name := by
  obtain ⟨beginning, member, before, params, blanks, behind, rfl, free, blank, rfl⟩ := written
  obtain ⟨type, typeWord, rfl, noStatement⟩ := EntryPoint.parts_of_mem member
  generalize whole : before ++ (type ++ ' ' :: (EntryPoint.name ++ ['(']) ++
    (params ++ ')' :: (blanks ++ final :: behind))) = source at outside
  have spelled : Header.Spells final ⟨type, EntryPoint.name, params⟩ _ :=
    .parts typeWord (List.cons_ne_nil _ _) blank_space EntryPoint.word_name blank_nil free blank
  have occurs : Span.OccursIn (Header.Spells final) source ⟨before.length, before.length + _, _⟩ :=
    ⟨before, _, behind, by simp [← whole], spelled, rfl, rfl⟩
  have scans := Shape.scans_spans (Header.reads_shape final_notBlank) source
  obtain ⟨around, found, start_le, lt_stop⟩ := scans.covers occurs (Nat.zero_le _)
  obtain ⟨before', written', behind', cut, spelled', start, -⟩ := scans.occurs_of_mem found
  -- What the header has in front of the entry point.
  obtain ⟨inside, rfl⟩ : before' <+: before := by
    refine List.prefix_of_prefix_length_le ⟨_, cut.symm⟩ ⟨_, whole⟩ ?_
    rw [← start]
    exact start_le
  have front : '(' ∉ inside := by
    intro parenthesis
    refine outside ⟨around, ⟨_, scans, found⟩, start_le, lt_stop, ?_⟩
    rw [← whole, start, List.take_left, List.drop_left]
    exact parenthesis
  rw [← whole, List.append_assoc] at cut
  obtain ⟨typeEq, nameEq⟩ := spelled'.eq_of_front typeWord EntryPoint.word_name front
    (by simpa using (List.append_cancel_left cut).symm)
  refine ⟨around, ⟨_, scans, found⟩, fun statement => ?_, nameEq⟩
  exact noStatement _ statement (typeEq ▸ List.suffix_append inside type)

/-! ## Accepted sources -/

/-- In an accepted source an entry point that is written out, as a definition or as a prototype, is
defined. -/
theorem EntryPoint.name_mem_definedNames {source : Text}
    (accepted : (compile source).success = true) {final : Char} (isFinal : final ∈ ['{', ';'])
    {offset : Nat} (written : EntryPoint.WrittenAt final source offset)
    (outside : ¬Header.InParams final source offset) :
    EntryPoint.name ∈ Linkage.definedNames source := by
  have notBlank : isBlank final = false := by
    rcases List.mem_pair.mp isFinal with rfl | rfl <;> decide
  obtain ⟨span, found, noStatement, name⟩ := EntryPoint.exists_found notBlank written outside
  rcases List.mem_pair.mp isFinal with rfl | rfl
  · exact Linkage.mem_definedNames_iff.mpr ⟨span, ⟨found, noStatement⟩, name⟩
  · -- A prototype has a definition in an accepted source.
    have linked := ((validate_eq_nil_iff source).mp ((success_iff source).mp accepted)).2.2.2
    obtain ⟨definition, isDefinition, sameName⟩ := linked span ⟨found, noStatement⟩
    exact Linkage.mem_definedNames_iff.mpr ⟨definition, isDefinition, sameName.trans name⟩

/-- **An accepted source has its entry function**, once an entry point is written out in it as a
definition or as a prototype and stands among no other header's parameters: a function of the
outline, a line of the listing and a label of the assembly text. The assembly text declares the
entry point global in any case. -/
theorem accepted_has_entry_function {source : Text} (accepted : (compile source).success = true) :
    ".globl main".toList ∈ Text.lines (compile source).assembly ∧
      ∀ final ∈ ['{', ';'], ∀ offset, EntryPoint.WrittenAt final source offset →
        ¬Header.InParams final source offset →
        (∃ function ∈ (compile source).program.functions, function.name = "main".toList) ∧
          "FUNCTION main:".toList ∈ Text.lines (compile source).listing ∧
          "main:".toList ∈ Text.lines (compile source).assembly := by
  refine ⟨Assembly.Code.globl_mem_lines _, fun final isFinal offset written outside => ?_⟩
  have defined := EntryPoint.name_mem_definedNames accepted isFinal written outside
  obtain ⟨function, member, name⟩ := Program.exists_function_iff.mpr ⟨defined, by decide⟩
  have oneLine := Program.lineFeed_notMem_name member
  have starts := ThreeAddress.Code.function_mem_lines member oneLine
  have label := Assembly.Code.label_mem_lines member oneLine
  rw [name] at starts label
  exact ⟨⟨function, member, name⟩, starts, label⟩

/-- Behind another function the entry function is found as well. -/
theorem accepted_has_entry_function_behind :
    (compile "void f() {}\nint main() {}".toList).success = true ∧
      "main:".toList ∈ Text.lines (compile "void f() {}\nint main() {}".toList).assembly := by
  have accepted : (compile "void f() {}\nint main() {}".toList).success = true := by decide
  have written : EntryPoint.WrittenAt '{' "void f() {}\nint main() {}".toList 12 :=
    ⟨"int main(".toList, by decide, "void f() {}\n".toList, [], " ".toList, ['}'], rfl,
      by decide, blank_space, rfl⟩
  have outside : ¬Header.InParams '{' "void f() {}\nint main() {}".toList 12 := by
    rintro ⟨span, found, reaches⟩
    have apart : ∀ span ∈ (Header.shape '{').spans "void f() {}\nint main() {}".toList,
        ¬(span.start ≤ 12 ∧ 12 < span.stop ∧
          '(' ∈ ("void f() {}\nint main() {}".toList.take 12).drop span.start) := by decide
    exact apart span ((Header.foundIn_iff (by decide)).mp found) reaches
  have entry := (accepted_has_entry_function accepted).2 '{' (by decide) 12 written outside
  exact ⟨accepted, entry.2.2⟩

/-- A mention of the entry point in a comment is enough for a source to be accepted, and then there
need be no entry function. -/
theorem accepted_without_entry_function :
    (compile "// int main(".toList).success = true ∧
      (¬∃ function ∈ (compile "// int main(".toList).program.functions,
        function.name = "main".toList) ∧
      "FUNCTION main:".toList ∉ Text.lines (compile "// int main(".toList).listing ∧
      "main:".toList ∉ Text.lines (compile "// int main(".toList).assembly := by
  decide

end ShallowCpp
