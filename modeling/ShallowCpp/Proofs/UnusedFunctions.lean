import ShallowCpp.Proofs.Outline.Locals
import ShallowCpp.Proofs.UsageWarnings

/-!
# Warnings about unused functions

A function is taken to be used when its name is counted more than once right in front of a
parenthesis. One such place is meant to be the header of its definition, and any other to be a call.
Places of this sort never overlap, because a parenthesis ends each of them and is part of no name.

But a header may have blanks between the name and the parenthesis, and then it is not counted. A
function with such headers only that is called once is counted once, and draws a warning although it
is called. As soon as one header has the parenthesis right behind the name, a call anywhere outside
of the headers keeps the warning away (`called_function_warned_iff`).
-/

set_option autoImplicit false

namespace ShallowCpp

open Text

/-! ## Names in front of a parenthesis -/

namespace Text.Word

variable {name source : Text} {first second : Nat}

/-- Behind a place where the name and a parenthesis stand, the next such place starts behind the
parenthesis. -/
theorem apart_of_lt (nameWord : Word name) (occursFirst : OccursAt (name ++ ['(']) source first)
    (occursSecond : OccursAt (name ++ ['(']) source second) (later : first < second) :
    first + (name ++ ['(']).length ≤ second := by
  rw [List.length_append, List.length_singleton]
  by_contra overlaps
  -- The parenthesis of the first place would be a character of the name at the second one.
  have parenthesis : source[first + name.length]? = some '(' := by
    rw [occursFirst.getElem? (by simp), List.getElem?_concat_length]
  obtain ⟨index, place⟩ := Nat.exists_eq_add_of_le (show second ≤ first + name.length by omega)
  have within : index < name.length := by omega
  rw [place, occursSecond.getElem? (by simp; omega), List.getElem?_append_left within]
    at parenthesis
  exact nameWord.notMem rfl (List.mem_of_getElem? parenthesis)

/-- A name in front of a parenthesis is counted at most once exactly when there is no other place
where it stands so. -/
theorem occurrences_concat_le_one_iff (nameWord : Word name)
    (occurs : OccursAt (name ++ ['(']) source first) :
    occurrences (name ++ ['(']) source ≤ 1 ↔
      ∀ other, OccursAt (name ++ ['(']) source other → other = first := by
  refine occurrences_le_one_iff (by simp) occurs fun other alsoOccurs => ?_
  rcases Nat.lt_trichotomy other first with earlier | same | later
  · exact .inr (.inl (nameWord.apart_of_lt alsoOccurs occurs earlier))
  · exact .inl same
  · exact .inr (.inr (nameWord.apart_of_lt occurs alsoOccurs later))

end Text.Word

/-! ## Headers and calls -/

/-- The header at the span has its parenthesis right behind the name. -/
def Header.Tight (source : Text) (span : Span Header) : Prop :=
  ∃ gap, Blank gap ∧
    span.value.returnType ++ (gap ++ (span.value.name ++ ['('])) <+: span.textIn source

namespace Linkage

variable {source name : Text} {span : Span Header} {offset : Nat}

/-- The offset lies in the header of a definition of the name. -/
def InHeader (source name : Text) (offset : Nat) : Prop :=
  ∃ span, IsDefinition source span ∧ span.value.name = name ∧
    span.start ≤ offset ∧ offset < span.stop

/-- The name stands at the offset right in front of a parenthesis, and not in the header of one of
its definitions. -/
def CalledAt (source name : Text) (offset : Nat) : Prop :=
  OccursAt (name ++ ['(']) source offset ∧ ¬InHeader source name offset

instance (source name : Text) (offset : Nat) : Decidable (InHeader source name offset) :=
  decidable_of_iff (∃ span ∈ headers definition source, span.value.name = name ∧
    span.start ≤ offset ∧ offset < span.stop) (by simp only [mem_definitions_iff, InHeader])

instance (source name : Text) (offset : Nat) : Decidable (CalledAt source name offset) :=
  inferInstanceAs (Decidable (_ <+: _ ∧ ¬_))

/-- In a header that is tight the name stands right in front of a parenthesis. -/
theorem IsDefinition.exists_occursAt (definition : IsDefinition source span)
    (tight : Header.Tight source span) :
    ∃ offset, OccursAt (span.value.name ++ ['(']) source offset ∧
      InHeader source span.value.name offset := by
  obtain ⟨before, written, behind, cut, -, start, stop⟩ := definition.1.occursIn
  obtain ⟨gap, -, rest, front⟩ := tight
  rw [Span.textIn_eq cut start stop] at front
  refine ⟨(before ++ (span.value.returnType ++ gap)).length, ?_, span, definition, rfl, ?_, ?_⟩
  · have place := occursAt_length (before ++ (span.value.returnType ++ gap))
      (span.value.name ++ ['(']) (rest ++ behind)
    rw [cut, ← front]
    simpa only [List.append_assoc] using place
  · rw [start, List.length_append]
    exact Nat.le_add_right _ _
  · rw [stop, ← front]
    simp only [List.length_append, List.length_singleton]
    omega

/-- If a call is the only place where the name stands in front of a parenthesis, then no header of
the name is tight. -/
theorem not_tight_of_alone (called : CalledAt source name offset)
    (alone : ∀ other, OccursAt (name ++ ['(']) source other → other = offset)
    (definition : IsDefinition source span) (named : span.value.name = name) :
    ¬Header.Tight source span := by
  intro tight
  obtain ⟨place, occurs, inHeader⟩ := definition.exists_occursAt tight
  rw [named] at occurs inHeader
  rw [alone place occurs] at inHeader
  exact called.2 inHeader

end Linkage

/-! ## Called functions -/

namespace Symbols

open Linkage

/-- **A called function draws a warning exactly when its call is all that is counted.** Let the name
of a function of the outline stand at an offset right in front of a parenthesis, outside of the
headers of its definitions. Then there is a warning that the function is unused exactly when it is
not the entry point and its name stands so at no other offset. There is none if one of the headers
has the parenthesis right behind the name. -/
theorem called_function_warned_iff {source : Text} {function : FunctionDecl} {offset : Nat}
    (defined : function ∈ (Program.ofSource source).functions)
    (called : CalledAt source function.name offset) :
    ((∃ line, .unusedFunction function.name line ∈
          (ofProgram (Program.ofSource source) source).warnings) ↔
        function.name ≠ EntryPoint.name ∧
          ∀ other, OccursAt (function.name ++ ['(']) source other → other = offset) ∧
      ∀ span, IsDefinition source span → span.value.name = function.name →
        Header.Tight source span →
          ∀ line, .unusedFunction function.name line ∉
            (ofProgram (Program.ofSource source) source).warnings := by
  have nameWord := (Program.isNameIn_of_mem_functions defined).word
  have warned : (∃ line, .unusedFunction function.name line ∈
        (ofProgram (Program.ofSource source) source).warnings) ↔
      function.name ≠ EntryPoint.name ∧
        ∀ other, OccursAt (function.name ++ ['(']) source other → other = offset := by
    rw [exists_unusedFunction_iff, and_iff_right ⟨function, defined, rfl⟩,
      nameWord.occurrences_concat_le_one_iff called.1]
  refine ⟨warned, fun span definition named tight line member => ?_⟩
  exact not_tight_of_alone called (warned.mp ⟨line, member⟩).2 definition named tight

/-- A second definition with the parenthesis right behind the name is enough for a function that is
called to draw no warning. -/
theorem called_function_warned_iff_of_second_header :
    CalledAt "int f () {}\nint f() {return f();}".toList "f".toList 28 ∧
      ∀ line, .unusedFunction "f".toList line ∉
        (ofProgram (Program.ofSource "int f () {}\nint f() {return f();}".toList)
          "int f () {}\nint f() {return f();}".toList).warnings := by
  have called : CalledAt "int f () {}\nint f() {return f();}".toList "f".toList 28 := by decide
  have definition : IsDefinition "int f () {}\nint f() {return f();}".toList
      ⟨12, 21, ⟨"int".toList, "f".toList, []⟩⟩ := mem_definitions_iff.mp (by decide)
  have defined := Program.mem_functions_iff.mpr ⟨_, definition, by decide, rfl⟩
  have tight : Header.Tight "int f () {}\nint f() {return f();}".toList
      ⟨12, 21, ⟨"int".toList, "f".toList, []⟩⟩ := ⟨[' '], blank_space, by decide⟩
  exact ⟨called, (called_function_warned_iff defined called).2 _ definition rfl tight⟩

/-- A function with a blank between its name and the parenthesis of its header is reported as unused
although it is called. -/
theorem called_function_reported_unused :
    (∃ function ∈ (Program.ofSource
        "int f () {return 1;}\nint main() {return f();}".toList).functions,
        function.name = "f".toList) ∧
      CalledAt "int f () {return 1;}\nint main() {return f();}".toList "f".toList 40 ∧
      .unusedFunction "f".toList 1 ∈
        (ofProgram (Program.ofSource "int f () {return 1;}\nint main() {return f();}".toList)
          "int f () {return 1;}\nint main() {return f();}".toList).warnings := by
  decide

end Symbols

end ShallowCpp
