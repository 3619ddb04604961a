import ShallowCpp.Proofs.Braces.Body
import ShallowCpp.Proofs.Outline.Texts
import ShallowCpp.Proofs.Text.Places
import ShallowCpp.Proofs.Text.Trim
import ShallowCpp.Report.Basic

/-!
# Local variables and the scan of the whole source

The declarations in a body are read line by line, those of the program by one scan of the source.
The scan takes an initial value up to the next semicolon, over the ends of lines and through
comments, so it can pass over a declaration that the reading by lines finds.

Two spellings of declarations overlap in one way only (`VariableDecl.Spells.overlap`). In front of
the ending of a declaration stand two words with blanks around them, and a further declaration would
need two words in a row behind its first character; so it starts inside the initial value, and then
it ends with the same semicolon. A declaration in a body is therefore found by the scan, or it is
the end of the initial value of one that is found (`locals_declared_or_swallowed`).
-/

set_option autoImplicit false

namespace ShallowCpp

open Text

/-! ## Places in a row of parts -/

namespace Text

variable {part rest front inner : Text}

/-- A word does not end where a word starts. -/
theorem Word.not_endsRun (isWord : Word part) : ¬EndsRun Text.isWord (part ++ rest) := by
  intro ends
  cases part with
  | nil => exact isWord.ne_nil rfl
  | cons char others =>
    have inWord := isWord.isWord char List.mem_cons_self
    rw [List.cons_append, endsRun_cons, inWord] at ends
    cases ends

/-- What starts with no blank starts behind the blanks. -/
theorem Blank.append_eq_append (blank : Blank part) (ends : EndsRun isBlank inner)
    (same : part ++ rest = front ++ inner) :
    ∃ further, front = part ++ further ∧ rest = further ++ inner := by
  rcases List.append_eq_append_iff.mp same with ⟨further, cut, left⟩ | ⟨inside, cut, left⟩
  · exact ⟨further, cut, left⟩
  · cases inside with
    | nil => exact ⟨[], by simpa using cut.symm, by simpa using left.symm⟩
    | cons char others =>
      have isBlank := blank char (by simp [cut])
      rw [left, List.cons_append, endsRun_cons, isBlank] at ends
      cases ends

/-- A word that is followed by blanks starts behind another word or is the end of it. -/
theorem Word.append_eq_append {word behind : Text} (isWord : Word part)
    (ends : EndsRun Text.isWord rest) (innerWord : Word word)
    (innerEnds : EndsRun Text.isWord behind) (same : part ++ rest = front ++ (word ++ behind)) :
    (∃ further, front = part ++ further ∧ rest = further ++ (word ++ behind)) ∨
      part = front ++ word ∧ rest = behind := by
  rcases List.append_eq_append_iff.mp same with ⟨further, cut, left⟩ | ⟨inside, cut, left⟩
  · exact .inl ⟨further, cut, left⟩
  · have within : ∀ char ∈ inside, Text.isWord char = true := by
      intro char member
      exact isWord.isWord char (by simp [cut, member])
    obtain ⟨rfl, rfl⟩ := run_unique innerWord.isWord within innerEnds ends left
    exact .inr ⟨cut, rfl⟩

end Text

/-- The text between the ends of the span. -/
def Span.textIn {α : Type} (source : Text) (span : Span α) : Text :=
  (source.take span.stop).drop span.start

theorem Span.textIn_eq {α : Type} {source before written behind : Text} {span : Span α}
    (cut : source = before ++ (written ++ behind)) (start : span.start = before.length)
    (stop : span.stop = before.length + written.length) : span.textIn source = written := by
  rw [Span.textIn, start, stop, cut, ← List.append_assoc, ← List.length_append, List.take_left,
    List.drop_left]

/-! ## Overlapping declarations -/

namespace VariableDecl

theorem SpellsEnding.exists_semicolon {init : Option Text} {written : Text}
    (spelled : SpellsEnding init written) : ∃ text, ';' ∉ text ∧ written = text ++ [';'] := by
  cases spelled with
  | bare => exact ⟨[], by simp, rfl⟩
  | @initialised value free => exact ⟨'=' :: value, by simp [free], rfl⟩

/-- A declaration has one semicolon, at its end. -/
theorem Spells.exists_semicolon {decl : VariableDecl} {written : Text}
    (spelled : Spells decl written) : ∃ text, ';' ∉ text ∧ written = text ++ [';'] := by
  cases spelled with
  | @parts type gap name space ending init primitive _ gapBlank nameWord spaceBlank ends =>
    obtain ⟨text, free, rfl⟩ := ends.exists_semicolon
    have inWord : ∀ {word : Text}, Word word → ';' ∉ word := fun isWord => isWord.notMem rfl
    have inBlanks : ∀ {blanks : Text}, Blank blanks → ';' ∉ blanks := fun blank => blank.notMem rfl
    refine ⟨type ++ (gap ++ (name ++ (space ++ text))), ?_, by simp⟩
    simp [inWord (word_of_mem_primitiveTypes primitive), inBlanks gapBlank, inWord nameWord,
      inBlanks spaceBlank, free]

/-- An initial value that a declaration starts in ends with it. -/
theorem eq_of_semicolon {value lead written behind behind' : Text} {decl : VariableDecl}
    (free : ';' ∉ value) (spelled : Spells decl written) (inside : lead.length ≤ value.length)
    (same : value ++ ';' :: behind = lead ++ (written ++ behind')) :
    ∃ text, written = text ++ [';'] ∧ value = lead ++ text ∧ behind = behind' := by
  obtain ⟨text, textFree, rfl⟩ := spelled.exists_semicolon
  obtain ⟨rest, rfl⟩ : lead <+: value := by
    apply List.prefix_of_prefix_length_le _ (List.prefix_append value (';' :: behind)) inside
    rw [same]
    exact List.prefix_append lead _
  rw [List.append_assoc, List.append_cancel_left_eq, List.append_assoc,
    List.singleton_append] at same
  have restFree : ';' ∉ rest := fun member => free (by simp [member])
  obtain ⟨rfl, last⟩ := run_unique (ne_of_notMem restFree) (ne_of_notMem textFree)
    (endsRun_ne ';' behind) (endsRun_ne ';' behind') same
  exact ⟨rest, rfl, rfl, (List.cons.inj last).2⟩

/-- A declaration starts with a word. -/
theorem Spells.not_endsRun {decl : VariableDecl} {written : Text} (spelled : Spells decl written)
    (rest : Text) : ¬EndsRun isWord (written ++ rest) := by
  cases spelled with
  | parts primitive =>
    rw [List.append_assoc]
    exact (word_of_mem_primitiveTypes primitive).not_endsRun

/-- In front of its semicolon a declaration has a word at least. -/
theorem Spells.exists_cons {decl : VariableDecl} {text : Text}
    (spelled : Spells decl (text ++ [';'])) :
    ∃ char rest, text = char :: rest ∧ isWord char = true := by
  have starts := spelled.not_endsRun []
  cases text with
  | nil => exact absurd (endsRun_cons.mpr (by decide)) starts
  | cons char rest =>
    rw [List.cons_append, List.cons_append, endsRun_cons, Bool.not_eq_false] at starts
    exact ⟨char, rest, rfl, starts⟩

/-- A declaration does not start among the two words in front of the ending of another one, except
with it. -/
theorem Spells.starts_behind_words {type gap name space last front written behind : Text}
    {decl : VariableDecl} (primitive : type ∈ primitiveTypes) (gapNonempty : gap ≠ [])
    (gapBlank : Blank gap) (nameWord : Word name) (spaceBlank : Blank space)
    (endsBlank : EndsRun isBlank last) (endsWord : EndsRun isWord last)
    (spelled : Spells decl written) (later : front ≠ [])
    (same : type ++ (gap ++ (name ++ (space ++ last))) = front ++ (written ++ behind)) :
    ∃ further, front = type ++ (gap ++ (name ++ (space ++ further))) ∧
      last = further ++ (written ++ behind) := by
  cases spelled with
  | @parts type' gap' name' space' ending' init' primitive' gapNonempty' gapBlank' nameWord' _ _ =>
    have typeWord' := word_of_mem_primitiveTypes primitive'
    simp only [List.append_assoc] at same ⊢
    generalize space' ++ (ending' ++ behind) = others at same ⊢
    have typeEnds' : EndsRun isWord (gap' ++ (name' ++ others)) :=
      gapBlank'.endsWord_of_ne_nil gapNonempty' _
    have startsVisibly : EndsRun isBlank (type' ++ (gap' ++ (name' ++ others))) :=
      typeWord'.endsBlank _
    rcases (word_of_mem_primitiveTypes primitive).append_eq_append
      (gapBlank.endsWord_of_ne_nil gapNonempty _) typeWord' typeEnds' same with
      ⟨afterType, rfl, fromGap⟩ | ⟨tail, -⟩
    · obtain ⟨afterGap, rfl, fromName⟩ := gapBlank.append_eq_append startsVisibly fromGap
      rcases nameWord.append_eq_append (spaceBlank.endsWord endsWord) typeWord' typeEnds'
        fromName with ⟨afterName, rfl, fromSpace⟩ | ⟨-, noName⟩
      · obtain ⟨further, rfl, fromLast⟩ := spaceBlank.append_eq_append startsVisibly fromSpace
        exact ⟨further, rfl, fromLast⟩
      · -- The name of the first would be the type of the second, with no name to follow.
        obtain ⟨-, rfl⟩ :=
          run_unique spaceBlank gapBlank' endsBlank (nameWord'.endsBlank others) noName
        exact absurd endsWord nameWord'.not_endsRun
    · -- No primitive type is the end of another one.
      have apart : ∀ first ∈ primitiveTypes, ∀ second ∈ primitiveTypes,
          second <:+ first → second = first := by decide
      obtain rfl := apart type primitive type' primitive' ⟨front, tail.symm⟩
      exact absurd (List.self_eq_append_left.mp tail) later

/-- **Declarations that overlap**: the second starts inside the initial value of the first, and they
end with the same semicolon. -/
theorem Spells.overlap {outer inner : VariableDecl} {written written' front behind behind' : Text}
    (spelled : Spells outer written) (alsoSpelled : Spells inner written')
    (same : written ++ behind = front ++ (written' ++ behind')) (later : front ≠ [])
    (inside : front.length < written.length) :
    ∃ lead text, outer.init = some (initialValue (lead ++ text)) ∧ written' = text ++ [';'] ∧
      behind = behind' := by
  cases spelled with
  | @parts type gap name space ending init primitive nonempty gapBlank nameWord spaceBlank ends =>
    obtain ⟨endsBlank, endsWord⟩ := ends.endsRun behind
    simp only [List.append_assoc] at same
    obtain ⟨further, rfl, fromEnding⟩ := alsoSpelled.starts_behind_words primitive nonempty
      gapBlank nameWord spaceBlank endsBlank endsWord later same
    simp only [List.length_append, Nat.add_lt_add_iff_left] at inside
    cases further with
    | nil =>
      rw [fromEnding] at endsWord
      exact absurd endsWord (alsoSpelled.not_endsRun behind')
    | cons sign lead =>
      cases ends with
      | bare => simp at inside
      | @initialised value free =>
        simp only [List.cons_append, List.append_assoc, List.nil_append, List.cons.injEq]
          at fromEnding
        have within : lead.length ≤ value.length := by simpa [Nat.lt_succ_iff] using inside
        obtain ⟨text, rfl, rfl, rest⟩ := eq_of_semicolon free alsoSpelled within fromEnding.2
        exact ⟨lead, text, rfl, rfl, rest⟩

/-- A declaration at the end of an initial value stays at its end when the blanks go. -/
theorem trimEnd_suffix_initialValue {decl : VariableDecl} {text : Text}
    (spelled : Spells decl (text ++ [';'])) (lead : Text) :
    trimEnd text <:+ initialValue (lead ++ text) := by
  obtain ⟨char, rest, rfl, inWord⟩ := spelled.exists_cons
  have visible := isBlank_of_isWord inWord
  have noSign : (char == '=') = false := by
    apply beq_eq_false_iff_ne.mpr
    rintro rfl
    exact absurd inWord (by decide)
  have signs : EndsRun (· == '=') (char :: rest) := endsRun_cons.mpr noSign
  have blanks : EndsRun isBlank (char :: rest) := endsRun_cons.mpr visible
  rw [initialValue, trim, trimStart, dropWhile_append_of_endsRun signs,
    dropWhile_append_of_endsRun blanks, trimEnd_append_cons visible]
  exact List.suffix_append _ _

/-! ## Declarations that the scan passes over -/

/-- The declaration at the second span is the end of the initial value of the one at the first. -/
structure Swallows (source : Text) (around span : Span VariableDecl) : Prop where
  start_lt : around.start < span.start
  stop_eq : around.stop = span.stop
  ends_init : ∃ value, around.value.init = some value ∧
    trimEnd (span.textIn source).dropLast <:+ value

/-- **The scan finds a declaration or passes over it** as a part of an initial value. -/
theorem mem_spans_or_swallows {source : Text} {span : Span VariableDecl}
    (occurs : span.OccursIn Spells source) :
    span ∈ shape.spans source ∨ ∃ around ∈ shape.spans source, Swallows source around span := by
  have scans := Shape.scans_spans reads_shape source
  obtain ⟨around, found, starts, inside⟩ := scans.covers occurs (Nat.zero_le _)
  have aroundOccurs := scans.occurs_of_mem found
  rcases Nat.eq_or_lt_of_le starts with same | before
  · exact .inl (aroundOccurs.eq_of_start reads_shape occurs same ▸ found)
  · refine .inr ⟨around, found, ?_⟩
    obtain ⟨outer, written, behind, cut, spelled, start, stop⟩ := aroundOccurs
    obtain ⟨outer', written', behind', cut', spelled', start', stop'⟩ := occurs
    have text := Span.textIn_eq cut' start' stop'
    obtain ⟨front, rfl⟩ : outer <+: outer' := by
      have starts : outer <+: source := cut ▸ List.prefix_append outer _
      have starts' : outer' <+: source := cut' ▸ List.prefix_append outer' _
      exact List.prefix_of_prefix_length_le starts starts' (by omega)
    rw [List.length_append] at start' stop'
    have same : written ++ behind = front ++ (written' ++ behind') := by
      rwa [cut, List.append_assoc, List.append_cancel_left_eq] at cut'
    have later : front ≠ [] := List.ne_nil_of_length_pos (by omega)
    obtain ⟨lead, rest, init, rfl, rfl⟩ := spelled.overlap spelled' same later (by omega)
    refine ⟨before, ?_, _, init, ?_⟩
    · have lengths := congrArg List.length same
      simp only [List.length_append] at lengths stop'
      omega
    · rw [text, List.dropLast_concat]
      exact trimEnd_suffix_initialValue spelled' lead

end VariableDecl

/-! ## From a body to the source -/

/-- What occurs in a part of a text occurs in the text, further on by what stands in front of the
part. -/
theorem Span.OccursIn.moveBy {α : Type} {spells : α → Text → Prop} {part : Text} {span : Span α}
    (occurs : span.OccursIn spells part) (before behind : Text) :
    (span.moveBy before.length).OccursIn spells (before ++ (part ++ behind)) := by
  obtain ⟨front, written, back, rfl, spelled, start, stop⟩ := occurs
  refine ⟨before ++ front, written, back ++ behind, by simp, spelled, ?_, ?_⟩
  · simp only [Span.moveBy, List.length_append]
    omega
  · simp only [Span.moveBy, List.length_append]
    omega

/-- A declaration among the statements of a body is written in the body. -/
theorem Statement.exists_occursIn_of_mem_ofBody {body : Text} {decl : VariableDecl}
    (member : .declaration decl ∈ ofBody body) :
    ∃ span : Span VariableDecl, span.value = decl ∧ span.OccursIn VariableDecl.Spells body := by
  obtain ⟨line, isLine, read⟩ := List.mem_filterMap.mp member
  rcases ofLine?_cases read with ⟨span, found, same⟩ | ⟨value, -, same⟩ | same
  · obtain ⟨before, behind, cut⟩ := (trim_isInfix line).trans (infix_of_mem_lines isLine)
    have occurs := (Shape.scans_spans VariableDecl.reads_shape (trim line)).occurs_of_mem found
    refine ⟨span.moveBy before.length, (Statement.declaration.inj same).symm, ?_⟩
    rw [← cut, List.append_assoc]
    exact occurs.moveBy before behind
  · cases same
  · cases same

/-- The place is inside the body behind the header. -/
structure Header.BodyHolds {α : Type} (source : Text) (header : Span Header) (place : Span α) :
    Prop where
  starts : header.stop ≤ place.start
  stops : place.stop ≤ header.stop + (bodyAt source header).length

/-- A local variable of a function is declared in the text of its body. -/
theorem FunctionDecl.exists_place_of_mem_locals {source : Text} {header : Span Header}
    (definition : Linkage.IsDefinition source header) {decl : VariableDecl}
    (member : decl ∈ (FunctionDecl.ofSpan source header).locals) :
    ∃ place : Span VariableDecl, place.value = decl ∧
      place.OccursIn VariableDecl.Spells source ∧ Header.BodyHolds source header place := by
  obtain ⟨statement, inBody, declares⟩ := List.mem_filterMap.mp member
  obtain rfl : statement = .declaration decl := by
    cases statement with
    | declaration other => rw [Option.some.inj declares]
    | returns value => cases declares
    | expression text => cases declares
  obtain ⟨span, value, occurs⟩ : ∃ span : Span VariableDecl, span.value = decl ∧
      span.OccursIn VariableDecl.Spells (Header.bodyAt source header) :=
    Statement.exists_occursIn_of_mem_ofBody inBody
  obtain ⟨behind, cut⟩ : Header.bodyAt source header <+: source.drop header.stop := by
    rcases Braces.body_cases (source.drop header.stop) with ⟨behind, cut, -⟩ | whole
    · exact ⟨'}' :: behind, cut.symm⟩
    · exact ⟨[], by rw [Header.bodyAt, whole, List.append_nil]⟩
  have front : (source.take header.stop).length = header.stop :=
    List.length_take_of_le definition.1.occursIn.stop_le
  refine ⟨span.moveBy header.stop, value, ?_, ?_, ?_⟩
  · have moved := occurs.moveBy (source.take header.stop) behind
    rwa [front, cut, List.take_append_drop] at moved
  · exact Nat.le_add_left _ _
  · have inside := occurs.stop_le
    simp only [Span.moveBy]
    omega

/-! ## Locals in the table of symbols -/

/-- **Local variables and the table of symbols.** A variable that is declared in the body of a
function is declared at a place of that body. Either the scan of the whole source finds it there,
and then the program declares it as well and the table has an entry with its name and type; or the
place is inside the initial value of a declaration that starts in front of it and ends with the same
semicolon, and then this initial value ends with the text of the variable's declaration. -/
theorem locals_declared_or_swallowed (source : Text) :
    ∀ function ∈ (Program.ofSource source).functions, ∀ decl ∈ function.locals,
      ∃ header place, Linkage.IsDefinition source header ∧ function = .ofSpan source header ∧
        Header.BodyHolds source header place ∧ place.value = decl ∧
        place.OccursIn VariableDecl.Spells source ∧
        ((place ∈ VariableDecl.shape.spans source ∧
            decl ∈ (Program.ofSource source).declarations ∧
            ∃ symbol ∈ (Symbols.ofProgram (Program.ofSource source) source).variableSymbols,
              symbol.name = decl.name ∧ symbol.type = decl.type) ∨
          ∃ around ∈ VariableDecl.shape.spans source,
            around.value ∈ (Program.ofSource source).declarations ∧
              VariableDecl.Swallows source around place) := by
  intro function member decl isLocal
  obtain ⟨header, definition, -, rfl⟩ := Program.mem_functions_iff.mp member
  obtain ⟨place, rfl, occurs, holds⟩ := FunctionDecl.exists_place_of_mem_locals definition isLocal
  have declared : ∀ span ∈ VariableDecl.shape.spans source,
      span.value ∈ (Program.ofSource source).declarations := by
    intro span found
    rw [Program.declarations_ofSource]
    exact List.mem_map_of_mem found
  refine ⟨header, place, definition, rfl, holds, rfl, occurs, ?_⟩
  rcases VariableDecl.mem_spans_or_swallows occurs with found | ⟨around, found, swallows⟩
  · exact .inl ⟨found, declared place found, VariableSymbol.ofDecl source place.value,
      List.mem_map_of_mem (declared place found), rfl, rfl⟩
  · exact .inr ⟨around, found, declared around found, swallows⟩

/-- The beginning of a declaration in a comment takes the local variable below it for its initial
value. -/
theorem locals_swallowed_behind_comment :
    ⟨"main".toList, "int".toList, [],
        [.declaration ⟨"b".toList, "int".toList, none⟩, .returns "b".toList], 1⟩ ∈
        (Program.ofSource "int main() \x7b\n// int a =\nint b;\nreturn b;\n\x7d".toList).functions ∧
      ∃ around place,
        around.value = ⟨"a".toList, "int".toList, some "int b".toList⟩ ∧
          place.value = ⟨"b".toList, "int".toList, none⟩ ∧
          VariableDecl.Swallows "int main() \x7b\n// int a =\nint b;\nreturn b;\n\x7d".toList
            around place := by
  have isFunction : ⟨"main".toList, "int".toList, [],
      [.declaration ⟨"b".toList, "int".toList, none⟩, .returns "b".toList], 1⟩ ∈
      (Program.ofSource
        "int main() \x7b\n// int a =\nint b;\nreturn b;\n\x7d".toList).functions := by decide +kernel
  have declarations :
      (Program.ofSource
          "int main() \x7b\n// int a =\nint b;\nreturn b;\n\x7d".toList).declarations =
        [⟨"a".toList, "int".toList, some "int b".toList⟩] := by decide +kernel
  obtain ⟨header, place, -, -, -, value, -, found⟩ :=
    locals_declared_or_swallowed "int main() \x7b\n// int a =\nint b;\nreturn b;\n\x7d".toList _
      isFunction ⟨"b".toList, "int".toList, none⟩ (by decide)
  rw [declarations] at found
  rcases found with ⟨-, declared, -⟩ | ⟨around, -, declared, swallows⟩
  · exact absurd declared (by decide)
  · exact ⟨isFunction, around, place, List.mem_singleton.mp declared, value, swallows⟩

/-- A local variable may be missing: the source is accepted, its function declares `b`, and the
table has `a` alone. -/
theorem local_missing_from_table :
    (compile "int main() \x7b\n// int a =\nint b;\nreturn b;\n\x7d".toList).success = true ∧
      (compile
          "int main() \x7b\n// int a =\nint b;\nreturn b;\n\x7d".toList).program.functions.flatMap
        FunctionDecl.locals =
        [⟨"b".toList, "int".toList, none⟩] ∧
      (compile "int main() \x7b\n// int a =\nint b;\nreturn b;\n\x7d".toList).program.declarations =
        [⟨"a".toList, "int".toList, some "int b".toList⟩] ∧
      (compile
          "int main() \x7b\n// int a =\nint b;\nreturn b;\n\x7d".toList).symbols.variableSymbols =
        [⟨"a".toList, "int".toList, 1⟩] := by
  decide +kernel

end ShallowCpp
