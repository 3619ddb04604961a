import Mathlib.Data.List.Basic
import ShallowCpp.Outline.Body
import ShallowCpp.Proofs.Shape.Steps

/-!
# The grammar of declarations

A declaration is spelled by a primitive type, a gap, a name and an ending: a semicolon, or an equals
sign, a text without semicolons and a semicolon. Blanks may stand in front of the ending. No
primitive type starts another one, and neither ending goes on with the name, so the declaration that
starts a text can be read off in one way only. The shape of a declaration reads this grammar
(`reads_shape`).
-/

set_option autoImplicit false

namespace ShallowCpp.VariableDecl

open Text

/-- The ways to end a declaration with the given initial value. -/
inductive SpellsEnding : Option Text → Text → Prop where
  | bare : SpellsEnding none [';']
  | initialised {value : Text} : ';' ∉ value →
      SpellsEnding (some (initialValue value)) ('=' :: (value ++ [';']))

/-- The ways to write a declaration. -/
inductive Spells : VariableDecl → Text → Prop where
  | parts {type gap name space ending : Text} {init : Option Text} :
      type ∈ primitiveTypes → gap ≠ [] → Blank gap → Word name → Blank space →
        SpellsEnding init ending →
        Spells ⟨name, type, init⟩ (type ++ (gap ++ (name ++ (space ++ ending))))

theorem Spells.word_name {decl : VariableDecl} {written : Text} (spelled : Spells decl written) :
    Word decl.name := by
  cases spelled with
  | parts _ _ _ nameWord => exact nameWord

/-! ## Types -/

theorem word_of_mem_primitiveTypes {type : Text} (primitive : type ∈ primitiveTypes) :
    Word type := by
  have words : ∀ type ∈ primitiveTypes, type ≠ [] ∧ type.all isWord = true := by decide
  obtain ⟨nonempty, within⟩ := words type primitive
  exact ⟨nonempty, List.all_eq_true.mp within⟩

theorem eq_of_append_eq {type type' behind behind' : Text} (primitive : type ∈ primitiveTypes)
    (primitive' : type' ∈ primitiveTypes) (same : type ++ behind = type' ++ behind') :
    type = type' := by
  have apart : ∀ first ∈ primitiveTypes, ∀ second ∈ primitiveTypes,
      first <+: second → first = second := by decide
  rcases List.append_eq_append_iff.mp same with ⟨rest, longer, -⟩ | ⟨rest, longer, -⟩
  · exact apart type primitive type' primitive' ⟨rest, longer.symm⟩
  · exact (apart type' primitive' type primitive ⟨rest, longer.symm⟩).symm

theorem primitiveType_sound {text type behind : Text}
    (read : primitiveType text = some (type, behind)) :
    type ∈ primitiveTypes ∧ text = type ++ behind := by
  obtain ⟨candidate, member, found⟩ := List.exists_of_findSome?_eq_some read
  obtain ⟨rest, starts, same⟩ := Option.map_eq_some_iff.mp found
  obtain ⟨rfl, rfl⟩ := Prod.mk.inj same
  exact ⟨member, (List.isPrefixOf?_eq_some_iff_append_eq.mp starts).symm⟩

theorem primitiveType_eq_some_iff {text type behind : Text} :
    primitiveType text = some (type, behind) ↔
      type ∈ primitiveTypes ∧ text = type ++ behind := by
  constructor
  · exact primitiveType_sound
  · rintro ⟨member, rfl⟩
    have found : (primitiveType (type ++ behind)).isSome = true := by
      refine List.findSome?_isSome_iff.mpr ⟨type, member, ?_⟩
      rw [List.isPrefixOf?_eq_some_iff_append_eq.mpr rfl]
      rfl
    obtain ⟨⟨type', behind'⟩, read⟩ := Option.isSome_iff_exists.mp found
    obtain ⟨member', same⟩ := primitiveType_sound read
    obtain rfl := eq_of_append_eq member member' same
    obtain rfl := List.append_cancel_left same
    exact read

/-! ## Endings -/

theorem ending_eq_some_iff {text behind : Text} {init : Option Text} :
    ending text = some (init, behind) ↔
      ∃ written, SpellsEnding init written ∧ text = written ++ behind := by
  constructor
  · intro read
    cases text with
    | nil => cases read
    | cons char rest =>
      rw [ending] at read
      split_ifs at read with closes assigns
      · obtain ⟨rfl, rfl⟩ := Prod.mk.inj (Option.some.inj read)
        exact ⟨[';'], .bare, by rw [closes, List.singleton_append]⟩
      · split at read
        next => cases read
        next closing others cut =>
          obtain ⟨rfl, rfl⟩ := Prod.mk.inj (Option.some.inj read)
          obtain ⟨free, whole⟩ := cut_at_first cut
          refine ⟨_, .initialised free, ?_⟩
          rw [assigns, List.cons_append, List.append_assoc, List.singleton_append, ← whole]
  · rintro ⟨written, spelled, rfl⟩
    cases spelled with
    | bare => rfl
    | @initialised value free =>
      have within := ne_of_notMem free
      have ends := endsRun_ne ';' behind
      rw [List.cons_append, List.append_assoc, List.singleton_append, ending, if_neg (by decide),
        if_pos rfl, takeWhile_run within ends, dropWhile_run within ends]

/-- An ending starts with a character that is neither blank nor part of a word. -/
theorem SpellsEnding.endsRun {init : Option Text} {written : Text}
    (spelled : SpellsEnding init written) (behind : Text) :
    EndsRun isBlank (written ++ behind) ∧ EndsRun isWord (written ++ behind) := by
  cases spelled with
  | bare => exact ⟨endsRun_cons.mpr (by decide), endsRun_cons.mpr (by decide)⟩
  | initialised _ => exact ⟨endsRun_cons.mpr (by decide), endsRun_cons.mpr (by decide)⟩

/-! ## The shape reads the grammar -/

theorem shape_eq_some_iff {text behind : Text} {decl : VariableDecl} :
    shape text = some (decl, behind) ↔
      ∃ afterType afterGap afterName,
        primitiveType text = some (decl.type, afterType) ∧
        Shape.gap afterType = some ((), afterGap) ∧
        Shape.word afterGap = some (decl.name, afterName) ∧
        ending (trimStart afterName) = some (decl.init, behind) := by
  simp only [shape, Option.bind_eq_bind, Option.bind_eq_some_iff, Prod.exists]
  constructor
  · rintro ⟨type, afterType, first, ⟨⟩, afterGap, gap, name, afterName, second, init, rest, last,
      same⟩
    obtain ⟨rfl, rfl⟩ := Prod.mk.inj (Option.some.inj same)
    exact ⟨afterType, afterGap, afterName, first, gap, second, last⟩
  · rintro ⟨afterType, afterGap, afterName, first, gap, second, last⟩
    exact ⟨_, afterType, first, (), afterGap, gap, _, afterName, second, _, behind, last, rfl⟩

theorem spells_of_shape {text behind : Text} {decl : VariableDecl}
    (read : shape text = some (decl, behind)) :
    ∃ written, Spells decl written ∧ text = written ++ behind := by
  obtain ⟨afterType, afterGap, afterName, type, gap, name, last⟩ := shape_eq_some_iff.mp read
  obtain ⟨primitive, rfl⟩ := primitiveType_eq_some_iff.mp type
  obtain ⟨gap, nonempty, gapBlank, -, rfl⟩ := Shape.gap_eq_some_iff.mp gap
  obtain ⟨nameWord, -, rfl⟩ := Shape.word_eq_some_iff.mp name
  obtain ⟨written, ends, trimmed⟩ := ending_eq_some_iff.mp last
  obtain ⟨space, spaceBlank, -, rfl⟩ := trimStart_eq_iff.mp trimmed
  exact ⟨_, .parts primitive nonempty gapBlank nameWord spaceBlank ends, by simp⟩

theorem shape_of_spells {decl : VariableDecl} {written : Text} (spelled : Spells decl written)
    (behind : Text) : shape (written ++ behind) = some (decl, behind) := by
  cases spelled with
  | @parts type gap name space last init primitive nonempty gapBlank nameWord spaceBlank ends =>
    simp only [List.append_assoc]
    obtain ⟨endsBlank, endsWord⟩ := ends.endsRun behind
    refine shape_eq_some_iff.mpr ⟨_, _, _, primitiveType_eq_some_iff.mpr ⟨primitive, rfl⟩,
      Shape.gap_eq_some_iff.mpr ⟨gap, nonempty, gapBlank, nameWord.endsBlank _, rfl⟩,
      Shape.word_eq_some_iff.mpr ⟨nameWord, spaceBlank.endsWord endsWord, rfl⟩, ?_⟩
    rw [trimStart_eq_iff.mpr ⟨space, spaceBlank, endsBlank, rfl⟩]
    exact ending_eq_some_iff.mpr ⟨last, ends, rfl⟩

/-- **The shape of a declaration reads the grammar of declarations.** -/
theorem reads_shape : shape.Reads Spells where
  eq_some_iff := by
    intro text behind decl
    constructor
    · exact spells_of_shape
    · rintro ⟨written, spelled, rfl⟩
      exact shape_of_spells spelled behind
  ne_nil := by
    intro decl written spelled
    cases spelled with
    | parts _ nonempty => simp [nonempty]

/-- No declaration starts with a blank. -/
theorem refusesBlanks_shape : shape.RefusesBlanks := by
  apply reads_shape.refusesBlanks
  intro decl written spelled rest
  cases spelled with
  | @parts type _ _ _ _ _ primitive =>
    rw [List.append_assoc]
    exact (word_of_mem_primitiveTypes primitive).endsBlank _

end ShallowCpp.VariableDecl
