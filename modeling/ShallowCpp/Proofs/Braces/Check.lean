import ShallowCpp.Braces
import ShallowCpp.Proofs.Braces.Balance
import ShallowCpp.Proofs.Text.Lines

/-!
# What the check of braces reports

The check pairs braces up with a stack of the lines of open braces. Its findings can be told from
the heights alone. A closing brace has no partner exactly when it takes the height to a new minimum
below zero. An opening brace has no partner exactly when the height never comes back to what it was
in front of the brace; the check reports the first of these. One is left over exactly when the
height at the end is above the minimum (`check_by_heights`).

The stack is followed through one character at a time. While `n` braces are open, the closing braces
to be reported in the rest of the text are those that reach a new minimum below `-n`, and the brace
to be reported at the end is the outermost of the open ones as long as the rest stays above `-n`
(`checkFrom_eq`).
-/

set_option autoImplicit false

namespace ShallowCpp.Braces

/-! ## Findings by heights -/

/-- The closing brace at the offset takes the height to a new minimum below the floor. -/
def IsStray (floor : Int) (text : Text) (offset : Nat) : Prop :=
  text[offset]? = some '}' ∧ height text (offset + 1) < floor ∧
    ∀ earlier ≤ offset, height text (offset + 1) < height text earlier

/-- Behind the opening brace at the offset the height never returns to its value in front of it. -/
def IsUnclosed (text : Text) (offset : Nat) : Prop :=
  text[offset]? = some '{' ∧
    ∀ later ≤ text.length, offset < later → height text later ≠ height text offset

theorem IsStray.lt_length {floor : Int} {text : Text} {offset : Nat}
    (stray : IsStray floor text offset) : offset < text.length :=
  (List.getElem?_eq_some_iff.mp stray.1).1

theorem IsUnclosed.lt_length {text : Text} {offset : Nat} (unclosed : IsUnclosed text offset) :
    offset < text.length :=
  (List.getElem?_eq_some_iff.mp unclosed.1).1

instance (floor : Int) (text : Text) (offset : Nat) : Decidable (IsStray floor text offset) :=
  inferInstanceAs (Decidable (_ ∧ _ ∧ _))

instance (text : Text) (offset : Nat) : Decidable (IsUnclosed text offset) :=
  inferInstanceAs (Decidable (_ ∧ _))

/-- The offsets of the closing braces that reach a new minimum below the floor, in order. -/
def strays (floor : Int) (text : Text) : List Nat :=
  (List.range text.length).filter fun offset => IsStray floor text offset

/-- The offset of the first brace that is never closed. -/
def unclosed? (text : Text) : Option Nat :=
  (List.range text.length).find? fun offset => IsUnclosed text offset

/-- The line of an offset in a text whose first line has the given number. -/
def lineFrom (line : Nat) (text : Text) (offset : Nat) : Nat :=
  line + (text.take offset).count '\n'

/-- The number of the line behind a character. -/
def lineBehind (line : Nat) (char : Char) : Nat :=
  if char = '\n' then line + 1 else line

/-- The height stays above the level, counted downwards. -/
def StaysAbove (level : Nat) (text : Text) : Prop :=
  ∀ offset ≤ text.length, -(level : Int) < height text offset

instance (level : Nat) (text : Text) : Decidable (StaysAbove level text) :=
  inferInstanceAs (Decidable (∀ offset ≤ text.length, _))

/-- The line of the opening brace that is reported behind the text, the lines of the braces that are
open in front of it being given innermost first. -/
def survivor? (line : Nat) (openLines : List Nat) (text : Text) : Option Nat :=
  if StaysAbove openLines.length text then openLines.getLast?
  else (unclosed? text).map (lineFrom line text)

/-! ## One character -/

theorem lineFrom_cons_succ (line : Nat) (char : Char) (rest : Text) (offset : Nat) :
    lineFrom line (char :: rest) (offset + 1) = lineFrom (lineBehind line char) rest offset := by
  simp only [lineFrom, lineBehind, List.take_succ_cons, List.count_cons, beq_iff_eq]
  split_ifs <;> omega

theorem isStray_cons_zero {floor : Int} {char : Char} {rest : Text} :
    IsStray floor (char :: rest) 0 ↔ char = '}' ∧ -1 < floor := by
  simp only [IsStray, height_cons_succ, height_zero, List.getElem?_cons_zero, Option.some.injEq,
    Nat.le_zero, forall_eq]
  constructor
  · rintro ⟨rfl, below, -⟩
    exact ⟨rfl, below⟩
  · rintro ⟨rfl, below⟩
    exact ⟨rfl, below, by decide⟩

/-- A new minimum of the rest is below the height at its front, which is zero. -/
theorem isStray_cons_succ {floor : Int} (nonpositive : floor ≤ 0) {char : Char} {rest : Text}
    {offset : Nat} :
    IsStray floor (char :: rest) (offset + 1) ↔
      IsStray (min (floor - step char) 0) rest offset := by
  simp only [IsStray, height_cons_succ, List.getElem?_cons_succ]
  constructor
  · rintro ⟨closes, below, minimum⟩
    have newMinimum : ∀ earlier ≤ offset, height rest (offset + 1) < height rest earlier := by
      intro earlier bound
      have lower := minimum (earlier + 1) (Nat.succ_le_succ bound)
      rw [height_cons_succ] at lower
      omega
    have front := newMinimum 0 (Nat.zero_le _)
    rw [height_zero] at front
    exact ⟨closes, by omega, newMinimum⟩
  · rintro ⟨closes, below, minimum⟩
    refine ⟨closes, by omega, fun earlier bound => ?_⟩
    cases earlier with
    | zero =>
      rw [height_zero]
      omega
    | succ earlier =>
      have lower := minimum earlier (Nat.le_of_succ_le_succ bound)
      rw [height_cons_succ]
      omega

theorem strays_cons {floor : Int} (nonpositive : floor ≤ 0) (char : Char) (rest : Text) :
    strays floor (char :: rest) =
      (if char = '}' ∧ -1 < floor then [0] else []) ++
        (strays (min (floor - step char) 0) rest).map (· + 1) := by
  have later : (fun offset => decide (IsStray floor (char :: rest) offset)) ∘ (· + 1)
      = fun offset => decide (IsStray (min (floor - step char) 0) rest offset) := by
    funext offset
    exact decide_eq_decide.mpr (isStray_cons_succ nonpositive)
  rw [strays, List.length_cons, List.range_succ_eq_map, List.filter_cons, List.filter_map, strays]
  simp only [decide_eq_true_eq, isStray_cons_zero]
  rw [show Nat.succ = (· + 1) from rfl, later]
  split_ifs <;> rfl

theorem isUnclosed_cons_succ {char : Char} {rest : Text} {offset : Nat} :
    IsUnclosed (char :: rest) (offset + 1) ↔ IsUnclosed rest offset := by
  simp only [IsUnclosed, List.getElem?_cons_succ, height_cons_succ, List.length_cons]
  constructor
  · rintro ⟨opens, never⟩
    refine ⟨opens, fun later bound behind same => ?_⟩
    refine never (later + 1) (Nat.succ_le_succ bound) (Nat.succ_lt_succ behind) ?_
    rw [height_cons_succ, same]
  · rintro ⟨opens, never⟩
    refine ⟨opens, fun later bound behind same => ?_⟩
    cases later with
    | zero => exact absurd behind (Nat.not_lt_zero _)
    | succ later =>
      refine never later (Nat.le_of_succ_le_succ bound) (Nat.lt_of_succ_lt_succ behind) ?_
      rw [height_cons_succ] at same
      exact Int.add_left_cancel same

/-- A height that never returns stays above, since it moves by single steps. -/
theorem IsUnclosed.height_lt {text : Text} {offset later : Nat} (unclosed : IsUnclosed text offset)
    (behind : offset < later) (bound : later ≤ text.length) :
    height text offset < height text later := by
  induction later with
  | zero => exact absurd behind (Nat.not_lt_zero _)
  | succ later ih =>
    have apart := unclosed.2 (later + 1) bound behind
    rcases Nat.lt_succ_iff_lt_or_eq.mp behind with further | rfl
    · have above := ih further (Nat.le_of_succ_le bound)
      rw [height_succ (List.getElem?_eq_getElem bound)] at apart ⊢
      have falls := neg_one_le_step text[later]
      omega
    · rw [height_succ unclosed.1]
      exact Int.lt_succ _

theorem isUnclosed_cons_zero {char : Char} {rest : Text} :
    IsUnclosed (char :: rest) 0 ↔ char = '{' ∧ StaysAbove 1 rest := by
  constructor
  · intro unclosed
    obtain rfl : char = '{' := by simpa using unclosed.1
    refine ⟨rfl, fun offset bound => ?_⟩
    have above := unclosed.height_lt (Nat.succ_pos offset) (Nat.succ_le_succ bound)
    rw [height_zero, height_cons_succ, step_opening] at above
    omega
  · rintro ⟨rfl, above⟩
    refine ⟨rfl, fun later bound behind => ?_⟩
    cases later with
    | zero => exact absurd behind (Nat.not_lt_zero _)
    | succ later =>
      have lower := above later (Nat.le_of_succ_le_succ bound)
      rw [height_zero, height_cons_succ, step_opening]
      omega

theorem unclosed?_cons (char : Char) (rest : Text) :
    unclosed? (char :: rest) =
      if IsUnclosed (char :: rest) 0 then some 0 else (unclosed? rest).map (· + 1) := by
  have later : (fun offset => decide (IsUnclosed (char :: rest) offset)) ∘ (· + 1)
      = fun offset => decide (IsUnclosed rest offset) := by
    funext offset
    exact decide_eq_decide.mpr isUnclosed_cons_succ
  rw [unclosed?, List.length_cons, List.range_succ_eq_map, List.find?_cons, List.find?_map,
    unclosed?]
  rw [show Nat.succ = (· + 1) from rfl, later]
  by_cases unclosed : IsUnclosed (char :: rest) 0
  · simp [unclosed]
  · simp [unclosed]

/-! ## Levels -/

theorem not_staysAbove_zero (text : Text) : ¬StaysAbove 0 text := by
  intro above
  have front := above 0 (Nat.zero_le _)
  rw [height_zero] at front
  exact absurd front (by decide)

theorem StaysAbove.mono {level deeper : Nat} {text : Text} (above : StaysAbove level text)
    (lower : level ≤ deeper) : StaysAbove deeper text := by
  intro offset bound
  have height_gt := above offset bound
  omega

theorem staysAbove_cons {level : Nat} {char : Char} {rest : Text} :
    StaysAbove level (char :: rest) ↔
      0 < level ∧ ∀ offset ≤ rest.length, -(level : Int) < step char + height rest offset := by
  constructor
  · intro above
    have front := above 0 (Nat.zero_le _)
    rw [height_zero] at front
    refine ⟨by omega, fun offset bound => ?_⟩
    rw [← height_cons_succ]
    exact above (offset + 1) (Nat.succ_le_succ bound)
  · rintro ⟨positive, above⟩ offset bound
    cases offset with
    | zero =>
      rw [height_zero]
      omega
    | succ offset =>
      rw [height_cons_succ]
      exact above offset (Nat.le_of_succ_le_succ bound)

theorem staysAbove_opening {level : Nat} {rest : Text} :
    StaysAbove level ('{' :: rest) ↔ 0 < level ∧ StaysAbove (level + 1) rest := by
  rw [staysAbove_cons, step_opening]
  refine and_congr_right fun _ => forall₂_congr fun offset _ => ?_
  push_cast
  omega

theorem staysAbove_closing {level : Nat} {rest : Text} :
    StaysAbove (level + 1) ('}' :: rest) ↔ StaysAbove level rest := by
  rw [staysAbove_cons, step_closing]
  constructor
  · rintro ⟨-, above⟩ offset bound
    have height_gt := above offset bound
    push_cast at height_gt
    omega
  · intro above
    refine ⟨Nat.succ_pos level, fun offset bound => ?_⟩
    have height_gt := above offset bound
    push_cast
    omega

theorem staysAbove_other {level : Nat} {char : Char} {rest : Text} (even : step char = 0) :
    StaysAbove level (char :: rest) ↔ StaysAbove level rest := by
  rw [staysAbove_cons, even]
  simp only [Int.zero_add]
  refine and_iff_right_of_imp fun above => ?_
  have front := above 0 (Nat.zero_le _)
  rw [height_zero] at front
  omega

/-! ## The brace that is left over -/

theorem map_unclosed?_cons {line : Nat} {char : Char} {rest : Text}
    (closed : ¬IsUnclosed (char :: rest) 0) :
    (unclosed? (char :: rest)).map (lineFrom line (char :: rest)) =
      (unclosed? rest).map (lineFrom (lineBehind line char) rest) := by
  rw [unclosed?_cons, if_neg closed, Option.map_map]
  congr 1
  funext offset
  exact lineFrom_cons_succ line char rest offset

theorem survivor?_opening (line : Nat) (openLines : List Nat) (rest : Text) :
    survivor? line openLines ('{' :: rest) = survivor? line (line :: openLines) rest := by
  simp only [survivor?, staysAbove_opening, List.length_cons]
  by_cases above : StaysAbove (openLines.length + 1) rest
  · rw [if_pos above]
    cases openLines with
    | nil =>
      have unclosed : IsUnclosed ('{' :: rest) 0 := isUnclosed_cons_zero.mpr ⟨rfl, above⟩
      rw [if_neg fun both => Nat.lt_irrefl 0 both.1, unclosed?_cons, if_pos unclosed]
      rfl
    | cons innermost others =>
      rw [if_pos ⟨Nat.succ_pos _, above⟩, List.getLast?_cons_cons]
  · have closed : ¬IsUnclosed ('{' :: rest) 0 := by
      intro unclosed
      exact above ((isUnclosed_cons_zero.mp unclosed).2.mono (Nat.le_add_left _ _))
    rw [if_neg above, if_neg fun both => above both.2, map_unclosed?_cons closed]
    rfl

theorem survivor?_closing (line innermost : Nat) (others : List Nat) (rest : Text) :
    survivor? line (innermost :: others) ('}' :: rest) = survivor? line others rest := by
  have closed : ¬IsUnclosed ('}' :: rest) 0 := by
    intro unclosed
    exact absurd (isUnclosed_cons_zero.mp unclosed).1 (by decide)
  simp only [survivor?, List.length_cons, staysAbove_closing, map_unclosed?_cons closed]
  by_cases above : StaysAbove others.length rest
  · cases others with
    | nil => exact absurd above (not_staysAbove_zero rest)
    | cons next others => rw [if_pos above, if_pos above, List.getLast?_cons_cons]
  · rw [if_neg above, if_neg above]
    rfl

/-- A character that opens nothing and closes none of the open braces leaves the outermost one. -/
theorem survivor?_other {line : Nat} {openLines : List Nat} {char : Char} {rest : Text}
    (other : char ≠ '{')
    (same : StaysAbove openLines.length (char :: rest) ↔ StaysAbove openLines.length rest) :
    survivor? line openLines (char :: rest) = survivor? (lineBehind line char) openLines rest := by
  have closed : ¬IsUnclosed (char :: rest) 0 := by
    intro unclosed
    exact other (isUnclosed_cons_zero.mp unclosed).1
  simp only [survivor?, same, map_unclosed?_cons closed]

/-! ## The stack -/

/-- The findings in a text, by heights, with the lines of the braces open in front of it. -/
def findingsFrom (line : Nat) (openLines : List Nat) (text : Text) : List Diagnostic :=
  (strays (-openLines.length) text).map
      (fun offset => .unmatchedClosing (lineFrom line text offset))
    ++ (survivor? line openLines text).toList.map .unmatchedOpening

/-- A character that has a partner, or needs none, moves the closing braces without one. -/
theorem map_strays_cons {line : Nat} {floor moved : Int} {char : Char} {rest : Text}
    (nonpositive : floor ≤ 0) (paired : ¬(char = '}' ∧ -1 < floor))
    (moves : min (floor - step char) 0 = moved) :
    (strays floor (char :: rest)).map
        (fun offset => Diagnostic.unmatchedClosing (lineFrom line (char :: rest) offset)) =
      (strays moved rest).map
        (fun offset => .unmatchedClosing (lineFrom (lineBehind line char) rest offset)) := by
  rw [strays_cons nonpositive, if_neg paired, List.nil_append, List.map_map, moves]
  congr 1
  funext offset
  exact congrArg Diagnostic.unmatchedClosing (lineFrom_cons_succ line char rest offset)

theorem findingsFrom_opening (line : Nat) (openLines : List Nat) (rest : Text) :
    findingsFrom line openLines ('{' :: rest) = findingsFrom line (line :: openLines) rest := by
  have moves :
      min (-(openLines.length : Int) - step '{') 0 = -((line :: openLines).length : Int) := by
    rw [step_opening, List.length_cons]
    push_cast
    omega
  rw [findingsFrom, survivor?_opening, map_strays_cons (by omega) (by simp) moves]
  rfl

theorem findingsFrom_closing (line innermost : Nat) (others : List Nat) (rest : Text) :
    findingsFrom line (innermost :: others) ('}' :: rest) = findingsFrom line others rest := by
  have moves :
      min (-((innermost :: others).length : Int) - step '}') 0 = -(others.length : Int) := by
    rw [step_closing, List.length_cons]
    push_cast
    omega
  have paired : ¬('}' = '}' ∧ -1 < -((innermost :: others).length : Int)) := by
    rw [List.length_cons]
    push_cast
    omega
  rw [findingsFrom, survivor?_closing, map_strays_cons (by omega) paired moves]
  rfl

theorem findingsFrom_stray (line : Nat) (rest : Text) :
    findingsFrom line [] ('}' :: rest) = .unmatchedClosing line :: findingsFrom line [] rest := by
  have level : StaysAbove ([] : List Nat).length ('}' :: rest) ↔
      StaysAbove ([] : List Nat).length rest :=
    iff_of_false (not_staysAbove_zero _) (not_staysAbove_zero _)
  have shift : (fun offset => Diagnostic.unmatchedClosing (lineFrom line ('}' :: rest) offset))
      ∘ (· + 1) = fun offset => .unmatchedClosing (lineFrom line rest offset) := by
    funext offset
    exact congrArg Diagnostic.unmatchedClosing (lineFrom_cons_succ line '}' rest offset)
  rw [findingsFrom, survivor?_other (by decide) level, strays_cons (by decide), if_pos (by decide),
    List.map_append, List.map_map, shift]
  rfl

theorem findingsFrom_other {line : Nat} {openLines : List Nat} {char : Char} {rest : Text}
    (opensNone : char ≠ '{') (closesNone : char ≠ '}') :
    findingsFrom line openLines (char :: rest) =
      findingsFrom (lineBehind line char) openLines rest := by
  have even := step_other opensNone closesNone
  have moves : min (-(openLines.length : Int) - step char) 0 = -(openLines.length : Int) := by
    rw [even]
    omega
  rw [findingsFrom, survivor?_other opensNone (staysAbove_other even),
    map_strays_cons (by omega) (fun both => closesNone both.1) moves]
  rfl

/-- **The stack finds what the heights say.** -/
theorem checkFrom_eq (line : Nat) (openLines : List Nat) (text : Text) :
    checkFrom line openLines text = findingsFrom line openLines text := by
  induction text generalizing line openLines with
  | nil =>
    cases openLines with
    | nil => rfl
    | cons innermost others =>
      have above : StaysAbove (innermost :: others).length [] := by
        intro offset bound
        obtain rfl : offset = 0 := Nat.le_zero.mp bound
        rw [height_zero, List.length_cons]
        push_cast
        omega
      rw [checkFrom.eq_def, findingsFrom, survivor?, if_pos above, List.getLast?_cons]
      rfl
  | cons char rest ih =>
    unfold checkFrom
    by_cases feeds : char = '\n'
    · subst feeds
      rw [if_pos rfl, ih, findingsFrom_other (by decide) (by decide)]
      rfl
    · rw [if_neg feeds]
      by_cases opens : char = '{'
      · subst opens
        rw [if_pos rfl, ih, findingsFrom_opening]
      · rw [if_neg opens]
        by_cases closes : char = '}'
        · subst closes
          rw [if_pos rfl]
          cases openLines with
          | nil => rw [findingsFrom_stray, ← ih]
          | cons innermost others =>
            rw [findingsFrom_closing]
            exact ih line others
        · have same : lineBehind line char = line := if_neg feeds
          rw [if_neg closes, ih, findingsFrom_other opens closes, same]

/-! ## Whole texts -/

/-- The findings in a whole text, by heights. -/
theorem check_eq (text : Text) :
    check text =
      (strays 0 text).map (fun offset => .unmatchedClosing (Text.lineAt text offset)) ++
        (unclosed? text).toList.map
          (fun offset => .unmatchedOpening (Text.lineAt text offset)) := by
  have level : ¬StaysAbove ([] : List Nat).length text := not_staysAbove_zero text
  rw [check, checkFrom_eq, findingsFrom, survivor?, if_neg level, Option.toList_map, List.map_map]
  rfl

theorem mem_strays {floor : Int} {text : Text} {offset : Nat} :
    offset ∈ strays floor text ↔ IsStray floor text offset := by
  rw [strays, List.mem_filter, List.mem_range, decide_eq_true_eq]
  exact and_iff_right_of_imp IsStray.lt_length

theorem isUnclosed_of_mem {text : Text} {offset : Nat} (first : offset ∈ unclosed? text) :
    IsUnclosed text offset := by
  simpa using List.find?_some first

/-- No closing brace lacks a partner exactly when the height is nowhere negative. -/
theorem strays_eq_nil_iff (text : Text) :
    strays 0 text = [] ↔ ∀ offset ≤ text.length, 0 ≤ height text offset := by
  rw [List.eq_nil_iff_forall_not_mem]
  constructor
  · intro noStray offset
    induction offset using Nat.strong_induction_on with
    | _ offset ih =>
      intro bound
      cases offset with
      | zero => exact Int.le_of_eq (height_zero text).symm
      | succ offset =>
        -- Falling below zero for the first time would make a new minimum.
        by_contra negative
        have here := List.getElem?_eq_getElem bound
        have start := ih offset (Nat.lt_succ_self offset) (Nat.le_of_succ_le bound)
        have falls := height_succ here
        have closes : text[offset] = '}' := by
          by_contra other
          have even : 0 ≤ step text[offset] := by
            rw [step, if_neg other]
            split_ifs <;> decide
          omega
        refine noStray offset (mem_strays.mpr ⟨by rw [here, closes], by omega, ?_⟩)
        intro earlier before
        have above := ih earlier (Nat.lt_succ_of_le before) (by omega)
        omega
  · intro floor offset member
    have stray := mem_strays.mp member
    have above := floor (offset + 1) stray.lt_length
    have below := stray.2.1
    omega

/-- A text without unclosed braces ends at its minimum. -/
theorem height_length_le {text : Text} (closed : ∀ offset, ¬IsUnclosed text offset) :
    ∀ offset ≤ text.length, height text text.length ≤ height text offset := by
  induction text with
  | nil =>
    intro offset bound
    rw [Nat.le_zero.mp bound]
    exact Int.le_refl _
  | cons char rest ih =>
    have below := ih fun offset unclosed => closed (offset + 1) (isUnclosed_cons_succ.mpr unclosed)
    intro offset bound
    rw [List.length_cons, height_cons_succ]
    cases offset with
    | succ offset =>
      rw [height_cons_succ]
      exact Int.add_le_add_left (below offset (Nat.le_of_succ_le_succ bound)) _
    | zero =>
      rw [height_zero]
      by_cases opens : char = '{'
      · -- The brace is closed somewhere, and there the rest is down by one.
        have returns : ¬StaysAbove 1 rest := fun above =>
          closed 0 (isUnclosed_cons_zero.mpr ⟨opens, above⟩)
        obtain ⟨place, within, down⟩ : ∃ place ≤ rest.length, height rest place ≤ -1 := by
          simpa [StaysAbove] using returns
        have lower := below place within
        rw [opens, step_opening]
        omega
      · have flat := step_le_zero opens
        have front := below 0 (Nat.zero_le _)
        rw [height_zero] at front
        omega

/-- An opening brace is left over exactly when the text ends above its minimum. -/
theorem isSome_unclosed?_iff (text : Text) :
    (unclosed? text).isSome = true ↔
      ∃ offset ≤ text.length, height text offset < height text text.length := by
  constructor
  · intro some
    obtain ⟨offset, first⟩ := Option.isSome_iff_exists.mp some
    have unclosed := isUnclosed_of_mem first
    exact ⟨offset, Nat.le_of_lt unclosed.lt_length,
      unclosed.height_lt unclosed.lt_length (Nat.le_refl _)⟩
  · rintro ⟨offset, bound, lower⟩
    by_contra none
    refine absurd (height_length_le (fun place unclosed => none ?_) offset bound) (by omega)
    exact List.find?_isSome.mpr
      ⟨place, List.mem_range.mpr unclosed.lt_length, decide_eq_true unclosed⟩

/-- Nothing is reported exactly when the braces are balanced. -/
theorem check_eq_nil_iff (text : Text) : check text = [] ↔ Dyck (text.filter isBrace) := by
  rw [dyck_filter_iff, check_eq, List.append_eq_nil_iff, List.map_eq_nil_iff, strays_eq_nil_iff,
    List.map_eq_nil_iff, Option.toList_eq_nil_iff, ← Option.not_isSome_iff_eq_none,
    isSome_unclosed?_iff]
  refine and_congr_right fun floor => ?_
  constructor
  · intro lowest
    have above := floor text.length (Nat.le_refl _)
    by_contra apart
    refine lowest ⟨0, Nat.zero_le _, ?_⟩
    rw [height_zero]
    omega
  · rintro last ⟨offset, bound, lower⟩
    have above := floor offset bound
    omega

/-- A closing brace without partner cannot stand behind an opening brace that is never closed. -/
theorem IsStray.lt_of_isUnclosed {floor : Int} {text : Text} {closing opening : Nat}
    (stray : IsStray floor text closing) (unclosed : IsUnclosed text opening) :
    closing < opening := by
  by_contra behind
  have above : height text opening < height text (closing + 1) :=
    unclosed.height_lt (Nat.lt_succ_of_le (Nat.not_lt.mp behind)) stray.lt_length
  have below := stray.2.2 opening (Nat.not_lt.mp behind)
  omega

/-- The findings are reported from the first line to the last. -/
theorem pairwise_line_check (text : Text) :
    (check text).Pairwise fun first second => first.line ≤ second.line := by
  rw [check_eq]
  refine List.pairwise_append.mpr ⟨?_, ?_, ?_⟩
  · have ordered : (strays 0 text).Pairwise (· < ·) := List.pairwise_lt_range.filter _
    refine List.pairwise_map.mpr (ordered.imp fun before => ?_)
    exact Text.lineAt_mono text (Nat.le_of_lt before)
  · cases unclosed? text with
    | none => exact .nil
    | some offset => exact List.pairwise_singleton _ _
  · intro first isClosing second isOpening
    obtain ⟨closing, member, rfl⟩ := List.mem_map.mp isClosing
    obtain ⟨opening, left, rfl⟩ := List.mem_map.mp isOpening
    have unclosed := isUnclosed_of_mem (Option.mem_toList.mp left)
    exact Text.lineAt_mono text (Nat.le_of_lt ((mem_strays.mp member).lt_of_isUnclosed unclosed))

/-- **The check of braces, by heights.** It reports each closing brace at which the height drops to
a new minimum below zero, then the first opening brace behind which the height never returns, which
exists exactly when the text ends above its minimum. It reports nothing exactly when the braces are
balanced, and it reports in the order of lines. -/
theorem check_by_heights (source : Text) :
    check source =
        (strays 0 source).map (fun offset => .unmatchedClosing (Text.lineAt source offset)) ++
          (unclosed? source).toList.map
            (fun offset => .unmatchedOpening (Text.lineAt source offset)) ∧
      ((unclosed? source).isSome = true ↔
        ∃ offset ≤ source.length, height source offset < height source source.length) ∧
      (check source = [] ↔ Dyck (source.filter isBrace)) ∧
      (check source).Pairwise fun first second => first.line ≤ second.line :=
  ⟨check_eq source, isSome_unclosed?_iff source, check_eq_nil_iff source,
    pairwise_line_check source⟩

end ShallowCpp.Braces
