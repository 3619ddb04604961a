import Mathlib.Data.List.Basic
import ShallowCpp.Assembly.Lower

/-!
# The routine of a function

The code of a routine has four parts: it enters the frame, makes room for the local variables, moves
the returned values into the accumulator, and gives the frame up. Each part has instructions of its
own kind. So the parts can be told apart in the code: the instructions that handle the frame occur
once each (`count_frame`), and room is made once at most and before anything is moved
(`reserve_before_move`).
-/

set_option autoImplicit false

namespace ShallowCpp.Assembly

/-! ## The kinds of instructions -/

/-- The value that the instruction moves into the accumulator. -/
def Instr.accumulated? : Instr → Option Text
  | .move .longword (.immediate value) (.register .ax) => some value
  | _ => none

/-- The room that the instruction makes. -/
def Instr.reserved? : Instr → Option Nat
  | .reserve bytes => some bytes
  | _ => none

/-- The instruction moves four bytes. -/
def Instr.isLongMove : Instr → Bool
  | .move .longword _ _ => true
  | _ => false

theorem eq_reserve_of_mem {count : Nat} {instr : Instr} (member : instr ∈ reserveLocals count) :
    ∃ bytes, instr = .reserve bytes := by
  cases count with
  | zero => cases member
  | succ count => exact ⟨_, List.mem_singleton.mp member⟩

theorem eq_move_of_mem {body : List Statement} {instr : Instr}
    (member : instr ∈ body.filterMap returnMove?) :
    ∃ value, .returns value ∈ body ∧
      instr = .move .longword (.immediate value) (.register .ax) := by
  obtain ⟨statement, inBody, moved⟩ := List.mem_filterMap.mp member
  cases statement with
  | returns value =>
    rw [returnMove?] at moved
    split at moved
    next => cases moved
    next => exact ⟨value, inBody, (Option.some.inj moved).symm⟩
  | declaration | expression => cases moved

/-- An instruction that handles the frame neither makes room nor moves four bytes. -/
theorem frame_apart {instr : Instr} (frame : instr ∈ enterFrame ++ [.leave, .ret]) :
    instr.reserved? = none ∧ instr.isLongMove = false := by
  have closed : ∀ instr ∈ enterFrame ++ [Instr.leave, .ret],
      instr.reserved? = none ∧ instr.isLongMove = false := by decide
  exact closed instr frame

/-! ## The parts of a routine -/

/-- What the routine of a function consists of: instructions that handle the frame, and moves of the
values that the function returns. -/
theorem Routine.mem_code_cases {function : FunctionDecl} {instr : Instr}
    (member : instr ∈ (Routine.ofFunction function).code) :
    instr ∈ enterFrame ++ [.leave, .ret] ∨ (∃ bytes, instr = .reserve bytes) ∨
      ∃ value, .returns value ∈ function.body ∧
        instr = .move .longword (.immediate value) (.register .ax) := by
  simp only [Routine.ofFunction, List.mem_append] at member
  rcases member with ((enters | reserves) | moves) | leaves
  · exact .inl (List.mem_append_left _ enters)
  · exact .inr (.inl (eq_reserve_of_mem reserves))
  · exact .inr (.inr (eq_move_of_mem moves))
  · exact .inl (List.mem_append_right _ leaves)

namespace Routine

variable (function : FunctionDecl)

theorem enterFrame_prefix_code : enterFrame <+: (ofFunction function).code := by
  simp only [ofFunction, List.append_assoc]
  exact List.prefix_append _ _

theorem leave_suffix_code : [.leave, .ret] <:+ (ofFunction function).code :=
  List.suffix_append _ _

/-- **An instruction that handles the frame occurs once.** -/
theorem count_frame {instr : Instr} (frame : instr ∈ enterFrame ++ [.leave, .ret]) :
    (ofFunction function).code.count instr = 1 := by
  obtain ⟨noRoom, noMove⟩ := frame_apart frame
  have inRoom : (reserveLocals function.locals.length).count instr = 0 := by
    refine List.count_eq_zero.mpr fun member => ?_
    obtain ⟨bytes, rfl⟩ := eq_reserve_of_mem member
    cases noRoom
  have inMoves : (function.body.filterMap returnMove?).count instr = 0 := by
    refine List.count_eq_zero.mpr fun member => ?_
    obtain ⟨value, -, rfl⟩ := eq_move_of_mem member
    cases noMove
  have inFrame : ∀ instr ∈ enterFrame ++ [Instr.leave, .ret],
      (enterFrame ++ [Instr.leave, .ret]).count instr = 1 := by decide
  have once := inFrame instr frame
  rw [List.count_append] at once
  simp only [ofFunction, List.count_append, inRoom, inMoves]
  exact once

/-- The values that are moved into the accumulator come from the moves of returned values. -/
theorem filterMap_accumulated?_code :
    (ofFunction function).code.filterMap Instr.accumulated? =
      (function.body.filterMap returnMove?).filterMap Instr.accumulated? := by
  have inRoom : (reserveLocals function.locals.length).filterMap Instr.accumulated? = [] := by
    refine List.filterMap_eq_nil_iff.mpr fun instr member => ?_
    obtain ⟨bytes, rfl⟩ := eq_reserve_of_mem member
    rfl
  simp only [ofFunction, List.filterMap_append, inRoom]
  exact List.append_nil _

/-- Room is made once at most, for all local variables. -/
theorem filterMap_reserved?_code :
    (ofFunction function).code.filterMap Instr.reserved? =
      if function.locals = [] then [] else [slotSize * function.locals.length] := by
  have inMoves : (function.body.filterMap returnMove?).filterMap Instr.reserved? = [] := by
    refine List.filterMap_eq_nil_iff.mpr fun instr member => ?_
    obtain ⟨value, -, rfl⟩ := eq_move_of_mem member
    rfl
  simp only [ofFunction, List.filterMap_append, inMoves]
  cases function.locals with
  | nil => rfl
  | cons first others =>
    rw [if_neg (List.cons_ne_nil _ _), Nat.mul_comm]
    rfl

/-- **Room is made before anything is moved.** -/
theorem reserve_before_move {first later bytes : Nat} {move : Instr}
    (room : (ofFunction function).code[first]? = some (.reserve bytes))
    (moved : (ofFunction function).code[later]? = some move) (isMove : move.isLongMove = true) :
    first < later := by
  rw [ofFunction, List.append_assoc] at room moved
  -- The front part moves no four bytes, and the back part makes no room.
  have later_le : (enterFrame ++ reserveLocals function.locals.length).length ≤ later := by
    by_contra within
    rw [List.getElem?_append_left (Nat.lt_of_not_le within)] at moved
    rcases List.mem_append.mp (List.mem_of_getElem? moved) with enters | reserves
    · simp [(frame_apart (List.mem_append_left _ enters)).2] at isMove
    · obtain ⟨bytes, rfl⟩ := eq_reserve_of_mem reserves
      cases isMove
  have first_lt : first < (enterFrame ++ reserveLocals function.locals.length).length := by
    by_contra behind
    rw [List.getElem?_append_right (Nat.le_of_not_lt behind)] at room
    rcases List.mem_append.mp (List.mem_of_getElem? room) with moves | leaves
    · obtain ⟨value, -, ⟨⟩⟩ := eq_move_of_mem moves
    · cases (frame_apart (List.mem_append_right _ leaves)).1
  exact Nat.lt_of_lt_of_le first_lt later_le

end Routine

end ShallowCpp.Assembly
