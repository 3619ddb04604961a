import Mathlib.Data.List.Basic
import ShallowCpp.Assembly.Sink

/-!
# What an emission leaves behind

An emission is a nest of functions, each of which hands out parts of the text and calls others in
between. All that matters of it are the parts, in order: an emission hands out a text if it goes
through a list of texts that make up this text, and does nothing else. What is put together from
emissions hands out what they hand out, one behind the other, so a program is emitted as its text
(`Code.emits`).

A destination is offered the parts one by one. Either it takes them all, or the offers end with the
one that it refuses (`Emits.exists_offers`). Nothing is assumed of the destination, which may as
well keep a record of what it is offered. For a sink, several offers come to the same as a single
offer of all the bytes (`Sink.outcome_of_offers`), and a sink that is full stays as it is; so what
an emission leaves in a sink follows from the text alone (`emission_stops_at_refusal`).
-/

set_option autoImplicit false

namespace ShallowCpp.Assembly

/-! ## Emissions and their texts -/

section

variable {m : Type → Type} [Monad m]

/-- The emission goes through parts of the text, in order, and does nothing else. -/
def Emits (emission : (Text → m Unit) → m Unit) (text : Text) : Prop :=
  ∃ parts : List Text, parts.flatten = text ∧ ∀ put, emission put = forM parts put

theorem Emits.of_eq {emission : (Text → m Unit) → m Unit} {text other : Text}
    (emits : Emits emission text) (same : text = other) : Emits emission other :=
  same ▸ emits

variable [LawfulMonad m]

theorem emits_put (text : Text) : Emits (m := m) (fun put => put text) text :=
  ⟨[text], by simp, fun put => by simp⟩

theorem Emits.append {first second : (Text → m Unit) → m Unit} {text behind : Text}
    (emits : Emits first text) (continues : Emits second behind) :
    Emits (fun put => do first put; second put) (text ++ behind) := by
  obtain ⟨parts, rfl, same⟩ := emits
  obtain ⟨others, rfl, same'⟩ := continues
  refine ⟨parts ++ others, List.flatten_append, fun put => ?_⟩
  simp only [same, same', List.forM_append]

theorem emits_forM {α : Type} {emission : (Text → m Unit) → α → m Unit} {text : α → Text}
    (emits : ∀ item, Emits (emission · item) (text item)) (items : List α) :
    Emits (fun put => forM items (emission put)) (items.flatMap text) := by
  induction items with
  | nil => exact ⟨[], rfl, fun _ => rfl⟩
  | cons item others ih =>
    simp only [List.forM_cons, List.flatMap_cons]
    exact (emits item).append ih

theorem Operand.emits (width : Width) (operand : Operand) :
    Emits (m := m) (operand.emit · width) (operand.render width) := by
  cases operand with
  | immediate value => exact (emits_put ['$']).append (emits_put value)
  | register which => exact emits_put (which.name width)

theorem Instr.emits (instr : Instr) : Emits (m := m) instr.emit instr.render := by
  cases instr with
  | push operand =>
    have emits := (emits_put (m := m) "pushq ".toList).append (operand.emits .quadword)
    exact emits.of_eq rfl
  | move width source target =>
    have emits := (emits_put (m := m) (width.moveWord ++ [' '])).append
      ((source.emits width).append ((emits_put ", ".toList).append (target.emits width)))
    exact emits.of_eq (by simp only [Instr.render.eq_def, List.append_assoc])
  | reserve bytes =>
    have emits := (emits_put (m := m) "subq $".toList).append ((emits_put (Text.ofNat bytes)).append
      (emits_put (", ".toList ++ Register.sp.name .quadword)))
    exact emits.of_eq (by simp only [Instr.render.eq_def, List.append_assoc])
  | leave => exact emits_put "leave".toList
  | ret => exact emits_put "ret".toList

theorem Instr.emits_line (instr : Instr) :
    Emits (m := m) instr.emitLine (line ("  ".toList ++ instr.render)) := by
  have emits := (emits_put (m := m) "  ".toList).append (instr.emits.append (emits_put (line [])))
  exact emits.of_eq (by simp only [line, List.append_assoc, List.nil_append])

theorem StaticString.emits (string : StaticString) :
    Emits (m := m) string.emit string.pieces.flatten := by
  have emits := (emits_put (m := m) string.label).append ((emits_put (line [':'])).append
    ((emits_put "  .string \"".toList).append
      ((emits_put (Octal.escape string.value)).append (emits_put (line ['"'])))))
  exact emits.of_eq (by simp [StaticString.pieces, line])

theorem Routine.emits (routine : Routine) :
    Emits (m := m) (fun put => do put (line []); routine.emit put) routine.pieces.flatten := by
  have emits := (emits_put (m := m) (line [])).append ((emits_put routine.name).append
    ((emits_put (line [':'])).append (emits_forM Instr.emits_line routine.code)))
  exact emits.of_eq (by simp [Routine.pieces, line, List.flatMap_def])

/-- **A program is emitted as its text.** -/
theorem Code.emits (code : Code) : Emits (m := m) code.emit code.render := by
  have emits := (emits_put (m := m) (line ".section .data".toList)).append
    ((emits_forM StaticString.emits code.strings).append ((emits_put (line [])).append
      ((emits_put (line ".section .text".toList)).append ((emits_put ".globl ".toList).append
        ((emits_put code.globalSymbol).append ((emits_put (line [])).append
          (emits_forM Routine.emits code.routines)))))))
  have flatten_flatMap : ∀ {α : Type} (pieces : α → List Text) (items : List α),
      (items.flatMap pieces).flatten = items.flatMap fun item => (pieces item).flatten := by
    intro α pieces items
    simp only [← List.flatMap_id, List.flatMap_assoc]
  exact emits.of_eq (by simp [Code.render, Code.pieces, line, flatten_flatMap])

end

/-! ## Offers -/

section

variable {ε σ : Type}

/-- The offers that are made to a destination, from one of its states to the outcome. They are all
taken, or the last one is refused. -/
inductive Offers (put : Text → ExceptT ε (StateM σ) Unit) :
    σ → List Text → Except ε Unit × σ → Prop where
  | done {state : σ} : Offers put state [] (.ok (), state)
  | taken {state next : σ} {part : Text} {others : List Text} {outcome : Except ε Unit × σ} :
      (put part).run.run state = (.ok (), next) → Offers put next others outcome →
        Offers put state (part :: others) outcome
  | refused {state last : σ} {part : Text} {fault : ε} :
      (put part).run.run state = (.error fault, last) →
        Offers put state [part] (.error fault, last)

/-- A fault of the first action ends both. -/
theorem run_bind {α β : Type} (first : ExceptT ε (StateM σ) α)
    (second : α → ExceptT ε (StateM σ) β) (state : σ) :
    (first >>= second).run.run state =
      match first.run.run state with
      | (.ok value, next) => (second value).run.run next
      | (.error fault, last) => (.error fault, last) := by
  rw [ExceptT.run_bind, StateT.run_bind]
  obtain ⟨result, next⟩ := first.run.run state
  cases result with
  | ok => rfl
  | error fault => rfl

/-- **An emission offers parts of its text until one is refused.** If none is, it offers them
all. -/
theorem Emits.exists_offers
    {emission : (Text → ExceptT ε (StateM σ) Unit) → ExceptT ε (StateM σ) Unit} {text : Text}
    (emits : Emits emission text) (put : Text → ExceptT ε (StateM σ) Unit) (state : σ) :
    ∃ offered remaining : List Text, (offered ++ remaining).flatten = text ∧
      Offers put state offered ((emission put).run.run state) ∧
      (((emission put).run.run state).1 = .ok () → remaining = []) := by
  obtain ⟨parts, rfl, same⟩ := emits
  rw [same]
  clear same
  induction parts generalizing state with
  | nil => exact ⟨[], [], rfl, .done, fun _ => rfl⟩
  | cons part others ih =>
    rw [List.forM_cons, run_bind]
    rcases answer : (put part).run.run state with ⟨fault | ⟨⟩, next⟩
    · exact ⟨[part], others, rfl, .refused answer, fun success => nomatch success⟩
    · obtain ⟨offered, remaining, whole, offers, complete⟩ := ih next
      refine ⟨part :: offered, remaining, ?_, .taken answer offers, complete⟩
      rw [List.cons_append, List.flatten_cons, whole, List.flatten_cons]

end

/-! ## Sinks -/

namespace Sink

theorem bytes_append (text behind : Text) : bytes (text ++ behind) = bytes text ++ bytes behind :=
  List.flatMap_append

/-- To offer bytes in two goes is to offer them at once. -/
theorem take_take (sink : Sink) (first second : List UInt8) :
    (sink.take first).take second = sink.take (first ++ second) := by
  simp only [take, List.length_append, List.append_assoc, List.take_append, Nat.sub_sub]

theorem take_of_room_eq_zero {sink : Sink} (full : sink.room = 0) (bytes : List UInt8) :
    sink.take bytes = sink := by
  cases sink
  simp_all [take]

/-- What comes of offering bytes to a sink. -/
def outcome (sink : Sink) (bytes : List UInt8) : Except Fault Unit × Sink :=
  (if sink.room < bytes.length then .error .full else .ok (), sink.take bytes)

theorem run_put (sink : Sink) (text : Text) :
    (put text).run.run sink = sink.outcome (bytes text) := by
  have behind : (put text).run.run sink =
      (if sink.room < (bytes text).length then throw .full else pure () :
        ExceptT Fault (StateM Sink) Unit).run.run (sink.take (bytes text)) := rfl
  rw [behind, outcome]
  split_ifs
  · rfl
  · rfl

/-- Behind bytes that fit, an offer has the outcome of all the bytes together. -/
theorem outcome_take {sink : Sink} {first : List UInt8} (fits : first.length ≤ sink.room)
    (second : List UInt8) :
    (sink.take first).outcome second = sink.outcome (first ++ second) := by
  have same : (sink.take first).room < second.length ↔
      sink.room < (first ++ second).length := by
    simp only [take, List.length_append]
    omega
  simp only [outcome, same, take_take]

/-- Behind bytes that do not fit, further bytes change nothing. -/
theorem outcome_append {sink : Sink} {first : List UInt8} (small : sink.room < first.length)
    (second : List UInt8) : sink.outcome (first ++ second) = sink.outcome first := by
  have full : (sink.take first).room = 0 := Nat.sub_eq_zero_of_le (Nat.le_of_lt small)
  have smaller : sink.room < (first ++ second).length := by
    rw [List.length_append]
    omega
  rw [outcome, outcome, if_pos small, if_pos smaller, ← take_take, take_of_room_eq_zero full]

/-- **Several offers have the outcome of a single one.** -/
theorem outcome_of_offers {sink : Sink} {offered : List Text} {result : Except Fault Unit × Sink}
    (offers : Offers put sink offered result) :
    result = sink.outcome (bytes offered.flatten) := by
  induction offers with
  | @done sink => simp [outcome, take, bytes]
  | @taken sink next part others result answer _ ih =>
    rw [run_put, outcome, Prod.mk.injEq] at answer
    obtain ⟨accepted, rfl⟩ := answer
    have fits : (bytes part).length ≤ sink.room := by
      by_contra small
      rw [if_pos (Nat.lt_of_not_le small)] at accepted
      cases accepted
    rw [ih, outcome_take fits, ← bytes_append, List.flatten_cons]
  | refused answer =>
    rw [← answer, run_put, List.flatten_singleton]

/-- An emission leaves the sink as if the text had been offered at once. -/
theorem run_of_emits
    {emission : (Text → ExceptT Fault (StateM Sink) Unit) → ExceptT Fault (StateM Sink) Unit}
    {text : Text} (emits : Emits emission text) (sink : Sink) :
    (emission put).run.run sink = sink.outcome (bytes text) := by
  obtain ⟨offered, remaining, rfl, offers, complete⟩ := emits.exists_offers put sink
  have result := outcome_of_offers offers
  rw [List.flatten_append, bytes_append]
  by_cases small : sink.room < (bytes offered.flatten).length
  · rw [result, outcome_append small]
  · obtain rfl : remaining = [] := complete (by rw [result, outcome, if_neg small])
    rw [result]
    simp [bytes]

end Sink

/-- What is left of a sink, and the fault, follow from the text of the program. -/
theorem Code.writeTo_eq (sink : Sink) (code : Code) :
    code.writeTo sink = (sink.take (Sink.bytes code.render),
      if sink.room < (Sink.bytes code.render).length then some .full else none) := by
  rw [Code.writeTo, Sink.run_of_emits code.emits, Sink.outcome]
  by_cases small : sink.room < (Sink.bytes code.render).length
  · rw [if_pos small, if_pos small]
  · rw [if_neg small, if_neg small]

/-- **A sink that fills up holds the beginning of the text.** Whatever the program and the size of
the sink, the sink holds as many bytes of the text as fit, and there is a fault exactly if the text
is longer. Whatever the destination, it is offered parts of the text in order. Nothing is offered
behind a part that it refuses, and if it refuses none it is offered the whole text. -/
theorem emission_stops_at_refusal (code : Code) :
    (∀ limit, (code.writeTo (.empty limit)).1.written =
        (Sink.bytes code.render).take (min limit (Sink.bytes code.render).length) ∧
      ((code.writeTo (.empty limit)).2 = some .full ↔
        limit < (Sink.bytes code.render).length)) ∧
    ∀ (ε σ : Type) (put : Text → ExceptT ε (StateM σ) Unit) (state : σ),
      ∃ offered remaining : List Text, (offered ++ remaining).flatten = code.render ∧
        Offers put state offered ((code.emit put).run.run state) ∧
        (((code.emit put).run.run state).1 = .ok () → remaining = []) := by
  constructor
  · intro limit
    rw [Code.writeTo_eq, ← List.take_eq_take_min]
    constructor
    · exact List.nil_append _
    · exact ite_eq_left_iff.trans (by simp [Sink.empty])
  · intro ε σ put state
    exact code.emits.exists_offers put state

-- The text of a program without strings and routines has 43 bytes.
example :
    (Code.writeTo (.empty 43) ⟨"main".toList, [], []⟩).2 = none ∧
      (Code.writeTo (.empty 42) ⟨"main".toList, [], []⟩).2 = some .full := by
  decide

end ShallowCpp.Assembly
