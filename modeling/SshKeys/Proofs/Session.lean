import SshKeys.Proofs.Outcome
import SshKeys.Session

/-! # Recording an error

An error is recorded all or nothing: its message is put together first, and if that goes wrong the
session is as it was. The message that is recorded is the one that is reported; no per cent sign in
it is looked at again.
-/

namespace SshKeys.Session

variable {filler : Template.Filler} {s : Session} {code : Int} {template message : String}
  {args : Option (List Value)}

/-- A session with an error recorded, and how that ended. The log gains the line of the error, if
    the level shows it and the stream takes it, and nothing else. A stream that breaks finds the
    error recorded. -/
structure Recorded (s : Session) (code : Int) (message : String) (after : Session)
    (fault : Option SinkFault) : Prop where
  numbered : after.errorCode = code
  worded : after.errorMessage = message
  callback : after.callback = s.callback
  shown : 0 ≤ s.sink.level → s.sink.stream = .working → fault = none ∧
    after.sink = { s.sink with written := s.sink.written ++ ("[Error] " ++ message ++ "\n") }
  hidden : s.sink.level < 0 → fault = none ∧ after.sink = s.sink
  lost : s.sink.stream ≠ .working → after.sink = s.sink
  broken : fault = if 0 ≤ s.sink.level then s.sink.stream.breaks?.map .stream else none

theorem line_error (message : String) :
    Sink.line .error message = "[Error] " ++ message ++ "\n" := by
  have opening : "[" ++ Level.error.name ++ "] " = "[Error] " := by decide
  rw [Sink.line, opening]

theorem writeBy_error (filler : Template.Filler) (sink : Sink) (message : String) :
    sink.writeBy filler Level.error.number message none =
      if 0 ≤ sink.level then (sink.put ("[Error] " ++ message ++ "\n")).mapError .stream
      else .ok sink := by
  rw [← line_error]
  rfl

theorem recorded_of_filled (filled : Template.messageBy filler template args = .ok message) :
    Recorded s code message (s.attemptErrorBy filler code template args).1
      (s.attemptErrorBy filler code template args).2 := by
  obtain ⟨_, _, ⟨level, stream, written⟩, _⟩ := s
  simp only [attemptErrorBy, filled, writeBy_error]
  by_cases shown : 0 ≤ level
  · rw [if_pos shown]
    cases stream <;> constructor <;>
      simp [Sink.put, Stream.breaks?, shown, Int.not_lt.mpr shown]
  · rw [if_neg shown]
    constructor <;> simp [shown]

/-- To record an error is all or nothing, whatever messages are put together with. If the message
    cannot be, the fault is the one of the message and the session is as it was. Otherwise the
    session has the code and the message, and the log the line with that message; without arguments,
    the message is the template itself. -/
theorem attemptErrorBy_outcome (filler : Template.Filler) (s : Session) (code : Int)
    (template : String) (args : Option (List Value)) :
    (∀ fault, Template.messageBy filler template args = .error fault →
      s.attemptErrorBy filler code template args = (s, some (.template fault))) ∧
    (∀ message, Template.messageBy filler template args = .ok message →
      ∃ after fault, s.attemptErrorBy filler code template args = (after, fault) ∧
        Recorded s code message after fault) ∧
    Template.messageBy filler template none = .ok template := by
  refine ⟨?_, ?_, rfl⟩
  · intro fault failed
    simp only [attemptErrorBy, failed]
  · intro message filled
    exact ⟨_, _, rfl, recorded_of_filled filled⟩

/-- A place that an argument brings along is not filled. -/
example :
    let after := (({} : Session).attemptErrorBy Template.filled 2 "%s" (some [.text "100%d"])).1
    after.errorMessage = "100%d" ∧ after.sink.written = "[Error] 100%d\n" := by
  decide

end SshKeys.Session
