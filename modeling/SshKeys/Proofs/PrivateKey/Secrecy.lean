import SshKeys.Proofs.PrivateKey.Reporting

/-! # What two loads may tell apart

Two loads of keys of one type, from sessions that tell the same, end in the same words and leave the
same behind in the log if they end in the same way and both call a callback or neither does. Neither
the text of the key nor the passphrase shows in them, and a wrong passphrase cannot be told from
corrupt data.
-/

namespace SshKeys.Loading

open Passphrase

variable {t : KeyType}

/-- Two sessions that tell the same: the last error, and everything about the log. What they would
    call may differ. -/
structure Alike (s other : Session) : Prop where
  errorCode : s.errorCode = other.errorCode
  errorMessage : s.errorMessage = other.errorMessage
  sink : s.sink = other.sink

theorem Alike.reportAll {s other : Session} (alike : Alike s other) (entries : List Entry) :
    Alike (s.reportAll entries) (other.reportAll entries) := by
  refine ⟨alike.errorCode, alike.errorMessage, ?_⟩
  rw [Session.reportAll, Session.reportAll, alike.sink]

theorem Alike.recordError {s other : Session} (alike : Alike s other) (code : Int)
    (message : String) :
    Alike (s.recordError code message).1 (other.recordError code message).1 := by
  refine ⟨rfl, rfl, ?_⟩
  rw [Session.recordError_eq, Session.recordError_eq]
  exact (alike.reportAll _).sink

/-- All that goes into a load. -/
structure Attempt where
  text : Value
  passphrase : Value
  callback : Option Callback
  session : Session
  typed : String

def Attempt.load [Engine] (r : Attempt) : Load :=
  Loading.load r.text r.passphrase r.callback (some r.session) r.typed

/-- Both come out with a key, or both fail with the same kind of failure. -/
def EndAlike (key other : Except Failure Key) : Prop :=
  (∃ k k', key = .ok k ∧ other = .ok k') ∨
    ∃ kind, ownKind key = some kind ∧ ownKind other = some kind

/-- Two attempts that an observer has no other reason to tell apart. -/
structure Comparable [Engine] (r r' : Attempt) : Prop where
  session : Alike r.session r'.session
  recognized : announcedType r.text ≠ .unknown
  type : announcedType r'.text = announcedType r.text
  ends : EndAlike r.load.key r'.load.key
  calls : calls r.load.interactions = calls r'.load.interactions

/-- The failure of a kind that the load of a key of a type can end with. -/
def ownFailure (t : KeyType) : Failure.Kind → Failure
  | .unknownKeyFormat => .unknownKeyFormat
  | .unsupportedAlgorithm => .unsupportedAlgorithm (.keyType (.known t))
  | .allocationFailed => .allocationFailed (.known t)
  | _ => .decryptionFailed

theorem Words.failure_eq {failure : Failure} {words : String} {kind : Failure.Kind}
    (worded : Words t failure words) (own : failure.kind? = some kind) :
    failure = ownFailure t kind := by
  cases worded <;> cases own <;> rfl

theorem Ends.key_eq {before after : Option Session} {key : Except Failure Key} {kind : Failure.Kind}
    (ends : Ends t before key after) (own : ownKind key = some kind) :
    key = .error (ownFailure t kind) := by
  cases ends with
  | key | fault | broken => cases own
  | own worded => rw [worded.failure_eq own]

theorem Ends.recorded {before after : Option Session} {key : Except Failure Key}
    {kind : Failure.Kind} (ends : Ends t before key after) (own : ownKind key = some kind) :
    ∃ words, wording kind = some words ∧ after = (record before words).1 := by
  rcases ends.cases_ownKind with ⟨none, _⟩ | ⟨_, words, worded, _, recorded, found⟩
  · cases none.symm.trans own
  · rw [own] at found
    split at found
    · cases found
      exact ⟨words, worded, recorded⟩
    · cases found

/-- What the failure of a load says; a key says nothing. -/
def said : Except Failure Key → Option String
  | .ok _ => none
  | .error failure => failure.message?

theorem Ends.alike {s s' : Session} {after after' : Option Session} {key key' : Except Failure Key}
    (ends : Ends t (some s) key after) (ends' : Ends t (some s') key' after')
    (before : Alike s s') (same : EndAlike key key') :
    said key = said key' ∧
      ∃ left left', after = some left ∧ after' = some left' ∧ Alike left left' := by
  rcases same with ⟨k, k', rfl, rfl⟩ | ⟨kind, own, own'⟩
  · cases ends
    cases ends'
    exact ⟨rfl, s, s', rfl, rfl, before⟩
  · constructor
    · rw [ends.key_eq own, ends'.key_eq own']
    · obtain ⟨words, worded, rfl⟩ := ends.recorded own
      obtain ⟨words', worded', rfl⟩ := ends'.recorded own'
      cases worded.symm.trans worded'
      exact ⟨_, _, rfl, rfl, before.recordError Session.fatal words⟩

theorem notices_of_recognized {text : Value} (recognized : announcedType text ≠ .unknown)
    (interactions : List Interaction) : notices text interactions = heard interactions := by
  unfold notices
  unfold announcedType at recognized
  split
  · next spelled =>
      simp only [spelled] at recognized
      unfold told
      rw [if_neg recognized]
  · next unspelled =>
      simp only [unspelled] at recognized
      exact absurd rfl recognized

/-- Neither the text of a key nor a passphrase shows in what a load says, records or logs. -/
theorem load_tells_nothing [Engine] {r r' : Attempt} (comparable : Comparable r r') :
    said r.load.key = said r'.load.key ∧
      ∃ after after', r.load.session = some after ∧ r'.load.session = some after' ∧
        after.errorCode = after'.errorCode ∧ after.errorMessage = after'.errorMessage ∧
        after.sink = after'.sink := by
  obtain ⟨session, recognized, type, sameEnd, calls⟩ := comparable
  have heardAlike : heard r.load.interactions = heard r'.load.interactions := by
    rw [heard, heard, calls]
  have ends := load_ends r.text r.passphrase r.callback (some r.session) r.typed
  have ends' := load_ends r'.text r'.passphrase r'.callback (some r'.session) r'.typed
  rw [notices_of_recognized recognized] at ends
  rw [notices_of_recognized (type ▸ recognized), type] at ends'
  obtain ⟨words, after, after', left, left', alike⟩ := ends.alike ends'
    (heardAlike ▸ session.reportAll (heard r.load.interactions)) sameEnd
  exact ⟨words, after, after', left, left', alike.errorCode, alike.errorMessage, alike.sink⟩

section Plain

attribute [local instance] Engine.plain

/-- A callback that answers with two bytes. -/
def answered : Attempt where
  text := .text begunText
  passphrase := .absent
  callback := some
    { label := "answers"
      ask := fun _ buffer _ => { buffer := buffer.overwrite [115, 51], count := .ok (some 2) } }
  session := { sink := { level := 5 } }
  typed := ""

/-- A callback of the session that declines, and another text. -/
def declined : Attempt where
  text := .text (begunText ++ "DEK-Info: none\n")
  passphrase := .absent
  callback := none
  session :=
    { sink := { level := 5 }
      callback := some
        { label := "declines", ask := fun _ buffer _ => { buffer := buffer, count := .ok none } } }
  typed := "unread"

/-- An answer that does not fit and a refusal to answer cannot be told apart. -/
theorem load_tells_nothing_answered :
    Comparable answered declined ∧ said answered.load.key = said declined.load.key ∧
      ∃ after after', answered.load.session = some after ∧ declined.load.session = some after' ∧
        after.sink.written = after'.sink.written := by
  have comparable : Comparable answered declined := by
    constructor
    case session => exact ⟨rfl, rfl, rfl⟩
    case recognized => decide
    case type => decide
    case ends => exact .inr ⟨.decryptionFailed, by decide, by decide⟩
    case calls => decide
  obtain ⟨words, after, after', left, left', _, _, sink⟩ := load_tells_nothing comparable
  exact ⟨comparable, words, after, after', left, left', congrArg Sink.written sink⟩

end Plain

end SshKeys.Loading
