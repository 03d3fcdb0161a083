import SshKeys.Proofs.Diagnostics
import SshKeys.Proofs.PrivateKey.Scratch
import SshKeys.Proofs.Text.Quoted

/-! # What a load reports

A load tells its session little: that a text is no key, or that the callback is called, and at the
end one error, if it fails with a failure of its own. The words of that error are fixed for each
kind of failure. A key and a fault that passes through leave the session as it is.
-/

namespace SshKeys.Loading

open Passphrase
open Session (Unbroken)

variable {text passphrase : Value} {callback : Option Callback} {session : Option Session}
  {typed : String} {chars : List Char} {a : Algorithm} {t : KeyType}

/-! ## Before the end -/

def callNotice : Entry := ⟨.debug2, "Trying to call external authentication function"⟩

/-- A callback was called. -/
def calls (interactions : List Interaction) : Bool :=
  interactions.any fun
    | .callback .. => true
    | .terminal _ => false

/-- What is reported about the questions that were put. -/
def heard (interactions : List Interaction) : List Entry :=
  if calls interactions then [callNotice] else []

/-- The type that a text announces; a byte string that is not ASCII announces none. -/
def announcedType (text : Value) : KeyType :=
  match characters text with
  | .ok chars => Pem.keyType chars
  | .error _ => .unknown

/-- What is reported before a text has been loaded: its beginning if it is no key, or the call. -/
def told (chars : List Char) (interactions : List Interaction) : List Entry :=
  if Pem.keyType chars = .unknown then [⟨.debug1, unrecognizedMessage chars⟩]
  else heard interactions

def notices (text : Value) (interactions : List Interaction) : List Entry :=
  match characters text with
  | .ok chars => told chars interactions
  | .error _ => []

theorem reportAll_nil (session : Option Session) : session.map (·.reportAll []) = session := by
  cases session <;> rfl

theorem reportTo_session (session : Option Session) (level : Level) (message : String) :
    (Session.reportTo session level message).1 =
      session.map (·.reportAll [⟨level, message⟩]) := by
  cases session <;> rfl

theorem reportTo_of_broken {level : Level} {message : String} {fault : Fault}
    (broken : (Session.reportTo session level message).2 = some fault) :
    (Session.reportTo session level message).1 = session := by
  cases session with
  | none => rfl
  | some s =>
      have idle : s.sink.stream ≠ .working := by
        intro working
        cases broken.symm.trans ((Session.unbroken_of_working working).reportTo_fault ..)
      rw [reportTo_session, Option.map_some, Session.reportAll, Sink.reportAll_of_not_working idle]

theorem asker_session (callback : Option Callback) (session : Option Session) (typed : String)
    (buffer : Bytes) (size : Int) :
    (asker callback session typed buffer size).session =
      session.map
        (·.reportAll (heard (asker callback session typed buffer size).interactions)) := by
  cases asked : callback.or (session.bind Session.callback) with
  | some c =>
      rw [asker_of_callback asked]
      cases told : (Session.reportTo session .debug2 callMessage).2 with
      | none =>
          rw [viaCallback_of_told told, reportTo_session]
          rfl
      | some fault =>
          rw [viaCallback_of_untold told, reportTo_of_broken told]
          exact (reportAll_nil session).symm
  | none =>
      rw [asker_of_none asked]
      exact (reportAll_nil session).symm

theorem readText_session [Engine] (a : Algorithm) (chars : List Char) (passphrase : Value)
    (callback : Option Callback) (session : Option Session) (typed : String) :
    (Reading.readText a chars passphrase session (asker callback session typed)).session =
      session.map (·.reportAll (heard (Reading.readText a chars passphrase session
        (asker callback session typed)).interactions)) := by
  unfold Reading.readText
  split
  · exact asker_session ..
  · exact (reportAll_nil session).symm

/-! ## The end -/

/-- The failures that loading has of its own, and the words that are recorded of each. -/
inductive Words (t : KeyType) : Failure → String → Prop where
  | unknown : Words t .unknownKeyFormat unknownMessage
  | unsupported (ecdsa : t = .ecdsa) :
      Words t (.unsupportedAlgorithm (.keyType (.known t))) (unsupportedMessage t)
  | undecodable : Words t .decryptionFailed undecodableMessage
  | memory : Words t (.allocationFailed (.known t)) memoryMessage

/-- How a load ends and what it does to the session in the end. Every failure of its own is recorded
    in words that are fixed, and gives way to the fault of a stream that breaks over them. Nothing
    is recorded of a key or of a fault that passes through. -/
inductive Ends (t : KeyType) (before : Option Session) :
    Except Failure Key → Option Session → Prop where
  | key (k : Key) : Ends t before (.ok k) before
  | fault (f : Fault) : Ends t before (.error (.fault f)) before
  | own {failure words} (worded : Words t failure words)
      (unbroken : interruption? before = none) :
      Ends t before (.error failure) (record before words).1
  | broken {failure words f} (worded : Words t failure words)
      (breaks : interruption? before = some f) :
      Ends t before (.error (.fault f)) (record before words).1

theorem Words.ends {before : Option Session} {failure : Failure} {words : String}
    (worded : Words t failure words) :
    Ends t before (fail before failure words).key (fail before failure words).session := by
  rw [fail_key]
  cases breaks : interruption? before with
  | none => exact .own worded breaks
  | some f => exact .broken worded breaks

theorem conclude_ends (t : KeyType) (read : Reading.Read) :
    Ends t read.session (conclude t read).key (conclude t read).session := by
  unfold conclude
  cases read.material with
  | ok m =>
      cases kept : m.hasPrivate with
      | true => simpa [kept] using Ends.key _
      | false => simpa [kept] using Words.undecodable.ends
  | error f =>
      cases f with
      | badValue | notEncodable | badIndex | badType => exact Words.undecodable.ends
      | outOfMemory => exact Words.memory.ends
      | noMember | zeroModulus | raised => exact .fault _

theorem characters_error {failure : Failure} (unspelled : characters text = .error failure) :
    (∃ f, failure = .fault f) ∨ failure = .unknownKeyFormat := by
  unfold characters at unspelled
  split at unspelled
  · cases unspelled
  · split at unspelled
    · cases unspelled
    · cases unspelled
      exact .inr rfl
  · cases unspelled
    exact .inl ⟨_, rfl⟩
  · cases unspelled
    exact .inl ⟨_, rfl⟩

section Engine

variable [Engine]

theorem loadText_ends_of_announced (announced : (Pem.keyType chars).algorithm? = some a)
    (other : Pem.keyType chars ≠ .unknown) (passphrase : Value) (callback : Option Callback)
    (session : Option Session) (typed : String) :
    Ends (Pem.keyType chars)
      (session.map (·.reportAll
        (told chars (loadText chars passphrase callback session typed).interactions)))
      (loadText chars passphrase callback session typed).key
      (loadText chars passphrase callback session typed).session := by
  have ends := conclude_ends (Pem.keyType chars)
    (Reading.readText a chars passphrase session (asker callback session typed))
  rw [readText_session, ← conclude_interactions (Pem.keyType chars),
    ← loadText_of_announced announced] at ends
  unfold told
  rw [if_neg other]
  exact ends

theorem loadText_ends_of_unknown (unknown : Pem.keyType chars = .unknown) (passphrase : Value)
    (callback : Option Callback) (session : Option Session) (typed : String) :
    Ends .unknown (session.map (·.reportAll [⟨.debug1, unrecognizedMessage chars⟩]))
      (loadText chars passphrase callback session typed).key
      (loadText chars passphrase callback session typed).session := by
  rw [← reportTo_session]
  unfold loadText
  simp only [unknown]
  split
  · next reported =>
      rw [reported]
      exact Words.unknown.ends
  · next broken =>
      rw [broken]
      exact .fault _

theorem loadText_ends (chars : List Char) (passphrase : Value) (callback : Option Callback)
    (session : Option Session) (typed : String) :
    Ends (Pem.keyType chars)
      (session.map (·.reportAll
        (told chars (loadText chars passphrase callback session typed).interactions)))
      (loadText chars passphrase callback session typed).key
      (loadText chars passphrase callback session typed).session := by
  cases announced : (Pem.keyType chars).algorithm? with
  | some a =>
      refine loadText_ends_of_announced announced ?_ passphrase callback session typed
      intro unknown
      rw [unknown] at announced
      cases announced
  | none =>
      rw [loadText_silent announced]
      cases t : Pem.keyType chars with
      | dss | rsa | rsa1 =>
          rw [t] at announced
          cases announced
      | unknown =>
          simp only [told, t]
          exact loadText_ends_of_unknown t passphrase callback session typed
      | ecdsa =>
          have silent : told chars [] = [] := by
            simp [told, t, heard, calls]
          simp only [silent, reportAll_nil, loadText, t]
          exact (Words.unsupported rfl).ends

/-- All that a load does to a session. -/
theorem load_ends (text passphrase : Value) (callback : Option Callback)
    (session : Option Session) (typed : String) :
    Ends (announcedType text)
      (session.map (·.reportAll
        (notices text (load text passphrase callback session typed).interactions)))
      (load text passphrase callback session typed).key
      (load text passphrase callback session typed).session := by
  cases spelled : characters text with
  | ok chars =>
      simp only [load, notices, announcedType, spelled]
      exact loadText_ends chars passphrase callback session typed
  | error failure =>
      simp only [notices, spelled, reportAll_nil]
      rcases characters_error spelled with ⟨f, rfl⟩ | rfl
      · simp only [load, spelled]
        exact .fault f
      · simp only [load, spelled]
        exact Words.unknown.ends

end Engine

/-- The kind of the failure of its own that a load ends with, if it ends with one. -/
def ownKind : Except Failure Key → Option Failure.Kind
  | .ok _ => none
  | .error failure => failure.kind?

/-- The words for each kind of failure that loading has of its own. -/
def wording : Failure.Kind → Option String
  | .unknownKeyFormat => some "Unknown or invalid private key."
  | .unsupportedAlgorithm => some "Unknown or invalid private key type 4"
  | .decryptionFailed => some "Parsing private key: unable to decode private key"
  | .allocationFailed => some "Parsing private key: out of memory"
  | .general | .malformedInteger | .noPublicMaterial | .signingFailed => none

theorem Words.fixed {failure : Failure} {words : String} (worded : Words t failure words) :
    ∃ kind, failure.kind? = some kind ∧ wording kind = some words ∧ '\n' ∉ words.toList := by
  cases worded with
  | unknown => exact ⟨.unknownKeyFormat, rfl, rfl, by decide⟩
  | unsupported ecdsa =>
      subst ecdsa
      exact ⟨.unsupportedAlgorithm, rfl, rfl, by decide⟩
  | undecodable => exact ⟨.decryptionFailed, rfl, rfl, by decide⟩
  | memory => exact ⟨.allocationFailed, rfl, rfl, by decide⟩

theorem Ends.cases_ownKind {before after : Option Session} {key : Except Failure Key}
    (ends : Ends t before key after) :
    (ownKind key = none ∧ after = before) ∨
      ∃ kind words, wording kind = some words ∧ '\n' ∉ words.toList ∧
        after = (record before words).1 ∧
        ownKind key = if interruption? before = none then some kind else none := by
  cases ends with
  | key | fault => exact .inl ⟨rfl, rfl⟩
  | own worded unbroken =>
      obtain ⟨kind, own, fixed, whole⟩ := worded.fixed
      exact .inr ⟨kind, _, fixed, whole, rfl, own.trans (if_pos unbroken).symm⟩
  | broken worded breaks =>
      obtain ⟨kind, _, fixed, whole⟩ := worded.fixed
      refine .inr ⟨kind, _, fixed, whole, rfl, (if_neg ?_).symm⟩
      rw [breaks]
      nofun

/-! ## The log -/

theorem newline_notMem_unrecognized (chars : List Char) :
    '\n' ∉ (unrecognizedMessage chars).toList := by
  unfold unrecognizedMessage
  rw [String.toList_append, List.mem_append, not_or]
  refine ⟨by decide, ?_⟩
  rw [String.toList_ofList]
  exact Text.newline_notMem_quote _

theorem notices_quiet {e : Entry} {interactions : List Interaction}
    (listed : e ∈ notices text interactions) : e.level ≠ .error ∧ '\n' ∉ e.message.toList := by
  unfold notices at listed
  split at listed
  · next chars _ =>
      unfold told at listed
      split at listed
      · cases List.mem_singleton.mp listed
        exact ⟨nofun, newline_notMem_unrecognized chars⟩
      · unfold heard at listed
        split at listed
        · cases List.mem_singleton.mp listed
          exact ⟨nofun, by decide⟩
        · cases listed
  · cases listed

/-- What a load does to a session: a failure of its own is recorded, and its words make one line of
    the log; otherwise nothing is recorded and no line reports an error. -/
structure Reported (before after : Session) (key : Except Failure Key) (lines : List String) :
    Prop where
  gains : Gains before.sink.written after.sink.written lines
  sink : after.sink = { before.sink with written := after.sink.written }
  callback : after.callback = before.callback
  own : ∀ kind, ownKind key = some kind →
    after.errorCode = 2 ∧ wording kind = some after.errorMessage ∧
      errorLines lines = if 0 ≤ before.sink.level then ["[Error] " ++ after.errorMessage] else []
  other : ownKind key = none →
    after.errorCode = before.errorCode ∧ after.errorMessage = before.errorMessage ∧
      errorLines lines = []

theorem record_reportAll (s : Session) (entries : List Entry) (words : String) :
    (record (some (s.reportAll entries)) words).1 =
      some { s.reportAll (entries ++ [⟨.error, words⟩]) with
        errorCode := Session.fatal, errorMessage := words } := by
  rw [← Session.reportAll_append]
  rfl

theorem interruption?_reportAll {s : Session} (working : s.sink.stream = .working)
    (entries : List Entry) : interruption? (some (s.reportAll entries)) = none := by
  refine interruption?_of_unbroken (Session.unbroken_of_working ?_)
  rw [Session.reportAll, Sink.reportAll_eq working]
  exact working

theorem Ends.reported {s : Session} {key : Except Failure Key} {left : Option Session}
    {entries : List Entry} (working : s.sink.stream = .working)
    (quiet : ∀ e ∈ entries, e.level ≠ .error ∧ '\n' ∉ e.message.toList)
    (ends : Ends t (some (s.reportAll entries)) key left) :
    ∃ after lines, left = some after ∧ Reported s after key lines := by
  have noError : errorLines (shownLines s.sink.level entries) = [] :=
    errorLines_eq_nil fun e listed => (quiet e listed).1
  rcases ends.cases_ownKind with ⟨none, rfl⟩ | ⟨kind, words, worded, whole, rfl, own⟩
  · refine ⟨_, shownLines s.sink.level entries, rfl, ?_⟩
    constructor
    case gains => exact Sink.gains_reportAll working fun e listed => (quiet e listed).2
    case sink => exact Sink.reportAll_eq working entries
    case callback => rfl
    case own => exact fun kind some => nomatch none.symm.trans some
    case other => exact fun _ => ⟨rfl, rfl, noError⟩
  · rw [if_pos (interruption?_reportAll working entries)] at own
    have all : ∀ e ∈ entries ++ [⟨.error, words⟩], '\n' ∉ e.message.toList := by
      intro e listed
      rcases List.mem_append.mp listed with listed | listed
      · exact (quiet e listed).2
      · cases List.mem_singleton.mp listed
        exact whole
    refine ⟨_, shownLines s.sink.level (entries ++ [⟨.error, words⟩]), record_reportAll .., ?_⟩
    constructor
    case gains => exact Sink.gains_reportAll working all
    case sink => exact Sink.reportAll_eq working _
    case callback => rfl
    case own =>
      intro kind' own'
      cases own.symm.trans own'
      refine ⟨rfl, worded, ?_⟩
      rw [shownLines_append, errorLines_append, noError, errorLines_error, List.nil_append]
    case other => exact fun none => nomatch none.symm.trans own

/-! ## Failing callbacks -/

theorem obtain_failed (unbroken : Unbroken session) {c : Callback} {f : Fault}
    (failed : (c.ask callbackPrompt (Bytes.zeros 1024) 1024).count = .error f) :
    (obtain (viaCallback c session)).passphrase = .error f := by
  rw [obtain_passphrase unbroken, failed]
  rfl

theorem conclude_key_of_fault {read : Reading.Read} {f : Fault} (made : read.material = .error f)
    (unbroken : interruption? read.session = none) :
    (conclude t read).key = .error (failureOf t f).1 := by
  unfold conclude
  simp only [made]
  split
  · next worded => rw [fail_key, unbroken, worded]; rfl
  · next silent => rw [silent]

section Engine

variable [Engine]

theorem load_failed (unbroken : Unbroken session) {c : Callback} {f : Fault}
    (asks : Asks text passphrase) (asked : callback.or (session.bind Session.callback) = some c)
    (failed : (c.ask callbackPrompt (Bytes.zeros 1024) 1024).count = .error f) (typed : String) :
    ∃ t, (load text passphrase callback session typed).key = .error (failureOf t f).1 := by
  obtain ⟨rfl, chars, a, spelled, announced, encrypted⟩ := asks
  refine ⟨Pem.keyType chars, ?_⟩
  simp only [load, spelled]
  rw [loadText_key announced]
  refine conclude_key_of_fault ?_ (interruption?_of_unbroken unbroken)
  simp only [encrypted, Reading.spoken, asker_of_callback asked, obtain_failed unbroken failed]
  rfl

/-- A load reports what it fails with, once, and does nothing else to the session than telling what
    it does. A fault of the callback is told apart: what is a fault of the value counts as a text
    that cannot be decrypted, a want of memory as such, and any other passes through. -/
theorem load_reported {s : Session} (working : s.sink.stream = .working) (text passphrase : Value)
    (callback : Option Callback) (typed : String) :
    (∃ after lines, (load text passphrase callback (some s) typed).session = some after ∧
      Reported s after (load text passphrase callback (some s) typed).key lines) ∧
    ∀ c f, callback.or s.callback = some c → Asks text passphrase →
      (c.ask "Passphrase for private key:" (Bytes.zeros 1024) 1024).count = .error f →
        (f ∈ [.badValue, .notEncodable, .badIndex, .badType] →
          (load text passphrase callback (some s) typed).key = .error .decryptionFailed) ∧
        (f = .outOfMemory → ∃ tag,
          (load text passphrase callback (some s) typed).key = .error (.allocationFailed tag)) ∧
        (f ∉ [.badValue, .notEncodable, .badIndex, .badType, .outOfMemory] →
          (load text passphrase callback (some s) typed).key = .error (.fault f)) := by
  constructor
  · have ends := load_ends text passphrase callback (some s) typed
    exact ends.reported working fun e listed => notices_quiet listed
  · intro c f asked asks failed
    have turned : callback.or ((some s).bind Session.callback) = some c := asked
    obtain ⟨t, made⟩ := load_failed (Session.unbroken_of_working working) asks turned failed typed
    rw [made]
    cases f with
    | badValue | notEncodable | badIndex | badType =>
        exact ⟨fun _ => rfl, nofun, fun other => absurd (by simp) other⟩
    | outOfMemory => exact ⟨by simp, fun _ => ⟨_, rfl⟩, fun other => absurd (by simp) other⟩
    | noMember | zeroModulus | raised => exact ⟨by simp, nofun, fun _ => rfl⟩

end Engine

section Plain

attribute [local instance] Engine.plain

/-- A text that is no key, and a callback that fails. -/
theorem load_reported_unknown :
    let s : Session := { sink := { level := 3 } }
    let unknown := load (.text "no key") .absent none (some s) ""
    let failed := load (.text begunText) .absent (some failingCallback) (some s) ""
    s.sink.stream = .working ∧
    (∃ after lines, unknown.session = some after ∧ Reported s after unknown.key lines ∧
      after.errorCode = 2 ∧ after.errorMessage = "Unknown or invalid private key." ∧
      errorLines lines = ["[Error] Unknown or invalid private key."]) ∧
    Asks (.text begunText) .absent ∧ failed.key = .error (.fault (.raised "KeyError")) := by
  intro s unknown failed
  have working : s.sink.stream = .working := rfl
  have own : ownKind unknown.key = some .unknownKeyFormat := rfl
  obtain ⟨⟨after, lines, left, reported⟩, _⟩ :=
    load_reported working (.text "no key") .absent none ""
  obtain ⟨code, worded, once⟩ := reported.own _ own
  obtain ⟨_, escapes⟩ := load_reported working (.text begunText) .absent (some failingCallback) ""
  have message : after.errorMessage = "Unknown or invalid private key." :=
    (Option.some.inj worded).symm
  rw [message] at once
  exact ⟨working, ⟨after, lines, left, reported, code, message, once⟩,
    asks_begunText, (escapes failingCallback _ rfl asks_begunText rfl).2.2 (by simp)⟩

end Plain

end SshKeys.Loading
