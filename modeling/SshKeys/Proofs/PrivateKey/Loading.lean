import SshKeys.PrivateKey.Loading
import SshKeys.Proofs.Passphrase
import SshKeys.Proofs.PrivateKey.Reading

/-! # What loading a private key fails with

Once a text announces a key, everything that can go wrong with it is one failure in one wording, so
that a wrong passphrase cannot be told from corrupt data. The numbers of a body are the exception:
the fault of a modulus of zero passes through loading as it is. Where the stream of the session
breaks over the record of a failure, the fault of the stream stands in the failure's place.
-/

namespace SshKeys

open Outcome

namespace Loading

open Session (Unbroken)

variable {text passphrase : Value} {callback : Option Callback} {session : Option Session}
  {typed : String}

/-! ## Failures on record -/

/-- The fault that a session has for an error that is recorded on it. -/
def interruption? (session : Option Session) : Option Fault :=
  session.bind fun s => if 0 ≤ s.sink.level then s.sink.stream.breaks? else none

/-- What becomes of a text that announces a key and cannot be decoded. -/
def undecodable (session : Option Session) : Except Failure Key :=
  .error (((interruption? session).map Failure.fault).getD .decryptionFailed)

theorem record_fault (session : Option Session) (message : String) :
    (record session message).2 = interruption? session := by
  cases session with
  | none => rfl
  | some s => exact s.sink.report_fault .error message

theorem fail_key (session : Option Session) (failure : Failure) (message : String) :
    (fail session failure message).key =
      .error (((interruption? session).map Failure.fault).getD failure) := by
  rw [← record_fault session message]
  rfl

theorem interruption?_of_unbroken (unbroken : Unbroken session) : interruption? session = none := by
  cases session with
  | none => rfl
  | some s => simp [interruption?, unbroken s rfl]

theorem undecodable_of_unbroken (unbroken : Unbroken session) :
    undecodable session = .error .decryptionFailed := by
  rw [undecodable, interruption?_of_unbroken unbroken]
  rfl

theorem undecodable_congr {session' : Option Session}
    (same : interruption? session = interruption? session') :
    undecodable session = undecodable session' := by
  rw [undecodable, undecodable, same]

theorem interruption?_reportTo (session : Option Session) (level : Level) (message : String) :
    interruption? (Session.reportTo session level message).1 = interruption? session := by
  cases session with
  | none => rfl
  | some s =>
      have same := s.sink.report_level level message
      have still := s.sink.report_stream level message
      simp only [interruption?, Session.reportTo, Session.report, Option.bind_some, same, still]

theorem interruption?_asker (buffer : Bytes) (size : Int) :
    interruption? (asker callback session typed buffer size).session = interruption? session := by
  unfold asker
  cases callback.or (session.bind Session.callback) with
  | some c => rw [Passphrase.viaCallback_session, interruption?_reportTo]
  | none => rfl

theorem interruption?_readText [Engine] (a : Algorithm) (chars : List Char) (passphrase : Value)
    (callback : Option Callback) (session : Option Session) (typed : String) :
    interruption? (Reading.readText a chars passphrase session
      (asker callback session typed)).session = interruption? session := by
  unfold Reading.readText
  split
  · exact interruption?_asker ..
  · rfl

/-! ## What is contained -/

/-- The text announces a key whose body, read with the passphrase in use, holds singular numbers. -/
def IsSingular [Engine] (text passphrase : Value) (callback : Option Callback)
    (session : Option Session) (typed : String) : Prop :=
  ∃ chars a, characters text = .ok chars ∧ (Pem.keyType chars).algorithm? = some a ∧
    Reading.IsSingular a chars (Reading.secret chars passphrase (asker callback session typed))

theorem failureOf_contained {t f} (listed : f ∈ Reading.faults) (other : f ≠ .zeroModulus) :
    failureOf t f = (.decryptionFailed, some undecodableMessage) := by
  simp only [Reading.faults, Encoding.faults, Der.faults, List.mem_cons, List.not_mem_nil,
    or_false] at listed
  rcases listed with rfl | rfl | rfl | rfl | rfl
  · rfl
  · exact absurd rfl other
  · rfl
  · rfl
  · rfl

theorem conclude_key_congr {t} {read other : Reading.Read} (same : read.material = other.material)
    (still : interruption? read.session = interruption? other.session) :
    (conclude t read).key = (conclude t other).key := by
  unfold conclude
  rw [same]
  cases other.material with
  | ok m => cases kept : m.hasPrivate <;> simp [kept, fail_key, still]
  | error f =>
      simp only
      split
      · simp only [fail_key, still]
      · rfl

theorem conclude_key_of_error {t f failure words} {read : Reading.Read}
    (made : read.material = .error f) (worded : failureOf t f = (failure, some words)) :
    (conclude t read).key =
      .error (((interruption? read.session).map Failure.fault).getD failure) := by
  simp only [conclude, made, worded, fail_key]

theorem conclude_key_of_listed {t f} {read : Reading.Read} (made : read.material = .error f)
    (listed : f ∈ Reading.faults) (other : f ≠ .zeroModulus) :
    (conclude t read).key = undecodable read.session :=
  conclude_key_of_error made (failureOf_contained listed other)

section Engine

variable [Engine]

theorem loadText_of_announced {chars a} (announced : (Pem.keyType chars).algorithm? = some a)
    (passphrase : Value) (callback : Option Callback) (session : Option Session) (typed : String) :
    loadText chars passphrase callback session typed = conclude (Pem.keyType chars)
      (Reading.readText a chars passphrase session (asker callback session typed)) := by
  unfold loadText
  cases t : Pem.keyType chars with
  | unknown | ecdsa =>
      rw [t] at announced
      cases announced
  | dss | rsa | rsa1 =>
      rw [t] at announced
      cases announced
      rfl

/-- The passphrase is settled before the text is read with it, and nothing else makes the key. -/
theorem loadText_key {chars a} (announced : (Pem.keyType chars).algorithm? = some a)
    (passphrase : Value) (callback : Option Callback) (session : Option Session) (typed : String) :
    (loadText chars passphrase callback session typed).key = (conclude (Pem.keyType chars)
      { material := (Reading.spoken (Pem.isEncrypted chars) passphrase
          (asker callback session typed)).bind (Reading.importText a chars)
        session := session }).key := by
  rw [loadText_of_announced announced]
  exact conclude_key_congr Reading.readText_material (interruption?_readText ..)

theorem loadText_key_given {chars a} (announced : (Pem.keyType chars).algorithm? = some a)
    (given : ¬ (passphrase = .absent ∧ Pem.isEncrypted chars = true)) :
    (loadText chars passphrase callback session typed).key =
      (conclude (Pem.keyType chars)
        { material := Reading.importText a chars passphrase, session := session }).key := by
  rw [loadText_key announced, Reading.spoken_given given]
  rfl

theorem loadText_unannounced {chars} (unannounced : (Pem.keyType chars).algorithm? = none)
    (passphrase : Value) (callback : Option Callback) (session : Option Session) (typed : String) :
    ∃ failure, (loadText chars passphrase callback session typed).key = .error failure ∧
      (Unbroken session →
        failure.kind? = some .unknownKeyFormat ∨ failure.kind? = some .unsupportedAlgorithm) := by
  unfold loadText
  cases t : Pem.keyType chars <;> rw [t] at unannounced <;> cases unannounced
  · simp only
    split
    · next told =>
        refine ⟨_, fail_key .., fun unbroken => .inl ?_⟩
        have still := interruption?_reportTo session .debug1 (unrecognizedMessage chars)
        rw [told, interruption?_of_unbroken unbroken] at still
        rw [still]
        rfl
    · next broken =>
        refine ⟨_, rfl, fun unbroken => ?_⟩
        cases (congrArg Prod.snd broken).symm.trans (unbroken.reportTo_fault ..)
  · refine ⟨_, fail_key .., fun unbroken => .inr ?_⟩
    rw [interruption?_of_unbroken unbroken]
    rfl

end Engine

section Plain

attribute [local instance] Engine.plain

end Plain

end Loading

end SshKeys
