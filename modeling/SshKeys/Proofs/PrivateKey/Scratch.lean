import SshKeys.Proofs.PrivateKey.Asking

/-! # The scratch buffer of a passphrase

Whoever is asked for a passphrase writes it into a scratch buffer. The buffer is handed over with
nothing in it, and nothing is left in it: a load burns it before anything is decoded, so it does not
matter whether the callback wrote anything, answered or failed, nor what becomes of the load.
-/

namespace SshKeys

namespace Passphrase

/-- The callback was asked once, and shown zeros only; and whatever it left in the buffer, there are
    zeros in its place. -/
structure AsksCleanly (c : Callback) (prompt : String) (interactions : List Interaction)
    (scratch : Option Bytes) : Prop where
  shown : interactions = [.callback c.label prompt (Bytes.zeros 1024) 1024]
  burned : scratch = some (Bytes.zeros (c.ask prompt (Bytes.zeros 1024) 1024).buffer.length)

theorem viaCallback_count {c : Callback} {session : Option Session} {buffer : Bytes} {size : Int}
    (room : 0 ≤ size) {count : Option Int}
    (answered : (viaCallback c session buffer size).count = .ok count) :
    ∃ n, count = some n ∧ 0 ≤ n ∧ n ≤ size := by
  cases told : (Session.reportTo session .debug2 callMessage).2 with
  | none =>
      rw [viaCallback_of_told told] at answered
      obtain ⟨answer, _, rfl⟩ := Outcome.map_eq_ok_iff.mp answered
      exact ⟨_, rfl, bounded_between room answer⟩
  | some fault =>
      rw [viaCallback_of_untold told] at answered
      cases answered

end Passphrase

namespace Reading

variable [Engine] {a : Algorithm} {chars : List Char} {passphrase : Value}
  {session : Option Session} {ask : (buffer : Bytes) → (size : Int) → Passphrase.Asked}

/-- Whoever is asked, and whatever comes of it, the buffer is burned. -/
theorem readText_scratch (session : Option Session)
    (ask : (buffer : Bytes) → (size : Int) → Passphrase.Asked)
    (encrypted : Pem.isEncrypted chars = true) :
    (readText a chars .absent session ask).scratch =
      some (Bytes.zeros (ask (Bytes.zeros 1024) 1024).buffer.length) := by
  simp [readText, encrypted, Passphrase.obtain, Passphrase.scratchSize, Bytes.burn_eq_zeros]

theorem readText_isZero {bytes : Bytes}
    (left : (readText a chars passphrase session ask).scratch = some bytes) :
    bytes.isZero = true := by
  unfold readText at left
  split at left
  · cases left
    exact Bytes.isZero_burn _
  · cases left

theorem read_clean (a : Algorithm) {s : String} (c : Callback) (prompt : String)
    (encrypted : Pem.isEncrypted s.toList = true) :
    Passphrase.AsksCleanly c prompt
      (read a (.text s) .absent (Passphrase.direct c prompt)).interactions
      (read a (.text s) .absent (Passphrase.direct c prompt)).scratch := by
  constructor
  · exact Loading.readText_asking none encrypted
  · exact readText_scratch none (Passphrase.direct c prompt) encrypted

end Reading

namespace Loading

open Passphrase
open Session (Unbroken)

variable {text passphrase : Value} {callback : Option Callback} {session : Option Session}
  {typed : String}

theorem conclude_scratch (t : KeyType) (read : Reading.Read) :
    (conclude t read).scratch = read.scratch := rfl

section Engine

variable [Engine]

theorem load_scratch (asks : Asks text passphrase) :
    (load text passphrase callback session typed).scratch =
      some (Bytes.zeros (asker callback session typed (Bytes.zeros 1024) 1024).buffer.length) := by
  obtain ⟨rfl, chars, a, spelled, announced, encrypted⟩ := asks
  simp only [load, spelled]
  rw [loadText_of_announced announced, conclude_scratch, Reading.readText_scratch _ _ encrypted]

theorem loadText_untouched {chars : List Char}
    (unannounced : (Pem.keyType chars).algorithm? = none) :
    (loadText chars passphrase callback session typed).scratch = none := by
  unfold loadText
  cases t : Pem.keyType chars with
  | unknown =>
      simp only
      split <;> rfl
  | ecdsa => rfl
  | dss | rsa | rsa1 =>
      rw [t] at unannounced
      cases unannounced

theorem load_isZero {bytes : Bytes}
    (left : (load text passphrase callback session typed).scratch = some bytes) :
    bytes.isZero = true := by
  unfold load at left
  split at left
  · next chars _ =>
      cases announced : (Pem.keyType chars).algorithm? with
      | some a =>
          rw [loadText_of_announced announced, conclude_scratch] at left
          exact Reading.readText_isZero left
      | none =>
          rw [loadText_untouched announced] at left
          cases left
  · cases left
  · cases left

theorem load_clean (unbroken : Unbroken session) {c : Callback}
    (asked : callback.or (session.bind Session.callback) = some c) (asks : Asks text passphrase) :
    AsksCleanly c callbackPrompt (load text passphrase callback session typed).interactions
      (load text passphrase callback session typed).scratch := by
  constructor
  · rw [load_asking asks, asker_of_callback asked, viaCallback_of_unbroken unbroken,
      Bytes.length_zeros]
  · rw [load_scratch asks, asker_of_callback asked, viaCallback_of_unbroken unbroken,
      Bytes.length_zeros]

/-- The scratch buffer does not survive: not a load, in which the callback is asked through the
    adapter, not a reading, in which it is asked directly, and the adapter burns what it is given,
    too. The callback may write whatever it likes, answer with anything, or fail. It is not asked at
    all if the stream of the session breaks. -/
theorem scratch_burned (c : Callback) (session : Option Session) :
    (∀ text passphrase callback typed bytes,
      (load text passphrase callback session typed).scratch = some bytes → bytes.isZero = true) ∧
    (∀ text callback typed, Unbroken session →
      callback.or (session.bind Session.callback) = some c → Asks text .absent →
      AsksCleanly c "Passphrase for private key:"
        (load text .absent callback session typed).interactions
        (load text .absent callback session typed).scratch) ∧
    (∀ a s prompt, Pem.isEncrypted s.toList = true →
      AsksCleanly c prompt (Reading.read a (.text s) .absent (direct c prompt)).interactions
        (Reading.read a (.text s) .absent (direct c prompt)).scratch) ∧
    ∀ buffer size, 0 ≤ size →
      (Unbroken session →
        (viaCallback? c session (some buffer) size).interactions =
          [.callback c.label "Passphrase for private key:" (Bytes.zeros buffer.length) size] ∧
        (viaCallback? c session (some buffer) size).buffer =
          (c.ask "Passphrase for private key:" (Bytes.zeros buffer.length) size).buffer) ∧
      ∀ count, (viaCallback? c session (some buffer) size).count = .ok count →
        ∃ n, count = some n ∧ 0 ≤ n ∧ n ≤ size := by
  refine ⟨?_, ?_, ?_, ?_⟩
  · intro text passphrase callback typed bytes left
    exact load_isZero left
  · intro text callback typed unbroken asked asks
    exact load_clean unbroken asked asks
  · intro a s prompt encrypted
    exact Reading.read_clean a c prompt encrypted
  · intro buffer size room
    simp only [viaCallback?]
    refine ⟨fun unbroken => ?_, fun count answered => viaCallback_count room answered⟩
    rw [viaCallback_of_unbroken unbroken]
    exact ⟨rfl, rfl⟩

end Engine

section Plain

attribute [local instance] Engine.plain

def failingCallback : Callback :=
  { label := "fills the buffer and fails"
    ask := fun _ buffer _ =>
      { buffer := buffer.map fun _ => 120, count := .error (.raised "KeyError") } }

/-- The same of a callback that fills the buffer and fails. -/
theorem scratch_burned_failing :
    Unbroken none ∧ AsksCleanly failingCallback "Passphrase for private key:"
      (load (.text begunText) .absent (some failingCallback) none "").interactions
      (load (.text begunText) .absent (some failingCallback) none "").scratch ∧
    (load (.text begunText) .absent (some failingCallback) none "").scratch =
      some (Bytes.zeros 1024) ∧ (Bytes.zeros 1024).isZero = true ∧
    AsksCleanly failingCallback "" (Reading.read .rsa (.text begunText) .absent
        (direct failingCallback "")).interactions
      (Reading.read .rsa (.text begunText) .absent (direct failingCallback "")).scratch ∧
    (viaCallback? failingCallback none (some [1, 2, 3]) 8).interactions =
      [.callback failingCallback.label "Passphrase for private key:" (Bytes.zeros 3) 8] := by
  obtain ⟨zeroed, loaded, read, adapted⟩ := scratch_burned failingCallback none
  have clean := loaded (.text begunText) (some failingCallback) "" .none rfl asks_begunText
  have left := clean.burned
  simp only [failingCallback, List.length_map, Bytes.zeros, List.length_replicate] at left
  exact ⟨.none, clean, left, zeroed _ _ _ _ _ left, read .rsa begunText "" isEncrypted_begunText,
    ((adapted [1, 2, 3] 8 (by decide)).1 .none).1⟩

end Plain

end Loading

end SshKeys
