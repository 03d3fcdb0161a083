import SshKeys.PrivateKey.Reading
import SshKeys.Proofs.PrivateKey.Encoding

/-! # Faults of reading private keys

A text that announces a key reaches the arithmetic in one way only: armour, transfer encoding and
encryption come off it, and the body that is left holds the numbers. Its announcement keeps it from
being an OpenSSH body or a public key on a line, and with blanks in front it is no body either.
-/

namespace SshKeys

open Outcome

namespace OpenSsh

variable [Engine]

end OpenSsh

namespace PublicLine

variable [Engine]

end PublicLine

namespace Reading

/-- All faults of reading a key: those of its encoding, and that of a text or a passphrase that
    cannot be written in bytes. -/
def faults : List Fault := .notEncodable :: Encoding.faults

section Announced

/-! ## Where an announced key can stand -/

variable {a : Algorithm} {text : List Char}

theorem opening_of_keyType (announced : (Pem.keyType text).algorithm? = some a) :
    Pem.dashes <+: Text.trimStart text ∧ ¬ openSshOpening <+: Text.trimStart text := by
  unfold Pem.keyType at announced
  split at announced
  · next opening t found =>
      have start : opening <+: Text.trimStart text := by
        simpa using List.find?_some found
      have known := List.mem_of_find?_eq_some found
      have shape : Pem.dashes <+: opening ∧ ¬ openSshOpening <+: opening ∧
          ¬ opening <+: openSshOpening := by
        simp only [Pem.openings, List.mem_cons, List.not_mem_nil, or_false] at known
        rcases known with same | same | same <;> cases same <;> decide
      refine ⟨shape.1.trans start, ?_⟩
      intro other
      rcases List.prefix_or_prefix_of_prefix start other with h | h
      · exact shape.2.2 h
      · exact shape.2.1 h
  · cases announced

theorem begins_of_keyType (announced : (Pem.keyType text).algorithm? = some a) :
    (Pem.dashes <+: text ∧ ¬ openSshOpening <+: text) ∨
      ∃ c rest, text = c :: rest ∧ Text.isBlank c = true := by
  have opened := opening_of_keyType announced
  cases text with
  | nil => exact .inl opened
  | cons c rest =>
      by_cases blank : Text.isBlank c = true
      · exact .inr ⟨c, rest, rfl, blank⟩
      · rw [Text.trimStart, List.dropWhile_cons_of_neg blank] at opened
        exact .inl opened

theorem dashes_of_decode? {passphrase body} (h : Pem.decode? text passphrase = some body) :
    Pem.dashes <+: text := by
  obtain ⟨lines, h, _⟩ := Option.bind_eq_some_iff.mp h
  unfold Pem.lines? at h
  split at h
  · cases h
  · next marker found =>
      obtain ⟨rest, begun, _⟩ := Option.bind_eq_some_iff.mp found
      rw [Text.dropStart?_eq_some_iff.mp begun]
      exact (by decide : Pem.dashes <+: "-----BEGIN ".toList).trans (List.prefix_append _ _)

theorem not_dashes_of_blank {c rest} (blank : Text.isBlank c = true) :
    ¬ Pem.dashes <+: c :: rest := by
  intro given
  obtain ⟨_, same⟩ := given
  obtain rfl : '-' = c := (List.cons.inj same).1
  revert blank
  decide

variable [Engine]

end Announced

section Secret

/-! ## The passphrase in use -/

variable {a : Algorithm} {text : List Char} {passphrase : Value} {session : Option Session}
  {ask : (buffer : Bytes) → (size : Int) → Passphrase.Asked}

/-- The passphrase that a text is read with: the one that was given, or else the one that is
    obtained for an encrypted text. -/
def secret (text : List Char) (passphrase : Value)
    (ask : (buffer : Bytes) → (size : Int) → Passphrase.Asked) : Except Fault (Option Bytes) :=
  match passphrase, Pem.isEncrypted text with
  | .absent, true => (Passphrase.obtain ask).passphrase.map some
  | passphrase, _ => passphraseBytes passphrase

/-- The same as a value, before it is looked at. -/
def spoken (encrypted : Bool) (passphrase : Value)
    (ask : (buffer : Bytes) → (size : Int) → Passphrase.Asked) : Except Fault Value :=
  match passphrase, encrypted with
  | .absent, true => (Passphrase.obtain ask).passphrase.map .bytes
  | passphrase, _ => .ok passphrase

theorem spoken_given {encrypted : Bool} (given : ¬ (passphrase = .absent ∧ encrypted = true)) :
    spoken encrypted passphrase ask = .ok passphrase := by
  unfold spoken
  split
  · exact absurd ⟨rfl, rfl⟩ given
  · rfl

variable [Engine]

theorem readText_material : (readText a text passphrase session ask).material =
    (spoken (Pem.isEncrypted text) passphrase ask).bind (importText a text) := by
  unfold readText
  split
  · next encrypted =>
      rw [encrypted, spoken]
      show (Passphrase.obtain ask).passphrase.bind _ = _
      cases (Passphrase.obtain ask).passphrase <;> rfl
  · next given =>
      rw [spoken_given fun asked => given asked.1 asked.2]
      rfl

theorem importText_latin (latin : ∀ c ∈ text, c.toNat < 256) (v : Value) :
    importText a text v = (passphraseBytes v).bind (keyIn a text) := by
  have narrow : (text.any fun c => 256 ≤ c.toNat) = false := by
    simpa using latin
  simp only [importText, narrow]
  rfl

theorem importText_wide (wide : ¬ ∀ c ∈ text, c.toNat < 256) (v : Value) :
    importText a text v = .error .notEncodable := by
  have some : (text.any fun c => 256 ≤ c.toNat) = true := by
    simpa using wide
  simp only [importText, some]
  rfl

/-- The text is armour in bytes, and what comes out of it holds singular numbers. -/
structure IsSingular (a : Algorithm) (text : List Char) (secret : Except Fault (Option Bytes)) :
    Prop where
  latin : ∀ c ∈ text, c.toNat < 256
  numbers : ∃ passphrase body es, secret = .ok passphrase ∧
    Pem.decode? text passphrase = some body ∧ Der.sequenceOf body = .ok es ∧
    Encoding.IsSingular (remaining text passphrase) a es

end Secret

end Reading

end SshKeys
