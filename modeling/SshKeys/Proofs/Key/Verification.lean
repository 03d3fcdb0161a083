import SshKeys.Key.Signature
import SshKeys.Proofs.Dsa.Key
import SshKeys.Proofs.Key.Grammar
import SshKeys.Proofs.Rsa.Key

/-! # Verification under keys that a peer sent

Both the key and the signature come from the peer, and a signature that is none is answered with
false. A DSS pair is not always answered: writing it out refuses a negative half, and the key is
made afresh for every pair, which an order of zero refuses unless the modulus is zero as well.
-/

namespace SshKeys

open Outcome

theorem RsaMaterial.verify_answers [Engine] (m : RsaMaterial) (digest signature : Bytes) :
    ∃ answer, m.verify digest signature = .ok answer := by
  have regular : m.publicKey ≠ .error .zeroModulus :=
    (Rsa.publicKey_failsOnly m.n m.e).ne_error (by simp)
  unfold verify
  split
  · exact ⟨_, rfl⟩
  · exact absurd ‹_› regular
  · exact ⟨_, rfl⟩

namespace Signature

theorem padded_of_neg {width : Nat} {n : Int} (h : n < 0) : padded width n = .error .badValue := by
  simp [padded, h]

theorem padded_of_nonneg (width : Nat) {n : Int} (h : 0 ≤ n) :
    ∃ bytes, padded width n = .ok bytes := by
  simp [padded, Int.not_lt.mpr h]

theorem halves_of_neg {width : Nat} {r s : Int} (h : r < 0 ∨ s < 0) :
    halves width r s = .error .badValue := by
  by_cases first : r < 0
  · simp only [halves, padded_of_neg first]
    rfl
  · obtain ⟨bytes, written⟩ := padded_of_nonneg width (Int.not_lt.mp first)
    simp only [halves, written, padded_of_neg (h.resolve_left first)]
    rfl

end Signature

theorem Material.verify_rsa_answers [Engine] (m : RsaMaterial) (digest : Bytes)
    (data : SignatureData) : ∃ answer, (Material.rsa m).verify digest data = .ok answer := by
  cases data with
  | bytes b => exact m.verify_answers digest b
  | pair r s => exact ⟨false, rfl⟩

namespace DssMaterial

variable [Engine] {m : DssMaterial} {q r s : Int} (digest : Bytes)

/-- The fault that verification of a pair has in place of an answer: for a negative half, and for
    every pair if the order is zero and the modulus is not. -/
def verifyFault? (m : DssMaterial) (r s : Int) : Option Fault :=
  if r < 0 ∨ s < 0 then some .badValue
  else if m.q = some 0 ∧ m.p ≠ some 0 then some .zeroModulus
  else none

/-- The fault that verification of what a signature holds has in place of an answer: bytes have one
    if there are not two of them. -/
def dataFault? (m : DssMaterial) (data : SignatureData) : Option Fault :=
  match data.numbers? with
  | some (r, s) => m.verifyFault? r s
  | none => some .badValue

end DssMaterial

namespace Key

/-- The fault that verification has in place of an answer. Only what stands in the place of DSS has
    one, under material of DSS. -/
def verifyFault? (key : Key) (s : Signature) : Option Fault :=
  match key.material, s.dss with
  | some (.dss m), some data => if s.tag.type? = some .dss then m.dataFault? data else none
  | _, _ => none

section

variable [Engine] {key : Key} (digest : Bytes) (s : Signature)

theorem verify_rsa {m} (supported : key.tag.algorithm? = some .rsa)
    (filled : key.material = some (.rsa m)) : ∃ answer, key.verify digest s = .ok answer := by
  simp only [verify, supported]
  split
  · exact ⟨false, rfl⟩
  · cases signed : s.rsa with
    | none => exact ⟨false, by simp [verifyWith, Signature.place, signed]⟩
    | some data =>
        obtain ⟨answer, answered⟩ := Material.verify_rsa_answers m digest data
        exact ⟨answer, by simp [verifyWith, Signature.place, signed, filled, answered]⟩

end

section

attribute [local instance] Engine.plain

end

end Key

end SshKeys
