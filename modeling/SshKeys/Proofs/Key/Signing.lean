import SshKeys.Proofs.Key.PublicHalf
import SshKeys.Proofs.Rsa.Key
import SshKeys.Proofs.Rsa.Signature

/-! # Signing with RSA handles

Handles of all types pass the same gates before the arithmetic is reached. An RSA signature is made
with a private key, whose factors may have been recovered, and verified with a public key that is
made of two of the integers. Both keys have the same modulus and exponent, and a copy of a handle
has them too.
-/

namespace SshKeys

-- Powers of natural numbers are those of the core library, whatever else is imported.
attribute [local instance (2000)] instPowNat

open Outcome

namespace RsaMaterial

variable [Engine] {m : RsaMaterial} {draw : Draw} {digest signature : Bytes}

/-- Material that signs has all integers that a copy needs, and accepts what it has signed. -/
theorem verify_sign (signed : m.sign draw digest = .ok signature) :
    ∃ n : Nat, m.n = some (n : Int) ∧ m.e.isSome = true ∧ m.d.isSome = true ∧
      signature.length = byteLength n ∧ m.verify digest signature = .ok true := by
  obtain ⟨key, made, signed⟩ := bind_eq_ok_iff.mp signed
  obtain ⟨hn, he, hd, consistent⟩ := Rsa.privateKey_sound made
  obtain ⟨width, verified⟩ := Rsa.verify_sign signed
  have publicKey : m.publicKey = .ok key.publicKey := by
    rw [RsaMaterial.publicKey, hn, he]
    exact Rsa.publicKey_of_isPublic (Rsa.isPublic_of_isPrivate consistent)
  refine ⟨key.n, hn, by simp [he], by simp [hd], width, ?_⟩
  simp only [verify, publicKey, verified]

end RsaMaterial

namespace Key

variable {key : Key} {m : RsaMaterial} {draw : Draw} {digest : Bytes} {s : Signature}

theorem algorithm?_of_rsa {tag : KeyTag} (typed : tag.type? = some .rsa ∨ tag.type? = some .rsa1) :
    tag.algorithm? = some .rsa :=
  typed.elim KeyTag.algorithm?_of_type? KeyTag.algorithm?_of_type?

theorem algorithm?_eq_rsa_iff {tag : KeyTag} :
    tag.algorithm? = some .rsa ↔ tag.type? = some .rsa ∨ tag.type? = some .rsa1 := by
  refine ⟨fun algorithm => ?_, algorithm?_of_rsa⟩
  obtain ⟨t, typed, supported⟩ := Option.bind_eq_some_iff.mp algorithm
  cases t <;> simp_all [KeyType.algorithm?]

theorem algorithm?_eq_dss_iff {tag : KeyTag} :
    tag.algorithm? = some .dss ↔ tag.type? = some .dss := by
  refine ⟨fun algorithm => ?_, KeyTag.algorithm?_of_type?⟩
  obtain ⟨t, typed, supported⟩ := Option.bind_eq_some_iff.mp algorithm
  cases t <;> simp_all [KeyType.algorithm?]

theorem holding_of_rsa {tag : KeyTag} (typed : tag.algorithm? = some .rsa) (data : SignatureData) :
    Signature.holding tag data = { tag := tag, rsa := some data } := by
  simp [Signature.holding, typed]

theorem holding_of_dss {tag : KeyTag} (typed : tag.algorithm? = some .dss) (data : SignatureData) :
    Signature.holding tag data = { tag := tag, dss := some data } := by
  simp [Signature.holding, typed]

/-- The material, if there is any, is of the algorithm that the type selects. -/
def HoldsOwn (key : Key) : Prop :=
  ∀ a m, key.tag.algorithm? = some a → key.material = some m → m.algorithm = a

/-- What has to be so before the arithmetic of signing is reached. -/
structure PassesGates (key : Key) (digest : Bytes) : Prop where
  supported : key.tag.isSupported = true
  fit : key.unfitOrderBits? = none
  isPrivate : key.isPrivate = true
  whole : digest.length = digestLength

/-- The failure that signing reports for a fault of the arithmetic. -/
def signFailure (key : Key) : Fault → Failure
  | .zeroModulus => .fault .zeroModulus
  | _ => .signingFailed (.refused key.tag.label)

section Engine

variable [Engine]

theorem sign_of_passes (passes : key.PassesGates digest) :
    key.sign draw digest = (key.signWith draw digest).mapError key.signFailure := by
  simp only [sign, passes.supported, passes.fit, passes.isPrivate, passes.whole, Bool.not_true,
    Bool.false_eq_true, if_false, ne_eq, not_true_eq_false]
  cases key.signWith draw digest with
  | ok s => rfl
  | error f => cases f <;> rfl

theorem sign_of_not_passes (closed : ¬ key.PassesGates digest) : ∃ failure,
    (∀ draw, key.sign draw digest = .error failure) ∧
      (failure.kind? = some .unsupportedAlgorithm ∨ failure.kind? = some .signingFailed) := by
  unfold sign
  cases supported : key.tag.isSupported with
  | false => exact ⟨_, fun _ => rfl, .inl rfl⟩
  | true =>
      cases fit : key.unfitOrderBits? with
      | some bits => exact ⟨_, fun _ => rfl, .inl rfl⟩
      | none =>
          cases isPrivate : key.isPrivate with
          | false => exact ⟨_, fun _ => rfl, .inr rfl⟩
          | true =>
              have other : digest.length ≠ digestLength := fun whole =>
                closed ⟨supported, fit, isPrivate, whole⟩
              simp only [Bool.not_true, Bool.false_eq_true, if_false, ne_eq, other,
                not_false_eq_true, if_true]
              exact ⟨_, fun _ => rfl, .inr rfl⟩

theorem sign_eq_ok_iff : key.sign draw digest = .ok s ↔
    key.tag.isSupported = true ∧ key.unfitOrderBits? = none ∧ key.isPrivate = true ∧
      digest.length = digestLength ∧ key.signWith draw digest = .ok s := by
  by_cases passes : key.PassesGates digest
  · simp [sign_of_passes passes, mapError_eq_ok_iff, passes.supported, passes.fit,
      passes.isPrivate, passes.whole]
  · obtain ⟨failure, failed, _⟩ := sign_of_not_passes passes
    rw [failed]
    simp only [reduceCtorEq, false_iff]
    rintro ⟨supported, fit, isPrivate, whole, _⟩
    exact passes ⟨supported, fit, isPrivate, whole⟩

theorem sign_error_cases {failure : Failure} (failed : key.sign draw digest = .error failure) :
    (failure.kind? = some .unsupportedAlgorithm ∨ failure.kind? = some .signingFailed) ∨
      failure = .fault .zeroModulus := by
  by_cases passes : key.PassesGates digest
  · rw [sign_of_passes passes] at failed
    cases made : key.signWith draw digest with
    | ok s => simp [made] at failed
    | error f =>
        rw [made] at failed
        cases failed
        cases f with
        | zeroModulus => exact .inr rfl
        | _ => exact .inl (.inr rfl)
  · obtain ⟨_, failed', kind⟩ := sign_of_not_passes passes
    cases (failed' draw).symm.trans failed
    exact .inl kind

/-- The fault that is let through is a division by zero in the arithmetic of a private key. -/
theorem sign_eq_fault_iff : key.sign draw digest = .error (.fault .zeroModulus) ↔
    key.PassesGates digest ∧ key.signWith draw digest = .error .zeroModulus := by
  by_cases passes : key.PassesGates digest
  · rw [sign_of_passes passes]
    cases made : key.signWith draw digest with
    | ok s => simp
    | error f => cases f <;> simp [signFailure, passes]
  · obtain ⟨failure, failed, kind⟩ := sign_of_not_passes passes
    rw [failed]
    simp only [passes, false_and, iff_false]
    rintro ⟨⟩
    simp [Failure.kind?] at kind

theorem material_of_sign (signed : key.sign draw digest = .ok s) :
    ∃ m data, key.material = some m ∧ m.sign draw digest = .ok data ∧
      s = Signature.holding key.tag data := by
  have given := (sign_eq_ok_iff.mp signed).2.2.2.2
  unfold signWith at given
  split at given
  · cases given
  · next m filled =>
      obtain ⟨data, made, rfl⟩ := map_eq_ok_iff.mp given
      exact ⟨m, data, filled, made, rfl⟩

theorem sign_rsa_iff (typed : key.tag.algorithm? = some .rsa)
    (filled : key.material = some (.rsa m)) : key.sign draw digest = .ok s ↔
      key.isPrivate = true ∧ digest.length = digestLength ∧
        ∃ bytes, m.sign draw digest = .ok bytes ∧
          s = { tag := key.tag, rsa := some (.bytes bytes) } := by
  have supported := KeyTag.isSupported_of_algorithm? typed
  have fit : key.unfitOrderBits? = none := by simp [unfitOrderBits?, typed]
  rw [sign_eq_ok_iff]
  simp only [supported, fit, signWith, filled, Material.sign, map_eq_ok_iff, true_and,
    exists_exists_and_eq_and, holding_of_rsa typed, eq_comm (b := s)]

theorem verify_rsa_eq {bytes} (typed : key.tag.algorithm? = some .rsa)
    (isPublic : key.isPublic = true) (filled : key.material = some (.rsa m))
    (sameType : s.tag.type? = key.tag.type?) (given : s.rsa = some (.bytes bytes)) :
    key.verify digest s = (m.verify digest bytes).mapError .fault := by
  simp [verify, typed, sameType, isPublic, verifyWith, Signature.place, given, filled,
    Material.verify]

/-- What an RSA handle signs has the width of its modulus, and the handle and all its copies verify
    it. -/
theorem verify_sign_rsa (typed : key.tag.type? = some .rsa ∨ key.tag.type? = some .rsa1)
    (isPublic : key.isPublic = true) (filled : key.material = some (.rsa m))
    (signed : key.sign draw digest = .ok s) :
    (∃ (n : Nat) (bytes : Bytes), m.n = some (n : Int) ∧ s.rsa = some (.bytes bytes) ∧
      bytes.length = (bitLength n + 7) / 8) ∧
    key.verify digest s = .ok true ∧
    ∀ demote, ∃ copy, key.copy demote = .ok copy ∧ copy.verify digest s = .ok true := by
  have algorithm := algorithm?_of_rsa typed
  obtain ⟨_, _, bytes, made, rfl⟩ := (sign_rsa_iff algorithm filled).mp signed
  obtain ⟨n, modulus, exponent, secret, width, accepted⟩ := RsaMaterial.verify_sign made
  have whole : hasAllPublic (.rsa m) = true := by
    simp [hasAllPublic, Material.publicFields, modulus, exponent]
  have verified : key.verify digest { tag := key.tag, rsa := some (.bytes bytes) } = .ok true := by
    rw [verify_rsa_eq algorithm isPublic filled rfl rfl, accepted]
    rfl
  refine ⟨⟨n, bytes, modulus, rfl, width⟩, verified, ?_⟩
  intro demote
  have supported := KeyTag.isSupported_of_algorithm? algorithm
  obtain ⟨copied, made⟩ := exists_copy supported filled whole secret demote
  exact ⟨copied, made, by rw [verify_copy made, verified]⟩

end Engine

section Plain

attribute [local instance] Engine.plain

/-- Material without factors, on a modulus that is just wide enough. -/
def unfactoredMaterial : RsaMaterial :=
  let width : Nat := 184
  let p : Nat := 2 ^ width - 59
  let q : Nat := 2 ^ width - 287
  { n := some (p * q : Nat)
    e := some 3
    d := some ((2 * Nat.lcm (p - 1) (q - 1) + 1) / 3 : Nat) }

theorem exists_sign_unfactored :
    ∃ bytes, unfactoredMaterial.sign ⟨2, 0⟩ (Bytes.zeros digestLength) = .ok bytes := by
  have made : (unfactoredMaterial.sign ⟨2, 0⟩ (Bytes.zeros digestLength)).toOption.isSome := by
    decide +kernel
  obtain ⟨bytes, made⟩ := Option.isSome_iff_exists.mp made
  exact ⟨bytes, toOption_eq_some_iff.mp made⟩

theorem verify_sign_rsa_unfactored :
    let key : Key :=
      { tag := .known .rsa
        flags := flagPublic + flagPrivate
        material := some (.rsa unfactoredMaterial) }
    ∃ s, key.sign ⟨2, 0⟩ (Bytes.zeros digestLength) = .ok s ∧
      key.verify (Bytes.zeros digestLength) s = .ok true := by
  intro key
  obtain ⟨bytes, made⟩ := exists_sign_unfactored
  have signed : key.sign ⟨2, 0⟩ (Bytes.zeros digestLength) =
      .ok { tag := key.tag, rsa := some (.bytes bytes) } :=
    (sign_rsa_iff rfl rfl).mpr ⟨rfl, rfl, bytes, made, rfl⟩
  exact ⟨_, signed, (verify_sign_rsa (.inl rfl) rfl rfl signed).2.1⟩

end Plain

end Key

end SshKeys
