import SshKeys.Proofs.Dsa.Nonce
import SshKeys.Proofs.Key.SignatureWire
import SshKeys.Proofs.Rsa.Digest

/-! # The digests of a signature

What an RSA handle accepts is a signature of one digest only, whatever the lengths of digests are.
The signature of a DSS handle is checked against the leading twenty bytes of a digest, taken as a
number. It is accepted for all digests that count as the same number modulo the order, and for
others only where two nonces make one pair.
-/

namespace SshKeys

open Outcome

namespace RsaMaterial

variable [Engine] {m : RsaMaterial} {digest digest' signature : Bytes}

theorem verify_eq_true_iff : m.verify digest signature = .ok true ↔
    ∃ key, m.publicKey = .ok key ∧ Rsa.verify key digest signature = true := by
  unfold verify
  split
  · next key made => simp [made]
  · next made => simp [made]
  · next _ made => simp [made]

theorem digest_unique (first : m.verify digest signature = .ok true)
    (second : m.verify digest' signature = .ok true) : digest = digest' := by
  obtain ⟨key, made, accepted⟩ := verify_eq_true_iff.mp first
  obtain ⟨_, made', accepted'⟩ := verify_eq_true_iff.mp second
  cases made.symm.trans made'
  exact Rsa.digest_unique accepted accepted'

end RsaMaterial

namespace Key

variable {key : Key} {draw : Draw} {digest digest' : Bytes} {s : Signature}

section Engine

variable [Engine]

theorem verify_eq_true_iff {a : Algorithm} (typed : key.tag.algorithm? = some a) :
    key.verify digest s = .ok true ↔ s.tag.type? = key.tag.type? ∧ key.isPublic = true ∧
      key.verifyWith a digest s = .ok true := by
  simp only [verify, typed]
  split
  · next closed =>
      simp only [Except.ok.injEq, Bool.false_eq_true, false_iff]
      rintro ⟨sameType, isPublic, _⟩
      simp [sameType, isPublic] at closed
  · next opened =>
      have passed : s.tag.type? = key.tag.type? ∧ key.isPublic = true := by simpa using opened
      rw [mapError_eq_ok_iff, ← and_assoc, and_iff_right passed]

theorem verifyWith_rsa_iff {m : RsaMaterial} (filled : key.material = some (.rsa m)) :
    key.verifyWith .rsa digest s = .ok true ↔
      ∃ signature, s.rsa = some (.bytes signature) ∧ m.verify digest signature = .ok true := by
  cases given : s.rsa with
  | none => simp [verifyWith, Signature.place, given]
  | some data =>
      cases data with
      | bytes signature => simp [verifyWith, Signature.place, given, filled, Material.verify]
      | pair r t => simp [verifyWith, Signature.place, given, filled, Material.verify]

theorem material_of_verify_rsa (typed : key.tag.algorithm? = some .rsa)
    (own : ∀ m, key.material ≠ some (.dss m)) (accepted : key.verify digest s = .ok true) :
    ∃ m bytes, key.material = some (.rsa m) ∧ s.rsa = some (.bytes bytes) ∧
      m.verify digest bytes = .ok true := by
  obtain ⟨_, _, verdict⟩ := (verify_eq_true_iff typed).mp accepted
  cases filled : key.material with
  | none => cases given : s.rsa <;> simp [verifyWith, Signature.place, given, filled] at verdict
  | some m =>
      cases m with
      | rsa m =>
          obtain ⟨bytes, given, accepted⟩ := (verifyWith_rsa_iff filled).mp verdict
          exact ⟨m, bytes, rfl, given, accepted⟩
      | dss m => exact absurd filled (own m)

/-- DSS material under an RSA type takes two bytes for a pair. One is a public number of every
    domain. -/
theorem verify_foreign_eq {p q g y : Nat} (consistent : Dsa.isPublic p q g y = true)
    (admitted : Dsa.isAdmitted p q = true) (small : 1 < q) (digest : Bytes) :
    Key.verify ⟨.known .rsa, flagPublic, some (.dss (.ofPublicKey ⟨p, q, g, 1⟩))⟩ digest
      { tag := .known .rsa, rsa := some (.bytes [1, 1]) } =
        .ok (Dsa.isSolution ⟨p, q, g, 1⟩ (Dsa.digestNumber q digest) 1 1) := by
  have generator := (Dsa.isPublic_iff.mp consistent).generator
  have one : Dsa.isPublic p q g 1 = true := Dsa.isPublic_of_range consistent (by omega)
  have made : (DssMaterial.ofPublicKey ⟨p, q, g, 1⟩).publicKey = .ok ⟨p, q, g, 1⟩ :=
    Dsa.publicKey_of_isPublic one (Nat.ne_zero_of_lt small)
  have answer : (DssMaterial.ofPublicKey ⟨p, q, g, 1⟩).verify digest 1 1 = _ :=
    DssMaterial.verify_of_publicKey made admitted
  show ((DssMaterial.ofPublicKey ⟨p, q, g, 1⟩).verify digest 1 1).mapError Failure.fault = _
  rw [answer]
  rfl

/-- Under a handle of an RSA type that does not hold the material of a DSS key, no signature is one
    of two digests. -/
theorem digest_eq_of_verify (typed : key.tag.type? = some .rsa ∨ key.tag.type? = some .rsa1)
    (own : ∀ m, key.material ≠ some (.dss m)) (first : key.verify digest s = .ok true)
    (second : key.verify digest' s = .ok true) : digest = digest' := by
  have algorithm := algorithm?_of_rsa typed
  obtain ⟨m, bytes, filled, given, accepted⟩ := material_of_verify_rsa algorithm own first
  obtain ⟨_, _, filled', given', accepted'⟩ := material_of_verify_rsa algorithm own second
  cases filled.symm.trans filled'
  cases given.symm.trans given'
  exact RsaMaterial.digest_unique accepted accepted'

end Engine

section Plain

attribute [local instance] Engine.plain

/-- Of all digests, a handle accepts its signature for the one that it signed. -/
theorem digest_eq_of_verify_unfactored :
    let key : Key :=
      { tag := .known .rsa
        flags := flagPublic + flagPrivate
        material := some (.rsa unfactoredMaterial) }
    ∃ s, key.verify (Bytes.zeros digestLength) s = .ok true ∧
      ∀ digest, key.verify digest s = .ok true ↔ digest = Bytes.zeros digestLength := by
  intro key
  obtain ⟨bytes, made⟩ := exists_sign_unfactored
  obtain ⟨_, _, _, _, _, answer⟩ := RsaMaterial.verify_sign made
  have accepted :
      key.verify (Bytes.zeros digestLength) { tag := key.tag, rsa := some (.bytes bytes) } =
        .ok true := by
    rw [verify_rsa_eq rfl rfl rfl rfl rfl, answer]
    rfl
  refine ⟨_, accepted, ?_⟩
  intro digest
  constructor
  · intro other
    exact digest_eq_of_verify (.inl rfl) (by simp [key]) other accepted
  · rintro rfl
    exact accepted

/-- A handle of an RSA type with the domain of a DSS key in it. Under a public number of one it
    accepts the pair of ones for every digest that counts as zero. -/
theorem verify_foreign_material :
    let domain : Dsa.PublicKey := ⟨smoothSecret.p, smoothSecret.q, smoothSecret.g, 1⟩
    let key : Key :=
      { tag := .known .rsa, flags := flagPublic, material := some (.dss (.ofPublicKey domain)) }
    let s : Signature := { tag := .known .rsa, rsa := some (.bytes [1, 1]) }
    key.verify (Bytes.zeros 20) s = .ok true ∧ key.verify (Bytes.zeros 21) s = .ok true ∧
      Bytes.zeros 20 ≠ Bytes.zeros 21 := by
  intro domain key s
  obtain ⟨_, _, _, _, _, isPublic, _⟩ := Dsa.privateKey_sound privateKey_smooth
  have facts : Dsa.isAdmitted smoothSecret.p smoothSecret.q = true ∧ 1 < smoothSecret.q ∧
      Dsa.isSolution domain (Dsa.digestNumber smoothSecret.q (Bytes.zeros 20)) 1 1 = true ∧
      Dsa.isSolution domain (Dsa.digestNumber smoothSecret.q (Bytes.zeros 21)) 1 1 = true := by
    decide +kernel
  obtain ⟨admitted, small, first, second⟩ := facts
  have verdict := verify_foreign_eq isPublic admitted small
  refine ⟨?_, ?_, by decide⟩
  · exact (verdict _).trans (congrArg Except.ok first)
  · exact (verdict _).trans (congrArg Except.ok second)

end Plain

section Engine

variable [Engine]

/-- What a DSS handle has signed is a pair of numbers, and only the leading bytes of a digest decide
    whether it is accepted. -/
theorem verify_signed_dss (typed : key.tag.algorithm? = some .dss)
    (own : ∀ m, key.material ≠ some (.rsa m)) (isPublic : key.isPublic = true)
    (signed : key.sign draw digest = .ok s) :
    ∃ (m : DssMaterial) (secret : Dsa.PrivateKey) (r t : Nat), key.material = some (.dss m) ∧
      m.privateKey = .ok secret ∧ Dsa.isAdmitted secret.p secret.q = true ∧
      bitLength secret.q = 160 ∧ s.dss = some (.pair r t) ∧
      ∀ other, key.verify other s =
        .ok (Dsa.isSolution secret.publicKey (Bytes.toNat (other.take 20)) r t) := by
  obtain ⟨m, _, filled, _⟩ := material_of_sign signed
  cases m with
  | rsa m => exact absurd filled (own m)
  | dss m =>
      have fit := (sign_eq_ok_iff.mp signed).2.1
      obtain ⟨_, _, _, _, paired, rfl⟩ := (sign_dss_iff typed filled fit).mp signed
      obtain ⟨secret, r, t, made, admitted, _, _, ⟨⟩⟩ := DssMaterial.sign_sound paired
      obtain ⟨order, publicKey⟩ := DssMaterial.publicKey_of_privateKey made
      have bits := bitLength_of_unfitOrderBits? typed filled order fit
      have width : byteLength secret.publicKey.q = 20 := by
        show (bitLength secret.q + 7) / 8 = 20
        rw [bits]
      refine ⟨m, secret, r, t, filled, made, admitted, bits, rfl, ?_⟩
      intro other
      rw [verify_dss_natCast typed isPublic filled publicKey admitted rfl rfl, Dsa.digestNumber,
        width]

end Engine

section Plain

attribute [local instance] Engine.plain

/-- The key with the smooth order, in a handle that signs and verifies. -/
def smoothDssKey : Key :=
  { tag := .known .dss
    flags := flagPublic + flagPrivate
    material := some (.dss (.ofPrivateKey smoothSecret)) }

/-- The pair that the nonce two makes of the digest number zero. -/
def smoothPair : Nat × Nat := (Dsa.pair? smoothSecret 2 0).getD (0, 0)

theorem verify_smooth : ∃ s, smoothDssKey.sign ⟨0, 2⟩ (Bytes.zeros digestLength) = .ok s ∧
    smoothDssKey.verify (Bytes.zeros digestLength) s = .ok true ∧
    smoothDssKey.verify (Bytes.zeros 21) s = .ok true ∧ smoothDssKey.verify [1] s = .ok false := by
  let accepts (digest : Bytes) : Bool :=
    Dsa.isSolution smoothSecret.publicKey (Dsa.digestNumber smoothSecret.q digest) smoothPair.1
      smoothPair.2
  have facts : bitLength smoothSecret.q = 160 ∧ bitLength smoothSecret.p = 1024 ∧
      Dsa.pair? smoothSecret 2 (Dsa.digestNumber smoothSecret.q (Bytes.zeros digestLength)) =
        some smoothPair ∧
      accepts (Bytes.zeros digestLength) = true ∧ accepts (Bytes.zeros 21) = true ∧
      accepts [1] = false := by
    decide +kernel
  obtain ⟨order, modulus, found, same, longer, shorter⟩ := facts
  have verdict (digest : Bytes) : smoothDssKey.verify digest
      { tag := .known .dss, dss := some (.pair smoothPair.1 smoothPair.2) } =
        .ok (accepts digest) :=
    verify_dss_natCast rfl rfl rfl (DssMaterial.publicKey_of_privateKey privateKey_smooth).2
      ((Dsa.isAdmitted_iff order).mpr modulus) rfl rfl
  refine ⟨_, (sign_dss_pair_iff rfl rfl rfl privateKey_smooth order rfl found).mpr ⟨modulus, rfl⟩,
    ?_, ?_, ?_⟩
  · exact (verdict _).trans (congrArg Except.ok same)
  · exact (verdict _).trans (congrArg Except.ok longer)
  · exact (verdict _).trans (congrArg Except.ok shorter)

end Plain

/-- The whole verdict on a signature of a handle's own that the handle accepts: what it says of any
    other digest, shorter and longer ones included. The handle may not hold the material of an RSA
    key. -/
theorem verify_other_digest [Engine] (typed : key.tag.type? = some .dss)
    (own : ∀ m, key.material ≠ some (.rsa m)) (signed : key.sign draw digest = .ok s)
    (accepted : key.verify digest s = .ok true) :
    ∃ (m : DssMaterial) (secret : Dsa.PrivateKey) (r t : Nat), key.material = some (.dss m) ∧
      m.privateKey = .ok secret ∧ s.dss = some (.pair r t) ∧
      ∀ other : Bytes,
        let z := Bytes.toNat (other.take 20)
        let accepts := z ≡ Bytes.toNat digest [MOD secret.q] ∨
          Dsa.IsCollision secret (Bytes.toNat digest) z r t
        (key.verify other s = .ok true ↔ accepts) ∧
          (key.verify other s = .ok false ↔ ¬ accepts) := by
  have algorithm : key.tag.algorithm? = some .dss := KeyTag.algorithm?_of_type? typed
  obtain ⟨m, secret, r, t, filled, made, _, _, given, verdict⟩ :=
    verify_signed_dss algorithm own ((verify_eq_true_iff algorithm).mp accepted).2.1 signed
  refine ⟨m, secret, r, t, filled, made, given, ?_⟩
  intro other z accepts
  obtain ⟨_, _, _, _, _, isPublic, isPrivate⟩ := Dsa.privateKey_sound made
  have whole : digest.take 20 = digest :=
    List.take_of_length_le (Nat.le_of_eq (sign_eq_ok_iff.mp signed).2.2.2.1)
  rw [verdict, whole, Except.ok.injEq] at accepted
  have solution : Dsa.isSolution secret.publicKey z r t = true ↔ accepts :=
    Dsa.isSolution_other_iff isPublic isPrivate accepted
  rw [verdict, Except.ok.injEq, Except.ok.injEq, ← Bool.not_eq_true]
  exact ⟨solution, not_congr solution⟩

section Plain

attribute [local instance] Engine.plain

/-- Two digests that begin with the same twenty bytes, and one that no nonce makes the pair of. -/
theorem verify_other_digest_smooth : ∃ s,
    smoothDssKey.sign ⟨0, 2⟩ (Bytes.zeros digestLength) = .ok s ∧
    smoothDssKey.verify (Bytes.zeros digestLength ++ [9]) s = .ok true ∧
    ∃ r t : Nat, s.dss = some (.pair r t) ∧ ¬ Dsa.IsCollision smoothSecret 0 1 r t := by
  obtain ⟨s, signed, accepted, _, refused⟩ := verify_smooth
  obtain ⟨m, secret, r, t, filled, made, given, verdict⟩ :=
    verify_other_digest rfl (by simp [smoothDssKey]) signed accepted
  cases filled
  cases privateKey_smooth.symm.trans made
  refine ⟨s, signed, (verdict _).1.mpr (.inl rfl), r, t, given, ?_⟩
  exact (not_or.mp ((verdict [1]).2.mp refused)).2

/-- A digest of twenty-one bytes is accepted with the signature of one of twenty. -/
theorem verify_longer_digest : ∃ s,
    smoothDssKey.sign ⟨0, 2⟩ (Bytes.zeros digestLength) = .ok s ∧
    smoothDssKey.verify (Bytes.zeros digestLength) s = .ok true ∧
    Bytes.zeros 21 ≠ Bytes.zeros digestLength ∧
    smoothDssKey.verify (Bytes.zeros 21) s = .ok true := by
  obtain ⟨s, signed, accepted, longer, _⟩ := verify_smooth
  exact ⟨s, signed, accepted, by decide, longer⟩

end Plain

end Key

end SshKeys
