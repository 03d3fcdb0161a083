import SshKeys.Proofs.Dsa.Equation
import SshKeys.Proofs.Key.Binding

/-! # What verification accepts

The verdict on a signature, said in the numbers of the key and of the signature. A DSS handle whose
integers make a key of an admitted size has a verdict on every pair of natural numbers. An RSA
handle has one on everything, and whatever is wrong with its integers or with the signature makes it
false.
-/

namespace SshKeys

open Outcome

/-- The domain of a private key, with another public number. -/
def Dsa.PrivateKey.withPublic (secret : Dsa.PrivateKey) (y : Nat) : Dsa.PublicKey :=
  ⟨secret.p, secret.q, secret.g, y⟩

namespace DssMaterial

variable [Engine] {m : DssMaterial} {secret : Dsa.PrivateKey} {y : Nat}

theorem publicKey_withPublic (made : m.privateKey = .ok secret) (range : 0 < y ∧ y < secret.p) :
    (ofPublicKey (secret.withPublic y)).publicKey = .ok (secret.withPublic y) := by
  obtain ⟨_, _, _, _, _, isPublic, isPrivate⟩ := Dsa.privateKey_sound made
  exact Dsa.publicKey_of_isPublic (Dsa.isPublic_of_range isPublic range)
    (Dsa.ne_zero_of_isPrivate isPrivate)

/-- What a digest number of four and a second half of two leave, where the square of the public
    number is one and the first half is even. -/
theorem combine_withPublic {r w : Nat} (made : m.privateKey = .ok secret)
    (range : 0 < y ∧ y < secret.p) (square : y ^ 2 % secret.p = 1) (even : r % 2 = 0)
    (inverts : 2 * w % secret.q = 1) :
    (secret.withPublic y).combine (4 * w) (r * w) = secret.g ^ 2 % secret.p % secret.q := by
  have sound := Dsa.isPublic_iff.mp (Dsa.publicKey_sound (publicKey_withPublic made range)).2
  have one : 1 % secret.q = 1 := by rw [← inverts, Nat.mod_mod]
  exact Dsa.combine_of_square (s := 2) (k := 2) sound square (inverts.trans one.symm)
    (Nat.dvd_of_mod_eq_zero even)

end DssMaterial

theorem RsaMaterial.verify_iff_isSignature [Engine] {m : RsaMaterial} {digest signature : Bytes} :
    m.verify digest signature = .ok true ↔ ∃ n e : Nat, m.n = some (n : Int) ∧
      m.e = some (e : Int) ∧ Rsa.IsPublic n e ∧ Rsa.IsSignature n e digest signature := by
  simp only [verify_eq_true_iff, publicKey, Rsa.publicKey_eq_ok_iff, Rsa.isPublic_iff,
    Rsa.verify_iff_isSignature, and_assoc]
  constructor
  · intro given
    obtain ⟨key, modulus, exponent, sound, solves⟩ := given
    exact ⟨key.n, key.e, modulus, exponent, sound, solves⟩
  · intro given
    obtain ⟨n, e, modulus, exponent, sound, solves⟩ := given
    exact ⟨⟨n, e⟩, modulus, exponent, sound, solves⟩

namespace Key

variable {key : Key} {digest : Bytes} {s : Signature}

section Engine

variable [Engine]

theorem verify_of_not_isPublic {a : Algorithm} (typed : key.tag.algorithm? = some a)
    (closed : key.isPublic ≠ true) : key.verify digest s = .ok false := by
  simp [verify, typed, closed]

/-- A DSS handle whose integers make a key of an admitted size accepts the pairs in range that solve
    the equation with exponents below the order. The exponents need not be reduced if the public
    number is in the subgroup. -/
theorem verify_dss_outcome {m : DssMaterial} {pub : Dsa.PublicKey} {r t : Nat}
    (typed : key.tag.type? = some .dss) (filled : key.material = some (.dss m))
    (made : m.publicKey = .ok pub) (admitted : Dsa.isAdmitted pub.p pub.q = true)
    (sameType : s.tag.type? = some .dss) (given : s.dss = some (.pair r t))
    (digest : Bytes) :
    let z := Bytes.toNat (digest.take ((bitLength pub.q + 7) / 8))
    let accepts := key.isPublic = true ∧ Dsa.IsSignature pub z r t
    (key.verify digest s = .ok true ↔ accepts) ∧ (key.verify digest s = .ok false ↔ ¬ accepts) ∧
      (pub.y ^ pub.q % pub.p = 1 →
        ∀ a b, pub.combine a b = pub.combine (a % pub.q) (b % pub.q)) := by
  intro z accepts
  have algorithm : key.tag.algorithm? = some .dss := KeyTag.algorithm?_of_type? typed
  have sound := Dsa.isPublic_iff.mp (Dsa.publicKey_sound made).2
  have verdict : ∃ answer, key.verify digest s = .ok answer ∧ (answer = true ↔ accepts) := by
    by_cases isPublic : key.isPublic = true
    · refine ⟨_, verify_dss_natCast algorithm isPublic filled made admitted
        (sameType.trans typed.symm) given, ?_⟩
      have positive : 0 < pub.p := Nat.zero_lt_of_lt sound.generator.2
      exact (Dsa.isSolution_iff_isSignature positive).trans (and_iff_right isPublic).symm
    · exact ⟨false, verify_of_not_isPublic algorithm isPublic, by simp [accepts, isPublic]⟩
  obtain ⟨answer, answered, decides⟩ := verdict
  rw [answered, Except.ok.injEq, Except.ok.injEq, ← Bool.not_eq_true]
  exact ⟨decides, not_congr decides, Dsa.combine_mod sound⟩

end Engine

section Plain

attribute [local instance] Engine.plain

/-- The pair of the smooth key for the digest number zero is none for one. -/
theorem verify_dss_outcome_smooth : ∃ (s : Signature) (r t : Nat),
    s.dss = some (.pair r t) ∧ smoothDssKey.verify (Bytes.zeros 20) s = .ok true ∧
      Dsa.IsSignature smoothSecret.publicKey 0 r t ∧
      ¬ Dsa.IsSignature smoothSecret.publicKey 1 r t := by
  obtain ⟨s, signed, accepted, _, refused⟩ := verify_smooth
  obtain ⟨m, secret, r, t, filled, made, admitted, bits, given, _⟩ :=
    verify_signed_dss rfl (by simp [smoothDssKey]) rfl signed
  have sameType := ((verify_eq_true_iff rfl).mp accepted).1
  have outcome := verify_dss_outcome (KeyTag.type?_known .dss) filled
    (DssMaterial.publicKey_of_privateKey made).2 admitted sameType given
  cases filled
  cases privateKey_smooth.symm.trans made
  have first (digest : Bytes) : digest.take ((bitLength smoothSecret.publicKey.q + 7) / 8) =
      digest.take 20 := by
    show digest.take ((bitLength smoothSecret.q + 7) / 8) = digest.take 20
    rw [bits]
  simp only [first] at outcome
  refine ⟨s, r, t, given, accepted, ((outcome _).1.mp accepted).2, fun other => ?_⟩
  exact (outcome [1]).2.1.mp refused ⟨rfl, other⟩

/-- An even number that the negated square of the generator leaves. -/
def negatedSquare : Nat :=
  (smoothSecret.p - powMod smoothSecret.g 2 smoothSecret.p) % smoothSecret.q

/-- One less than the modulus is a public number outside the subgroup. A pair is accepted under it
    that solves the equation with reduced exponents only. -/
theorem verify_outside_subgroup :
    let pub := smoothSecret.withPublic (smoothSecret.p - 1)
    let key : Key :=
      { tag := .known .dss, flags := flagPublic, material := some (.dss (.ofPublicKey pub)) }
    let s : Signature := { tag := .known .dss, dss := some (.pair negatedSquare 2) }
    (DssMaterial.ofPublicKey pub).publicKey = .ok pub ∧ Dsa.isAdmitted pub.p pub.q = true ∧
      key.verify (Bytes.ofNat 20 4) s = .ok true ∧ (∃ w, 2 * w % pub.q = 1) ∧
      ∀ w, 2 * w % pub.q = 1 → pub.combine (4 * w) (negatedSquare * w) ≠ negatedSquare := by
  intro pub key s
  have facts : 0 < smoothSecret.p - 1 ∧ Dsa.isAdmitted smoothSecret.p smoothSecret.q = true ∧
      Dsa.isSolution (smoothSecret.withPublic (smoothSecret.p - 1))
        (Dsa.digestNumber smoothSecret.q (Bytes.ofNat 20 4)) negatedSquare 2 = true ∧
      2 * ((smoothSecret.q + 1) / 2) % smoothSecret.q = 1 ∧
      (smoothSecret.p - 1) ^ 2 % smoothSecret.p = 1 ∧ negatedSquare % 2 = 0 ∧
      smoothSecret.g ^ 2 % smoothSecret.p % smoothSecret.q ≠ negatedSquare := by
    decide +kernel
  obtain ⟨positive, admitted, solves, inverse, square, even, other⟩ := facts
  have range : 0 < smoothSecret.p - 1 ∧ smoothSecret.p - 1 < smoothSecret.p := by omega
  have made := DssMaterial.publicKey_withPublic privateKey_smooth range
  have verdict : key.verify (Bytes.ofNat 20 4) s = .ok (Dsa.isSolution pub
      (Dsa.digestNumber smoothSecret.q (Bytes.ofNat 20 4)) negatedSquare 2) :=
    verify_dss_natCast rfl rfl rfl made admitted rfl rfl
  refine ⟨made, admitted, verdict.trans (congrArg Except.ok solves), ⟨_, inverse⟩, ?_⟩
  intro w inverts
  rw [DssMaterial.combine_withPublic privateKey_smooth range square even inverts]
  exact other

end Plain

/-- An RSA handle answers every signature, and accepts those of its type whose public power is an
    encoding of the digest, provided that the longer encoding has room under the modulus. -/
theorem verify_rsa_outcome [Engine] {m : RsaMaterial}
    (typed : key.tag.type? = some .rsa ∨ key.tag.type? = some .rsa1)
    (filled : key.material = some (.rsa m)) (digest : Bytes) (s : Signature) :
    let accepts := s.tag.type? = key.tag.type? ∧ key.isPublic = true ∧
      ∃ (n e : Nat) (signature : Bytes), m.n = some (n : Int) ∧ m.e = some (e : Int) ∧
        Rsa.IsPublic n e ∧ s.rsa = some (.bytes signature) ∧ Rsa.IsSignature n e digest signature
    (key.verify digest s = .ok true ↔ accepts) ∧
      (key.verify digest s = .ok false ↔ ¬ accepts) := by
  intro accepts
  have algorithm := algorithm?_of_rsa typed
  have accepted : key.verify digest s = .ok true ↔ accepts := by
    rw [verify_eq_true_iff algorithm, verifyWith_rsa_iff filled]
    simp only [RsaMaterial.verify_iff_isSignature]
    refine and_congr_right' (and_congr_right' ?_)
    constructor
    · intro given
      obtain ⟨signature, present, n, e, modulus, exponent, sound, solves⟩ := given
      exact ⟨n, e, signature, modulus, exponent, sound, present, solves⟩
    · intro given
      obtain ⟨n, e, signature, modulus, exponent, sound, present, solves⟩ := given
      exact ⟨signature, present, n, e, modulus, exponent, sound, solves⟩
  refine ⟨accepted, ?_⟩
  obtain ⟨answer, answered⟩ := verify_rsa digest s algorithm filled
  rw [← accepted, answered]
  cases answer <;> simp

section Plain

attribute [local instance] Engine.plain

/-- A signature of twenty zeros whose public power leaves the parameters out. -/
def shortSignature : Bytes := Bytes.ofNat 46
  0xaefd320d31ae160b98a5e4bcdfe4c3c53cb252262bb15ab1a1309d0570110bd89741f0207605754c0da67cc3be7b

/-- A modulus on which the longer encoding just has room. -/
theorem verify_rsa_outcome_short :
    let key : Key :=
      { tag := .known .rsa, flags := flagPublic, material := some (.rsa unfactoredMaterial) }
    key.verify (Bytes.zeros 20) { tag := .known .rsa, rsa := some (.bytes shortSignature) } =
      .ok true := by
  intro key
  let modulus : Nat := (2 ^ 184 - 59) * (2 ^ 184 - 287)
  have facts : Rsa.isPublic modulus 3 = true ∧
      shortSignature.length = (bitLength modulus + 7) / 8 ∧ shortSignature.toNat < modulus ∧
      (Rsa.digestInfo true (Bytes.zeros 20)).length + 11 ≤ shortSignature.length ∧
      Bytes.ofNat shortSignature.length (shortSignature.toNat ^ 3 % modulus) =
        [0x00, 0x01] ++ List.replicate 10 0xff ++ [0x00] ++
          Rsa.digestInfo false (Bytes.zeros 20) := by
    decide
  obtain ⟨consistent, width, small, room, power⟩ := facts
  have encoding : Rsa.IsEncoding false (Bytes.zeros 20) _ := ⟨10, by decide, power⟩
  exact (verify_rsa_outcome (.inl rfl) rfl _ _).1.mpr ⟨rfl, rfl, modulus, 3, shortSignature, rfl,
    rfl, Rsa.isPublic_iff.mp consistent, rfl, width, small, room, false, encoding⟩

/-- A modulus of two bytes less, which has room for the shorter encoding only. -/
def narrowModulus : Nat := (2 ^ 176 - 233) * (2 ^ 176 - 359)

/-- A signature of twenty zeros whose public power is the shorter encoding. -/
def narrowSignature : Bytes := Bytes.ofNat 44
  0xa84fbad13cee361abb014aa09f910f5a52ddcf1f3f9a0c15a26a98c693d866852966fb7b8b8299b08d319d92

/-- The public power is an encoding of the digest, and the signature is not accepted. -/
theorem verify_narrow_modulus :
    let m : RsaMaterial := { n := some (narrowModulus : Int), e := some 3 }
    let key : Key := { tag := .known .rsa, flags := flagPublic, material := some (.rsa m) }
    key.verify (Bytes.zeros 20) { tag := .known .rsa, rsa := some (.bytes narrowSignature) } =
        .ok false ∧
      Rsa.IsPublic narrowModulus 3 ∧ narrowSignature.length = (bitLength narrowModulus + 7) / 8 ∧
      narrowSignature.toNat < narrowModulus ∧ Rsa.IsEncoding false (Bytes.zeros 20)
        (Bytes.ofNat narrowSignature.length (narrowSignature.toNat ^ 3 % narrowModulus)) := by
  intro m key
  have facts : Rsa.isPublic narrowModulus 3 = true ∧
      Rsa.verify ⟨narrowModulus, 3⟩ (Bytes.zeros 20) narrowSignature = false ∧
      narrowSignature.length = (bitLength narrowModulus + 7) / 8 ∧
      narrowSignature.toNat < narrowModulus ∧
      Bytes.ofNat narrowSignature.length (narrowSignature.toNat ^ 3 % narrowModulus) =
        [0x00, 0x01] ++ List.replicate 8 0xff ++ [0x00] ++
          Rsa.digestInfo false (Bytes.zeros 20) := by
    decide
  obtain ⟨consistent, refused, width, small, power⟩ := facts
  have made : m.publicKey = .ok ⟨narrowModulus, 3⟩ := Rsa.publicKey_of_isPublic consistent
  refine ⟨?_, Rsa.isPublic_iff.mp consistent, width, small, 8, by decide, power⟩
  rw [verify_rsa_eq rfl rfl rfl rfl rfl, RsaMaterial.verify, made]
  exact congrArg Except.ok refused

end Plain

end Key

end SshKeys
