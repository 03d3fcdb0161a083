import SshKeys.Proofs.Integer.Framed
import SshKeys.Rsa.Signature

/-! # What is signed is verified

Signing ends in a check that the public power of its result is the encoding of the digest. That is
all verification asks for, so it does not matter how the result was found: not which factors the
power was taken with, nor by which number it was blinded.
-/

namespace SshKeys.Rsa

variable {key : PrivateKey} {blind : Nat}

/-- A digest and the name of its hash, behind a block type and at least eight filling bytes. -/
def IsEncoding (parameters : Bool) (digest encoded : Bytes) : Prop :=
  ∃ fill, 8 ≤ fill ∧
    encoded = [0x00, 0x01] ++ List.replicate fill 0xff ++ [0x00] ++ digestInfo parameters digest

theorem encodeDigest?_eq_some_iff {width parameters digest encoded} :
    encodeDigest? width parameters digest = some encoded ↔
      encoded.length = width ∧ IsEncoding parameters digest encoded := by
  have length_filled (fill : Nat) (info : Bytes) :
      ([0x00, 0x01] ++ List.replicate fill 0xff ++ [0x00] ++ info : Bytes).length =
        fill + info.length + 3 := by
    simp only [List.length_append, List.length_replicate, List.length_cons, List.length_nil]
    omega
  simp only [encodeDigest?, IsEncoding]
  split
  · next room =>
      constructor
      · intro fits
        cases fits
        exact ⟨by rw [length_filled]; omega, _, by omega, rfl⟩
      · intro given
        obtain ⟨whole, fill, _, rfl⟩ := given
        rw [length_filled] at whole
        have filling : width - (digestInfo parameters digest).length - 3 = fill := by omega
        rw [filling]
  · next narrow =>
      simp only [reduceCtorEq, false_iff]
      intro given
      obtain ⟨whole, fill, _, rfl⟩ := given
      rw [length_filled] at whole
      omega

theorem PrivateKey.apply?_sound {c m} (found : key.apply? blind c = some m) :
    m < key.n ∧ powMod m key.e key.n = c := by
  unfold PrivateKey.apply? at found
  split at found
  · cases found
  · next small =>
      have positive : 0 < key.n := by omega
      simp only at found
      split at found
      · cases found
      · split at found
        · next checked =>
            cases found
            exact ⟨Nat.mod_lt _ positive, checked⟩
        · cases found

theorem sign_sound {digest signature} (signed : sign key blind digest = .ok signature) :
    ∃ encoded m, encodeDigest? (byteLength key.n) true digest = some encoded ∧
      m < key.n ∧ powMod m key.e key.n = encoded.toNat ∧
      signature = Bytes.ofNat (byteLength key.n) m := by
  cases fits : encodeDigest? (byteLength key.n) true digest with
  | none =>
      simp only [sign, fits] at signed
      cases signed
  | some encoded =>
      cases found : key.apply? blind encoded.toNat with
      | none =>
          simp only [sign, fits, found] at signed
          cases signed
      | some m =>
          simp only [sign, fits, found] at signed
          obtain ⟨small, power⟩ := PrivateKey.apply?_sound found
          exact ⟨encoded, m, rfl, small, power, (Except.ok.inj signed).symm⟩

/-- What a private key signs, its public key verifies. -/
theorem verify_sign {digest signature} (signed : sign key blind digest = .ok signature) :
    signature.length = byteLength key.n ∧ verify key.publicKey digest signature = true := by
  obtain ⟨encoded, m, fits, small, power, rfl⟩ := sign_sound signed
  have read : Bytes.toNat (Bytes.ofNat (byteLength key.n) m) = m :=
    Bytes.toNat_ofNat_of_lt (Nat.lt_trans small (lt_pow_byteLength key.n))
  have rewritten : Bytes.ofNat (byteLength key.n) encoded.toNat = encoded := by
    rw [← (encodeDigest?_eq_some_iff.mp fits).1]
    exact Bytes.ofNat_toNat encoded
  refine ⟨Bytes.length_ofNat _ _, ?_⟩
  simp only [verify, PrivateKey.publicKey, Bytes.length_ofNat, read, small, and_self, if_true,
    power, rewritten, fits, BEq.rfl, Bool.true_or]

end SshKeys.Rsa
