import SshKeys.Proofs.Dsa.Signature

/-! # The nonces of a pair

The second half of a pair and a digest number ask for one nonce. The pair is accepted if the power
of the generator by this nonce leaves the first half. Digest numbers that are the same modulo the
order ask for the same nonce, so a pair that is accepted for one of them is accepted for all. For
other numbers it is accepted only where the powers by two nonces leave the same remainder.
-/

namespace SshKeys.Dsa

variable {key : PrivateKey} {z z' r s k : Nat}

/-- A number below the order by which the private key makes a pair of a digest number. -/
structure IsNonceOf (key : PrivateKey) (z r s k : Nat) : Prop where
  small : k < key.q
  first : powMod key.g k key.p % key.q = r
  second : s * k ≡ z + key.x * r [MOD key.q]

/-- Two nonces make the same pair of two digest numbers. -/
def IsCollision (key : PrivateKey) (z z' r s : Nat) : Prop :=
  ∃ k k', k ≠ k' ∧ IsNonceOf key z r s k ∧ IsNonceOf key z' r s k'

theorem modEq_inverse_iff {q x w : Nat} (inverts : s * w ≡ 1 [MOD q]) :
    s * k ≡ z + x * r [MOD q] ↔ w * z + x * (w * r) ≡ k [MOD q] := by
  constructor
  · intro asked
    calc
      w * z + x * (w * r) = (z + x * r) * w := by ring
      _ ≡ s * k * w [MOD q] := (asked.mul_right w).symm
      _ = k * (s * w) := by ring
      _ ≡ k * 1 [MOD q] := inverts.mul_left k
      _ = k := Nat.mul_one k
  · intro asked
    calc
      s * k ≡ s * (w * z + x * (w * r)) [MOD q] := (asked.mul_left s).symm
      _ = s * w * (z + x * r) := by ring
      _ ≡ 1 * (z + x * r) [MOD q] := inverts.mul_right _
      _ = z + x * r := Nat.one_mul _

/-- The two powers of verification make up that of the generator by the nonce that is asked for. -/
theorem isSolution_iff (isPublic : isPublic key.p key.q key.g key.y = true)
    (isPrivate : isPrivate key.p key.q key.g key.y key.x = true) :
    isSolution key.publicKey z r s = true ↔ ((0 < r ∧ r < key.q) ∧ (0 < s ∧ s < key.q) ∧
      ∃ w, inverse? s key.q = some w) ∧ ∃ k, IsNonceOf key z r s k := by
  have positive : 0 < key.q := Nat.pos_of_ne_zero (ne_zero_of_isPrivate isPrivate)
  have sound := isPublic_iff.mp isPublic
  have modulus : 1 < key.p := Nat.lt_trans sound.generator.1 sound.generator.2
  have power {w k : Nat} (asked : w * z + key.x * (w * r) ≡ k [MOD key.q]) :
      powMod key.g (w * z % key.q) key.p * powMod key.y (w * r % key.q) key.p % key.p =
        powMod key.g k key.p := by
    rw [← (isPrivate_iff.mp isPrivate).power]
    exact powMod_mul_powMod modulus sound.period asked
  rw [isSolution_eq_true_iff]
  constructor
  · intro given
    obtain ⟨rangeR, rangeS, w, found, equal⟩ := given
    have inverts : s * w ≡ 1 [MOD key.q] := (inverse?_sound found positive).2
    have reduced := (Nat.mod_modEq (w * z + key.x * (w * r)) key.q).symm
    refine ⟨⟨rangeR, rangeS, w, found⟩, _, Nat.mod_lt _ positive, ?_,
      (modEq_inverse_iff inverts).mpr reduced⟩
    rw [← power reduced]
    exact equal
  · intro given
    obtain ⟨⟨rangeR, rangeS, w, found⟩, k, _, first, second⟩ := given
    have inverts : s * w ≡ 1 [MOD key.q] := (inverse?_sound found positive).2
    refine ⟨rangeR, rangeS, w, found, ?_⟩
    exact (congrArg (· % key.q) (power ((modEq_inverse_iff inverts).mp second))).trans first

theorem IsNonceOf.congr (h : IsNonceOf key z r s k) (same : z' ≡ z [MOD key.q]) :
    IsNonceOf key z' r s k :=
  ⟨h.small, h.first, h.second.trans (same.symm.add_right _)⟩

theorem modEq_of_isNonceOf (h : IsNonceOf key z r s k) (h' : IsNonceOf key z' r s k) :
    z' ≡ z [MOD key.q] :=
  Nat.ModEq.add_right_cancel' (key.x * r) (h'.second.symm.trans h.second)

/-- An accepted pair is accepted for another digest number if this is the same modulo the order, and
    otherwise if two nonces make the pair. -/
theorem isSolution_other_iff (isPublic : isPublic key.p key.q key.g key.y = true)
    (isPrivate : isPrivate key.p key.q key.g key.y key.x = true)
    (accepted : isSolution key.publicKey z r s = true) :
    isSolution key.publicKey z' r s = true ↔
      z' ≡ z [MOD key.q] ∨ IsCollision key z z' r s := by
  obtain ⟨range, k, made⟩ := (isSolution_iff isPublic isPrivate).mp accepted
  rw [isSolution_iff isPublic isPrivate, and_iff_right range]
  constructor
  · intro given
    obtain ⟨k', made'⟩ := given
    by_cases same : k = k'
    · exact .inl (modEq_of_isNonceOf made (same ▸ made'))
    · exact .inr ⟨k, k', same, made, made'⟩
  · intro given
    rcases given with same | ⟨_, k', _, _, made'⟩
    · exact ⟨k, made.congr same⟩
    · exact ⟨k', made'⟩

end SshKeys.Dsa
