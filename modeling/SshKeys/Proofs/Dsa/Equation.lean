import SshKeys.Proofs.Dsa.Nonce

/-! # The equation that a pair solves

A pair is accepted for a digest number if a power of the generator and one of the public number make
up its first half. The exponents are reduced modulo the order before the powers are taken. For the
generator this changes nothing. For the public number it changes nothing either where its power by
the order is one, but no check of a public key asks for that.
-/

namespace SshKeys.Dsa

variable {key : PublicKey} {z r s w k : Nat}

/-- What a power of the generator and a power of the public number leave together. -/
def PublicKey.combine (key : PublicKey) (a b : Nat) : Nat :=
  key.g ^ a * key.y ^ b % key.p % key.q

/-- A pair in range that solves the equation of DSA for a digest number, with exponents below the
    order. -/
structure IsSignature (key : PublicKey) (z r s : Nat) : Prop where
  first : 0 < r ∧ r < key.q
  second : 0 < s ∧ s < key.q
  equation : ∃ w, w < key.q ∧ s * w % key.q = 1 ∧
    key.combine (z * w % key.q) (r * w % key.q) = r

theorem combine_eq (positive : 0 < key.p) (a b : Nat) :
    powMod key.g a key.p * powMod key.y b key.p % key.p % key.q = key.combine a b := by
  rw [powMod_eq positive, powMod_eq positive, ← Nat.mul_mod]
  rfl

theorem isSolution_iff_isSignature (positive : 0 < key.p) :
    isSolution key z r s = true ↔ IsSignature key z r s := by
  have inverse_iff {w : Nat} (range : 0 < s ∧ s < key.q) :
      inverse? s key.q = some w ↔ w < key.q ∧ s * w % key.q = 1 := by
    have one : 1 % key.q = 1 := Nat.mod_eq_of_lt (by omega)
    rw [inverse?_eq_some_iff (by omega), one]
  rw [isSolution_eq_true_iff]
  constructor
  · intro given
    obtain ⟨first, second, w, found, equal⟩ := given
    obtain ⟨small, inverts⟩ := (inverse_iff second).mp found
    rw [combine_eq positive, Nat.mul_comm w z, Nat.mul_comm w r] at equal
    exact ⟨first, second, w, small, inverts, equal⟩
  · intro given
    obtain ⟨first, second, w, small, inverts, equal⟩ := given
    refine ⟨first, second, w, (inverse_iff second).mpr ⟨small, inverts⟩, ?_⟩
    rw [combine_eq positive, Nat.mul_comm w z, Nat.mul_comm w r, equal]

section Exponents

variable (sound : IsPublic key.p key.q key.g key.y)
include sound

theorem one_mod_modulus : 1 % key.p = 1 :=
  Nat.mod_eq_of_lt (Nat.lt_trans sound.generator.1 sound.generator.2)

theorem generator_pow_congr {a b : Nat} (same : a ≡ b [MOD key.q]) :
    key.g ^ a % key.p = key.g ^ b % key.p := by
  have positive : 0 < key.p := Nat.zero_lt_of_lt sound.generator.2
  have back : key.g ^ key.q % key.p = 1 % key.p := by
    rw [← powMod_eq positive, sound.period, one_mod_modulus sound]
  exact pow_mod_of_period back same

/-- Where the public number belongs to the subgroup, the exponents need not be reduced. -/
theorem combine_mod (member : key.y ^ key.q % key.p = 1) (a b : Nat) :
    key.combine a b = key.combine (a % key.q) (b % key.q) := by
  have back : key.y ^ key.q % key.p = 1 % key.p := by rw [member, one_mod_modulus sound]
  rw [PublicKey.combine, Nat.mul_mod, generator_pow_congr sound (Nat.mod_modEq a key.q).symm,
    pow_mod_of_period back (Nat.mod_modEq b key.q).symm, ← Nat.mul_mod]
  rfl

/-- Where the square of the public number is one, even exponents of it do not count. -/
theorem combine_of_square (square : key.y ^ 2 % key.p = 1) (inverts : s * w % key.q = 1 % key.q)
    (even : 2 ∣ r) : key.combine (s * k * w) (r * w) = key.g ^ k % key.p % key.q := by
  have back : key.y ^ 2 % key.p = 1 % key.p := by rw [square, one_mod_modulus sound]
  have exponent : s * k * w ≡ k [MOD key.q] := by
    calc
      s * k * w = s * w * k := by ring
      _ ≡ 1 * k [MOD key.q] := Nat.ModEq.mul_right k inverts
      _ = k := Nat.one_mul k
  have vanishes : r * w ≡ 0 [MOD 2] := (Nat.modEq_zero_iff_dvd).mpr (even.mul_right w)
  rw [PublicKey.combine, Nat.mul_mod, generator_pow_congr sound exponent,
    pow_mod_of_period back vanishes, ← Nat.mul_mod, pow_zero, Nat.mul_one]

end Exponents

end SshKeys.Dsa
