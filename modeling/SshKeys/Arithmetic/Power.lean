import SshKeys.Integer.Signed

/-! # Powers modulo a number

`powMod base exponent modulus` is `base ^ exponent % modulus`, computed by repeated squaring.
-/

namespace SshKeys

-- Powers of natural numbers are those of the core library, whatever else is imported.
attribute [local instance (2000)] instPowNat

/-- Multiplies `acc` by `base ^ exponent` modulo `modulus`, for an exponent of at most `bits`
binary digits. -/
def powMod.loop (modulus : Nat) : (bits : Nat) → (base exponent acc : Nat) → Nat
  | 0, _, _, acc => acc
  | bits + 1, base, exponent, acc =>
    powMod.loop modulus bits (base * base % modulus) (exponent / 2)
      (if exponent % 2 = 1 then acc * base % modulus else acc)

def powMod (base exponent modulus : Nat) : Nat :=
  powMod.loop modulus (bitLength exponent) (base % modulus) exponent (1 % modulus)

theorem powMod.loop_mod (modulus bits base exponent acc : Nat) (h : exponent < 2 ^ bits) :
    powMod.loop modulus bits base exponent acc % modulus = acc * base ^ exponent % modulus := by
  induction bits generalizing base exponent acc with
  | zero =>
    have : exponent = 0 := by simpa using h
    simp [powMod.loop, this]
  | succ bits ih =>
    have hhalf : exponent / 2 < 2 ^ bits := by rw [Nat.pow_succ] at h; omega
    have hsq : (base * base % modulus) ^ (exponent / 2) % modulus =
        base ^ (2 * (exponent / 2)) % modulus := by
      rw [← Nat.pow_mod, Nat.pow_mul, Nat.pow_two]
    have step : ∀ a, a * (base * base % modulus) ^ (exponent / 2) % modulus =
        a * base ^ (2 * (exponent / 2)) % modulus := by
      intro a
      rw [Nat.mul_mod, hsq, ← Nat.mul_mod]
    rw [powMod.loop, ih _ _ _ hhalf, step]
    by_cases hodd : exponent % 2 = 1
    · have hexp : 2 * (exponent / 2) + 1 = exponent := by omega
      rw [if_pos hodd, Nat.mod_mul_mod, Nat.mul_assoc, ← Nat.pow_add_one', hexp]
    · have hexp : 2 * (exponent / 2) = exponent := by omega
      rw [if_neg hodd, hexp]

theorem powMod.loop_lt {modulus acc : Nat} (bits base exponent : Nat) (h : acc < modulus) :
    powMod.loop modulus bits base exponent acc < modulus := by
  induction bits generalizing base exponent acc with
  | zero => exact h
  | succ bits ih =>
    rw [powMod.loop]
    apply ih
    split
    · exact Nat.mod_lt _ (by omega)
    · exact h

theorem powMod_eq {base exponent modulus : Nat} (h : 0 < modulus) :
    powMod base exponent modulus = base ^ exponent % modulus := by
  have hlt : powMod base exponent modulus < modulus := powMod.loop_lt _ _ _ (Nat.mod_lt _ h)
  have hmod := powMod.loop_mod modulus (bitLength exponent) (base % modulus) exponent (1 % modulus)
    (lt_two_pow_bitLength exponent)
  rw [Nat.mod_mul_mod, Nat.one_mul, ← Nat.pow_mod] at hmod
  rw [← Nat.mod_eq_of_lt hlt]
  exact hmod

end SshKeys
