import SshKeys.Arithmetic.Inverse

/-! # Which numbers have inverses

Euclid's algorithm has enough steps to reach the greatest common divisor, so a number has an inverse
exactly if it has no divisor in common with the modulus. What is found is reduced and does invert,
and nothing else that is reduced does.
-/

namespace SshKeys

theorem euclid_fst {steps r₀ r₁ : Nat} {s₀ s₁ : Int} (enough : r₁ ≤ steps) :
    (euclid steps r₀ r₁ s₀ s₁).1 = Nat.gcd r₀ r₁ := by
  -- The second remainder falls with every step, so the steps outlast it.
  induction steps generalizing r₀ r₁ s₀ s₁ with
  | zero =>
      have last : r₁ = 0 := by omega
      simp [euclid, last]
  | succ steps ih =>
      unfold euclid
      split
      · next last => simp [last]
      · next more =>
          have smaller := Nat.mod_lt r₀ (Nat.pos_of_ne_zero more)
          rw [ih (by omega), Nat.gcd_comm r₁, ← Nat.gcd_rec, Nat.gcd_comm]

theorem inverse?_isSome_iff {a m : Nat} : (inverse? a m).isSome ↔ Nat.gcd a m = 1 := by
  simp only [inverse?, euclid_fst (Nat.le_refl m)]
  split <;> simp_all

/-- The remainders of Euclid's algorithm stay multiples of `a` modulo `m`, by their coefficients. -/
theorem dvd_euclid {a m : Int} {steps r₀ r₁ : Nat} {s₀ s₁ : Int} (h₀ : m ∣ s₀ * a - r₀)
    (h₁ : m ∣ s₁ * a - r₁) :
    m ∣ (euclid steps r₀ r₁ s₀ s₁).2 * a - (euclid steps r₀ r₁ s₀ s₁).1 := by
  induction steps generalizing r₀ r₁ s₀ s₁ with
  | zero => exact h₀
  | succ steps ih =>
      unfold euclid
      split
      · exact h₀
      · refine ih h₁ ?_
        have remainder : ((r₀ % r₁ : Nat) : Int) = r₀ - r₁ * (r₀ / r₁ : Nat) := by
          have := Nat.mod_add_div r₀ r₁
          omega
        have next : (s₀ - (r₀ / r₁ : Nat) * s₁) * a - (r₀ % r₁ : Nat) =
            (s₀ * a - r₀) - (r₀ / r₁ : Nat) * (s₁ * a - r₁) := by
          rw [remainder]
          grind
        rw [next]
        exact Int.dvd_sub h₀ (Int.dvd_mul_of_dvd_right h₁)

theorem inverse?_sound {a m u : Nat} (found : inverse? a m = some u) (positive : 0 < m) :
    u < m ∧ a * u % m = 1 % m := by
  have related : (m : Int) ∣ (euclid m a m 1 0).2 * a - (euclid m a m 1 0).1 :=
    dvd_euclid (by simp) (by simp)
  simp only [inverse?] at found
  split at found
  · next coprime =>
      generalize (euclid m a m 1 0).2 = c at found related
      cases found
      rw [coprime] at related
      have reduced := Int.emod_nonneg c (by omega : (m : Int) ≠ 0)
      have small := Int.emod_lt_of_pos c (by omega : 0 < (m : Int))
      refine ⟨by omega, ?_⟩
      have inverts : (a * (c % m).toNat : Int) % m = 1 % m := by
        rw [Int.toNat_of_nonneg reduced, Int.mul_emod, Int.emod_emod_of_dvd _ (Int.dvd_refl _),
          ← Int.mul_emod, Int.mul_comm]
        exact (Int.emod_eq_emod_iff_emod_sub_eq_zero).mpr (Int.emod_eq_zero_of_dvd related)
      exact_mod_cast inverts
  · cases found

theorem inverse?_eq_of_inverts {a m u : Nat} (small : u < m) (inverts : a * u % m = 1 % m) :
    inverse? a m = some u := by
  have coprime : Nat.gcd a m = 1 := by
    have divides : Nat.gcd a m ∣ 1 % m := by
      rw [← inverts]
      exact (Nat.dvd_mod_iff (Nat.gcd_dvd_right a m)).mpr
        (Nat.dvd_trans (Nat.gcd_dvd_left a m) (Nat.dvd_mul_right a u))
    exact Nat.dvd_one.mp ((Nat.dvd_mod_iff (Nat.gcd_dvd_right a m)).mp divides)
  obtain ⟨v, found⟩ := Option.isSome_iff_exists.mp (inverse?_isSome_iff.mpr coprime)
  obtain ⟨small', inverts'⟩ := inverse?_sound found (Nat.zero_lt_of_lt small)
  have same : v = u := by
    calc
      v = v * (a * u % m) % m := by
        rw [inverts, Nat.mul_mod_mod, Nat.mul_one, Nat.mod_eq_of_lt small']
      _ = a * v % m * u % m := by
        rw [Nat.mul_mod_mod, Nat.mod_mul_mod, Nat.mul_left_comm, ← Nat.mul_assoc]
      _ = u := by rw [inverts', Nat.mod_mul_mod, Nat.one_mul, Nat.mod_eq_of_lt small]
  rw [found, same]

theorem inverse?_eq_some_iff {a m u : Nat} (positive : 0 < m) :
    inverse? a m = some u ↔ u < m ∧ a * u % m = 1 % m :=
  ⟨fun found => inverse?_sound found positive, fun given => inverse?_eq_of_inverts given.1 given.2⟩

end SshKeys
