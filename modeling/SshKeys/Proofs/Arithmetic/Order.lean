import Mathlib.FieldTheory.Finite.Basic
import Mathlib.NumberTheory.LucasPrimality
import SshKeys.Arithmetic.Power

/-! # Powers that come back

Exponents count modulo a period of what is raised to them. Modulo a prime, one less than the prime
is a period; modulo a product of two primes, numbers come back to themselves also where one of the
primes divides them. What comes back to one no earlier than after `p - 1` steps shows that `p` is
prime.
-/

namespace SshKeys

theorem pow_congr_of_period {M : Type} [Monoid M] {x : M} {period a b : Nat} (h : x ^ period = 1)
    (same : a ≡ b [MOD period]) : x ^ a = x ^ b := by
  rw [pow_eq_pow_mod a h, pow_eq_pow_mod b h, same]

theorem pow_mod_of_period {m x period a b : Nat} (back : x ^ period % m = 1 % m)
    (same : a ≡ b [MOD period]) : x ^ a % m = x ^ b % m := by
  have one : (x : ZMod m) ^ period = 1 := by
    rw [← Nat.cast_pow, ← Nat.cast_one]
    exact (ZMod.natCast_eq_natCast_iff' _ _ m).mpr back
  apply (ZMod.natCast_eq_natCast_iff' _ _ m).mp
  rw [Nat.cast_pow, Nat.cast_pow, pow_congr_of_period one same]

theorem natCast_powMod {m : Nat} (positive : 0 < m) (a k : Nat) :
    (powMod a k m : ZMod m) = (a : ZMod m) ^ k := by
  rw [powMod_eq positive, ZMod.natCast_mod, Nat.cast_pow]

theorem natCast_pow_eq_one_iff {m : Nat} (h : 1 < m) (a k : Nat) :
    (a : ZMod m) ^ k = 1 ↔ powMod a k m = 1 := by
  have positive : 0 < m := by omega
  have reduced : powMod a k m < m := by
    rw [powMod_eq positive]
    exact Nat.mod_lt _ positive
  rw [← natCast_powMod positive, ← Nat.cast_one, ZMod.natCast_eq_natCast_iff',
    Nat.mod_eq_of_lt reduced, Nat.mod_eq_of_lt h]

/-- A number is prime if another comes back to one after `p - 1` steps and not after a half or a
    third of them, where `p - 1` has no other prime factors than two and three. -/
theorem prime_of_powMod {p a i j : Nat} (smooth : p - 1 = 2 ^ i * 3 ^ j) (positive : 1 < p)
    (back : powMod a (p - 1) p = 1) (half : powMod a ((p - 1) / 2) p ≠ 1)
    (third : powMod a ((p - 1) / 3) p ≠ 1) : p.Prime := by
  have one (k : Nat) := natCast_pow_eq_one_iff positive a k
  refine lucas_primality p a ((one _).mpr back) fun f prime divides => ?_
  rw [smooth, prime.dvd_mul] at divides
  rcases divides with divides | divides
  · obtain rfl := (Nat.prime_dvd_prime_iff_eq prime Nat.prime_two).mp (prime.dvd_of_dvd_pow divides)
    exact mt (one _).mp half
  · obtain rfl :=
      (Nat.prime_dvd_prime_iff_eq prime Nat.prime_three).mp (prime.dvd_of_dvd_pow divides)
    exact mt (one _).mp third

end SshKeys
