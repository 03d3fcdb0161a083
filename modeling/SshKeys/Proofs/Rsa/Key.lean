import SshKeys.Proofs.Arithmetic.Inverse
import SshKeys.Proofs.Outcome
import SshKeys.Rsa.Key

/-! # Making RSA keys

A public key has a fault of the sort or the value only. The factors of a private key are reduced by
one and inverted before anything else is known about them, which is not possible for a factor of one
and, where the coefficient is computed, for a second factor of zero. A private key that is made has
passed every check, those of a public key among them.
-/

namespace SshKeys.Rsa

open Outcome

variable {n e d p q u : Nat}

/-- All faults of making a private key of numbers. -/
def faults : List Fault := [.badValue, .zeroModulus]

theorem exists_reducedExponent_iff : (∃ r, reducedExponent d p = .ok r) ↔ 1 < p := by
  match p with
  | 0 | 1 => simp [reducedExponent]
  | order + 2 => simp [reducedExponent]

variable [Engine]

theorem publicKey_failsOnly (n e : Option Int) :
    FailsOnly [.badType, .badValue] (publicKey n e) := by
  refine (required_failsOnly n).bind fun n _ => (required_failsOnly e).bind fun e _ => ?_
  split
  · exact .ok _
  · exact .error (by simp)

theorem checkWidth_eq_ok_iff {done} : checkWidth n = .ok done ↔ Engine.admits n = true := by
  unfold checkWidth
  split <;> simp_all

/-- What the checks of a public key find. -/
structure IsPublic (n e : Nat) : Prop where
  exponent : 1 < e ∧ e < n
  coprime : Nat.gcd n e = 1
  odd : n % 2 = 1
  admitted : Engine.admits n = true

/-- What the checks of a private key find. -/
structure IsPrivate (n e d p q u : Nat) : Prop where
  publicHalf : IsPublic n e
  exponent : 1 < d ∧ d < n
  coprime : Nat.gcd n d = 1
  product : p * q = n
  tested : isProbablePrime p = true ∧ isProbablePrime q = true
  inverse : e * d % Nat.lcm (p - 1) (q - 1) = 1
  range : 1 < u ∧ u < q
  coefficient : p * u % q = 1

theorem isPublic_iff : isPublic n e = true ↔ IsPublic n e := by
  simp only [isPublic, Bool.and_eq_true, decide_eq_true_eq, beq_iff_eq]
  constructor
  · rintro ⟨⟨⟨exponent, coprime⟩, odd⟩, admitted⟩
    exact ⟨exponent, coprime, odd, admitted⟩
  · rintro ⟨exponent, coprime, odd, admitted⟩
    exact ⟨⟨⟨exponent, coprime⟩, odd⟩, admitted⟩

theorem isPrivate_iff : isPrivate n e d p q u = true ↔ IsPrivate n e d p q u := by
  simp only [isPrivate, Bool.and_eq_true, decide_eq_true_eq, beq_iff_eq, isPublic_iff]
  constructor
  · rintro ⟨⟨⟨⟨⟨⟨⟨⟨⟨⟨half, low⟩, high⟩, coprime⟩, product⟩, testedP⟩, testedQ⟩, inverse⟩, lowU⟩,
      highU⟩, coefficient⟩
    exact ⟨half, ⟨low, high⟩, coprime, product, ⟨testedP, testedQ⟩, inverse, ⟨lowU, highU⟩,
      coefficient⟩
  · rintro ⟨half, ⟨low, high⟩, coprime, product, ⟨testedP, testedQ⟩, inverse, ⟨lowU, highU⟩,
      coefficient⟩
    exact ⟨⟨⟨⟨⟨⟨⟨⟨⟨⟨half, low⟩, high⟩, coprime⟩, product⟩, testedP⟩, testedQ⟩, inverse⟩, lowU⟩,
      highU⟩, coefficient⟩

theorem isPublic_of_isPrivate (consistent : isPrivate n e d p q u = true) :
    isPublic n e = true :=
  isPublic_iff.mpr (isPrivate_iff.mp consistent).publicHalf

theorem ofNumbers_sound {key} (made : ofNumbers n e d p q u = .ok key) :
    key = ⟨n, e, d, p, q, u⟩ ∧ isPrivate n e d p q u = true := by
  obtain ⟨_, _, made⟩ := bind_eq_ok_iff.mp made
  obtain ⟨_, _, made⟩ := bind_eq_ok_iff.mp made
  obtain ⟨_, _, made⟩ := bind_eq_ok_iff.mp made
  split at made
  · next consistent => exact ⟨(Except.ok.inj made).symm, consistent⟩
  · cases made

theorem ofFactors_sound {key} (made : ofFactors n e d p q = .ok key) :
    ∃ u, key = ⟨n, e, d, p, q, u⟩ ∧ isPrivate n e d p q u = true := by
  obtain ⟨_, _, made⟩ := bind_eq_ok_iff.mp made
  obtain ⟨u, _, made⟩ := bind_eq_ok_iff.mp made
  exact ⟨u, ofNumbers_sound made⟩

/-- A private key has the modulus and the exponents that it was made of, and its numbers fit
    together, whether its factors were given or recovered. -/
theorem privateKey_sound {n e d : Option Int} {factors key}
    (made : privateKey n e d factors = .ok key) :
    n = some (key.n : Int) ∧ e = some (key.e : Int) ∧ d = some (key.d : Int) ∧
      isPrivate key.n key.e key.d key.p key.q key.u = true := by
  obtain ⟨_, _, made⟩ := bind_eq_ok_iff.mp made
  obtain ⟨n, hn, made⟩ := bind_eq_ok_iff.mp made
  obtain ⟨e, he, made⟩ := bind_eq_ok_iff.mp made
  obtain ⟨d, hd, made⟩ := bind_eq_ok_iff.mp made
  have factored : ∃ p q, ofFactors n e d p q = .ok key := by
    cases factors with
    | some given =>
        obtain ⟨p, _, made⟩ := bind_eq_ok_iff.mp made
        obtain ⟨q, _, made⟩ := bind_eq_ok_iff.mp made
        exact ⟨p, q, made⟩
    | none =>
        obtain ⟨_, _, made⟩ := bind_eq_ok_iff.mp made
        obtain ⟨⟨p, q⟩, _, made⟩ := bind_eq_ok_iff.mp made
        exact ⟨p, q, made⟩
  obtain ⟨p, q, made⟩ := factored
  obtain ⟨u, rfl, consistent⟩ := ofFactors_sound made
  exact ⟨required_eq_ok_iff.mp hn, required_eq_ok_iff.mp he, required_eq_ok_iff.mp hd, consistent⟩

theorem ofFactors_of_privateKey {n e d p q : Int} {key}
    (made : privateKey (some n) (some e) (some d) (some (p, q)) = .ok key) :
    n = key.n ∧ e = key.e ∧ d = key.d ∧ p = key.p ∧ q = key.q ∧
      ofFactors key.n key.e key.d key.p key.q = .ok key := by
  obtain ⟨_, _, made⟩ := bind_eq_ok_iff.mp made
  obtain ⟨n', hn, made⟩ := bind_eq_ok_iff.mp made
  obtain ⟨e', he, made⟩ := bind_eq_ok_iff.mp made
  obtain ⟨d', hd, made⟩ := bind_eq_ok_iff.mp made
  obtain ⟨p', hp, made⟩ := bind_eq_ok_iff.mp made
  obtain ⟨q', hq, made⟩ := bind_eq_ok_iff.mp made
  rw [required_eq_ok_iff, Option.some.injEq] at hn he hd hp hq
  obtain ⟨u, rfl, _⟩ := ofFactors_sound made
  exact ⟨hn, he, hd, hp, hq, made⟩

theorem publicKey_of_isPublic (consistent : isPublic n e = true) :
    publicKey (some (n : Int)) (some (e : Int)) = .ok ⟨n, e⟩ := by
  simp only [publicKey, required_natCast]
  exact if_pos consistent

theorem publicKey_eq_ok_iff {n e : Option Int} {key} : publicKey n e = .ok key ↔
    n = some (key.n : Int) ∧ e = some (key.e : Int) ∧ isPublic key.n key.e = true := by
  constructor
  · intro made
    obtain ⟨n, hn, made⟩ := bind_eq_ok_iff.mp made
    obtain ⟨e, he, made⟩ := bind_eq_ok_iff.mp made
    split at made
    · next consistent =>
        cases made
        exact ⟨required_eq_ok_iff.mp hn, required_eq_ok_iff.mp he, consistent⟩
    · cases made
  · intro given
    obtain ⟨rfl, rfl, consistent⟩ := given
    exact publicKey_of_isPublic consistent

theorem publicKey_sound {n e : Option Int} {key} (made : publicKey n e = .ok key) :
    isPublic key.n key.e = true :=
  (publicKey_eq_ok_iff.mp made).2.2

/-- The coefficient or an exponent is not defined for the factors `p` and `q` of `n`. A factor of
    one shows only behind the checks before it, the one of the width of `n` among them. -/
def IsSingular (n p q : Nat) : Prop :=
  q = 0 ∨ (Engine.admits n = true ∧ p ≠ 0 ∧ (p = 1 ∨ q = 1))

end SshKeys.Rsa
