import SshKeys.Dsa.Key
import SshKeys.Proofs.Outcome

/-! # Making DSA keys

Integers make a DSA key or have a fault of the sort or the value. The one other fault is an order of
zero next to a modulus that is not zero, provided that every integer is there and none is negative.
Where one is negative, it is up to the engine whether it is noticed before the division. A key that
is made has passed every check.
-/

namespace SshKeys.Dsa

open Outcome

variable {p q g y x : Option Int}

/-- All faults of making a key. -/
def faults : List Fault := [.badType, .badValue, .zeroModulus]

theorem checkDomain_failsOnly (p q : Nat) : FailsOnly faults (checkDomain p q) := by
  unfold checkDomain
  split
  · exact .error (by simp [faults])
  · split
    · exact .error (by simp [faults])
    · exact .ok ()

theorem required_faults (n : Option Int) : FailsOnly faults (required n) :=
  (required_failsOnly n).mono (by simp [faults])

section

variable [Engine]

theorem checkSigns_faults (integers : List (Option Int)) :
    FailsOnly faults (checkSigns Engine.dsaRefusal integers) :=
  checkSigns_failsOnly (Engine.dsaRefusal_mem integers)

theorem publicKey_failsOnly : FailsOnly faults (publicKey p q g y) := by
  refine (checkSigns_faults _).bind fun _ _ => ?_
  refine (required_faults y).bind fun y _ => (required_faults g).bind fun g _ =>
    (required_faults p).bind fun p _ => (required_faults q).bind fun q _ =>
    (checkDomain_failsOnly p q).bind fun _ _ => ?_
  split
  · exact .ok _
  · exact .error (by simp [faults])

/-- The integers of a key, with the private one if there is to be one, lead to a division by zero:
    an order of zero next to a modulus that is not. Where one of them is negative, it is up to the
    engine whether that is noticed before. -/
inductive IsSingular (p q g y : Option Int) (secret : List (Option Int)) : Prop
  | zeroOrder {p' g' y' : Nat} (modulus : p = some (p' : Int)) (nonzero : p' ≠ 0)
    (order : q = some 0) (generator : g = some (g' : Int)) (power : y = some (y' : Int))
    (given : ∀ x ∈ secret, ∃ x' : Nat, x = some (x' : Int)) : IsSingular p q g y secret
  | negative (overlooked : OverlooksSign Engine.dsaRefusal (y :: g :: p :: q :: secret)) :
    IsSingular p q g y secret

theorem IsSingular.order {secret : List (Option Int)} (singular : IsSingular p q g y secret) :
    q = some 0 := by
  cases singular with
  | zeroOrder _ _ order => exact order
  | negative overlooked => exact Engine.dsaRefusal_order y g p q secret overlooked.refused

end

/-- What the checks of a public key find. -/
structure IsPublic (p q g y : Nat) : Prop where
  generator : 1 < g ∧ g < p
  range : 0 < y ∧ y < p
  order : (p - 1) % q = 0
  period : powMod g q p = 1
  tested : isProbablePrime q = true ∧ isProbablePrime p = true

/-- What the checks of a private exponent find. -/
structure IsPrivate (p q g y x : Nat) : Prop where
  range : 0 < x ∧ x < q
  power : powMod g x p = y

theorem isPublic_iff {p q g y : Nat} : isPublic p q g y = true ↔ IsPublic p q g y := by
  simp only [isPublic, Bool.and_eq_true, decide_eq_true_eq, beq_iff_eq]
  constructor
  · rintro ⟨⟨⟨⟨⟨⟨generator, low⟩, high⟩, order⟩, period⟩, testedQ⟩, testedP⟩
    exact ⟨generator, ⟨low, high⟩, order, period, testedQ, testedP⟩
  · rintro ⟨generator, ⟨low, high⟩, order, period, testedQ, testedP⟩
    exact ⟨⟨⟨⟨⟨⟨generator, low⟩, high⟩, order⟩, period⟩, testedQ⟩, testedP⟩

theorem isPublic_of_range {p q g y y' : Nat} (consistent : isPublic p q g y = true)
    (range : 0 < y' ∧ y' < p) : isPublic p q g y' = true :=
  isPublic_iff.mpr { isPublic_iff.mp consistent with range := range }

theorem isPrivate_iff {p q g y x : Nat} : isPrivate p q g y x = true ↔ IsPrivate p q g y x := by
  simp only [isPrivate, Bool.and_eq_true, decide_eq_true_eq, beq_iff_eq]
  constructor
  · rintro ⟨range, power⟩
    exact ⟨range, power⟩
  · rintro ⟨range, power⟩
    exact ⟨range, power⟩

theorem publicKey_sound [Engine] {key} (made : publicKey p q g y = .ok key) :
    (p = some (key.p : Int) ∧ q = some (key.q : Int) ∧ g = some (key.g : Int) ∧
      y = some (key.y : Int)) ∧ isPublic key.p key.q key.g key.y = true := by
  obtain ⟨_, _, made⟩ := bind_eq_ok_iff.mp made
  obtain ⟨y, hy, made⟩ := bind_eq_ok_iff.mp made
  obtain ⟨g, hg, made⟩ := bind_eq_ok_iff.mp made
  obtain ⟨p, hp, made⟩ := bind_eq_ok_iff.mp made
  obtain ⟨q, hq, made⟩ := bind_eq_ok_iff.mp made
  obtain ⟨_, _, made⟩ := bind_eq_ok_iff.mp made
  split at made
  · next consistent =>
      cases made
      rw [required_eq_ok_iff] at hp hq hg hy
      exact ⟨⟨hp, hq, hg, hy⟩, consistent⟩
  · cases made

theorem privateKey_sound [Engine] {key} (made : privateKey p q g y x = .ok key) :
    p = some (key.p : Int) ∧ q = some (key.q : Int) ∧ g = some (key.g : Int) ∧
      y = some (key.y : Int) ∧ x = some (key.x : Int) ∧
      isPublic key.p key.q key.g key.y = true ∧
      isPrivate key.p key.q key.g key.y key.x = true := by
  obtain ⟨_, _, made⟩ := bind_eq_ok_iff.mp made
  obtain ⟨y, hy, made⟩ := bind_eq_ok_iff.mp made
  obtain ⟨g, hg, made⟩ := bind_eq_ok_iff.mp made
  obtain ⟨p, hp, made⟩ := bind_eq_ok_iff.mp made
  obtain ⟨q, hq, made⟩ := bind_eq_ok_iff.mp made
  obtain ⟨x, hx, made⟩ := bind_eq_ok_iff.mp made
  obtain ⟨_, _, made⟩ := bind_eq_ok_iff.mp made
  split at made
  · next consistent =>
      cases made
      rw [required_eq_ok_iff] at hp hq hg hy hx
      exact ⟨hp, hq, hg, hy, hx, (Bool.and_eq_true _ _).mp consistent⟩
  · cases made

theorem checkDomain_of_isPublic {p q g y : Nat} (consistent : isPublic p q g y = true)
    (nonzero : q ≠ 0) : checkDomain p q = .ok () := by
  have generator := (isPublic_iff.mp consistent).generator
  have positive : p ≠ 0 := by omega
  simp [checkDomain, positive, nonzero]

theorem publicKey_of_isPublic [Engine] {p q g y : Nat} (consistent : isPublic p q g y = true)
    (nonzero : q ≠ 0) :
    publicKey (some (p : Int)) (some (q : Int)) (some (g : Int)) (some (y : Int)) =
      .ok ⟨p, q, g, y⟩ := by
  simp only [publicKey, required_natCast, checkSigns, hasNegative_natCast_cons, hasNegative_nil]
  show checkDomain p q >>= _ = _
  rw [checkDomain_of_isPublic consistent nonzero]
  exact if_pos consistent

theorem ne_zero_of_isPrivate {p q g y x : Nat} (secret : isPrivate p q g y x = true) : q ≠ 0 := by
  have range := (isPrivate_iff.mp secret).range
  omega

theorem privateKey_of_isPrivate [Engine] {p q g y x : Nat} (consistent : isPublic p q g y = true)
    (secret : isPrivate p q g y x = true) :
    privateKey (some (p : Int)) (some (q : Int)) (some (g : Int)) (some (y : Int))
      (some (x : Int)) = .ok ⟨p, q, g, y, x⟩ := by
  simp only [privateKey, required_natCast, checkSigns, hasNegative_natCast_cons, hasNegative_nil]
  show checkDomain p q >>= _ = _
  rw [checkDomain_of_isPublic consistent (ne_zero_of_isPrivate secret)]
  exact if_pos (by rw [consistent, secret, Bool.and_self])

end SshKeys.Dsa
