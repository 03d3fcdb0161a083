/-! # Inverses modulo a number

`inverse? a m` is the number below `m` that `a` has to be multiplied with to give one modulo `m`,
found by Euclid's algorithm; there is none unless `a` and `m` have no common divisor.
-/

namespace SshKeys

/-- Euclid's algorithm on two remainders and their coefficients: the last remainder that is not
zero, and its coefficient. The number of steps is below the second remainder. -/
def euclid : (steps : Nat) → (r₀ r₁ : Nat) → (s₀ s₁ : Int) → Nat × Int
  | 0, r₀, _, s₀, _ => (r₀, s₀)
  | steps + 1, r₀, r₁, s₀, s₁ =>
    if r₁ = 0 then (r₀, s₀)
    else euclid steps r₁ (r₀ % r₁) s₁ (s₀ - (r₀ / r₁ : Nat) * s₁)

def inverse? (a m : Nat) : Option Nat :=
  let (gcd, coefficient) := euclid m a m 1 0
  if gcd = 1 then some (coefficient % m).toNat else none

end SshKeys
