import SshKeys.Integer.Signed

/-! # Odd parts

Every positive number is a power of two times an odd number; `oddPart` splits it so.
-/

namespace SshKeys

/-- Splits a number into the power of two that divides it and what remains, in at most `steps`
halvings. -/
def splitTwos : (steps : Nat) → Nat → Nat × Nat
  | 0, n => (0, n)
  | steps + 1, n =>
    if n % 2 = 0 then
      let (twos, odd) := splitTwos steps (n / 2)
      (twos + 1, odd)
    else (0, n)

/-- The exponent of the power of two that divides a positive number, and the odd number that
remains. -/
def oddPart (n : Nat) : Nat × Nat := splitTwos (bitLength n) n

end SshKeys
