import SshKeys.Integer.Signed

/-! # Roots rounded down

`floorRoot degree bits n` is found digit by digit: the root of what is left of `n` without its last
`degree` binary digits, doubled, or one more. Its power is at most `n`.
-/

namespace SshKeys

-- Powers of natural numbers are those of the core library, whatever else is imported.
attribute [local instance (2000)] instPowNat

/-- The largest number of at most `bits` binary digits whose power is at most `n`. -/
def floorRoot (degree : Nat) : (bits : Nat) → (n : Nat) → Nat
  | 0, _ => 0
  | bits + 1, n =>
    let root := 2 * floorRoot degree bits (n / 2 ^ degree)
    if (root + 1) ^ degree ≤ n then root + 1 else root

def isSquare (n : Nat) : Bool :=
  let root := floorRoot 2 (bitLength n) n
  root * root == n

end SshKeys
