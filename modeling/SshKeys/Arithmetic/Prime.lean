import SshKeys.Arithmetic.Lucas
import SshKeys.Arithmetic.Power

/-! # Testing for primes

`isProbablePrime` is the Miller–Rabin test to base two, followed by the Lucas test. Every prime
passes both. There are composite numbers that pass the one or the other, but none below `2 ^ 64`
passes both, and none is known beyond.
-/

namespace SshKeys

/-- Whether squaring `x` less than `squarings` times meets `n - 1` modulo `n`. -/
def squaresToMinusOne (n : Nat) : (squarings : Nat) → (x : Nat) → Bool
  | 0, _ => false
  | squarings + 1, x => x == n - 1 || squaresToMinusOne n squarings (x * x % n)

/-- Whether an odd number above two passes the test to one base. -/
def passesBase (n base : Nat) : Bool :=
  let (twos, odd) := oddPart (n - 1)
  let x := powMod base odd n
  x == 1 || squaresToMinusOne n twos x

/-- Whether a number is to be taken for a prime. -/
def isProbablePrime (n : Nat) : Bool :=
  n == 2 || (2 < n && n % 2 == 1 && passesBase n 2 && passesLucas n)

end SshKeys
