/-! # The digits of pi

Pi is sixteen times the arctangent of a fifth less four times that of a 239th. `piPlaces bits` is
what stands behind the binary point of it, cut after so many digits. The series of the two
arctangents are summed with 64 digits more, which what is lost in them does not reach.
-/

namespace SshKeys

/-- The alternating sum of `power / odd`, of `count` terms, where from term to term `power` is
divided by `square` and `odd` grows by two. -/
def alternatingSum (square : Nat) : (count : Nat) → (power odd : Nat) → Nat
  | 0, _, _ => 0
  | count + 1, power, odd =>
    power / odd - alternatingSum square count (power / square) (odd + 2)

/-- The arctangent of one over a number above four, in units of which `one` make one. Terms beyond
the given count are below one unit. -/
def arctanOfInverse (one count x : Nat) : Nat := alternatingSum (x * x) count (one / x) 1

/-- The binary digits of pi behind the point, as a number. -/
def piPlaces (bits : Nat) : Nat :=
  let one := 1 <<< (bits + 64)
  let count := bits / 4 + 16
  let pi := 16 * arctanOfInverse one count 5 - 4 * arctanOfInverse one count 239
  (pi - 3 * one) >>> 64

end SshKeys
