import SshKeys.Double

/-! # The shortest decimals of doubles

Many decimals round to the same double. `Double.shortest` chooses one of the fewest digits, among
these the nearest to the double, and among two equally near ones that with the even last digit.

The decimals with a given number of digits lie on a grid. If a point of a grid rounds to the double,
then so does one of the two points next to it, so these two are all that is tested.
-/

namespace SshKeys

-- Powers of natural numbers are those of the core library, whatever else is imported.
attribute [local instance (2000)] instPowNat

/-- The number `digits * 10 ^ exponent`. -/
structure Decimal where
  digits : Nat
  exponent : Int
  deriving Repr, DecidableEq

namespace Double

/-- The least power of ten, from the `power`-th on and within `steps` steps, that is above
`significand * 2 ^ exponent`. -/
def powerAbove (significand : Nat) (exponent : Int) : (steps : Nat) → (power : Int) → Int
  | 0, power => power
  | steps + 1, power =>
    if significand * 2 ^ exponent.toNat * 10 ^ (-power).toNat <
        10 ^ power.toNat * 2 ^ (-exponent).toNat then power
    else powerAbove significand exponent steps (power + 1)

/-- How many digits stand before the point of a positive number `significand * 2 ^ exponent`; zeros
behind the point count as negative. The binary digits tell it up to a few steps. -/
def pointPosition (significand : Nat) (exponent : Int) : Int :=
  powerAbove significand exponent 3 (((significand.log2 : Int) + exponent) * 30103 / 100000)

/-- The limits between which numbers round to a positive double, in quarters of its last binary
digit. The doubles below a power of two lie closer together. -/
def roundingLimits (significand : Nat) (exponent : Int) : Nat × Nat :=
  let isNarrow := significand = fullSignificand ∧ minExponent < exponent
  (4 * significand - (if isNarrow then 1 else 2), 4 * significand + 2)

/-- The point of the grid of multiples of `10 ^ grid` that is nearest to a positive double, if it
rounds to the double: of the two points around the double, those are kept that do, and then the
nearer one. The limits themselves round to the even significand. -/
def gridPoint? (significand : Nat) (exponent grid : Int) : Option Nat :=
  let (low, high) := roundingLimits significand exponent
  let unit := 2 ^ (exponent - 2).toNat * 10 ^ (-grid).toNat
  let step := 2 ^ (2 - exponent).toNat * 10 ^ grid.toNat
  let value := 4 * significand * unit
  let rounds := fun point : Nat =>
    if significand % 2 = 0 then low * unit ≤ point * step ∧ point * step ≤ high * unit
    else low * unit < point * step ∧ point * step < high * unit
  let below := value / step
  let above := below + 1
  if rounds below ∧ rounds above then
    let twice := (below + above) * step
    some (if 2 * value < twice ∨ (2 * value = twice ∧ below % 2 = 0) then below else above)
  else if rounds below then some below
  else if rounds above then some above
  else none

def maxDigits : Nat := 17

/-- The shortest decimal that rounds to a positive double `significand * 2 ^ exponent`. Its exact
value stands in should no shorter decimal be found. -/
def shortest (significand : Nat) (exponent : Int) : Decimal :=
  let point := pointPosition significand exponent
  let decimal? := fun count : Nat =>
    let grid := point - (count + 1 : Nat)
    (gridPoint? significand exponent grid).map fun digits => Decimal.mk digits grid
  ((List.range maxDigits).findSome? decimal?).getD
    (if 0 ≤ exponent then ⟨significand * 2 ^ exponent.toNat, 0⟩
    else ⟨significand * 5 ^ (-exponent).toNat, exponent⟩)

end Double

end SshKeys
