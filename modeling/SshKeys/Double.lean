/-! # Numbers in double precision

A double is a number `± significand * 2 ^ exponent` whose significand has at most 53 binary digits,
an infinity, or no number at all. `Double.ofRatio` rounds a quotient to the nearest double, and of
two equally near ones to that with the even significand.
-/

namespace SshKeys

-- Powers of natural numbers are those of the core library, whatever else is imported.
attribute [local instance (2000)] instPowNat

inductive Double where
  /-- The number `± significand * 2 ^ exponent`; zero has a sign as well. -/
  | finite (isNegative : Bool) (significand : Nat) (exponent : Int)
  | infinite (isNegative : Bool)
  /-- No number at all. -/
  | undefined
  deriving Repr, DecidableEq

namespace Double

def minExponent : Int := -1074

def maxExponent : Int := 971

/-- The least significand of full width. -/
def fullSignificand : Nat := (2 : Nat) ^ (52 : Nat)

/-- The quotient `num / den` rounded to the nearest number, and to the even one if two are equally
near. -/
def roundQuotient (num den : Nat) : Nat :=
  let quotient := num / den
  let twice := 2 * (num % den)
  if twice < den ∨ (twice = den ∧ quotient % 2 = 0) then quotient else quotient + 1

/-- The rounded quotient of `num / den` and `2 ^ exponent`. -/
def roundScaled (num den : Nat) (exponent : Int) : Nat :=
  roundQuotient (num * 2 ^ (-exponent).toNat) (den * 2 ^ exponent.toNat)

/-- The largest exponent with which `num / den` fills a significand: the binary digits of both
numbers leave a choice of two. -/
def fullExponent (num den : Nat) : Int :=
  let low : Int := (num.log2 : Int) - den.log2 - 53
  if num * 2 ^ (-low).toNat < 2 * fullSignificand * (den * 2 ^ low.toNat) then low else low + 1

/-- The double of a significand that rounding may have made one binary digit too wide. -/
def ofRounded (isNegative : Bool) (significand : Nat) (exponent : Int) : Double :=
  let (significand, exponent) :=
    if significand = 2 * fullSignificand then (fullSignificand, exponent + 1)
    else (significand, exponent)
  if maxExponent < exponent then .infinite isNegative
  else .finite isNegative significand exponent

/-- The double nearest to `± num / den`. -/
def ofRatio (isNegative : Bool) (num den : Nat) : Double :=
  if num = 0 then .finite isNegative 0 minExponent
  else
    let exponent := max minExponent (fullExponent num den)
    ofRounded isNegative (roundScaled num den exponent) exponent

/-- The double nearest to `± digits * 10 ^ exponent`. -/
def ofDecimal (isNegative : Bool) (digits : Nat) (exponent : Int) : Double :=
  ofRatio isNegative (digits * 10 ^ exponent.toNat) (10 ^ (-exponent).toNat)

/-- The number `± significand * 2 ^ exponent` with its fraction cut off, toward zero. -/
def wholePart (isNegative : Bool) (significand : Nat) (exponent : Int) : Int :=
  let n : Nat := significand * 2 ^ exponent.toNat / 2 ^ (-exponent).toNat
  if isNegative then -(n : Int) else n

/-- The whole number that a double is, if it is one. -/
def toInt? : Double → Option Int
  | .finite isNegative significand exponent =>
    if significand % 2 ^ (-exponent).toNat = 0 then some (wholePart isNegative significand exponent)
    else none
  | .infinite _ | .undefined => none

end Double

end SshKeys
