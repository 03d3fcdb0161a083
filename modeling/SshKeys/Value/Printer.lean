import SshKeys.Double.Shortest
import SshKeys.Text.Quoted
import SshKeys.Value

/-! # The text of a value

`Value.shown` is the text of a value on its own: a text is shown as it is. `Value.quoted` is its
text inside a message, where texts and byte strings stand between quotes. `Value.hasText` tells
whether a value is written at all.
-/

namespace SshKeys

-- Powers of natural numbers are those of the core library, whatever else is imported.
attribute [local instance (2000)] instPowNat

namespace Decimal

def digitChars (n : Nat) : List Char := Nat.toDigits 10 n

/-- The text of an exponent, with its sign and at least two digits. -/
def exponentText (e : Int) : List Char :=
  let digits := digitChars e.natAbs
  'e' :: (if e < 0 then '-' else '+') :: (if digits.length < 2 then '0' :: digits else digits)

/-- Digits with a point after the first `point` of them, which may lie outside. -/
def positional (digits : List Char) (point : Int) : List Char :=
  if point ≤ 0 then '0' :: '.' :: List.replicate point.natAbs '0' ++ digits
  else if (digits.length : Int) ≤ point then
    digits ++ List.replicate (point.toNat - digits.length) '0' ++ ['.', '0']
  else digits.take point.toNat ++ '.' :: digits.drop point.toNat

/-- One digit, the others behind a point if there are any, and the exponent of the first. -/
def scientific (digits : List Char) (point : Int) : List Char :=
  let mantissa := match digits with
    | [] => []
    | [d] => [d]
    | d :: rest => d :: '.' :: rest
  mantissa ++ exponentText (point - 1)

/-- The text of a decimal: positional from `10 ^ (-4)` up to below `10 ^ 16`, with at least one
digit behind the point, and with an exponent beyond. Zeros at the end of the digits are left out. -/
def toChars (d : Decimal) : List Char :=
  let written := digitChars d.digits
  let digits := (written.reverse.dropWhile (· == '0')).reverse
  let point : Int := (written.length : Int) + d.exponent
  if -4 < point ∧ point ≤ 16 then positional digits point
  else scientific digits point

end Decimal

namespace Double

/-- A minus sign in front of what is negative. -/
def signed (isNegative : Bool) (text : List Char) : List Char :=
  if isNegative then '-' :: text else text

/-- The text of a double: its shortest decimal, and a sign for a negative zero too. -/
def toChars : Double → List Char
  | .finite isNegative significand exponent =>
    signed isNegative
      (if significand = 0 then ['0', '.', '0'] else (shortest significand exponent).toChars)
  | .infinite isNegative => signed isNegative ['i', 'n', 'f']
  | .undefined => ['n', 'a', 'n']

end Double

def intChars (n : Int) : List Char :=
  if n < 0 then '-' :: Nat.toDigits 10 n.natAbs else Nat.toDigits 10 n.natAbs

/-- The most digits that a whole number is written with. -/
def maxIntDigits : Nat := 4300

/-- Whether a whole number is short enough to be written. -/
def isWritable (n : Int) : Bool := n.natAbs < 10 ^ maxIntDigits

namespace Value

mutual

/-- Whether a value can be written: no whole number in it is too long. -/
def hasText : Value → Bool
  | .int n => isWritable n
  | .list items => haveText items
  | _ => true

/-- Whether all of several values can be written. -/
def haveText : List Value → Bool
  | [] => true
  | v :: rest => hasText v && haveText rest

end

mutual

/-- The text of a value inside a message. -/
def quoted : Value → List Char
  | .absent => "None".toList
  | .bool true => "True".toList
  | .bool false => "False".toList
  | .int n => intChars n
  | .float x => x.toChars
  | .text s => Text.quote s.toList
  | .bytes b => Text.quoteBytes b
  | .buffer b => "bytearray(".toList ++ Text.quoteBytes b ++ [')']
  | .list items => '[' :: quotedItems items ++ [']']

/-- The texts of values with a comma and a space between them. -/
def quotedItems : List Value → List Char
  | [] => []
  | [v] => quoted v
  | v :: rest => quoted v ++ ',' :: ' ' :: quotedItems rest

end

/-- The text of a value on its own. -/
def shown : Value → List Char
  | .text s => s.toList
  | v => quoted v

end Value

end SshKeys
