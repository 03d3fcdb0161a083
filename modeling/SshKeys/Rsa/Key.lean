import SshKeys.Arithmetic.Inverse
import SshKeys.Arithmetic.Prime
import SshKeys.Engine

/-! # RSA keys

A public key is a modulus and an exponent, a private key has the factors as well. Keys are made
from arbitrary integers and only if these are consistent: the exponents are coprime to the modulus
and invert each other, and the factors are prime and make up the modulus.

Integers of which one is negative are refused in the engine's way. The others are looked at one
after the other, `n`, `e`, `d`, `p` and `q`, and then the width of the modulus. The coefficient and
the remainders of `d` come next, so factors for which they are not defined have faults of their own.
What the numbers say about each other is checked last.
-/

namespace SshKeys.Rsa

-- Powers of natural numbers are those of the core library, whatever else is imported.
attribute [local instance (2000)] instPowNat

structure PublicKey where
  n : Nat
  e : Nat
  deriving Repr, DecidableEq

/-- A private key; `u` is the inverse of `p` modulo `q`. -/
structure PrivateKey where
  n : Nat
  e : Nat
  d : Nat
  p : Nat
  q : Nat
  u : Nat
  deriving Repr, DecidableEq

def PrivateKey.publicKey (key : PrivateKey) : PublicKey := ⟨key.n, key.e⟩

def isPublic [Engine] (n e : Nat) : Bool :=
  1 < e && e < n && Nat.gcd n e == 1 && n % 2 == 1 && Engine.admits n

def isPrivate [Engine] (n e d p q u : Nat) : Bool :=
  isPublic n e && 1 < d && d < n && Nat.gcd n d == 1 && p * q == n &&
    isProbablePrime p && isProbablePrime q && e * d % Nat.lcm (p - 1) (q - 1) == 1 &&
    1 < u && u < q && p * u % q == 1

def publicKey [Engine] (n e : Option Int) : Except Fault PublicKey := do
  let n ← required n
  let e ← required e
  if isPublic n e then .ok ⟨n, e⟩ else .error .badValue

def checkWidth [Engine] (n : Nat) : Except Fault Unit :=
  if Engine.admits n then .ok () else .error .badValue

/-- The remainder of an exponent modulo one less than a factor. -/
def reducedExponent (d factor : Nat) : Except Fault Nat :=
  match factor with
  | 0 => .error .badValue
  | 1 => .error .zeroModulus
  | order + 1 => .ok (d % order)

/-- The inverse of one factor modulo the other. -/
def coefficient (p q : Nat) : Except Fault Nat :=
  if q = 0 then .error .zeroModulus
  else match inverse? p q with
    | some u => .ok u
    | none => .error .badValue

/-- The private key of numbers, of which `u` is to be the coefficient. -/
def ofNumbers [Engine] (n e d p q u : Nat) : Except Fault PrivateKey := do
  checkWidth n
  let _ ← reducedExponent d p
  let _ ← reducedExponent d q
  if isPrivate n e d p q u then .ok ⟨n, e, d, p, q, u⟩ else .error .badValue

def ofFactors [Engine] (n e d p q : Nat) : Except Fault PrivateKey := do
  checkWidth n
  let u ← coefficient p q
  ofNumbers n e d p q u

/-- The numbers whose powers are tried when factors are sought. -/
def factoringBases : List Nat := (List.range 49).map fun i => 2 * (i + 1)

/-- A factor that a number or one of its repeated squares reveals: the first that is a square root
of one, but neither one nor `n - 1`. -/
def revealedFactor? (n : Nat) : (squarings : Nat) → (root : Nat) → Option Nat
  | 0, _ => none
  | squarings + 1, root =>
    let square := root * root % n
    if root ≠ 1 ∧ root ≠ n - 1 ∧ square = 1 then some (Nat.gcd n (root + 1))
    else revealedFactor? n squarings square

/-- The factors of a modulus, found with the help of both exponents: one less than their product is
a multiple of the order, so squaring a power to its odd part leads to one. -/
def recoverFactors (n e d : Nat) : Except Fault (Nat × Nat) :=
  let total := d * e - 1
  if total = 0 then .error .badValue
  else
    let (twos, odd) := oddPart total
    if n = 0 ∧ twos ≠ 0 then .error .zeroModulus
    else match factoringBases.findSome? fun base => revealedFactor? n twos (powMod base odd n) with
      | some p => .ok (p, n / p)
      | none => .error .badValue

/-- The integers that a private key is made of; the factors may be unknown. -/
def integers (n e d : Option Int) (factors : Option (Int × Int)) : List (Option Int) :=
  match factors with
  | some (p, q) => [n, e, d, some p, some q]
  | none => [n, e, d]

/-- The private key of integers whose factors may be unknown. -/
def privateKey [Engine] (n e d : Option Int) (factors : Option (Int × Int)) :
    Except Fault PrivateKey := do
  checkSigns Engine.rsaRefusal (integers n e d factors)
  let n ← required n
  let e ← required e
  let d ← required d
  match factors with
  | some (p, q) => do
    let p ← required (some p)
    let q ← required (some q)
    ofFactors n e d p q
  | none => do
    checkWidth n
    let (p, q) ← recoverFactors n e d
    ofFactors n e d p q

end SshKeys.Rsa
