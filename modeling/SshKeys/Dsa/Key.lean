import SshKeys.Arithmetic.Prime
import SshKeys.Engine

/-! # DSA keys

A key lives in the subgroup of order `q` that `g` generates modulo `p`. Keys are made from arbitrary
integers and only if these are consistent. Integers of which one is negative are refused in the
engine's way. The others are looked at one after the other, `y`, `g`, `p`, `q` and `x`. Then `q` has
to divide `p - 1`, which has to exist, so an order of zero has a fault of its own, though only where
`p` is not zero.
-/

namespace SshKeys.Dsa

structure PublicKey where
  p : Nat
  q : Nat
  g : Nat
  y : Nat
  deriving Repr, DecidableEq

structure PrivateKey where
  p : Nat
  q : Nat
  g : Nat
  y : Nat
  x : Nat
  deriving Repr, DecidableEq

def PrivateKey.publicKey (key : PrivateKey) : PublicKey := ⟨key.p, key.q, key.g, key.y⟩

def isPublic (p q g y : Nat) : Bool :=
  1 < g && g < p && 0 < y && y < p && (p - 1) % q == 0 && powMod g q p == 1 &&
    isProbablePrime q && isProbablePrime p

/-- Whether a number is the private half of a public key. -/
def isPrivate (p q g y x : Nat) : Bool := 0 < x && x < q && powMod g x p == y

def checkDomain (p q : Nat) : Except Fault Unit :=
  if p = 0 then .error .badValue
  else if q = 0 then .error .zeroModulus
  else .ok ()

def publicKey [Engine] (p q g y : Option Int) : Except Fault PublicKey := do
  checkSigns Engine.dsaRefusal [y, g, p, q]
  let y ← required y
  let g ← required g
  let p ← required p
  let q ← required q
  checkDomain p q
  if isPublic p q g y then .ok ⟨p, q, g, y⟩ else .error .badValue

def privateKey [Engine] (p q g y x : Option Int) : Except Fault PrivateKey := do
  checkSigns Engine.dsaRefusal [y, g, p, q, x]
  let y ← required y
  let g ← required g
  let p ← required p
  let q ← required q
  let x ← required x
  checkDomain p q
  if isPublic p q g y && isPrivate p q g y x then .ok ⟨p, q, g, y, x⟩ else .error .badValue

end SshKeys.Dsa
