import SshKeys.Arithmetic.Inverse
import SshKeys.Bytes
import SshKeys.Dsa.Key

/-! # DSA signatures

A signature is a pair of numbers below the order, written one after the other on as many bytes as
the order has. Only keys of four sizes sign and verify. Of a digest, the leading bytes count, as
many as the order has.
-/

namespace SshKeys.Dsa

/-- The sizes of `p` and `q`, in bits, for which signatures are made and verified. -/
def admittedSizes : List (Nat × Nat) := [(1024, 160), (2048, 224), (2048, 256), (3072, 256)]

/-- Whether keys of this size sign and verify. -/
def isAdmitted (p q : Nat) : Bool := admittedSizes.contains (bitLength p, bitLength q)

/-- The number that a digest counts as. -/
def digestNumber (q : Nat) (digest : Bytes) : Nat := Bytes.toNat (digest.take (byteLength q))

/-- The pair that a nonce gives for a digest number, unless the nonce cannot be used. -/
def pair? (key : PrivateKey) (nonce z : Nat) : Option (Nat × Nat) :=
  if 1 < nonce ∧ nonce < key.q then
    (inverse? nonce key.q).map fun k =>
      let r := powMod key.g nonce key.p % key.q
      (r, k * (z + key.x * r) % key.q)
  else none

/-- Signs a digest. The nonce is drawn at random between one and the order. -/
def sign (key : PrivateKey) (nonce : Nat) (digest : Bytes) : Except Fault Bytes :=
  if isAdmitted key.p key.q then
    match pair? key nonce (digestNumber key.q digest) with
    | some (r, s) => .ok (Bytes.ofNat (byteLength key.q) r ++ Bytes.ofNat (byteLength key.q) s)
    | none => .error .badValue
  else .error .badValue

def isSolution (key : PublicKey) (z r s : Nat) : Bool :=
  0 < r && r < key.q && 0 < s && s < key.q &&
    match inverse? s key.q with
    | none => false
    | some w =>
      powMod key.g (w * z % key.q) key.p * powMod key.y (w * r % key.q) key.p % key.p % key.q == r

def verify (key : PublicKey) (digest signature : Bytes) : Bool :=
  let width := byteLength key.q
  isAdmitted key.p key.q && signature.length == 2 * width &&
    isSolution key (digestNumber key.q digest) (Bytes.toNat (signature.take width))
      (Bytes.toNat (signature.drop width))

end SshKeys.Dsa
