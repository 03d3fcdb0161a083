import SshKeys.Digest.Prehashed
import SshKeys.Rsa.Key

/-! # RSA signatures

A digest is encoded on as many bytes as the modulus has: a block type, filling bytes, and the
digest under the name of its hash. A signature is the private power of that number. The power is
taken modulo each factor separately, on a number blinded by a random one, and checked at the end.
-/

namespace SshKeys.Rsa

/-- A digest together with the name of its hash, whose parameters are empty or left out. -/
def digestInfo (withParameters : Bool) (digest : Bytes) : Bytes :=
  let hash : Der.Element := ⟨Der.objectIdTag, Prehashed.encodedObjectId⟩
  let parameters : List Der.Element := if withParameters then [⟨Der.nullTag, []⟩] else []
  Der.encode (Der.sequence
    [Der.sequence (hash :: parameters), ⟨Der.octetStringTag, digest⟩])

/-- The encoding of a digest on `width` bytes, with at least eight filling bytes. -/
def encodeDigest? (width : Nat) (withParameters : Bool) (digest : Bytes) : Option Bytes :=
  let info := digestInfo withParameters digest
  if info.length + 11 ≤ width then
    some ([0x00, 0x01] ++ List.replicate (width - info.length - 3) 0xff ++ [0x00] ++ info)
  else none

/-- The private power of a number, if the blinding number can be used and the check succeeds. -/
def PrivateKey.apply? (key : PrivateKey) (blind c : Nat) : Option Nat :=
  if key.n ≤ c then none
  else
    let blinded := c * powMod blind key.e key.n % key.n
    let m₁ := powMod blinded (key.d % (key.p - 1)) key.p
    let m₂ := powMod blinded (key.d % (key.q - 1)) key.q
    let h := (((m₂ : Int) - m₁) * key.u % key.q).toNat
    let m := h * key.p + m₁
    match inverse? blind key.n with
    | none => none
    | some unblind =>
      let result := unblind * m % key.n
      if powMod result key.e key.n = c then some result else none

/-- Signs a digest. The blinding number is drawn at random between one and the modulus. -/
def sign (key : PrivateKey) (blind : Nat) (digest : Bytes) : Except Fault Bytes :=
  let width := byteLength key.n
  match encodeDigest? width true digest with
  | none => .error .badType
  | some encoded => match key.apply? blind encoded.toNat with
    | none => .error .badValue
    | some m => .ok (Bytes.ofNat width m)

/-- Whether a signature is one of a digest: its public power is an encoding of the digest. A digest
that has no encoding with parameters has no signature. -/
def verify (key : PublicKey) (digest signature : Bytes) : Bool :=
  let width := byteLength key.n
  if signature.length = width ∧ signature.toNat < key.n then
    let encoded := Bytes.ofNat width (powMod signature.toNat key.e key.n)
    match encodeDigest? width true digest with
    | none => false
    | some expected =>
      encoded == expected || some encoded == encodeDigest? width false digest
  else false

end SshKeys.Rsa
