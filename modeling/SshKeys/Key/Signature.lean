import SshKeys.Dsa.Signature
import SshKeys.Key.Failure
import SshKeys.Key.Handle
import SshKeys.Payload
import SshKeys.Rsa.Signature

/-! # Signatures

`sign` makes a signature of a digest with the private half of a key, `verify` checks one against the
public half, and `Signature.toBlob` writes one for the wire. What the algorithms draw at random is
an argument. Signing turns the faults of the arithmetic into failures of its own, but for
arithmetic modulo zero.
-/

namespace SshKeys

/-- What material makes of a digest, or a caller puts in its place: bytes or a pair of integers. -/
inductive SignatureData where
  | bytes (b : Bytes)
  | pair (r s : Int)
  deriving Repr, DecidableEq

/-- A signature, with a place for what RSA makes and one for what DSS makes. Both may be empty. -/
structure Signature where
  tag : KeyTag
  rsa : Option SignatureData := none
  dss : Option SignatureData := none
  deriving Repr

/-- What signing draws at random. -/
structure Draw where
  /-- The blinding number of RSA. -/
  blind : Nat
  /-- The nonce of DSS. -/
  nonce : Nat
  deriving Repr, DecidableEq

def digestLength : Nat := Prehashed.size

/-- The size of the order that the wire form of a DSS signature is made for, in bits. -/
def wireOrderBits : Nat := 160

/-- The bytes of each half of a DSS signature on the wire. -/
def wireHalfLength : Nat := wireOrderBits / 8

/-- The two integers that data is made up of, if it is made up of two. -/
def SignatureData.numbers? : SignatureData → Option (Int × Int)
  | .bytes [r, s] => some (r.toNat, s.toNat)
  | .bytes _ => none
  | .pair r s => some (r, s)

namespace Signature

/-- A signature of a type that holds data in the place of the type's algorithm. -/
def holding (tag : KeyTag) (data : SignatureData) : Signature :=
  if tag.algorithm? = some .dss then { tag := tag, dss := some data }
  else { tag := tag, rsa := some data }

/-- What a signature holds in the place of an algorithm. -/
def place (s : Signature) : Algorithm → Option SignatureData
  | .rsa => s.rsa
  | .dss => s.dss

/-- The text of a signature in logs. Its type is looked up only here, so it may be one that cannot
be. -/
def describe (s : Signature) : Except Fault String :=
  (KeyTag.ofValue s.tag.value).map fun tag => "<SSH_Signature type=" ++ tag.label ++ ">"

/-- Drops what the signature holds. -/
def free (s : Signature) : Signature := { s with rsa := none, dss := none }

/-- A non-negative integer on a multiple of `width` bytes, or on the fewest if `width` is zero. -/
def padded (width : Nat) (n : Int) : Except Fault Bytes :=
  if n < 0 then .error .badValue
  else
    let needed := max 1 (byteLength n.toNat)
    .ok (Bytes.ofNat (if width = 0 then needed else (needed + width - 1) / width * width) n.toNat)

/-- The two halves of a DSS signature, each on a multiple of `width` bytes. -/
def halves (width : Nat) (r s : Int) : Except Fault Bytes := do
  let first ← padded width r
  let second ← padded width s
  return first ++ second

/-- What a DSS signature carries on the wire: both integers, if it holds two that fit. -/
def dssBody (data : Option SignatureData) : Except Failure Bytes :=
  match data with
  | none => .error (.fault .badType)
  | some data => match data.numbers? with
    | none => .error (.fault .badValue)
    | some (r, s) =>
      if wireOrderBits < bitLength r.natAbs ∨ wireOrderBits < bitLength s.natAbs then
        .error (.signingFailed (.tooWide wireHalfLength))
      else (halves wireHalfLength r s).mapError .fault

/-- What an RSA signature carries on the wire: its bytes. -/
def rsaBody (data : Option SignatureData) : Except Failure Bytes :=
  match data with
  | some (.bytes b) => .ok b
  | _ => .error (.fault .badType)

/-- The wire form of a signature: the type name and the signature itself. -/
def toBlob (s : Signature) : Except Failure Bytes := do
  let tag ← (KeyTag.ofValue s.tag.value).mapError .fault
  let body ← match tag.algorithm? with
    | none => .error (.unsupportedAlgorithm (.keyType tag))
    | some .dss => dssBody s.dss
    | some .rsa => rsaBody s.rsa
  return Framed.frame (tag.label.toUTF8.toList) ++ Framed.frame body

end Signature

namespace RsaMaterial

def sign [Engine] (m : RsaMaterial) (draw : Draw) (digest : Bytes) : Except Fault Bytes := do
  let key ← m.privateKey
  Rsa.sign key draw.blind digest

def verify [Engine] (m : RsaMaterial) (digest signature : Bytes) : Except Fault Bool :=
  match m.publicKey with
  | .ok key => .ok (Rsa.verify key digest signature)
  | .error .zeroModulus => .error .zeroModulus
  | .error _ => .ok false

end RsaMaterial

namespace DssMaterial

/-- Signs a digest: the signature is split into its halves. -/
def sign [Engine] (m : DssMaterial) (draw : Draw) (digest : Bytes) : Except Fault (Int × Int) := do
  let key ← m.privateKey
  let signature ← Dsa.sign key draw.nonce digest
  let half := signature.length / 2
  return (Bytes.toNat (signature.take half), Bytes.toNat (signature.drop half))

/-- Whether a pair is a signature of a digest. The pair is written out first, on as many bytes as
the order has, and a pair that cannot be written is a fault. -/
def verify [Engine] (m : DssMaterial) (digest : Bytes) (r s : Int) : Except Fault Bool :=
  match m.q with
  | none => .error .noMember
  | some q => do
    let signature ← Signature.halves (byteLength q.natAbs) r s
    match m.publicKey with
    | .ok key => .ok (Dsa.verify key digest signature)
    | .error .zeroModulus => .error .zeroModulus
    | .error _ => .ok false

end DssMaterial

namespace Material

/-- The integer that is called `q` in material of either algorithm. -/
def orderField : Material → Option Int
  | .rsa m => m.q
  | .dss m => m.q

/-- What material makes of a digest. -/
def sign [Engine] (m : Material) (draw : Draw) (digest : Bytes) : Except Fault SignatureData :=
  match m with
  | .rsa m => (m.sign draw digest).map .bytes
  | .dss m => (m.sign draw digest).map fun (r, s) => .pair r s

/-- Whether material accepts data as made of a digest. RSA material accepts bytes only, DSS material
takes two bytes for a pair, and other bytes are a fault to it. -/
def verify [Engine] (m : Material) (digest : Bytes) (data : SignatureData) : Except Fault Bool :=
  match m with
  | .rsa m => match data with
    | .bytes b => m.verify digest b
    | .pair _ _ => .ok false
  | .dss m => match data.numbers? with
    | some (r, s) => m.verify digest r s
    | none => .error .badValue

end Material

namespace Key

/-- The size that keeps a DSS handle from signing: that of an order which the wire form is not made
for. -/
def unfitOrderBits? (key : Key) : Option Nat :=
  if key.tag.algorithm? = some .dss then
    match key.material.bind Material.orderField with
    | some q =>
      if bitLength q.natAbs = wireOrderBits then none else some (bitLength q.natAbs)
    | none => none
  else none

/-- The signature that the handle's material makes, under the handle's type. Material of another
algorithm than the type's is not told apart: what it makes is put in the place of the type's. -/
def signWith [Engine] (key : Key) (draw : Draw) (digest : Bytes) : Except Fault Signature :=
  match key.material with
  | none => .error .noMember
  | some m => (m.sign draw digest).map (Signature.holding key.tag)

def sign [Engine] (key : Key) (draw : Draw) (digest : Bytes) : Except Failure Signature :=
  if !key.tag.isSupported then .error (.unsupportedAlgorithm (.keyType key.tag))
  else match key.unfitOrderBits? with
    | some bits => .error (.unsupportedAlgorithm (.subgroupSize key.tag.label bits))
    | none =>
      if !key.isPrivate then .error (.signingFailed (.noPrivateMaterial key.tag.label))
      else if digest.length ≠ digestLength then
        .error (.signingFailed (.digestLength digest.length digestLength))
      else match key.signWith draw digest with
        | .ok signature => .ok signature
        | .error .zeroModulus => .error (.fault .zeroModulus)
        | .error _ => .error (.signingFailed (.refused key.tag.label))

/-- Whether the handle's material accepts what a signature holds in the place of an algorithm. -/
def verifyWith [Engine] (key : Key) (algorithm : Algorithm) (digest : Bytes) (s : Signature) :
    Except Fault Bool :=
  match s.place algorithm with
  | none => .ok false
  | some data => match key.material with
    | none => .error .noMember
    | some m => m.verify digest data

/-- Whether a signature is one of a digest under the public half of a handle. -/
def verify [Engine] (key : Key) (digest : Bytes) (s : Signature) : Except Failure Bool :=
  match key.tag.algorithm? with
  | none => .error (.unsupportedAlgorithm (.keyType key.tag))
  | some algorithm =>
    if s.tag.type? ≠ key.tag.type? ∨ !key.isPublic then .ok false
    else (key.verifyWith algorithm digest s).mapError .fault

end Key

end SshKeys
