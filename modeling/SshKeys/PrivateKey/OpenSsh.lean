import SshKeys.Cipher.Aes
import SshKeys.Cipher.Counter
import SshKeys.Digest.Stretched
import SshKeys.Key.Material
import SshKeys.Payload

/-! # OpenSSH bodies

The body of an OpenSSH private key is a payload of its own kind. An envelope names the cipher, whose
key and first counter are drawn from the stretched passphrase. Inside are a check number, written
twice, the name of the algorithm, the integers of the key, a comment, and bytes that count up from
one until whole blocks are filled. Since the check number is random, a wrong passphrase shows in it.
-/

namespace SshKeys.OpenSsh

/-- What every body begins with. -/
def magic : Bytes := "openssh-key-v1".toUTF8.toList ++ [0]

/-- The name of the cipher of a body that is not encrypted. -/
def clearName : Bytes := "none".toUTF8.toList

def cipherName : Bytes := "aes256-ctr".toUTF8.toList

def derivationName : Bytes := "bcrypt".toUTF8.toList

def rsaName : Bytes := "ssh-rsa".toUTF8.toList

/-- The number of bytes of which the inside of an envelope is a multiple. -/
def blockLength : Nat := 8

/-- What the outside of a body says about its inside. -/
structure Envelope where
  cipher : Bytes
  /-- The name of the function that derives the key of the cipher. -/
  derivation : Bytes
  options : Bytes
  inside : Bytes
  deriving Repr, DecidableEq

/-- The contents of so many items of a payload from an offset on, and the offset behind them. -/
def items? (count : Nat) (payload : Bytes) (offset : Nat) : Option (List Bytes × Nat) :=
  (Payload.unpack (List.replicate count .string) payload offset).toOption

/-- Reads the envelope of a body that holds exactly one key. The public key beside it is not looked
at. -/
def envelope? (body : Bytes) : Option Envelope :=
  if magic.isPrefixOf body then
    match items? 3 body magic.length with
    | some ([cipher, derivation, options], stop) =>
      if (body.drop stop).take 4 = Bytes.ofNat 4 1 then
        match items? 2 body (stop + 4) with
        | some ([_, inside], stop) =>
          if stop = body.length ∧ inside.length % blockLength = 0 then
            some ⟨cipher, derivation, options, inside⟩
          else none
        | _ => none
      else none
    | _ => none
  else none

def isFilling (bytes : Bytes) : Bool :=
  bytes.zipIdx.all fun (b, i) => b == UInt8.ofNat (i + 1)

/-- The RSA private key inside an envelope. Its factors stand the other way round, so the
coefficient that travels with them is that of the key. -/
def rsaKey [Engine] (inside : Bytes) : Except Fault Rsa.PrivateKey :=
  if 8 ≤ inside.length ∧ inside.take 4 = (inside.drop 4).take 4 then
    match items? 8 inside 8 with
    | some ([name, n, e, d, u, q, p, _], stop) =>
      if name = rsaName ∧ isFilling (inside.drop stop) then
        Rsa.ofNumbers n.toNat e.toNat d.toNat p.toNat q.toNat u.toNat
      else .error .badValue
    | _ => .error .badValue
  else .error .badValue

/-- The salt and the number of rounds with which a passphrase is stretched. -/
def stretching? (options : Bytes) : Option (Bytes × Nat) :=
  match items? 1 options 0 with
  | some ([salt], stop) =>
    let rounds := options.drop stop
    if rounds.length = 4 then some (salt, Bytes.toNat rounds) else none
  | _ => none

/-- The inside of an envelope, decrypted with a passphrase if it is encrypted. -/
def Envelope.openInside? (envelope : Envelope) (passphrase : Bytes) : Option Bytes :=
  if envelope.cipher = clearName then some envelope.inside
  else if envelope.cipher = cipherName ∧ envelope.derivation = derivationName then
    (stretching? envelope.options).map fun (salt, rounds) =>
      let drawn := Stretched.bytes passphrase salt rounds
      Counter.apply (Aes.encryptBlock (drawn.take 32)) (drawn.drop 32) envelope.inside
  else none

/-- The material in a body. No passphrase counts as an empty one. -/
def material [Engine] (body : Bytes) (passphrase : Option Bytes) :
    Except Fault Material :=
  match (envelope? body).bind fun envelope => envelope.openInside? (passphrase.getD []) with
  | some inside => (rsaKey inside).map fun key => .rsa (.ofPrivateKey key)
  | none => .error .badValue

end SshKeys.OpenSsh
