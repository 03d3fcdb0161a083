import SshKeys.Cipher.Aes
import SshKeys.Cipher.Chaining
import SshKeys.Cipher.Des
import SshKeys.Digest.Md5
import SshKeys.Text.Blank

/-! # Encrypted bodies

A header names the cipher of an encrypted body and its initial vector. The key is drawn from the
passphrase by hashing it, together with the beginning of the vector, until there are enough bytes.
-/

namespace SshKeys.Pem

/-- The ciphers of encrypted bodies, all of them chained. -/
inductive Cipher where
  | des
  | tripleDes
  /-- AES with a key of this many bytes. -/
  | aes (keyLength : Nat)
  deriving Repr, DecidableEq

namespace Cipher

def ofName? (name : List Char) : Option Cipher :=
  if name = "DES-CBC".toList then some .des
  else if name = "DES-EDE3-CBC".toList then some .tripleDes
  else if name = "AES-128-CBC".toList then some (.aes 16)
  else if name = "AES-192-CBC".toList then some (.aes 24)
  else if name = "AES-256-CBC".toList then some (.aes 32)
  else none

def keyLength : Cipher → Nat
  | .des => 8
  | .tripleDes => 24
  | .aes length => length

def blockLength : Cipher → Nat
  | .des | .tripleDes => 8
  | .aes _ => 16

def decryptBlock (cipher : Cipher) (key : Bytes) : Bytes → Bytes :=
  match cipher with
  | .des => Des.decryptBlock key
  | .tripleDes => Des.decryptBlockTriple key
  | .aes _ => Aes.decryptBlock key

def refuses (cipher : Cipher) (key : Bytes) : Bool :=
  match cipher with
  | .tripleDes => Des.isDegenerate key
  | _ => false

end Cipher

/-- Hashes, one after the other, each over the one before it, the passphrase and the salt. -/
def hashChain (passphrase salt : Bytes) : (count : Nat) → (previous : Bytes) → Bytes
  | 0, _ => []
  | count + 1, previous =>
    let hash := Md5.digest (previous ++ passphrase ++ salt)
    hash ++ hashChain passphrase salt count hash

def deriveKey (passphrase salt : Bytes) (length : Nat) : Bytes :=
  (hashChain passphrase salt ((length + 15) / 16) []).take length

structure Encryption where
  cipher : Cipher
  initial : Bytes
  deriving Repr, DecidableEq

namespace Encryption

/-- Reads the header that describes an encryption. -/
def ofHeader? (header : List Char) : Option Encryption :=
  match Text.splitOn ':' header with
  | [name, value] =>
    if name = "DEK-Info".toList then
      match Text.splitOn ',' value with
      | [cipherName, vector] => do
        let cipher ← Cipher.ofName? cipherName
        let initial ← Bytes.ofHex? vector
        if initial.length = cipher.blockLength then some ⟨cipher, initial⟩ else none
      | _ => none
    else none
  | _ => none

def decrypt? (encryption : Encryption) (passphrase data : Bytes) : Option Bytes :=
  let cipher := encryption.cipher
  let key := deriveKey passphrase (encryption.initial.take 8) cipher.keyLength
  if cipher.refuses key then none
  else Chaining.decrypt? cipher.blockLength (cipher.decryptBlock key) encryption.initial data

end Encryption

end SshKeys.Pem
