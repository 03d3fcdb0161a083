import SshKeys.Pem.Armour
import SshKeys.Pem.Base64
import SshKeys.Pem.Encryption

/-! # The body of armoured text

`decode?` takes armour, transfer encoding and encryption off a text, in this order.
-/

namespace SshKeys.Pem

/-- The header of an encrypted body, as it stands in the second piece of a text. -/
def encryptedHeader : List Char := "Proc-Type:4,ENCRYPTED".toList

/-- Whether the pieces of an armoured text announce an encrypted body. -/
def announcesEncryption (lines : List (List Char)) : Bool :=
  match lines with
  | _ :: header :: _ => encryptedHeader.isPrefixOf header
  | _ => false

/-- Whether a text is armour around an encrypted body. -/
def isSealed (text : List Char) : Bool := (lines? text).any announcesEncryption

/-- The bytes that the pieces from `first` on spell, the last piece left out. -/
def bodyBytes? (first : Nat) (lines : List (List Char)) : Option Bytes :=
  Base64.decode? ((lines.drop first).dropLast).flatten

/-- The body of an armoured text. An encrypted one needs a passphrase that is not empty. -/
def decode? (text : List Char) (passphrase : Option Bytes) : Option Bytes := do
  let lines ← lines? text
  if announcesEncryption lines then
    let secret := passphrase.getD []
    if secret = [] then none
    else
      let header ← lines[2]?
      let encryption ← Encryption.ofHeader? header
      let data ← bodyBytes? 3 lines
      encryption.decrypt? secret data
  else bodyBytes? 1 lines

end SshKeys.Pem
