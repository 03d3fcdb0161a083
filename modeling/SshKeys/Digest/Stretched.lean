import SshKeys.Cipher.Blowfish
import SshKeys.Digest.Sha512

/-! # Stretched passphrases

A passphrase is stretched into the bytes of a key by hashing it as slowly as one likes, so that it
is costly to try out passphrases.
-/

namespace SshKeys.Stretched

/-- The text that is encrypted with the schedule of a passphrase. -/
def text : Bytes := "OxychromaticBlowfishSwatDynamite".toUTF8.toList

/-- How often the passphrase and the salt are mixed into the schedule. -/
def mixings : Nat := 64

def encryptions : Nat := 64

/-- The four bytes of a word, least significant first. -/
def wordBytes (w : UInt32) : Bytes := (Bytes.ofNat 4 w.toNat).reverse

/-- Encrypts each block of two words and writes it down. -/
def encryptText (s : Blowfish.Schedule) : List UInt32 → Bytes
  | left :: right :: rest =>
    let block := Nat.repeat (Blowfish.encrypt s) encryptions (Blowfish.join left right)
    wordBytes (block >>> 32).toUInt32 ++ wordBytes block.toUInt32 ++ encryptText s rest
  | _ => []

def hash (secret salt : Bytes) : Bytes :=
  let words := fun bytes => (Blowfish.words bytes).toArray
  encryptText (Blowfish.costlySchedule mixings (words secret) (words salt)) (Blowfish.words text)

/-- A hash to which are added `count` more, each of them salted with the one before it. -/
def hashes (secret : Bytes) : (count : Nat) → (last : Bytes) → Bytes
  | 0, last => last
  | count + 1, last =>
    last.zipWith (fun x y => x ^^^ y) (hashes secret count (hash secret (Sha512.digest last)))

/-- Two byte strings, byte by byte in turn. -/
def interleave (xs ys : Bytes) : Bytes := (xs.zip ys).flatMap fun (x, y) => [x, y]

/-- The 48 bytes that a passphrase stands for. No rounds are taken for one. -/
def bytes (passphrase salt : Bytes) (rounds : Nat) : Bytes :=
  let secret := Sha512.digest passphrase
  let part := fun number =>
    let first := hash secret (Sha512.digest (salt ++ Bytes.ofNat 4 number))
    (hashes secret (rounds - 1) first).take 24
  interleave (part 1) (part 2)

end SshKeys.Stretched
