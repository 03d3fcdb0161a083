import SshKeys.Bytes

/-! # Chained blocks

In cipher block chaining each decrypted block is added to the encrypted block before it, and the
first one to the initial vector. The last block is filled up with bytes that each tell how many
there are.
-/

namespace SshKeys.Chaining

/-- Decrypts `count` blocks of the given size. -/
def decryptBlocks (size : Nat) (decryptBlock : Bytes → Bytes) :
    (count : Nat) → (previous data : Bytes) → Bytes
  | 0, _, _ => []
  | count + 1, previous, data =>
    let block := data.take size
    (decryptBlock block).zipWith (fun x y => x ^^^ y) previous ++
      decryptBlocks size decryptBlock count block (data.drop size)

/-- Removes the filling bytes: between one and a whole block of them, all equal to their number. -/
def unfill? (size : Nat) (data : Bytes) : Option Bytes :=
  match data.getLast? with
  | none => none
  | some last =>
    let count := last.toNat
    let kept := data.length - count
    if 1 ≤ count ∧ count ≤ size ∧ count ≤ data.length ∧ (data.drop kept).all (· == last) then
      some (data.take kept)
    else none

/-- Decrypts data of a positive number of whole blocks and removes its filling. -/
def decrypt? (size : Nat) (decryptBlock : Bytes → Bytes) (initial data : Bytes) : Option Bytes :=
  if data ≠ [] ∧ data.length % size = 0 then
    unfill? size (decryptBlocks size decryptBlock (data.length / size) initial data)
  else none

end SshKeys.Chaining
