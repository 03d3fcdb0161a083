import SshKeys.Bytes

/-! # Counter mode

In counter mode a block cipher encrypts the numbers from an initial one on, and what comes out is
added to the data, so that encryption and decryption are the same.
-/

namespace SshKeys.Counter

/-- The encryption of so many numbers, written on `size` bytes each. -/
def stream (size : Nat) (encryptBlock : Bytes → Bytes) : (count : Nat) → (number : Nat) → Bytes
  | 0, _ => []
  | count + 1, number =>
    encryptBlock (Bytes.ofNat size number) ++ stream size encryptBlock count (number + 1)

/-- Encrypts or decrypts data, counting from an initial block. -/
def apply (encryptBlock : Bytes → Bytes) (initial data : Bytes) : Bytes :=
  let size := initial.length
  let count := (data.length + size - 1) / size
  data.zipWith (fun x y => x ^^^ y) (stream size encryptBlock count initial.toNat)

end SshKeys.Counter
