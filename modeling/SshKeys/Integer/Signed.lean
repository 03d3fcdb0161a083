import SshKeys.Bytes

/-! # Signed numbers in the fewest bytes

`Signed.encode` writes a number in two's complement on the fewest bytes that can hold it, and
`Signed.decode` reads two's complement of any length. Zero is the empty byte string.
-/

namespace SshKeys

-- Powers of natural numbers are those of the core library, whatever else is imported.
attribute [local instance (2000)] instPowNat

/-- The number of binary digits of a number; zero has none. -/
def bitLength (n : Nat) : Nat := if n = 0 then 0 else n.log2 + 1

theorem lt_two_pow_bitLength (n : Nat) : n < 2 ^ bitLength n := by
  unfold bitLength
  split
  · subst_vars; decide
  · exact Nat.lt_log2_self

theorem bitLength_le_iff {n k : Nat} : bitLength n ≤ k ↔ n < 2 ^ k := by
  unfold bitLength
  split
  · next zero =>
    have positive : 0 < 2 ^ k := Nat.two_pow_pos k
    simp only [zero, Nat.zero_le, positive]
  · rw [Nat.add_one_le_iff, Nat.log2_lt ‹_›]

/-- The number of bytes that the binary digits of a number fill. -/
def byteLength (n : Nat) : Nat := (bitLength n + 7) / 8

namespace Signed

/-- The fewest bytes that hold a number and its sign. One bit more than the magnitude needs leaves
room for the sign, so a padding byte appears exactly when the top bit is already taken. -/
def width : Int → Nat
  | .ofNat 0 => 0
  | .ofNat n => (bitLength n + 8) / 8
  | .negSucc n => (bitLength n + 8) / 8

/-- Two's complement on the fewest bytes. -/
def encode (n : Int) : Bytes :=
  Bytes.ofNat (width n) (n % (256 ^ width n : Nat)).toNat

@[simp] theorem length_encode (n : Int) : (encode n).length = width n := by
  simp [encode]

/-- The number that a byte string spells in two's complement; the empty byte string is zero. -/
def decode (bytes : Bytes) : Int :=
  match bytes with
  | [] => 0
  | first :: _ =>
    if first < 128 then (Bytes.toNat bytes : Int)
    else (Bytes.toNat bytes : Int) - (256 ^ bytes.length : Nat)

end Signed

end SshKeys
