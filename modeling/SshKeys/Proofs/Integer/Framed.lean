import SshKeys.Integer.Framed

/-! # Reading back framed integers

A non-negative integer is written on at most one byte more than its magnitude has, and both the
signed form and its frame read back as the integer. A frame is told by its first four bytes alone.
-/

namespace SshKeys

-- Powers of natural numbers are those of the core library, whatever else is imported.
attribute [local instance (2000)] instPowNat

theorem bitLength_le_bytes_iff {n k : Nat} : bitLength n ≤ 8 * k ↔ n < 256 ^ k := by
  rw [bitLength_le_iff, Nat.pow_mul]

theorem lt_pow_byteLength (n : Nat) : n < 256 ^ byteLength n := by
  apply bitLength_le_bytes_iff.mp
  unfold byteLength
  omega

theorem byteLength_le_iff {n k : Nat} : byteLength n ≤ k ↔ n < 256 ^ k := by
  rw [← bitLength_le_bytes_iff]
  unfold byteLength
  omega

theorem bitLength_mono {a b : Nat} (h : a ≤ b) : bitLength a ≤ bitLength b :=
  bitLength_le_iff.mpr (Nat.lt_of_le_of_lt h (lt_two_pow_bitLength b))

theorem byteLength_mono {a b : Nat} (h : a ≤ b) : byteLength a ≤ byteLength b := by
  have bits := bitLength_mono h
  unfold byteLength
  omega

namespace Signed

theorem bitLength_le_width (n : Nat) : bitLength n ≤ 8 * width n := by
  cases n with
  | zero => decide
  | succ n =>
      show bitLength (n + 1) ≤ 8 * ((bitLength (n + 1) + 8) / 8)
      omega

theorem lt_pow_width (n : Nat) : n < 256 ^ width n :=
  bitLength_le_bytes_iff.mp (bitLength_le_width n)

theorem width_le {n k : Nat} (h : n < 256 ^ k) : width n ≤ k + 1 := by
  have small : bitLength n ≤ 8 * k := bitLength_le_bytes_iff.mpr h
  cases n with
  | zero => exact Nat.zero_le _
  | succ n =>
      show (bitLength (n + 1) + 8) / 8 ≤ k + 1
      omega

theorem encode_natCast (n : Nat) : encode n = Bytes.ofNat (width n) n := by
  have reduced : ((n : Int) % (256 ^ width n : Nat)).toNat = n := by
    rw [← Int.natCast_emod, Int.toNat_natCast, Nat.mod_eq_of_lt (lt_pow_width n)]
  rw [encode, reduced]

@[simp] theorem toNat_encode (n : Nat) : Bytes.toNat (encode n) = n := by
  rw [encode_natCast, Bytes.toNat_ofNat_of_lt (lt_pow_width n)]

end Signed

namespace Framed

@[simp] theorem length_frame (body : Bytes) : (frame body).length = 4 + body.length := by
  simp [frame]

theorem take_frame (body after : Bytes) :
    (frame body ++ after).take 4 = Bytes.ofNat 4 body.length := by
  rw [frame, List.append_assoc, List.take_left' (Bytes.length_ofNat ..)]

theorem drop_frame (body after : Bytes) : (frame body ++ after).drop 4 = body ++ after := by
  rw [frame, List.append_assoc, List.drop_left' (Bytes.length_ofNat ..)]

theorem toNat_take_frame {body : Bytes} (h : body.length < 2 ^ (32 : Nat)) (after : Bytes) :
    Bytes.toNat ((frame body ++ after).take 4) = body.length := by
  rw [take_frame, Bytes.toNat_ofNat_of_lt h]

theorem decodeBytes_frame {body : Bytes} (h : body.length < 2 ^ (32 : Nat)) :
    decodeBytes (frame body) = .ok (Bytes.toNat body) := by
  have nonempty : frame body ≠ [] := by
    intro empty
    simpa using congrArg List.length empty
  have counted := toNat_take_frame h []
  have rest := drop_frame body []
  simp only [List.append_nil] at counted rest
  simp [decodeBytes, nonempty, counted, rest]

theorem eq_frame {bytes : Bytes} (whole : 4 ≤ bytes.length)
    (counted : Bytes.toNat (bytes.take 4) = (bytes.drop 4).length) :
    bytes = frame (bytes.drop 4) ∧ (bytes.drop 4).length < 2 ^ (32 : Nat) := by
  have four : (bytes.take 4).length = 4 := List.length_take_of_le whole
  have digits := Bytes.ofNat_toNat (bytes.take 4)
  have small := Bytes.toNat_lt (bytes.take 4)
  rw [four, counted] at digits small
  exact ⟨by rw [frame, digits, List.take_append_drop], small⟩

theorem encode_natCast (n : Nat) : encode n = .ok (frame (Signed.encode n)) := by
  rw [encode, if_neg (Int.not_lt.mpr (Int.natCast_nonneg n))]

end Framed

end SshKeys
