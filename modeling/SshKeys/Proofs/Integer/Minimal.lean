import SshKeys.Proofs.Integer.Signed

/-! # The fewest bytes for a number

A byte string of a given length is told by the number that it spells, and the numbers that byte
strings of a length spell are those whose width is no more. So what is written for a number is the
shortest byte string that spells it and the only one of its length.
-/

namespace SshKeys.Signed

-- Powers of natural numbers are those of the core library, whatever else is imported.
attribute [local instance (2000)] instPowNat

variable {bytes other : Bytes} {n : Int}

theorem width_decode_le (bytes : Bytes) : width (decode bytes) ≤ bytes.length :=
  width_le_iff.mpr (range_decode bytes)

theorem eq_of_decode_eq (length : bytes.length = other.length)
    (same : decode bytes = decode other) :
    bytes = other := by
  have unsigned : Bytes.toNat bytes = Bytes.toNat other := by
    have residue := decode_emod bytes
    rw [length, same, decode_emod] at residue
    exact (Int.ofNat.inj residue).symm
  calc
    bytes = Bytes.ofNat bytes.length (Bytes.toNat bytes) := (Bytes.ofNat_toNat bytes).symm
    _ = Bytes.ofNat other.length (Bytes.toNat other) := by rw [length, unsigned]
    _ = other := Bytes.ofNat_toNat other

theorem eq_encode_iff : bytes = encode n ↔ decode bytes = n ∧ bytes.length = width n := by
  constructor
  · rintro rfl
    exact ⟨decode_encode n, length_encode n⟩
  · intro given
    obtain ⟨spelled, length⟩ := given
    exact eq_of_decode_eq (by rw [length, length_encode]) (by rw [spelled, decode_encode])

theorem decode_neg_iff : decode bytes < 0 ↔ ∃ first rest, bytes = first :: rest ∧ 128 ≤ first := by
  cases bytes with
  | nil => simp [decode]
  | cons first rest =>
      have small := Bytes.toNat_lt (first :: rest)
      have spelled : (∃ b bs, first :: rest = b :: bs ∧ 128 ≤ b) ↔ ¬ first < 128 := by
        simp [UInt8.not_lt]
      rw [spelled]
      simp only [decode]
      split
      · next clear =>
          simp only [clear, not_true_eq_false, iff_false]
          omega
      · next taken =>
          simp only [taken, not_false_eq_true, iff_true]
          omega

/-- A number is written in two's complement on the fewest bytes: what is written spells the number,
    every other byte string that spells it is longer, and the top bit of the first byte tells the
    sign. So different numbers are written differently, and what is written for a number that is not
    negative spells it without regard to the sign as well. -/
theorem encode_minimal (n : Int) :
    decode (encode n) = n ∧
    (∀ bytes, decode bytes = n → bytes ≠ encode n → (encode n).length < bytes.length) ∧
    ((∃ first rest, encode n = first :: rest ∧ 128 ≤ first) ↔ n < 0) ∧
    (∀ m, encode m = encode n → m = n) ∧
    (0 ≤ n → decode (encode n) = (Bytes.toNat (encode n) : Int)) := by
  refine ⟨decode_encode n, ?_, ?_, ?_, ?_⟩
  · rintro bytes rfl other
    rw [length_encode]
    apply Nat.lt_of_le_of_ne (width_decode_le bytes)
    intro length
    exact other (eq_encode_iff.mpr ⟨rfl, length.symm⟩)
  · rw [← decode_neg_iff, decode_encode]
  · intro m same
    rw [← decode_encode m, same, decode_encode]
  · intro nonneg
    obtain ⟨k, rfl⟩ := Int.eq_ofNat_of_zero_le nonneg
    rw [decode_encode, toNat_encode]

end SshKeys.Signed
