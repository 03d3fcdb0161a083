import SshKeys.Proofs.Integer.Framed

/-! # Reading back signed numbers

The top bit of two's complement is the sign, and the width of a number is the least that leaves it
that bit. Bytes spell a number by its residue modulo what they can hold, and only one number of half
that size has the residue. So what is read is the number that was written, whichever sign it has.
-/

namespace SshKeys

-- Powers of natural numbers are those of the core library, whatever else is imported.
attribute [local instance (2000)] instPowNat

theorem Bytes.toNat_cons (b : UInt8) (rest : Bytes) :
    toNat (b :: rest) = b.toNat * 256 ^ rest.length + toNat rest := by
  -- Numbers grow at their end, so this is an induction on the other end of the rest.
  generalize width : rest.length = k
  induction k generalizing rest with
  | zero =>
      rw [List.length_eq_zero_iff.mp width]
      simp [toNat]
  | succ k ih =>
      have nonempty : rest ≠ [] := by
        rintro rfl
        cases width
      obtain ⟨front, last, rfl⟩ : ∃ front last, rest = front ++ [last] :=
        ⟨_, _, (List.dropLast_concat_getLast nonempty).symm⟩
      have shorter : front.length = k := by simpa using width
      rw [← List.cons_append, toNat_concat, toNat_concat, ih front shorter, Nat.pow_succ,
        Nat.add_mul, Nat.mul_assoc, Nat.add_assoc]

namespace Signed

theorem head_lt_iff {first : UInt8} {rest : Bytes} : first < 128 ↔
    2 * Bytes.toNat (first :: rest) < 256 ^ (first :: rest).length := by
  have whole := Bytes.toNat_cons first rest
  have small := Bytes.toNat_lt rest
  have power : 256 ^ (first :: rest).length = 256 * 256 ^ rest.length := by
    rw [List.length_cons, Nat.pow_succ, Nat.mul_comm]
  rw [UInt8.lt_iff_toNat_lt, whole, power]
  show first.toNat < 128 ↔ _
  constructor
  · intro low
    have := Nat.mul_le_mul_right (256 ^ rest.length) (Nat.le_of_lt_succ low)
    omega
  · intro low
    apply Nat.lt_of_not_le
    intro high
    have := Nat.mul_le_mul_right (256 ^ rest.length) high
    omega

/-- The number is the unsigned one or, from the half on, what it lacks to the whole. -/
theorem decode_eq {bytes : Bytes} (nonempty : bytes ≠ []) : decode bytes =
    if 2 * Bytes.toNat bytes < 256 ^ bytes.length then (Bytes.toNat bytes : Int)
    else (Bytes.toNat bytes : Int) - (256 ^ bytes.length : Nat) := by
  cases bytes with
  | nil => exact absurd rfl nonempty
  | cons first rest =>
      have sign := @head_lt_iff first rest
      simp only [decode, sign]

theorem range_decode (bytes : Bytes) : -(256 ^ bytes.length : Nat) ≤ 2 * decode bytes ∧
    2 * decode bytes < (256 ^ bytes.length : Nat) := by
  cases bytes with
  | nil => decide
  | cons first rest =>
      have small := Bytes.toNat_lt (first :: rest)
      rw [decode_eq (List.cons_ne_nil first rest)]
      split
      · omega
      · omega

theorem decode_emod (bytes : Bytes) :
    decode bytes % (256 ^ bytes.length : Nat) = Bytes.toNat bytes := by
  cases bytes with
  | nil => decide
  | cons first rest =>
      have small := Bytes.toNat_lt (first :: rest)
      have reduced : (Bytes.toNat (first :: rest) : Int) % (256 ^ (first :: rest).length : Nat) =
          Bytes.toNat (first :: rest) := Int.emod_eq_of_lt (by omega) (by omega)
      rw [decode_eq (List.cons_ne_nil first rest)]
      split
      · exact reduced
      · rw [Int.sub_emod_right, reduced]

theorem bitLength_lt_iff {k w : Nat} : bitLength k < 8 * w ↔ 2 * k + 1 < 256 ^ w := by
  cases w with
  | zero => simp
  | succ w =>
      have power : 256 ^ (w + 1) = 2 * 2 ^ (8 * w + 7) := by
        rw [← Nat.pow_add_one', (by omega : 8 * w + 7 + 1 = 8 * (w + 1)), Nat.pow_mul]
      have digits : bitLength k ≤ 8 * w + 7 ↔ k < 2 ^ (8 * w + 7) := bitLength_le_iff
      omega

theorem width_le_iff {n : Int} {w : Nat} :
    width n ≤ w ↔ -(256 ^ w : Nat) ≤ 2 * n ∧ 2 * n < (256 ^ w : Nat) := by
  match n with
  | .ofNat 0 =>
      have positive : 0 < 256 ^ w := Nat.pow_pos (by decide)
      show 0 ≤ w ↔ _
      have number : Int.ofNat 0 = 0 := rfl
      omega
  | .ofNat (k + 1) =>
      have free := bitLength_lt_iff (k := k + 1) (w := w)
      -- Twice a number is never one less than the whole, which is even or one.
      have even : 256 ^ w = 1 ∨ 256 ^ w % 2 = 0 := by
        cases w with
        | zero => exact .inl rfl
        | succ w =>
            rw [Nat.pow_succ]
            omega
      show (bitLength (k + 1) + 8) / 8 ≤ w ↔ _
      have number : Int.ofNat (k + 1) = k + 1 := rfl
      omega
  | .negSucc k =>
      have free := bitLength_lt_iff (k := k) (w := w)
      show (bitLength k + 8) / 8 ≤ w ↔ _
      omega

theorem range_width (n : Int) :
    -(256 ^ width n : Nat) ≤ 2 * n ∧ 2 * n < (256 ^ width n : Nat) :=
  width_le_iff.mp (Nat.le_refl _)

theorem natCast_toNat_encode (n : Int) :
    (Bytes.toNat (encode n) : Int) = n % (256 ^ width n : Nat) := by
  have positive : 0 < 256 ^ width n := Nat.pow_pos (by decide)
  have nonneg := Int.emod_nonneg n (by omega : ((256 ^ width n : Nat) : Int) ≠ 0)
  have small := Int.emod_lt_of_pos n (by omega : 0 < ((256 ^ width n : Nat) : Int))
  rw [encode, Bytes.toNat_ofNat_of_lt (by omega), Int.toNat_of_nonneg nonneg]

@[simp] theorem decode_encode (n : Int) : decode (encode n) = n := by
  obtain ⟨low, high⟩ := range_width n
  obtain ⟨low', high'⟩ := range_decode (encode n)
  have residue := decode_emod (encode n)
  rw [natCast_toNat_encode, length_encode] at residue
  rw [length_encode] at low' high'
  -- Of the numbers that the bytes can hold only one has this residue.
  have whole := Int.emod_eq_emod_iff_emod_sub_eq_zero.mp residue
  have same := Int.eq_zero_of_dvd_of_natAbs_lt_natAbs (Int.dvd_of_emod_eq_zero whole) (by omega)
  omega

end Signed

end SshKeys
