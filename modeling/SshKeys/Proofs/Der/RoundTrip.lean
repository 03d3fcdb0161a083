import SshKeys.Der
import SshKeys.Proofs.Integer.Signed
import SshKeys.Proofs.Outcome

/-! # Reading back DER

Elements are read as they were written, one after the other, as long as their lengths have a form at
all: the byte that counts the bytes of a length counts 127 of them at most. Integers come back with
their sign.
-/

namespace SshKeys

-- Powers of natural numbers are those of the core library, whatever else is imported.
attribute [local instance (2000)] instPowNat

theorem Bytes.head?_ofNat_byteLength (n : Nat) : (ofNat (byteLength n) n).head? ≠ some 0 := by
  intro zero
  obtain ⟨rest, written⟩ := List.head?_eq_some_iff.mp zero
  have width := length_ofNat (byteLength n) n
  have number := toNat_ofNat_of_lt (lt_pow_byteLength n)
  rw [written, List.length_cons] at width
  rw [written, toNat_cons, UInt8.toNat_zero, Nat.zero_mul, Nat.zero_add] at number
  -- Without its first byte the number has the same value on fewer bytes.
  have fewer : byteLength n ≤ rest.length := byteLength_le_iff.mpr (number ▸ toNat_lt rest)
  omega

namespace Der

open Outcome

variable {n : Nat} {e : Element} {es : List Element}

theorem readLength_encodeLength (fits : n < 256 ^ (127 : Nat)) (rest : Bytes) :
    readLength (encodeLength n ++ rest) = .ok (n, rest) := by
  unfold encodeLength
  split
  · next small =>
      have code : (UInt8.ofNat n).toNat = n :=
        UInt8.toNat_ofNat_of_lt (Nat.lt_trans small (by decide))
      have short : UInt8.ofNat n < 128 := UInt8.lt_iff_toNat_lt.mpr (code.symm ▸ small)
      simp [readLength, short, code]
  · next large =>
      have most : byteLength n ≤ 127 := byteLength_le_iff.mpr fits
      have least : byteLength n ≠ 0 := by
        intro none
        have := byteLength_le_iff.mp (Nat.le_of_eq none)
        omega
      have code : (UInt8.ofNat (128 + byteLength n)).toNat = 128 + byteLength n :=
        UInt8.toNat_ofNat_of_lt (Nat.lt_succ_of_le (Nat.add_le_add_left most 128))
      have long : ¬ UInt8.ofNat (128 + byteLength n) < 128 := by
        rw [UInt8.lt_iff_toNat_lt, code]
        exact Nat.not_lt.mpr (Nat.le_add_right 128 _)
      have head : (Bytes.ofNat (byteLength n) n ++ rest).head? ≠ some 0 := by
        have first := Bytes.head?_ofNat_byteLength n
        have width := Bytes.length_ofNat (byteLength n) n
        cases written : Bytes.ofNat (byteLength n) n with
        | nil => exact absurd (by simpa [written] using width.symm) least
        | cons b bytes => simpa [written] using first
      have number := Bytes.toNat_ofNat_of_lt (lt_pow_byteLength n)
      simp only [readLength, List.cons_append, long, if_false, code, Nat.add_sub_cancel_left,
        least, List.take_left' (Bytes.length_ofNat _ _), List.drop_left' (Bytes.length_ofNat _ _),
        number]
      rw [if_pos]
      refine ⟨by simp, head, by omega⟩

theorem length_encodeLength_mono {m n : Nat} (h : m ≤ n) :
    (encodeLength m).length ≤ (encodeLength n).length := by
  have bytes := byteLength_mono h
  unfold encodeLength
  by_cases small : n < 128
  · rw [if_pos small, if_pos (Nat.lt_of_le_of_lt h small)]
    exact Nat.le_refl _
  · rw [if_neg small]
    split
    · simp
    · simp only [List.length_cons, Bytes.length_ofNat]
      omega

theorem encode_inj {e' : Element} : encode e = encode e' ↔ e = e' := by
  obtain ⟨tag, content⟩ := e
  obtain ⟨tag', content'⟩ := e'
  constructor
  · intro same
    simp only [encode, List.cons_append, List.cons.injEq] at same
    obtain ⟨rfl, behind⟩ := same
    have total := congrArg List.length behind
    rw [List.length_append, List.length_append] at total
    have length : content.length = content'.length := by
      rcases Nat.le_total content.length content'.length with h | h
      · have := length_encodeLength_mono h
        omega
      · have := length_encodeLength_mono h
        omega
    rw [length, List.append_cancel_left_eq] at behind
    rw [behind]
  · intro same
    rw [same]

theorem readElement_encode (fits : e.content.length < 256 ^ (127 : Nat)) (rest : Bytes) :
    readElement (encode e ++ rest) = .ok (e, rest) := by
  have length := readLength_encodeLength fits (e.content ++ rest)
  simp only [encode, List.cons_append, List.append_assoc, readElement, length]
  simp [bind, Except.bind]

theorem length_le_of_mem (member : e ∈ es) : e.content.length ≤ (es.flatMap encode).length := by
  have inside : List.Sublist (encode e) (es.flatMap encode) := by
    rw [List.flatMap_def]
    exact List.sublist_flatten_of_mem (List.mem_map_of_mem member)
  have whole := inside.length_le
  simp only [encode, List.length_append] at whole
  omega

theorem readElements_of_readElement {fuel : Nat} {bytes rest : Bytes}
    (read : readElement bytes = .ok (e, rest)) :
    readElements (fuel + 1) bytes = (readElements fuel rest).map (e :: ·) := by
  cases bytes with
  | nil => cases read
  | cons b bytes =>
      rw [readElements, read]
      · rfl
      · simp

/-- All elements are read, given as much fuel as there are bytes. -/
theorem readElements_flatMap {fuel : Nat} (fits : ∀ e ∈ es, e.content.length < 256 ^ (127 : Nat))
    (enough : (es.flatMap encode).length ≤ fuel) :
    readElements fuel (es.flatMap encode) = .ok es := by
  induction es generalizing fuel with
  | nil => cases fuel <;> rfl
  | cons e es ih =>
      obtain ⟨first, others⟩ := List.forall_mem_cons.mp fits
      have read := readElement_encode first (es.flatMap encode)
      rw [List.flatMap_cons] at enough ⊢
      simp only [encode, List.length_append, List.length_cons] at enough
      cases fuel with
      | zero => omega
      | succ fuel =>
          rw [readElements_of_readElement read, ih others (by omega)]
          rfl

theorem sequenceOf_sequence (fits : (es.flatMap encode).length < 256 ^ (127 : Nat)) :
    sequenceOf (encode (sequence es)) = .ok es := by
  have whole : readTagged sequenceTag (encode (sequence es)) = .ok (sequence es, []) := by
    rw [readTagged, if_pos (by simp [encode, sequence]), ← List.append_nil (encode _)]
    exact readElement_encode fits []
  have inside : readElements (es.flatMap encode).length (es.flatMap encode) = .ok es :=
    readElements_flatMap (fun e member => Nat.lt_of_le_of_lt (length_le_of_mem member) fits)
      (Nat.le_refl _)
  rw [sequenceOf, whole]
  show (readElements (es.flatMap encode).length (es.flatMap encode) >>= _) = _
  rw [inside]
  rfl

theorem integer?_integer (n : Int) : (integer n).integer? = some n := by
  by_cases zero : n = 0
  · rw [zero]
    rfl
  · simp [Element.integer?, integer, zero]

theorem natural?_integer (n : Int) :
    (integer n).natural? = if 0 ≤ n then some n.toNat else none := by
  rw [Element.natural?, integer?_integer]
  cases n with
  | ofNat n => simp
  | negSucc n => simp

theorem naturals?_integers (numbers : List Int) : naturals? (numbers.map integer) =
    if ∀ n ∈ numbers, 0 ≤ n then some (numbers.map Int.toNat) else none := by
  induction numbers with
  | nil => rfl
  | cons n numbers ih =>
      simp only [naturals?, List.map_cons, List.mapM_cons] at ih ⊢
      rw [ih, natural?_integer]
      simp only [List.forall_mem_cons]
      by_cases first : 0 ≤ n
      · by_cases others : ∀ n ∈ numbers, 0 ≤ n
        · rw [if_pos first, if_pos others, if_pos ⟨first, others⟩]
          rfl
        · have refused : ¬ (0 ≤ n ∧ ∀ n ∈ numbers, 0 ≤ n) := fun all => others all.2
          rw [if_pos first, if_neg others, if_neg refused]
          rfl
      · have refused : ¬ (0 ≤ n ∧ ∀ n ∈ numbers, 0 ≤ n) := fun all => first all.1
        rw [if_neg first, if_neg refused]
        rfl

end Der

end SshKeys
