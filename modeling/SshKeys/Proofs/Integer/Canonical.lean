import SshKeys.Proofs.Integer.Minimal

/-! # Which frames are read, and which are written

Every byte string that counts the bytes behind its first four is read, whatever these bytes are, and
nothing else is. What is written for the integer that was read is the same frame if its body is the
one of fewest bytes, and otherwise the frame of that body.
-/

namespace SshKeys

-- Powers of natural numbers are those of the core library, whatever else is imported.
attribute [local instance (2000)] instPowNat

theorem Bytes.toNat_zeros_append (count : Nat) (bytes : Bytes) :
    toNat (zeros count ++ bytes) = toNat bytes := by
  induction count with
  | zero => rfl
  | succ count ih =>
      show toNat (0 :: (zeros count ++ bytes)) = toNat bytes
      rw [toNat_cons, ih]
      simp

namespace Framed

/-- A byte string whose first four bytes give the number of the bytes behind them. -/
structure IsFrame (data : Bytes) : Prop where
  whole : 4 ≤ data.length
  counted : Bytes.toNat (data.take 4) = (data.drop 4).length

/-- A body without a byte too many: no byte at all, a first byte that counts and leaves the sign
    clear, or a zero byte in front of one that would not. -/
inductive IsCanonical : Bytes → Prop
  | empty : IsCanonical []
  | clear {first : UInt8} {rest : Bytes} (low : 0x01 ≤ first) (high : first ≤ 0x7f) :
    IsCanonical (first :: rest)
  | padded {second : UInt8} {rest : Bytes} (taken : 0x80 ≤ second) :
    IsCanonical (0 :: second :: rest)

variable {data body rest : Bytes} {first : UInt8} {v : Value} {n : Nat}

theorem decodeBytes_eq_ok_iff :
    decodeBytes data = .ok n ↔ IsFrame data ∧ n = Bytes.toNat (data.drop 4) := by
  constructor
  · intro read
    unfold decodeBytes at read
    split at read
    · cases read
    · split at read
      · cases read
      · next whole =>
          simp only at read
          split at read
          · next counted =>
              cases read
              exact ⟨⟨Nat.le_of_not_lt whole, counted.symm⟩, rfl⟩
          · cases read
  · intro given
    obtain ⟨⟨whole, counted⟩, rfl⟩ := given
    obtain ⟨same, short⟩ := eq_frame whole counted
    rw [same, decodeBytes_frame short]
    simp [frame, List.drop_left']

theorem decode_eq_ok_iff : decode v = .ok n ↔
    ∃ data, v.bytes? = some data ∧ IsFrame data ∧ n = Bytes.toNat (data.drop 4) := by
  unfold decode
  cases v.bytes? with
  | none => simp
  | some data => simp [decodeBytes_eq_ok_iff]

theorem encode_toNat_iff_of_clear (clear : first < 0x80) :
    Signed.encode (Bytes.toNat (first :: rest)) = first :: rest ↔
      256 ^ rest.length ≤ 2 * Bytes.toNat (first :: rest) := by
  have spelled : Signed.decode (first :: rest) = Bytes.toNat (first :: rest) := by
    simp only [Signed.decode, clear, if_true]
  have enough := Signed.width_decode_le (first :: rest)
  rw [spelled, List.length_cons] at enough
  -- The first byte is one too many exactly where the width is that of the rest.
  have fewer := Signed.width_le_iff (n := Bytes.toNat (first :: rest)) (w := rest.length)
  rw [eq_comm, Signed.eq_encode_iff, List.length_cons]
  simp only [spelled, true_and]
  omega

theorem encode_toNat_of_low (low : 0x01 ≤ first) (clear : first < 0x80) :
    Signed.encode (Bytes.toNat (first :: rest)) = first :: rest := by
  have whole := Bytes.toNat_cons first rest
  have counts := Nat.mul_le_mul_right (256 ^ rest.length) (UInt8.le_iff_toNat_le.mp low)
  rw [UInt8.toNat_one, Nat.one_mul] at counts
  rw [encode_toNat_iff_of_clear clear]
  omega

/-- A zero byte is needed in front of a byte that would be taken for the sign, and only there. -/
theorem encode_toNat_zero_iff : Signed.encode (Bytes.toNat (0 :: rest)) = 0 :: rest ↔
    ∃ second tail, rest = second :: tail ∧ 0x80 ≤ second := by
  have unsigned : Bytes.toNat (0 :: rest) = Bytes.toNat rest := by simp [Bytes.toNat_cons 0]
  rw [encode_toNat_iff_of_clear (by decide), unsigned]
  cases rest with
  | nil => simp
  | cons second tail =>
      rw [← Nat.not_lt, ← Signed.head_lt_iff, UInt8.not_lt]
      simp

theorem encode_toNat_ne_of_taken (taken : 0x80 ≤ first) :
    Signed.encode (Bytes.toNat (first :: rest)) ≠ first :: rest := by
  intro same
  have negative := Signed.decode_neg_iff.mpr ⟨first, rest, rfl, taken⟩
  rw [← same, Signed.decode_encode] at negative
  omega

theorem encode_toNat_iff : Signed.encode (Bytes.toNat body) = body ↔ IsCanonical body := by
  constructor
  · intro written
    match body with
    | [] => exact .empty
    | first :: rest =>
        have clear : first < 0x80 :=
          UInt8.not_le.mp fun taken => encode_toNat_ne_of_taken taken written
        by_cases zero : first = 0
        · subst zero
          obtain ⟨second, tail, rfl, taken⟩ := encode_toNat_zero_iff.mp written
          exact .padded taken
        · exact .clear (by grind) (by grind)
  · intro canonical
    cases canonical with
    | empty => rfl
    | clear low high => exact encode_toNat_of_low low (by grind)
    | padded taken => exact encode_toNat_zero_iff.mpr ⟨_, _, rfl, taken⟩

theorem decode_frame_encode (short : (Signed.encode n).length < 2 ^ (32 : Nat)) :
    decode (.bytes (frame (Signed.encode n))) = .ok n := by
  have read := decodeBytes_frame short
  rwa [Signed.toNat_encode] at read

theorem encode_body_iff (framed : IsFrame data) :
    encode (Bytes.toNat (data.drop 4)) = .ok data ↔ IsCanonical (data.drop 4) := by
  obtain ⟨same, _⟩ := eq_frame framed.whole framed.counted
  rw [encode_natCast, Except.ok.injEq, ← encode_toNat_iff]
  constructor
  · intro written
    have body := drop_frame (Signed.encode (Bytes.toNat (data.drop 4))) []
    rw [List.append_nil, List.append_nil, written] at body
    exact body.symm
  · intro written
    rw [written, ← same]

theorem isWritable_iff (n : Int) : isWritable n = true ↔ n.natAbs < 10 ^ maxIntDigits := by
  simp only [isWritable, decide_eq_true_eq]

theorem encode_of_neg_of_le {n : Int} (negative : n < 0) (long : 10 ^ maxIntDigits ≤ n.natAbs) :
    encode n = .error (.fault .badValue) := by
  rw [encode, if_pos negative, if_neg (by rw [isWritable_iff]; omega)]

theorem encode_eq_malformed_iff {n : Int} (negative : n < 0) :
    encode n = .error (.malformed (.negative n)) ↔ n.natAbs < 10 ^ maxIntDigits := by
  rw [encode, if_pos negative, ← isWritable_iff]
  split <;> simp_all

/-- Writing a number to a frame and reading a value as one. What is written for a number is read as
    the number. A negative number is not written: it is reported as malformed exactly if its digits
    fit in a message, and otherwise there is a fault over the message. A value is read exactly if it
    is a byte string of either sort whose first four bytes count the bytes behind them, and then as
    the unsigned number of these; every other value is refused. Zero bytes in front of a body make
    no difference. What is written for a number that was read is what it was read from exactly if
    the body there has no byte too many. -/
theorem decode_outcome (n : Int) (v : Value) :
    (∀ m : Nat, n = m → (Signed.encode n).length < 2 ^ (32 : Nat) →
      ∃ data, encode n = .ok data ∧ decode (.bytes data) = .ok m) ∧
    (n < 0 →
      (encode n = .error (.malformed (.negative n)) ↔ n.natAbs < 10 ^ maxIntDigits) ∧
      (10 ^ maxIntDigits ≤ n.natAbs → encode n = .error (.fault .badValue))) ∧
    (∀ m, decode v = .ok m ↔
      ∃ data, v.bytes? = some data ∧ IsFrame data ∧ m = Bytes.toNat (data.drop 4)) ∧
    ((¬ ∃ data, v.bytes? = some data ∧ IsFrame data) → ∃ fault, decode v = .error fault) ∧
    (∀ data filled count, IsFrame data → IsFrame filled →
      filled.drop 4 = Bytes.zeros count ++ data.drop 4 →
      decode (.bytes filled) = decode (.bytes data)) ∧
    (∀ data m, v.bytes? = some data → decode v = .ok m →
      (encode m = .ok data ↔ IsCanonical (data.drop 4))) := by
  refine ⟨?_, fun negative => ⟨encode_eq_malformed_iff negative, encode_of_neg_of_le negative⟩,
    fun m => decode_eq_ok_iff, ?_, ?_, ?_⟩
  · rintro m rfl short
    exact ⟨frame (Signed.encode m), encode_natCast m, decode_frame_encode short⟩
  · intro other
    cases read : decode v with
    | error fault => exact ⟨fault, rfl⟩
    | ok m =>
        obtain ⟨data, given, framed, _⟩ := decode_eq_ok_iff.mp read
        exact absurd ⟨data, given, framed⟩ other
  · intro data filled count framed framed' behind
    have read : decode (.bytes data) = .ok (Bytes.toNat (data.drop 4)) :=
      decode_eq_ok_iff.mpr ⟨data, rfl, framed, rfl⟩
    rw [read]
    refine decode_eq_ok_iff.mpr ⟨filled, rfl, framed', ?_⟩
    rw [behind, Bytes.toNat_zeros_append]
  · intro data m given read
    obtain ⟨_, given', framed, rfl⟩ := decode_eq_ok_iff.mp read
    cases given.symm.trans given'
    exact encode_body_iff framed

/-- The first negative number with too many digits to be reported as malformed. -/
theorem encode_unreported : -((10 ^ maxIntDigits : Nat) : Int) < 0 ∧
    encode (-((10 ^ maxIntDigits : Nat) : Int)) = .error (.fault .badValue) := by
  have counts : 0 < 10 ^ maxIntDigits := Nat.pow_pos (by decide)
  have negative : -((10 ^ maxIntDigits : Nat) : Int) < 0 := by omega
  have digits : (-((10 ^ maxIntDigits : Nat) : Int)).natAbs = 10 ^ maxIntDigits := by
    rw [Int.natAbs_neg, Int.natAbs_natCast]
  exact ⟨negative, encode_of_neg_of_le negative (Nat.le_of_eq digits.symm)⟩

end Framed

end SshKeys
