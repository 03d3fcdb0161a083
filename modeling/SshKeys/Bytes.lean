/-! # Byte strings

Byte strings are lists of bytes. A number is written with its most significant byte first:
`Bytes.ofNat width n` has exactly `width` bytes and `Bytes.toNat` reads any byte string as an
unsigned number, so that each undoes the other on numbers below `256 ^ width`.
-/

namespace SshKeys

-- Powers of natural numbers are those of the core library, whatever else is imported.
attribute [local instance (2000)] instPowNat

abbrev Bytes := List UInt8

namespace Bytes

/-- The unsigned number that a byte string spells, most significant byte first. -/
def toNat (bytes : Bytes) : Nat :=
  bytes.foldl (fun n b => n * 256 + b.toNat) 0

/-- The `width` low base-256 digits of a number, most significant first. -/
def ofNat : (width : Nat) → (n : Nat) → Bytes
  | 0, _ => []
  | width + 1, n => ofNat width (n / 256) ++ [UInt8.ofNat n]

@[simp] theorem toNat_nil : toNat [] = 0 := rfl

@[simp] theorem toNat_concat (bytes : Bytes) (b : UInt8) :
    toNat (bytes ++ [b]) = toNat bytes * 256 + b.toNat := by
  simp [toNat]

@[simp] theorem length_ofNat (width n : Nat) : (ofNat width n).length = width := by
  induction width generalizing n with
  | zero => rfl
  | succ width ih => simp [ofNat, ih]

theorem toNat_ofNat (width n : Nat) : toNat (ofNat width n) = n % 256 ^ width := by
  induction width generalizing n with
  | zero => simp [ofNat, Nat.mod_one]
  | succ width ih =>
    have hb : (UInt8.ofNat n).toNat = n % 256 := UInt8.toNat_ofNat'
    rw [ofNat, toNat_concat, ih, hb, Nat.pow_succ, Nat.mul_comm (256 ^ width) 256, Nat.mod_mul]
    omega

theorem toNat_ofNat_of_lt {width n : Nat} (h : n < 256 ^ width) : toNat (ofNat width n) = n := by
  rw [toNat_ofNat, Nat.mod_eq_of_lt h]

theorem ofNat_toNat (bytes : Bytes) : ofNat bytes.length (toNat bytes) = bytes := by
  generalize hw : bytes.length = width
  induction width generalizing bytes with
  | zero => rw [List.length_eq_zero_iff.mp hw, ofNat]
  | succ width ih =>
    have hne : bytes ≠ [] := by rintro rfl; simp at hw
    have hsplit := List.dropLast_concat_getLast hne
    have hlen : bytes.dropLast.length = width := by simp [hw]
    have hb := (bytes.getLast hne).toNat_lt
    have hdiv : (toNat bytes.dropLast * 256 + (bytes.getLast hne).toNat) / 256 =
        toNat bytes.dropLast := by omega
    have hmod : UInt8.ofNat (toNat bytes.dropLast * 256 + (bytes.getLast hne).toNat) =
        bytes.getLast hne := by
      apply UInt8.toNat_inj.mp
      rw [UInt8.toNat_ofNat']
      omega
    calc ofNat (width + 1) (toNat bytes)
        = ofNat (width + 1) (toNat (bytes.dropLast ++ [bytes.getLast hne])) := by rw [hsplit]
      _ = bytes.dropLast ++ [bytes.getLast hne] := by
          rw [ofNat, toNat_concat, hdiv, ih _ hlen, hmod]
      _ = bytes := hsplit

theorem toNat_lt (bytes : Bytes) : toNat bytes < 256 ^ bytes.length := by
  rw [← ofNat_toNat bytes, toNat_ofNat, length_ofNat]
  exact Nat.mod_lt _ (Nat.pow_pos (by decide))

def zeros (count : Nat) : Bytes := List.replicate count 0

def isZero (bytes : Bytes) : Bool := bytes.all (· == 0)

def burn (bytes : Bytes) : Bytes := bytes.map fun _ => 0

@[simp] theorem isZero_burn (bytes : Bytes) : isZero (burn bytes) = true := by
  simp [isZero, burn]

/-- How many of `length` items a limit covers; a negative limit counts from the end. -/
def clamp (length : Nat) (limit : Int) : Nat :=
  if limit < 0 then ((length : Int) + limit).toNat else min length limit.toNat

/-- The beginning of a byte string up to a limit. -/
def upTo (bytes : Bytes) (limit : Int) : Bytes := bytes.take (clamp bytes.length limit)

/-- The byte string with its beginning up to a limit replaced. -/
def replaceUpTo (bytes : Bytes) (limit : Int) (written : Bytes) : Bytes :=
  written ++ bytes.drop (clamp bytes.length limit)

/-- Zero the bytes at the positions `start, …, stop - 1` only. -/
def burnRange (bytes : Bytes) (start stop : Nat) : Bytes :=
  bytes.mapIdx fun i b => if start ≤ i ∧ i < stop then 0 else b

/-- The byte string with its beginning replaced by `written`; it grows if `written` is longer. -/
def overwrite (bytes written : Bytes) : Bytes := written ++ bytes.drop written.length

def isAscii (bytes : Bytes) : Bool := bytes.all (· < 128)

/-- The characters whose code points are the bytes. -/
def toChars (bytes : Bytes) : List Char := bytes.map fun b => Char.ofNat b.toNat

theorem toNat_ofNat_byte (b : UInt8) : (Char.ofNat b.toNat).toNat = b.toNat := by
  have h := b.toNat_lt
  have valid : b.toNat.isValidChar := Or.inl (by omega)
  rw [Char.ofNat, dif_pos valid]
  rfl

theorem toChars_inj {bytes other : Bytes} : toChars bytes = toChars other ↔ bytes = other := by
  apply List.map_inj_right
  intro b c same
  have codes := congrArg Char.toNat same
  rw [toNat_ofNat_byte, toNat_ofNat_byte] at codes
  exact UInt8.toNat_inj.mp codes

/-- The bytes of a text all of whose characters are below `limit`, which is at most 256. -/
def ofChars? (limit : Nat) (text : List Char) : Option Bytes :=
  text.mapM fun c => if c.toNat < limit then some (UInt8.ofNat c.toNat) else none

def ofAscii? (text : List Char) : Option Bytes := ofChars? 128 text

def ofLatin1? (text : List Char) : Option Bytes := ofChars? 256 text

def ofUtf8 (text : String) : Bytes := text.toUTF8.toList

/-- The lower case hexadecimal digit of a number below 16. -/
def hexDigit (n : Nat) : Char := Char.ofNat (if n < 10 then 48 + n else 87 + n)

def hexPair (b : UInt8) : List Char := [hexDigit (b.toNat / 16), hexDigit (b.toNat % 16)]

def toHex (bytes : Bytes) : String := String.ofList (bytes.flatMap hexPair)

def hexValue? (c : Char) : Option Nat :=
  if '0' ≤ c ∧ c ≤ '9' then some (c.toNat - 48)
  else if 'a' ≤ c ∧ c ≤ 'f' then some (c.toNat - 87)
  else if 'A' ≤ c ∧ c ≤ 'F' then some (c.toNat - 55)
  else none

/-- Reads hexadecimal text of either case; an odd number of digits or any other character fails. -/
def ofHex? : List Char → Option Bytes
  | [] => some []
  | [_] => none
  | high :: low :: rest => do
    let h ← hexValue? high
    let l ← hexValue? low
    let bytes ← ofHex? rest
    return UInt8.ofNat (h * 16 + l) :: bytes

end Bytes

end SshKeys
