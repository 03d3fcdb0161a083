import SshKeys.Bytes

/-! # DES

The block cipher of 64-bit blocks and 56-bit keys, and its triple use with three keys. Blocks and
keys are rows of bits; every table lists, for each bit of the result, the place of a bit of the
argument, counted from one. The lowest bit of each key byte is not used.
-/

namespace SshKeys.Des

/-- A row of bits, most significant first. -/
abbrev Bits := Array Bool

def bitsOfBytes (bytes : Bytes) : Bits :=
  (bytes.flatMap fun b => (List.range 8).map fun i => b.toNat.testBit (7 - i)).toArray

def natOfBits (bits : List Bool) : Nat := bits.foldl (fun n b => 2 * n + b.toNat) 0

def bytesOfBits (bits : Bits) : Bytes := Bytes.ofNat (bits.size / 8) (natOfBits bits.toList)

/-- The four bits of a number below sixteen. -/
def nibble (n : Nat) : List Bool := [n.testBit 3, n.testBit 2, n.testBit 1, n.testBit 0]

def pick (table : Array Nat) (bits : Bits) : Bits := table.map fun i => bits.getD (i - 1) false

/-- Adds two rows of bits without carry. -/
def add (a b : Bits) : Bits := a.zipWith (fun x y => x ^^ y) b

/-- The order of the bits before the first round. -/
def initialOrder : Array Nat :=
  #[58, 50, 42, 34, 26, 18, 10, 2, 60, 52, 44, 36, 28, 20, 12, 4,
   62, 54, 46, 38, 30, 22, 14, 6, 64, 56, 48, 40, 32, 24, 16, 8,
   57, 49, 41, 33, 25, 17, 9, 1, 59, 51, 43, 35, 27, 19, 11, 3,
   61, 53, 45, 37, 29, 21, 13, 5, 63, 55, 47, 39, 31, 23, 15, 7]

/-- The order of the bits after the last round, which undoes the initial one. -/
def finalOrder : Array Nat :=
  #[40, 8, 48, 16, 56, 24, 64, 32, 39, 7, 47, 15, 55, 23, 63, 31,
   38, 6, 46, 14, 54, 22, 62, 30, 37, 5, 45, 13, 53, 21, 61, 29,
   36, 4, 44, 12, 52, 20, 60, 28, 35, 3, 43, 11, 51, 19, 59, 27,
   34, 2, 42, 10, 50, 18, 58, 26, 33, 1, 41, 9, 49, 17, 57, 25]

/-- The places of a half block that meet the round key. -/
def expansion : Array Nat :=
  #[32, 1, 2, 3, 4, 5, 4, 5, 6, 7, 8, 9, 8, 9, 10, 11,
   12, 13, 12, 13, 14, 15, 16, 17, 16, 17, 18, 19, 20, 21, 20, 21,
   22, 23, 24, 25, 24, 25, 26, 27, 28, 29, 28, 29, 30, 31, 32, 1]

/-- The order of the bits behind the substitutions. -/
def roundOrder : Array Nat :=
  #[16, 7, 20, 21, 29, 12, 28, 17, 1, 15, 23, 26, 5, 18, 31, 10,
   2, 8, 24, 14, 32, 27, 3, 9, 19, 13, 30, 6, 22, 11, 4, 25]

def keyBits : Array Nat :=
  #[57, 49, 41, 33, 25, 17, 9, 1, 58, 50, 42, 34, 26, 18, 10, 2,
   59, 51, 43, 35, 27, 19, 11, 3, 60, 52, 44, 36, 63, 55, 47, 39,
   31, 23, 15, 7, 62, 54, 46, 38, 30, 22, 14, 6, 61, 53, 45, 37,
   29, 21, 13, 5, 28, 20, 12, 4]

def roundKeyBits : Array Nat :=
  #[14, 17, 11, 24, 1, 5, 3, 28, 15, 6, 21, 10, 23, 19, 12, 4,
   26, 8, 16, 7, 27, 20, 13, 2, 41, 52, 31, 37, 47, 55, 30, 40,
   51, 45, 33, 48, 44, 49, 39, 56, 34, 53, 46, 42, 50, 36, 29, 32]

/-- How far both halves of the key are rotated before each round. -/
def rotations : List Nat := [1, 1, 2, 2, 2, 2, 2, 2, 1, 2, 2, 2, 2, 2, 2, 1]

/-- The substitutions of six bits by four, row by row. -/
def substitutions : Array (Array Nat) :=
  #[#[14, 4, 13, 1, 2, 15, 11, 8, 3, 10, 6, 12, 5, 9, 0, 7,
     0, 15, 7, 4, 14, 2, 13, 1, 10, 6, 12, 11, 9, 5, 3, 8,
     4, 1, 14, 8, 13, 6, 2, 11, 15, 12, 9, 7, 3, 10, 5, 0,
     15, 12, 8, 2, 4, 9, 1, 7, 5, 11, 3, 14, 10, 0, 6, 13],
   #[15, 1, 8, 14, 6, 11, 3, 4, 9, 7, 2, 13, 12, 0, 5, 10,
     3, 13, 4, 7, 15, 2, 8, 14, 12, 0, 1, 10, 6, 9, 11, 5,
     0, 14, 7, 11, 10, 4, 13, 1, 5, 8, 12, 6, 9, 3, 2, 15,
     13, 8, 10, 1, 3, 15, 4, 2, 11, 6, 7, 12, 0, 5, 14, 9],
   #[10, 0, 9, 14, 6, 3, 15, 5, 1, 13, 12, 7, 11, 4, 2, 8,
     13, 7, 0, 9, 3, 4, 6, 10, 2, 8, 5, 14, 12, 11, 15, 1,
     13, 6, 4, 9, 8, 15, 3, 0, 11, 1, 2, 12, 5, 10, 14, 7,
     1, 10, 13, 0, 6, 9, 8, 7, 4, 15, 14, 3, 11, 5, 2, 12],
   #[7, 13, 14, 3, 0, 6, 9, 10, 1, 2, 8, 5, 11, 12, 4, 15,
     13, 8, 11, 5, 6, 15, 0, 3, 4, 7, 2, 12, 1, 10, 14, 9,
     10, 6, 9, 0, 12, 11, 7, 13, 15, 1, 3, 14, 5, 2, 8, 4,
     3, 15, 0, 6, 10, 1, 13, 8, 9, 4, 5, 11, 12, 7, 2, 14],
   #[2, 12, 4, 1, 7, 10, 11, 6, 8, 5, 3, 15, 13, 0, 14, 9,
     14, 11, 2, 12, 4, 7, 13, 1, 5, 0, 15, 10, 3, 9, 8, 6,
     4, 2, 1, 11, 10, 13, 7, 8, 15, 9, 12, 5, 6, 3, 0, 14,
     11, 8, 12, 7, 1, 14, 2, 13, 6, 15, 0, 9, 10, 4, 5, 3],
   #[12, 1, 10, 15, 9, 2, 6, 8, 0, 13, 3, 4, 14, 7, 5, 11,
     10, 15, 4, 2, 7, 12, 9, 5, 6, 1, 13, 14, 0, 11, 3, 8,
     9, 14, 15, 5, 2, 8, 12, 3, 7, 0, 4, 10, 1, 13, 11, 6,
     4, 3, 2, 12, 9, 5, 15, 10, 11, 14, 1, 7, 6, 0, 8, 13],
   #[4, 11, 2, 14, 15, 0, 8, 13, 3, 12, 9, 7, 5, 10, 6, 1,
     13, 0, 11, 7, 4, 9, 1, 10, 14, 3, 5, 12, 2, 15, 8, 6,
     1, 4, 11, 13, 12, 3, 7, 14, 10, 15, 6, 8, 0, 5, 9, 2,
     6, 11, 13, 8, 1, 4, 10, 7, 9, 5, 0, 15, 14, 2, 3, 12],
   #[13, 2, 8, 4, 6, 15, 11, 1, 10, 9, 3, 14, 5, 0, 12, 7,
     1, 15, 13, 8, 10, 3, 7, 4, 12, 5, 6, 11, 0, 14, 9, 2,
     7, 11, 4, 1, 9, 12, 14, 2, 0, 6, 10, 13, 15, 3, 5, 8,
     2, 1, 14, 7, 4, 10, 8, 13, 15, 12, 9, 0, 3, 5, 6, 11]]

def rotateLeft (bits : List Bool) (count : Nat) : List Bool := bits.drop count ++ bits.take count

/-- The round keys from the halves of a key, in order. -/
def roundKeysFrom : List Nat → (left right : List Bool) → List Bits
  | [], _, _ => []
  | count :: counts, left, right =>
    let left := rotateLeft left count
    let right := rotateLeft right count
    pick roundKeyBits (left ++ right).toArray :: roundKeysFrom counts left right

def roundKeys (key : Bytes) : List Bits :=
  let bits := (pick keyBits (bitsOfBytes key)).toList
  roundKeysFrom rotations (bits.take 28) (bits.drop 28)

/-- Substitutes every six bits by four. -/
def substitute (bits : Bits) : List Bool :=
  (List.range 8).flatMap fun box =>
    let bit := fun i => bits.getD (6 * box + i) false
    let row := natOfBits [bit 0, bit 5]
    let column := natOfBits [bit 1, bit 2, bit 3, bit 4]
    nibble ((substitutions.getD box #[]).getD (16 * row + column) 0)

/-- One round: the halves change places, one of them mixed with the other under the round key. -/
def round (halves : Bits × Bits) (roundKey : Bits) : Bits × Bits :=
  let (left, right) := halves
  (right, add left (pick roundOrder (substitute (add (pick expansion right) roundKey)).toArray))

/-- Takes a block through rounds with the given keys. -/
def cryptBlock (keys : List Bits) (block : Bytes) : Bytes :=
  let bits := pick initialOrder (bitsOfBytes block)
  let (left, right) := keys.foldl round (bits.extract 0 32, bits.extract 32 64)
  bytesOfBits (pick finalOrder (right ++ left))

def encryptBlock (key block : Bytes) : Bytes := cryptBlock (roundKeys key) block

/-- Decrypts a block of eight bytes: the round keys are used backwards. -/
def decryptBlock (key block : Bytes) : Bytes := cryptBlock (roundKeys key).reverse block

/-- Decrypts a block under a key of twenty-four bytes, three keys one after the other. -/
def decryptBlockTriple (key : Bytes) : Bytes → Bytes :=
  let first := (roundKeys (key.take 8)).reverse
  let second := roundKeys ((key.drop 8).take 8)
  let third := (roundKeys (key.drop 16)).reverse
  fun block => cryptBlock first (cryptBlock second (cryptBlock third block))

/-- A key with the unused bit of every byte cleared. -/
def usedPart (key : Bytes) : Bytes := key.map fun b => b &&& 0xfe

/-- Whether a triple key is weaker than it looks, because two neighbouring parts of it coincide. -/
def isDegenerate (key : Bytes) : Bool :=
  let used := usedPart key
  used.take 8 == (used.drop 8).take 8 || (used.drop 8).take 8 == used.drop 16

end SshKeys.Des
