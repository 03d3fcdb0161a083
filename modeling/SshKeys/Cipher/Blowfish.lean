import SshKeys.Arithmetic.Pi
import SshKeys.Bytes

/-! # Blowfish

The block cipher of 64-bit blocks, with a key schedule that may be made as costly as one likes. The
schedule holds the digits of pi at first. Keys and salt are mixed into it by replacing its words,
two at a time, by what they encrypt.
-/

namespace SshKeys.Blowfish

/-- A key schedule: eighteen subkeys and four boxes of 256 words each, one behind the other. -/
abbrev Schedule := Array UInt32

def scheduleLength : Nat := 18 + 4 * 256

/-- The schedule before any key: the binary digits of pi behind the point. -/
def Schedule.initial : Schedule :=
  let places := piPlaces (32 * scheduleLength)
  ((List.range scheduleLength).map fun i =>
    UInt32.ofNat (places >>> (32 * (scheduleLength - 1 - i)))).toArray

/-- The word of a box for the low byte of a word. -/
def boxed (s : Schedule) (box : Nat) (word : UInt32) : UInt32 :=
  s.getD (18 + 256 * box + word.toUInt8.toNat) 0

/-- The words of the four boxes for the bytes of a word, added up. -/
def mixed (s : Schedule) (word : UInt32) : UInt32 :=
  ((boxed s 0 (word >>> 24) + boxed s 1 (word >>> 16)) ^^^ boxed s 2 (word >>> 8)) + boxed s 3 word

/-- A block of two halves. -/
def join (left right : UInt32) : UInt64 := (left.toUInt64 <<< 32) ||| right.toUInt64

/-- Encrypts a block by its last `count` rounds, of sixteen. -/
def encryptFrom (s : Schedule) : (count : Nat) → (left right : UInt32) → UInt64
  | 0, left, right => join (right ^^^ s.getD 17 0) (left ^^^ s.getD 16 0)
  | count + 1, left, right =>
    let left := left ^^^ s.getD (15 - count) 0
    encryptFrom s count (right ^^^ mixed s left) left

def encrypt (s : Schedule) (block : UInt64) : UInt64 :=
  encryptFrom s 16 (block >>> 32).toUInt32 block.toUInt32

/-- The words of a byte string of whole words, most significant byte first. -/
def words : Bytes → List UInt32
  | a :: b :: c :: d :: rest => UInt32.ofNat (Bytes.toNat [a, b, c, d]) :: words rest
  | _ => []

/-- The block at a place of a salt that is repeated for ever; no salt at all is zero. -/
def saltBlock (salt : Array UInt32) (place : Nat) : UInt64 :=
  join (salt.getD (2 * place % salt.size) 0) (salt.getD ((2 * place + 1) % salt.size) 0)

/-- Replaces the words of a schedule from a place on, two at a time: each by the encryption of the
two before it, to which salt is added. -/
def refill (salt : Array UInt32) : (count : Nat) → (place : Nat) → (last : UInt64) → Schedule →
    Schedule
  | 0, _, _, s => s
  | count + 1, place, last, s =>
    let next := encrypt s (last ^^^ saltBlock salt place)
    refill salt count (place + 1) next
      ((s.setIfInBounds (2 * place) (next >>> 32).toUInt32).setIfInBounds (2 * place + 1)
        next.toUInt32)

/-- Adds a key, repeated for ever, to the subkeys. -/
def addKey (key : Array UInt32) (s : Schedule) : Schedule :=
  (List.range 18).foldl (fun s i => s.modify i fun w => w ^^^ key.getD (i % key.size) 0) s

/-- Mixes a key and a salt into a schedule. -/
def expand (key salt : Array UInt32) (s : Schedule) : Schedule :=
  refill salt (scheduleLength / 2) 0 0 (addKey key s)

/-- The schedule of a key and a salt that are mixed in again and again, one after the other. -/
def costlySchedule (rounds : Nat) (key salt : Array UInt32) : Schedule :=
  Nat.repeat (fun s => expand key #[] (expand salt #[] s)) rounds
    (expand key salt Schedule.initial)

end SshKeys.Blowfish
