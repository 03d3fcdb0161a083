import SshKeys.Arithmetic.Prime
import SshKeys.Arithmetic.Root
import SshKeys.Bytes

/-! # SHA-512

The message digest of 512 bits, computed on eight words of 64 bits, block by block of 128 bytes.
Words are written with their most significant byte first. The constants are binary digits of roots
of primes.
-/

namespace SshKeys.Sha512

/-- The first 64 binary digits behind the point of a root of a number below 512. -/
def rootPlaces (degree n : Nat) : UInt64 :=
  UInt64.ofNat (floorRoot degree 69 (n <<< (64 * degree)))

/-- The additive constant of every step: from the cube roots of the first eighty primes. -/
def constants : List UInt64 := ((List.range 410).filter isProbablePrime).map (rootPlaces 3)

structure State where
  a : UInt64
  b : UInt64
  c : UInt64
  d : UInt64
  e : UInt64
  f : UInt64
  g : UInt64
  h : UInt64
  deriving Repr, DecidableEq

/-- The chaining value before the first block: from the square roots of the first eight primes. -/
def State.initial : State :=
  ⟨rootPlaces 2 2, rootPlaces 2 3, rootPlaces 2 5, rootPlaces 2 7, rootPlaces 2 11, rootPlaces 2 13,
    rootPlaces 2 17, rootPlaces 2 19⟩

def State.words (s : State) : List UInt64 := [s.a, s.b, s.c, s.d, s.e, s.f, s.g, s.h]

/-- Rotates a word right by more than zero and less than 64 places. -/
def rotate (x count : UInt64) : UInt64 := (x >>> count) ||| (x <<< (64 - count))

/-- So many words of a byte string, eight bytes each. -/
def words : (count : Nat) → Bytes → List UInt64
  | 0, _ => []
  | count + 1, bytes => UInt64.ofNat (Bytes.toNat (bytes.take 8)) :: words count (bytes.drop 8)

/-- Extends the words of a block, kept backwards, by `count` words. -/
def extend : (count : Nat) → List UInt64 → List UInt64
  | 0, ws => ws
  | count + 1, ws =>
    let x := ws.getD 14 0
    let y := ws.getD 1 0
    let spreadX := rotate x 1 ^^^ rotate x 8 ^^^ (x >>> 7)
    let spreadY := rotate y 19 ^^^ rotate y 61 ^^^ (y >>> 6)
    extend count ((ws.getD 15 0 + spreadX + ws.getD 6 0 + spreadY) :: ws)

/-- One step, with a constant and a word of the block. -/
def step (s : State) (input : UInt64 × UInt64) : State :=
  let spreadE := rotate s.e 14 ^^^ rotate s.e 18 ^^^ rotate s.e 41
  let chosen := (s.e &&& s.f) ^^^ (~~~s.e &&& s.g)
  let x := s.h + spreadE + chosen + input.1 + input.2
  let spreadA := rotate s.a 28 ^^^ rotate s.a 34 ^^^ rotate s.a 39
  let majority := (s.a &&& s.b) ^^^ (s.a &&& s.c) ^^^ (s.b &&& s.c)
  ⟨x + spreadA + majority, s.a, s.b, s.c, s.d + x, s.e, s.f, s.g⟩

def compress (s : State) (block : List UInt64) : State :=
  let t := (constants.zip (extend 64 block.reverse).reverse).foldl step s
  ⟨s.a + t.a, s.b + t.b, s.c + t.c, s.d + t.d, s.e + t.e, s.f + t.f, s.g + t.g, s.h + t.h⟩

def compressAll : (blocks : Nat) → State → List UInt64 → State
  | 0, s, _ => s
  | blocks + 1, s, ws => compressAll blocks (compress s (ws.take 16)) (ws.drop 16)

/-- The bytes behind a message of the given length: a one bit, zeros, and the length in bits. -/
def padding (length : Nat) : Bytes :=
  0x80 :: Bytes.zeros ((239 - length % 128) % 128) ++ Bytes.ofNat 16 (length * 8)

def digest (message : Bytes) : Bytes :=
  let padded := message ++ padding message.length
  let blocks := padded.length / 128
  (compressAll blocks State.initial (words (16 * blocks) padded)).words.flatMap fun w =>
    Bytes.ofNat 8 w.toNat

end SshKeys.Sha512
