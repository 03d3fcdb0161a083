import SshKeys.Bytes

/-! # AES

The block cipher of 128-bit blocks with keys of 16, 24 or 32 bytes. Bytes are elements of the field
of 256 elements; a block is kept as its sixteen bytes, column by column.
-/

namespace SshKeys.Aes

def double (b : UInt8) : UInt8 := if b < 0x80 then b <<< 1 else (b <<< 1) ^^^ 0x1b

/-- Adds the product of two field elements to `acc`, the second having at most `bits` bits. -/
def mulAdd : (bits : Nat) → (a b acc : UInt8) → UInt8
  | 0, _, _, acc => acc
  | bits + 1, a, b, acc => mulAdd bits (double a) (b >>> 1) (if b &&& 1 = 1 then acc ^^^ a else acc)

def mul (a b : UInt8) : UInt8 := mulAdd 8 a b 0

/-- The 254th power of a field element: its inverse, or zero for zero. -/
def inverse (b : UInt8) : UInt8 :=
  let b2 := mul b b
  let b4 := mul b2 b2
  let b8 := mul b4 b4
  let b16 := mul b8 b8
  let b32 := mul b16 b16
  let b64 := mul b32 b32
  let b128 := mul b64 b64
  mul b128 (mul b64 (mul b32 (mul b16 (mul b8 (mul b4 b2)))))

/-- Rotates a byte left by less than eight places. -/
def rotate (b count : UInt8) : UInt8 := (b <<< count) ||| (b >>> (8 - count))

/-- The substitution of a byte. -/
def substituted (b : UInt8) : UInt8 :=
  let i := inverse b
  i ^^^ rotate i 1 ^^^ rotate i 2 ^^^ rotate i 3 ^^^ rotate i 4 ^^^ 0x63

/-- The substitution of every byte. -/
def substitution : Array UInt8 :=
  ((List.range 256).map fun n => substituted (UInt8.ofNat n)).toArray

/-- The substitution undone. -/
def restoration : Array UInt8 :=
  (List.range 256).foldl
    (fun table n =>
      let b := UInt8.ofNat n
      table.setIfInBounds (substituted b).toNat b)
    (Array.replicate 256 0)

def substitute (b : UInt8) : UInt8 := substitution.getD b.toNat 0

def restore (b : UInt8) : UInt8 := restoration.getD b.toNat 0

/-- Adds two byte strings without carry. -/
def add (a b : Bytes) : Bytes := a.zipWith (fun x y => x ^^^ y) b

/-- The four bytes of each word of a byte string. -/
def wordsOf : (count : Nat) → Bytes → List Bytes
  | 0, _ => []
  | count + 1, bytes => bytes.take 4 :: wordsOf count (bytes.drop 4)

/-- The round constant of a multiple of the key length: a power of two in the field. -/
def roundConstant : Nat → UInt8
  | 0 => 1
  | i + 1 => double (roundConstant i)

/-- The word that is added when the schedule reaches place `i`, made from the word before it. -/
def scheduleWord (keyWords i : Nat) (last : Bytes) : Bytes :=
  if i % keyWords = 0 then
    match (last.drop 1 ++ last.take 1).map substitute with
    | first :: rest => (first ^^^ roundConstant (i / keyWords - 1)) :: rest
    | [] => []
  else if 6 < keyWords ∧ i % keyWords = 4 then last.map substitute
  else last

/-- Extends a key schedule, kept backwards, by `count` words. -/
def extend (keyWords : Nat) : (count : Nat) → List Bytes → List Bytes
  | 0, words => words
  | count + 1, words =>
    let last := words.headD []
    let earlier := words.getD (keyWords - 1) []
    extend keyWords count (add earlier (scheduleWord keyWords words.length last) :: words)

/-- Joins words into round keys of four words. -/
def joinWords : (count : Nat) → List Bytes → List Bytes
  | 0, _ => []
  | count + 1, words => (words.take 4).flatten :: joinWords count (words.drop 4)

def roundKeys (key : Bytes) : List Bytes :=
  let keyWords := key.length / 4
  let rounds := keyWords + 7
  let words := extend keyWords (4 * rounds - keyWords) (wordsOf keyWords key).reverse
  joinWords rounds words.reverse

/-- Moves the bytes of row `r` by `r` columns to the left. -/
def shiftRows (block : Bytes) : Bytes :=
  let bytes := block.toArray
  (List.range 16).map fun i => bytes.getD ((i + 4 * (i % 4)) % 16) 0

def mixColumn : Bytes → Bytes
  | [a, b, c, d] =>
    [double a ^^^ mul b 3 ^^^ c ^^^ d, a ^^^ double b ^^^ mul c 3 ^^^ d,
     a ^^^ b ^^^ double c ^^^ mul d 3, mul a 3 ^^^ b ^^^ c ^^^ double d]
  | column => column

def mixColumns (block : Bytes) : Bytes := ((wordsOf 4 block).map mixColumn).flatten

/-- The rounds whose keys are given; the last one mixes no columns. -/
def round : List Bytes → Bytes → Bytes
  | [], block => block
  | [key], block => add (shiftRows (block.map substitute)) key
  | key :: keys, block => round keys (add (mixColumns (shiftRows (block.map substitute))) key)

def encryptBlock (key : Bytes) : Bytes → Bytes :=
  match roundKeys key with
  | [] => id
  | first :: keys => fun block => round keys (add block first)

/-- Moves the bytes of row `r` by `r` columns to the right. -/
def unshiftRows (block : Bytes) : Bytes :=
  let bytes := block.toArray
  (List.range 16).map fun i => bytes.getD ((16 + i - 4 * (i % 4)) % 16) 0

def unmixColumn : Bytes → Bytes
  | [a, b, c, d] =>
    [mul a 14 ^^^ mul b 11 ^^^ mul c 13 ^^^ mul d 9,
     mul a 9 ^^^ mul b 14 ^^^ mul c 11 ^^^ mul d 13,
     mul a 13 ^^^ mul b 9 ^^^ mul c 14 ^^^ mul d 11,
     mul a 11 ^^^ mul b 13 ^^^ mul c 9 ^^^ mul d 14]
  | column => column

def unmixColumns (block : Bytes) : Bytes := ((wordsOf 4 block).map unmixColumn).flatten

/-- Undoes the rounds whose keys are given, the last one first; the first round only adds its
key. -/
def unround : List Bytes → Bytes → Bytes
  | [], block => block
  | [key], block => add ((unshiftRows block).map restore) key
  | key :: keys, block => unround keys (unmixColumns (add ((unshiftRows block).map restore) key))

def decryptBlock (key : Bytes) : Bytes → Bytes :=
  match (roundKeys key).reverse with
  | [] => id
  | last :: keys => fun block => unround keys (add block last)

end SshKeys.Aes
