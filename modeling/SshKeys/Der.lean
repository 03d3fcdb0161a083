import SshKeys.Fault
import SshKeys.Integer.Signed

/-! # DER

An element is a tag, a length and a content of that length. Lengths have one form only: a single
byte below 128, and otherwise the fewest bytes behind a byte that counts them. Integers are two's
complement of any length.

Bytes that break these rules are a fault of the value, with one exception: a count of no bytes at
all is followed by a first byte that is not there, a fault of the position.
-/

namespace SshKeys.Der

/-- An element: its tag and its content. -/
structure Element where
  tag : UInt8
  content : Bytes
  deriving Repr, DecidableEq

def integerTag : UInt8 := 0x02

def bitStringTag : UInt8 := 0x03

def octetStringTag : UInt8 := 0x04

def nullTag : UInt8 := 0x05

def objectIdTag : UInt8 := 0x06

def sequenceTag : UInt8 := 0x30

def encodeLength (n : Nat) : Bytes :=
  if n < 128 then [UInt8.ofNat n]
  else UInt8.ofNat (128 + byteLength n) :: Bytes.ofNat (byteLength n) n

def encode (e : Element) : Bytes := e.tag :: encodeLength e.content.length ++ e.content

/-- The element of an integer, on the fewest bytes but at least one. -/
def integer (n : Int) : Element :=
  ⟨integerTag, if n = 0 then [0] else Signed.encode n⟩

def sequence (elements : List Element) : Element := ⟨sequenceTag, elements.flatMap encode⟩

/-- Reads a length. The longer form is refused where the shorter would do, and so is a leading zero
byte in it. -/
def readLength : Bytes → Except Fault (Nat × Bytes)
  | [] => .error .badValue
  | first :: rest =>
    if first < 128 then .ok (first.toNat, rest)
    else
      let count := first.toNat - 128
      let n := Bytes.toNat (rest.take count)
      if count = 0 then .error .badIndex
      else if count ≤ rest.length ∧ rest.head? ≠ some 0 ∧ 128 ≤ n then .ok (n, rest.drop count)
      else .error .badValue

/-- Reads an element off the beginning of a byte string. -/
def readElement : Bytes → Except Fault (Element × Bytes)
  | [] => .error .badValue
  | tag :: rest => do
    let (length, rest) ← readLength rest
    if length ≤ rest.length then .ok (⟨tag, rest.take length⟩, rest.drop length)
    else .error .badValue

/-- Reads elements until nothing is left, at most `fuel` of them. -/
def readElements : (fuel : Nat) → Bytes → Except Fault (List Element)
  | _, [] => .ok []
  | 0, _ :: _ => .error .badValue
  | fuel + 1, bytes => do
    let (e, rest) ← readElement bytes
    let es ← readElements fuel rest
    return e :: es

/-- Reads an element of a given tag off the beginning of a byte string. The tag is looked at before
the length is. -/
def readTagged (tag : UInt8) (bytes : Bytes) : Except Fault (Element × Bytes) :=
  if bytes.head? = some tag then readElement bytes else .error .badValue

/-- The integer that a byte string is, with nothing behind it. -/
def integerOf (bytes : Bytes) : Except Fault Int := do
  let (e, rest) ← readTagged integerTag bytes
  if rest = [] then .ok (Signed.decode e.content) else .error .badValue

/-- The elements of the sequence that a byte string is, with nothing behind it. What is inside is
read before what is behind is looked at. -/
def sequenceOf (bytes : Bytes) : Except Fault (List Element) := do
  let (e, rest) ← readTagged sequenceTag bytes
  let es ← readElements e.content.length e.content
  if rest = [] then .ok es else .error .badValue

namespace Element

def elements (e : Element) : Except Fault (List Element) :=
  if e.tag = sequenceTag then readElements e.content.length e.content else .error .badValue

def integer? (e : Element) : Option Int :=
  if e.tag = integerTag then some (Signed.decode e.content) else none

def natural? (e : Element) : Option Nat :=
  match e.integer? with
  | some (.ofNat n) => some n
  | _ => none

def octets? (e : Element) : Option Bytes := if e.tag = octetStringTag then some e.content else none

/-- The bits that fill whole bytes, behind a byte that counts the unused ones. -/
def wholeBits? : Bytes → Option Bytes
  | [] => some []
  | unused :: bits => if unused = 0 then some bits else none

/-- The content of a string of bits that fills whole bytes. -/
def bits? (e : Element) : Option Bytes :=
  if e.tag = bitStringTag then wholeBits? e.content else none

end Element

/-- The numbers in a byte string, seven bits to the byte; the top bit marks all bytes of a number
but its last. `started` is what has been read of an unfinished number. Every number is finished, and
none begins with seven zero bits that say nothing. -/
def base128? : (started : Option Nat) → Bytes → Option (List Nat)
  | none, [] => some []
  | some _, [] => none
  | started, b :: rest =>
    if started = none ∧ b = 0x80 then none
    else
      let n := started.getD 0 * 128 + b.toNat % 128
      if b < 128 then (base128? none rest).map (n :: ·) else base128? (some n) rest

/-- The arcs of an object identifier: its first number stands for two of them. -/
def Element.objectId? (e : Element) : Option (List Nat) :=
  if e.tag = objectIdTag then
    match base128? none e.content with
    | some (n :: rest) => some (if n < 40 then 0 :: n :: rest
        else if n < 80 then 1 :: (n - 40) :: rest
        else 2 :: (n - 80) :: rest)
    | _ => none
  else none

/-- The values of elements that are all non-negative integers. -/
def naturals? (es : List Element) : Option (List Nat) := es.mapM Element.natural?

end SshKeys.Der
