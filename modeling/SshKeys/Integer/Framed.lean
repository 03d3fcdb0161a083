import SshKeys.Fault
import SshKeys.Integer.Signed
import SshKeys.Value.Printer

/-! # Framed integers

On the wire an integer travels as a frame: a four-byte length and a body of that many bytes. The
body of a written integer is its fewest-bytes two's complement form, and only non-negative integers
are written. A body that is read counts as unsigned, so leading zero bytes in it do not matter.
-/

namespace SshKeys

/-- Why an integer cannot be written to a frame or read from one. -/
inductive IntegerFault where
  /-- A negative number is not written. -/
  | negative (n : Int)
  /-- A frame has to be a byte string. -/
  | notBytes (sort : String)
  /-- There is no frame at all. -/
  | empty
  /-- The frame ends before its length does. -/
  | truncatedLength
  /-- The frame announces one length and carries another. -/
  | lengthMismatch (announced carried : Nat)
  deriving Repr, DecidableEq

namespace IntegerFault

def message : IntegerFault → String
  | .negative n => "negative value " ++ toString n
  | .notBytes sort => "expected bytes, got " ++ sort
  | .empty => "empty mpint"
  | .truncatedLength => "truncated mpint length"
  | .lengthMismatch announced carried =>
    "mpint length " ++ toString announced ++ " does not match " ++ toString carried ++
      " bytes of data"

end IntegerFault

/-- How an attempt to write an integer fails. -/
inductive WritingFailure where
  | malformed (fault : IntegerFault)
  /-- There are no words for what is malformed. -/
  | fault (f : Fault)
  deriving Repr, DecidableEq

namespace Framed

/-- A byte string behind its four-byte length. -/
def frame (body : Bytes) : Bytes := Bytes.ofNat 4 body.length ++ body

/-- A non-negative integer behind its length. A negative one is reported with its digits, which only
a number that is short enough has. -/
def encode (n : Int) : Except WritingFailure Bytes :=
  if n < 0 then
    if isWritable n then .error (.malformed (.negative n)) else .error (.fault .badValue)
  else .ok (frame (Signed.encode n))

/-- The integer in a byte string that is exactly one frame. -/
def decodeBytes (data : Bytes) : Except IntegerFault Nat :=
  if data = [] then .error .empty
  else if data.length < 4 then .error .truncatedLength
  else
    let announced := Bytes.toNat (data.take 4)
    let body := data.drop 4
    if body.length = announced then .ok (Bytes.toNat body)
    else .error (.lengthMismatch announced body.length)

/-- The integer in a value that is a byte string holding exactly one frame. -/
def decode (data : Value) : Except IntegerFault Nat :=
  match data.bytes? with
  | some bytes => decodeBytes bytes
  | none => .error (.notBytes data.sort)

end Framed

end SshKeys
