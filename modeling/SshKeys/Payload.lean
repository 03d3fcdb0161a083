import SshKeys.Integer.Framed

/-! # Wire payloads

A payload is a sequence of items, each behind a four-byte length. A format says of each item
whether its content is meant (`string`) or the item is kept together with its length
(`framedInteger`). `unpack` reads a format from any offset of a payload and `pack` writes one.
-/

namespace SshKeys.Payload

/-- What a format asks for at one place. -/
inductive Code where
  /-- The content of an item. -/
  | string
  /-- An item as it travels, its length included. -/
  | framedInteger
  /-- A code that nobody knows. -/
  | unknown (name : String)
  deriving Repr, DecidableEq

inductive Fault where
  /-- The payload ends inside the item that starts at `offset`. -/
  | truncated (offset : Nat)
  /-- The format holds an unknown code. -/
  | unknownCode (name : String)
  /-- There are not as many values as codes. -/
  | countMismatch
  /-- A string item is a text beyond ASCII. -/
  | notAscii
  /-- A value is of a sort that cannot be written. -/
  | notPackable
  deriving Repr, DecidableEq

/-- The length of the item at an offset, if the whole item lies within the payload. -/
def lengthAt (payload : Bytes) (offset : Nat) : Except Fault Nat :=
  if payload.length < offset + 4 then .error (.truncated offset)
  else
    let length := Bytes.toNat ((payload.drop offset).take 4)
    if payload.length < offset + 4 + length then .error (.truncated offset) else .ok length

/-- One item at an offset, and the offset behind it. -/
def readItem (code : Code) (payload : Bytes) (offset : Nat) : Except Fault (Bytes × Nat) :=
  match code with
  | .string => do
    let length ← lengthAt payload offset
    return ((payload.drop (offset + 4)).take length, offset + 4 + length)
  | .framedInteger => do
    let length ← lengthAt payload offset
    return ((payload.drop offset).take (4 + length), offset + 4 + length)
  | .unknown name => .error (.unknownCode name)

/-- The items of a format from an offset on, and the offset where reading stopped. -/
def unpack : (format : List Code) → (payload : Bytes) → (offset : Nat) →
    Except Fault (List Bytes × Nat)
  | [], _, offset => .ok ([], offset)
  | code :: format, payload, offset => do
    let (item, next) ← readItem code payload offset
    let (items, stop) ← unpack format payload next
    return (item :: items, stop)

/-- The bytes that a string item writes, its length included. -/
def stringItem : Value → Except Fault Bytes
  | .text s => match Bytes.ofAscii? s.toList with
    | some bytes => .ok (Framed.frame bytes)
    | none => .error .notAscii
  | v => match v.bytes? with
    | some bytes => .ok (Framed.frame bytes)
    | none => .error .notPackable

/-- The value that a code leaves to be written: string items are framed here, framed integers are
taken as they come. -/
def prepare : Code → Value → Except Fault Value
  | .string, v => (stringItem v).map .bytes
  | .framedInteger, v => .ok v
  | .unknown name, _ => .error (.unknownCode name)

/-- The bytes of prepared values, one after the other. -/
def join : List Value → Except Fault Bytes
  | [] => .ok []
  | v :: rest => match v.bytes? with
    | some bytes => (join rest).map (bytes ++ ·)
    | none => .error .notPackable

def prepareAll : List Code → List Value → Except Fault (List Value)
  | code :: format, v :: values => do
    let piece ← prepare code v
    let pieces ← prepareAll format values
    return piece :: pieces
  | _, _ => .ok []

/-- Writes values in a format. Framed integers are looked at only after all codes were. -/
def pack (format : List Code) (values : List Value) : Except Fault Bytes :=
  if values.length = format.length then (prepareAll format values).bind join
  else .error .countMismatch

end SshKeys.Payload
