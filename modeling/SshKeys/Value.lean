import SshKeys.Bytes
import SshKeys.Double

/-! # Loosely typed arguments

Callers hand over fields, names, passphrases and message arguments of any sort. `Value` is the sum
of those sorts; each operation states which of them it accepts.
-/

namespace SshKeys

/-- An argument of any sort. -/
inductive Value where
  /-- Nothing at all. -/
  | absent
  | bool (b : Bool)
  | int (n : Int)
  | float (x : Double)
  | text (s : String)
  /-- A byte string that cannot be written to. -/
  | bytes (b : Bytes)
  /-- A byte string that can be written to. -/
  | buffer (b : Bytes)
  | list (items : List Value)
  deriving Repr, Inhabited

namespace Value

/-- The name of a value's sort, as messages give it. -/
def sort : Value → String
  | .absent => "NoneType"
  | .bool _ => "bool"
  | .int _ => "int"
  | .float _ => "float"
  | .text _ => "str"
  | .bytes _ => "bytes"
  | .buffer _ => "bytearray"
  | .list _ => "list"

/-- The bytes of a value that holds bytes, writable or not. -/
def bytes? : Value → Option Bytes
  | .bytes b | .buffer b => some b
  | _ => none

/-- The whole number that a value counts as: truth values count as one and zero. -/
def number? : Value → Option Int
  | .int n => some n
  | .bool b => some (if b then 1 else 0)
  | .float x => x.toInt?
  | _ => none

end Value

end SshKeys
