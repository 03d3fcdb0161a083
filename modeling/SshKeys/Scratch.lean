import SshKeys.Fault
import SshKeys.Value

/-! # Burning scratch values

Whatever held a secret is overwritten with zeros before it is dropped. Only what can be written to
can be burned; there is nothing to burn in what is empty or absent.
-/

namespace SshKeys.Value

/-- The value with every item of it replaced by zero. -/
def burn : Value → Except Fault Value
  | .absent => .ok .absent
  | .buffer b => .ok (.buffer b.burn)
  | .list items => .ok (.list (items.map fun _ => .int 0))
  | .bytes b => if b = [] then .ok (.bytes b) else .error .badType
  | .text s => if s = "" then .ok (.text s) else .error .badType
  | .bool _ | .int _ | .float _ => .error .badType

/-- The value with the bytes from one limit up to another replaced by zero. Negative limits count
from the end. -/
def burnRange (v : Value) (start stop : Int) : Except Fault Value :=
  match v with
  | .buffer b =>
    .ok (.buffer (b.burnRange (Bytes.clamp b.length start) (Bytes.clamp b.length stop)))
  | .bytes b =>
    if Bytes.clamp b.length stop ≤ Bytes.clamp b.length start then .ok (.bytes b)
    else .error .badType
  | _ => .error .badType

end SshKeys.Value
