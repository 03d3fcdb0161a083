import SshKeys.Der
import SshKeys.Proofs.Outcome

/-! # Faults of reading DER

Bytes that are no element have a fault of the value or the position, whatever they are.
-/

namespace SshKeys.Der

open Outcome

/-- All faults of reading. -/
def faults : List Fault := [.badValue, .badIndex]

end SshKeys.Der
