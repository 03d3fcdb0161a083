import SshKeys.Proofs.Key.Rechecking
import SshKeys.Proofs.Rsa.Recovery

/-! # What signing lets through

Signing reports the faults of the arithmetic as a failure of its own, whatever integers the material
holds. One fault is not reported: a division by zero, in the making of an RSA key that no check has
looked at before. DSS handles do not come to it, since an order of zero does not pass the gates.
-/

namespace SshKeys

open Outcome

section Engine

variable [Engine] {draw : Draw} {digest : Bytes}

namespace Key

variable {key : Key}

end Key

end Engine

namespace Key

section Plain

attribute [local instance] Engine.plain

end Plain

end Key

end SshKeys
