import SshKeys.Arithmetic.OddPart
import SshKeys.Key.Material
import SshKeys.Proofs.Rsa.Key

/-! # Recovering factors

A square root of one that is neither one nor minus one shares a proper divisor with the modulus, so
what is recovered are two factors of which neither is one. A division by zero in making a private
key is therefore never due to recovered factors: either the factors were given, or the modulus in
which they are sought is zero.
-/

namespace SshKeys

-- Powers of natural numbers are those of the core library, whatever else is imported.
attribute [local instance (2000)] instPowNat

open Outcome

namespace Rsa

variable {n e d p q root squarings : Nat}

end Rsa

namespace RsaMaterial

variable [Engine]

/-- The integers that a private key is made of lead to arithmetic modulo zero: factors for which the
    coefficient or an exponent is not defined or, where a factor is missing, a modulus of zero.
    Where one of them is negative, it is up to the engine whether that is noticed before. -/
inductive IsSingular (m : RsaMaterial) : Prop
  | given {n e d p q : Nat} (modulus : m.n = some (n : Int))
    (exponents : m.e = some (e : Int) ∧ m.d = some (d : Int))
    (factors : m.factors? = some ((p : Int), (q : Int)))
    (admitted : Engine.admits n = true) (undefined : Rsa.IsSingular n p q) : IsSingular m
  | sought {e d : Nat} (modulus : m.n = some 0)
    (exponents : m.e = some (e : Int) ∧ m.d = some (d : Int)) (factors : m.factors? = none)
    (admitted : Engine.admits 0 = true) (odd : d * e % 2 = 1) (more : 1 < d * e) : IsSingular m
  | negative (overlooked : OverlooksSign Engine.rsaRefusal
      (Rsa.integers m.n m.e m.d m.factors?)) : IsSingular m

end RsaMaterial

end SshKeys
