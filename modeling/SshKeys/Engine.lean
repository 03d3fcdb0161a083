import SshKeys.Der
import SshKeys.Integer.Required

/-! # The engine

Keys are made and used by an engine for arithmetic, and engines are not all alike: in how wide a
modulus may be, in how they refuse integers of which one is negative, and in what they do with a
passphrase that comes with a wrapped private key. `Engine` names these points together with what
the operations on keys rely on. In everything else an engine does what the definitions about keys
say.
-/

namespace SshKeys

-- Powers of natural numbers are those of the core library, whatever else is imported.
attribute [local instance (2000)] instPowNat

/-- What tells one engine from another. -/
class Engine where
  /-- Whether a modulus is narrow enough to be worked with. -/
  admits : (modulus : Nat) → Bool
  /-- How the integers of an RSA private key are refused if one of them is negative: `n`, `e` and
  `d`, and `p` and `q` if they are known. -/
  rsaRefusal : List (Option Int) → Fault
  /-- How the integers of a DSA key are refused if one of them is negative: `y`, `g`, `p` and `q`,
  and `x` for a private key. -/
  dsaRefusal : List (Option Int) → Fault
  /-- What a passphrase makes of the elements of a wrapped private key, encrypted or not. -/
  unlock : (passphrase : Bytes) → List Der.Element → Except Fault (List Der.Element)
  rsaRefusal_mem (integers : List (Option Int)) :
    rsaRefusal integers ∈ [Fault.badType, .badValue, .zeroModulus]
  dsaRefusal_mem (integers : List (Option Int)) :
    dsaRefusal integers ∈ [Fault.badType, .badValue, .zeroModulus]
  /-- DSA divides by nothing but `q` before all integers have been looked at. -/
  dsaRefusal_order (y g p q : Option Int) (secret : List (Option Int)) :
    dsaRefusal (y :: g :: p :: q :: secret) = .zeroModulus → q = some 0
  unlock_fault (passphrase : Bytes) (elements : List Der.Element) (f : Fault) :
    unlock passphrase elements = .error f → f ∈ [Fault.badValue, .badType, .badIndex]
  /-- What is encrypted begins with the name of the scheme, a sequence. -/
  unlock_ok (passphrase : Bytes) (elements opened : List Der.Element) :
    unlock passphrase elements = .ok opened → opened = elements ∨
      ∃ name rest, elements = name :: rest ∧ name.tag = Der.sequenceTag

namespace Engine

/-- The fault of the first integer that is missing or negative. -/
def firstRefusal : List (Option Int) → Fault
  | [] => .badValue
  | none :: _ => .badType
  | some n :: integers => if n < 0 then .badValue else firstRefusal integers

theorem firstRefusal_mem (integers : List (Option Int)) :
    firstRefusal integers ∈ [Fault.badType, .badValue, .zeroModulus] := by
  induction integers with
  | nil => simp [firstRefusal]
  | cons n integers ih =>
    cases n with
    | none => simp [firstRefusal]
    | some n =>
      rw [firstRefusal]
      split
      · simp
      · exact ih

theorem firstRefusal_ne_zeroModulus (integers : List (Option Int)) :
    firstRefusal integers ≠ .zeroModulus := by
  induction integers with
  | nil => nofun
  | cons n integers ih =>
    cases n with
    | none => nofun
    | some n =>
      rw [firstRefusal]
      split
      · nofun
      · exact ih

/-- An engine that works with every modulus whose bytes four bytes can count, looks at the signs of
integers before it computes with them, and has no use for a passphrase behind armour. -/
@[reducible] def plain : Engine where
  admits modulus := byteLength modulus < 2 ^ (32 : Nat)
  rsaRefusal := firstRefusal
  dsaRefusal := firstRefusal
  unlock _ elements := .ok elements
  rsaRefusal_mem := firstRefusal_mem
  dsaRefusal_mem := firstRefusal_mem
  dsaRefusal_order _ _ _ _ _ refused := absurd refused (firstRefusal_ne_zeroModulus _)
  unlock_fault _ _ _ failed := nomatch failed
  unlock_ok _ _ _ opened := .inl (Except.ok.inj opened).symm

end Engine

end SshKeys
