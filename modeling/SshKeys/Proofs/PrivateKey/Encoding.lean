import SshKeys.Proofs.Dsa.Key
import SshKeys.Proofs.PrivateKey.Forms
import SshKeys.Proofs.Rsa.Key

/-! # Faults of encoded keys

Bodies that hold no key have a fault of the value, the sort or the position, with one exception. The
numbers of a body reach the arithmetic before anything is known about them, so factors without a
coefficient or exponents and orders of zero have the fault of a modulus of zero. Which bodies these
are is told by `IsSingular`. A wrapped private key is tried last; without a passphrase no form that
is tried earlier hides its numbers.
-/

namespace SshKeys.Encoding

open Outcome

/-- All faults of the elements of a body that are no key. -/
def faults : List Fault := .zeroModulus :: .badType :: Der.faults

variable {es : List Der.Element}

theorem firstOf_concat_of_refused {forms : List Form} {last : Form}
    (refused : firstOf forms es = .error .badValue) :
    firstOf (forms ++ [last]) es = last es := by
  induction forms with
  | nil =>
      rw [List.nil_append, firstOf]
      split
      · next same => exact same.symm
      · rfl
  | cons form forms ih =>
      rw [firstOf] at refused
      rw [List.cons_append, firstOf]
      split at refused
      · next h => simp only [ih refused]
      · next other => exact absurd refused other

variable [Engine]

theorem unlocked_failsOnly (passphrase : Option Bytes) (es : List Der.Element) :
    FailsOnly (.badType :: Der.faults) (unlocked passphrase es) := by
  cases passphrase with
  | none => exact .ok es
  | some secret =>
      intro f refused
      have listed := Engine.unlock_fault secret es f refused
      simp only [List.mem_cons, List.not_mem_nil, or_false] at listed
      rcases listed with rfl | rfl | rfl <;> simp [Der.faults]

/-- The elements wrap a private key, which is found behind the passphrase if there is one, and they
    have no form that is tried earlier. -/
structure Wraps (a : Algorithm) (passphrase : Option Bytes) (es : List Der.Element) (w : Wrapped) :
    Prop where
  held : (unlocked passphrase es).bind wrappedPrivate = .ok w
  otherwise : firstOf (forms a) es = .error .badValue

/-- The elements are a traditional RSA private key of these numbers, or what wraps one. -/
inductive HoldsRsa (passphrase : Option Bytes) (es : List Der.Element) (numbers : List Nat) : Prop
  | bare (spelled : Der.naturals? es = some numbers)
  | wrapped {w inner} (wraps : Wraps .rsa passphrase es w) (named : w.algorithm.id ∈ rsaIds)
    (opened : Der.sequenceOf w.key = .ok inner) (spelled : Der.naturals? inner = some numbers)

/-- The elements are a DSA key of any form that leads to a division by zero. -/
inductive HoldsSingularDsa (passphrase : Option Bytes) (es : List Der.Element) : Prop
  | bare {p q g y x : Nat} (spelled : Der.naturals? es = some [0, p, q, g, y, x])
    (undefined : q = 0 ∧ p ≠ 0)
  | wrappedPublic {w domain} {y : Int} (held : wrappedPublic es = .ok w ∨ certified es = .ok w)
    (named : w.algorithm.id = dsaId) (opened : Der.integerOf w.key = .ok y)
    (read : dsaDomain w.algorithm = .ok domain)
    (undefined : Dsa.IsSingular domain.p domain.q domain.g (some y) [])
  | wrappedPrivate {w} {q : Option Int} {p g x : Int} (wraps : Wraps .dss passphrase es w)
    (named : w.algorithm.id = dsaId) (opened : Der.integerOf w.key = .ok x)
    (read : dsaDomain w.algorithm = .ok ⟨some p, q, some g⟩)
    (computed : 0 < p ∧ (x < 0 → Int.gcd g p = 1))
    (undefined : Dsa.IsSingular (some p) q (some g)
      (some (powMod (g % p).toNat x.toNat p.toNat : Nat)) [some x])

/-- The elements hold numbers for which the arithmetic is not defined. -/
def IsSingular (passphrase : Option Bytes) : Algorithm → List Der.Element → Prop
  | .rsa, es => ∃ n e d p q a b c, HoldsRsa passphrase es [0, n, e, d, p, q, a, b, c] ∧
    Rsa.IsSingular n p q
  | .dss, es => HoldsSingularDsa passphrase es

end SshKeys.Encoding
