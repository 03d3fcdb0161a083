import SshKeys.Fault

/-! # Integers that have to be natural numbers

The integers of a key come from callers who may have left one out, or from elements that may hold
something else. `required` is the first check on each of them.
-/

namespace SshKeys

/-- The natural number that an integer has to be: one that is missing is a fault of the sort, and a
negative one a fault of the value. -/
def required : Option Int → Except Fault Nat
  | none => .error .badType
  | some n => if n < 0 then .error .badValue else .ok n.toNat

/-- Whether one of several integers, any of which may be missing, is negative. -/
def hasNegative (integers : List (Option Int)) : Bool :=
  integers.any fun n => n.any (· < 0)

/-- Refuses several integers at once if one of them is negative. How is up to the refusal. -/
def checkSigns (refusal : List (Option Int) → Fault) (integers : List (Option Int)) :
    Except Fault Unit :=
  if hasNegative integers then .error (refusal integers) else .ok ()

@[simp] theorem hasNegative_nil : hasNegative [] = false := rfl

@[simp] theorem hasNegative_natCast_cons (n : Nat) (integers : List (Option Int)) :
    hasNegative (some (n : Int) :: integers) = hasNegative integers := by
  have clear : ((n : Int) < 0) = False := eq_false (by omega)
  simp [hasNegative, clear]

@[simp] theorem required_natCast (n : Nat) : required (some (n : Int)) = .ok n := by
  simp [required]

theorem required_eq_ok_iff {n : Option Int} {m : Nat} :
    required n = .ok m ↔ n = some (m : Int) := by
  cases n with
  | none => simp [required]
  | some n =>
    by_cases h : n < 0
    · simp only [required, h, if_true, Option.some.injEq]
      constructor
      · intro hc; cases hc
      · intro hn; omega
    · simp only [required, h, if_false, Except.ok.injEq, Option.some.injEq]
      omega

end SshKeys
