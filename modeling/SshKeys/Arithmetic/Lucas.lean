import SshKeys.Arithmetic.OddPart
import SshKeys.Arithmetic.Root

/-! # The Lucas test

The sequences `U` and `V` of a discriminant `D` start with `U₁ = V₁ = 1` and follow the rules

* `U₂ₖ = Uₖ Vₖ` and `2 V₂ₖ = Vₖ² + D Uₖ²`,
* `2 Uₖ₊₁ = Uₖ + Vₖ` and `2 Vₖ₊₁ = Vₖ + D Uₖ`.

If `D` is no square modulo an odd prime `n`, then `n` divides `Uₙ₊₁`. The test asks whether it does,
for the first such discriminant among 5, -7, 9, -11 and so on.
-/

namespace SshKeys

/-- The Jacobi symbol of `a` over an odd `n`, in at most `steps` steps of Euclid's algorithm. Twos
are taken out of `a`, each of them a factor of minus one if `n` is three or five modulo eight, and
then the two numbers change places, with a factor of minus one if both are three modulo four. -/
def jacobiFrom : (steps : Nat) → (a n : Nat) → Int
  | 0, _, _ => 0
  | steps + 1, a, n =>
    if a % n = 0 then if n = 1 then 1 else 0
    else
      let (twos, odd) := oddPart (a % n)
      let rest := jacobiFrom steps n odd
      let forTwos := if twos % 2 = 1 ∧ (n % 8 = 3 ∨ n % 8 = 5) then -rest else rest
      if odd % 4 = 3 ∧ n % 4 = 3 then -forTwos else forTwos

/-- The Jacobi symbol of an integer over an odd number. -/
def jacobi (a : Int) (n : Nat) : Int := jacobiFrom (2 * bitLength n + 2) (a % n).toNat n

/-- The discriminants in the order in which they are tried: 5, -7, 9, -11 and so on. -/
def discriminant (i : Nat) : Int := if i % 2 = 0 then 5 + 2 * i else -(5 + 2 * i)

/-- The first discriminant that is no square modulo an odd number, as the Jacobi symbol shows. A
square has none; for other numbers the search is by far long enough. -/
def lucasDiscriminant? (n : Nat) : Option Int :=
  (List.range (bitLength n * bitLength n)).findSome? fun i =>
    if jacobi (discriminant i) n = -1 then some (discriminant i) else none

theorem lucasDiscriminant?_eq {n i : Nat} (inside : i < bitLength n * bitLength n)
    (before : ∀ j < i, jacobi (discriminant j) n ≠ -1) (first : jacobi (discriminant i) n = -1) :
    lucasDiscriminant? n = some (discriminant i) := by
  obtain ⟨rest, whole⟩ := Nat.exists_eq_add_of_lt inside
  unfold lucasDiscriminant?
  rw [whole, Nat.add_assoc, List.range_add, List.range_succ_eq_map, List.map_cons,
    List.findSome?_eq_some_iff]
  refine ⟨List.range i, i, _, rfl, if_pos first, ?_⟩
  intro j earlier
  exact if_neg (before j (List.mem_range.mp earlier))

def halfMod (x n : Nat) : Nat := if x % 2 = 0 then x / 2 % n else (x + n) / 2 % n

/-- The pair of `U` and `V` at an index of at most `bits` binary digits, modulo an odd number. -/
def lucasPair (n discriminant : Nat) : (bits : Nat) → (index : Nat) → Nat × Nat
  | 0, _ => (0, 2 % n)
  | bits + 1, index =>
    let (u, v) := lucasPair n discriminant bits (index / 2)
    let doubleU := u * v % n
    let doubleV := halfMod ((v * v + discriminant * (u * u)) % n) n
    if index % 2 = 0 then (doubleU, doubleV)
    else (halfMod (doubleU + doubleV) n, halfMod (doubleV + discriminant * doubleU) n)

/-- Whether an odd number passes the test. Of the numbers without a discriminant, squares do not. -/
def passesLucas (n : Nat) : Bool :=
  match lucasDiscriminant? n with
  | some d => (lucasPair n (d % n).toNat (bitLength (n + 1)) (n + 1)).1 == 0
  | none => !isSquare n

end SshKeys
