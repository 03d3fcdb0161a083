import SshKeys.Integer.Required

/-! # Outcomes of steps that may fail

A sequence of steps succeeds when every step does, and fails where the first step fails. `FailsOnly`
bounds the faults of a computation by a list; the bound of a sequence is that of its steps. `Yields`
says what is true of the result if there is one.
-/

namespace SshKeys.Outcome

variable {ε α β : Type}

theorem pure_eq (a : α) : (pure a : Except ε α) = .ok a := rfl

theorem bind_eq (x : Except ε α) (k : α → Except ε β) : x.bind k = x >>= k := rfl

theorem bind_eq_ok_iff {x : Except ε α} {k : α → Except ε β} {b} :
    x >>= k = .ok b ↔ ∃ a, x = .ok a ∧ k a = .ok b := by
  cases x with
  | error e => simp [bind, Except.bind]
  | ok a => simp [bind, Except.bind]

theorem bind_eq_error_iff {x : Except ε α} {k : α → Except ε β} {e} :
    x >>= k = .error e ↔ x = .error e ∨ ∃ a, x = .ok a ∧ k a = .error e := by
  cases x with
  | error f => simp [bind, Except.bind]
  | ok a => simp [bind, Except.bind]

theorem map_eq_ok_iff {x : Except ε α} {f : α → β} {b} :
    x.map f = .ok b ↔ ∃ a, x = .ok a ∧ f a = b := by
  cases x with
  | error e => simp [Except.map]
  | ok a => simp [Except.map]

theorem map_eq_error_iff {x : Except ε α} {f : α → β} {e} :
    x.map f = .error e ↔ x = .error e := by
  cases x with
  | error f => simp [Except.map]
  | ok a => simp [Except.map]

theorem toOption_eq_some_iff {x : Except ε α} {a} : x.toOption = some a ↔ x = .ok a := by
  cases x with
  | error e => simp [Except.toOption]
  | ok b => simp [Except.toOption]

@[simp] theorem mapError_ok {δ : Type} (g : ε → δ) (a : α) :
    (Except.ok a : Except ε α).mapError g = .ok a := rfl

@[simp] theorem mapError_error {δ : Type} (g : ε → δ) (e : ε) :
    (Except.error e : Except ε α).mapError g = .error (g e) := rfl

theorem mapError_eq_ok_iff {δ : Type} {x : Except ε α} {g : ε → δ} {a} :
    x.mapError g = .ok a ↔ x = .ok a := by
  cases x with
  | error e => simp
  | ok b => simp

theorem mapError_eq_error_iff {δ : Type} {x : Except ε α} {g : ε → δ} {d} :
    x.mapError g = .error d ↔ ∃ e, x = .error e ∧ d = g e := by
  cases x with
  | error e => simp [eq_comm]
  | ok a => simp

/-- A computation that either succeeds or fails with a listed fault. -/
def FailsOnly (faults : List Fault) (x : Except Fault α) : Prop :=
  ∀ f, x = .error f → f ∈ faults

namespace FailsOnly

variable {faults more : List Fault}

theorem ok (a : α) : FailsOnly faults (.ok a) := by
  intro f h
  cases h

theorem error {f : Fault} (h : f ∈ faults) : FailsOnly faults (.error f : Except Fault α) := by
  intro g same
  cases same
  exact h

theorem bind {x : Except Fault α} {k : α → Except Fault β} (hx : FailsOnly faults x)
    (hk : ∀ a, x = .ok a → FailsOnly faults (k a)) : FailsOnly faults (x >>= k) := by
  intro f h
  rcases bind_eq_error_iff.mp h with hf | ⟨a, ha, hf⟩
  · exact hx f hf
  · exact hk a ha f hf

theorem ite {p : Prop} [Decidable p] {x y : Except Fault α} (hx : p → FailsOnly faults x)
    (hy : ¬p → FailsOnly faults y) : FailsOnly faults (if p then x else y) := by
  split
  · exact hx ‹p›
  · exact hy ‹¬p›

theorem map {x : Except Fault α} (f : α → β) (hx : FailsOnly faults x) :
    FailsOnly faults (x.map f) := by
  intro g h
  exact hx g (map_eq_error_iff.mp h)

theorem mono {x : Except Fault α} (hx : FailsOnly faults x) (h : faults ⊆ more) :
    FailsOnly more x := by
  intro f hf
  exact h (hx f hf)

theorem ne_error {x : Except Fault α} (hx : FailsOnly faults x) {f : Fault} (h : f ∉ faults) :
    x ≠ .error f := by
  intro hf
  exact h (hx f hf)

end FailsOnly

/-- Whatever a computation results in has a property. -/
def Yields (P : α → Prop) (x : Except ε α) : Prop := ∀ a, x = .ok a → P a

namespace Yields

variable {P : α → Prop} {Q : β → Prop}

theorem ok {a : α} (h : P a) : Yields P (.ok a : Except ε α) := by
  intro b same
  cases same
  exact h

theorem error (e : ε) : Yields P (.error e : Except ε α) := by
  intro a same
  cases same

theorem bind {x : Except ε α} {k : α → Except ε β} (hk : ∀ a, x = .ok a → Yields Q (k a)) :
    Yields Q (x >>= k) := by
  intro b made
  obtain ⟨a, first, made⟩ := bind_eq_ok_iff.mp made
  exact hk a first b made

theorem map {x : Except ε α} {f : α → β} (h : ∀ a, x = .ok a → Q (f a)) :
    Yields Q (x.map f) := by
  intro b made
  obtain ⟨a, first, rfl⟩ := map_eq_ok_iff.mp made
  exact h a first

theorem ite {p : Prop} [Decidable p] {x y : Except ε α} (hx : p → Yields P x)
    (hy : ¬p → Yields P y) : Yields P (if p then x else y) := by
  split
  · exact hx ‹p›
  · exact hy ‹¬p›

end Yields

theorem required_failsOnly (n : Option Int) : FailsOnly [.badType, .badValue] (required n) := by
  cases n with
  | none => exact .error (by simp)
  | some n =>
      simp only [required]
      split
      · exact .error (by simp)
      · exact .ok _

section Signs

variable {refusal : List (Option Int) → Fault} {integers : List (Option Int)}

/-- One of several integers is negative, and there is a division by zero before that is noticed. -/
structure OverlooksSign (refusal : List (Option Int) → Fault) (integers : List (Option Int)) :
    Prop where
  negative : hasNegative integers = true
  refused : refusal integers = .zeroModulus

theorem checkSigns_failsOnly {faults : List Fault} (listed : refusal integers ∈ faults) :
    FailsOnly faults (checkSigns refusal integers) := by
  unfold checkSigns
  split
  · exact .error listed
  · exact .ok ()

end Signs

end SshKeys.Outcome
