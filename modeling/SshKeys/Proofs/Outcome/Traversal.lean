import Mathlib.Data.List.Forall2
import SshKeys.Proofs.Outcome

/-! # Steps over a list

A traversal takes a step for each item. It succeeds if every step does, and it fails with the first
step that fails, whatever comes behind that one.
-/

namespace SshKeys.Outcome

variable {ε α β : Type} {f : α → Except ε β} {xs : List α} {e : ε}

theorem mapM_eq_ok_iff {ys : List β} :
    xs.mapM f = .ok ys ↔ List.Forall₂ (fun x y => f x = .ok y) xs ys := by
  induction xs generalizing ys with
  | nil => simp [pure_eq, eq_comm]
  | cons x xs ih =>
      simp only [List.mapM_cons, bind_eq_ok_iff, ih, pure_eq, Except.ok.injEq,
        List.forall₂_cons_left_iff]
      constructor
      · rintro ⟨y, first, ys, others, rfl⟩
        exact ⟨y, ys, first, others, rfl⟩
      · rintro ⟨y, ys, first, others, rfl⟩
        exact ⟨y, first, ys, others, rfl⟩

theorem mapM_cons_eq_error_iff {x : α} : (x :: xs).mapM f = .error e ↔
    f x = .error e ∨ ∃ y, f x = .ok y ∧ xs.mapM f = .error e := by
  simp [List.mapM_cons, bind_eq_error_iff, pure_eq]

theorem mapM_eq_error_iff : xs.mapM f = .error e ↔ ∃ before x after, xs = before ++ x :: after ∧
    (∀ b ∈ before, ∃ y, f b = .ok y) ∧ f x = .error e := by
  induction xs with
  | nil => simp [pure_eq]
  | cons x xs ih =>
      rw [mapM_cons_eq_error_iff, ih]
      constructor
      · rintro (failed | ⟨y, first, before, z, after, rfl, passed, failed⟩)
        · exact ⟨[], x, xs, rfl, by simp, failed⟩
        · exact ⟨x :: before, z, after, rfl, List.forall_mem_cons.mpr ⟨⟨y, first⟩, passed⟩, failed⟩
      · rintro ⟨before, z, after, split, passed, failed⟩
        cases before with
        | nil =>
            cases split
            exact .inl failed
        | cons b before =>
            cases split
            obtain ⟨⟨y, first⟩, others⟩ := List.forall_mem_cons.mp passed
            exact .inr ⟨y, first, before, z, after, rfl, others, failed⟩

theorem exists_mapM_iff : (∃ ys, xs.mapM f = .ok ys) ↔ ∀ x ∈ xs, ∃ y, f x = .ok y := by
  simp only [mapM_eq_ok_iff]
  induction xs with
  | nil => simp
  | cons x xs ih =>
      simp only [List.forall_mem_cons, ← ih, List.forall₂_cons_left_iff]
      constructor
      · rintro ⟨_, y, ys, first, others, rfl⟩
        exact ⟨⟨y, first⟩, ys, others⟩
      · rintro ⟨⟨y, first⟩, ys, others⟩
        exact ⟨y :: ys, y, ys, first, others, rfl⟩

theorem mem_mapM_iff {ys : List β} {y : β} (taken : xs.mapM f = .ok ys) :
    y ∈ ys ↔ ∃ x ∈ xs, f x = .ok y := by
  rw [mapM_eq_ok_iff] at taken
  induction taken with
  | nil => simp
  | cons first _ ih => simp [ih, first, eq_comm]

/-- Two traversals one after the other relate items by way of what stands between them. -/
theorem exists_forall₂_iff {γ : Type} {R : α → β → Prop} {S : β → γ → Prop} {zs : List γ} :
    (∃ ys, List.Forall₂ R xs ys ∧ List.Forall₂ S ys zs) ↔
      List.Forall₂ (fun x z => ∃ y, R x y ∧ S y z) xs zs := by
  constructor
  · rintro ⟨ys, before, after⟩
    induction before generalizing zs with
    | nil =>
        cases after
        exact .nil
    | cons first _ ih =>
        cases after with
        | cons second others => exact .cons ⟨_, first, second⟩ (ih others)
  · intro related
    induction related with
    | nil => exact ⟨[], .nil, .nil⟩
    | cons both _ ih =>
        obtain ⟨y, first, second⟩ := both
        obtain ⟨ys, before, after⟩ := ih
        exact ⟨y :: ys, .cons first before, .cons second after⟩

end SshKeys.Outcome
