import SshKeys.Proofs.Key.Gates
import SshKeys.Proofs.Key.Handles

/-! # Freed handles

Freeing burns the integers that a handle holds, drops them and clears the flags. The handle keeps
its type and its name, and is good for nothing else: every operation on it fails as it does for want
of the half that it needs, and verification accepts nothing. No operation on handles fills it again.
-/

namespace SshKeys

/-- What becomes of an integer when it is burned: one that is missing stays missing. -/
inductive Burns : Option Int → Option Int → Prop
  | present (n : Int) : Burns (some n) (some 0)
  | absent : Burns none none

/-- Material of the same algorithm, with each integer burned. -/
structure Material.IsBurned (m burned : Material) : Prop where
  algorithm : burned.algorithm = m.algorithm
  fields : List.Forall₂ Burns m.fields burned.fields

namespace Key

/-- Neither flags nor material: the handle was freed, or nothing has been put into it yet. -/
structure IsVacant (key : Key) : Prop where
  flags : key.flags = 0
  material : key.material = none

/-- Nothing comes of any operation on the handle. There is no public half to write; with a type that
    is supported there is nothing to sign or to copy and nothing verifies, and with any other type
    these three fail for the type. -/
structure IsInert [Engine] (key : Key) : Prop where
  exportBlob : key.exportBlob = .error (.noPublicMaterial key.tag.name?)
  supported : key.HasSigningType →
    (∀ draw digest,
      key.sign draw digest = .error (.signingFailed (.noPrivateMaterial key.tag.label))) ∧
    (∀ digest s, key.verify digest s = .ok false) ∧
    ∀ demote, key.copy demote = .error (.allocationFailed key.tag)
  unsupported : ¬ key.HasSigningType →
    (∀ draw digest, key.sign draw digest = .error (.unsupportedAlgorithm (.keyType key.tag))) ∧
    (∀ digest s, key.verify digest s = .error (.unsupportedAlgorithm (.keyType key.tag))) ∧
    ∀ demote, key.copy demote = .error (.unsupportedAlgorithm (.keyType key.tag))

end Key

/-! ## Burning -/

namespace Material

theorem burns_map (field : Option Int) : Burns field (field.map fun _ => 0) := by
  cases field with
  | none => exact .absent
  | some n => exact .present n

theorem fields_burn (m : Material) : m.burn.fields = m.fields.map (Option.map fun _ => 0) := by
  cases m <;> rfl

theorem isBurned_burn (m : Material) : m.IsBurned m.burn where
  algorithm := by cases m <;> rfl
  fields := by
    rw [fields_burn, List.forall₂_map_right_iff, List.forall₂_same]
    exact fun field _ => burns_map field

end Material

/-! ## What a vacant handle does -/

namespace Key

variable {key : Key}

theorem isVacant_free (key : Key) : key.free.1.IsVacant := ⟨rfl, rfl⟩

theorem IsVacant.free_eq (vacant : key.IsVacant) : key.free = (key, none) := by
  obtain ⟨tag, flags, material⟩ := key
  obtain ⟨rfl, rfl⟩ := vacant
  rfl

namespace IsVacant

theorem isPublic (vacant : key.IsVacant) : key.isPublic = false := by
  rw [Key.isPublic, vacant.flags]
  rfl

theorem isPrivate (vacant : key.IsVacant) : key.isPrivate = false := by
  rw [Key.isPrivate, vacant.flags]
  rfl

theorem holdsOwn (vacant : key.IsVacant) : key.HoldsOwn := by
  intro _ m _ filled
  cases vacant.material.symm.trans filled

theorem not_hasOtherOrder (vacant : key.IsVacant) (bits : Nat) : ¬ key.HasOtherOrder bits := by
  intro other
  obtain ⟨m, _, filled, _⟩ := other.order
  cases vacant.material.symm.trans filled

theorem sign_eq [Engine] (vacant : key.IsVacant) (draw : Draw) (digest : Bytes) :
    (key.HasSigningType →
      key.sign draw digest = .error (.signingFailed (.noPrivateMaterial key.tag.label))) ∧
    (¬ key.HasSigningType →
      key.sign draw digest = .error (.unsupportedAlgorithm (.keyType key.tag))) := by
  constructor
  · intro typed
    exact sign_of_stopsWith vacant.holdsOwn (.flag typed vacant.not_hasOtherOrder vacant.isPrivate)
  · intro other
    exact sign_of_stopsWith vacant.holdsOwn (.type other)

theorem verify_eq [Engine] (vacant : key.IsVacant) (digest : Bytes) (s : Signature) :
    (key.HasSigningType → key.verify digest s = .ok false) ∧
    (¬ key.HasSigningType →
      key.verify digest s = .error (.unsupportedAlgorithm (.keyType key.tag))) := by
  rw [← isSupported_iff, KeyTag.isSupported]
  cases selected : key.tag.algorithm? with
  | none => simp [verify, selected]
  | some algorithm => simp [verify, selected, vacant.isPublic]

theorem copy_eq (vacant : key.IsVacant) (demote : Bool) :
    (key.HasSigningType → key.copy demote = .error (.allocationFailed key.tag)) ∧
    (¬ key.HasSigningType →
      key.copy demote = .error (.unsupportedAlgorithm (.keyType key.tag))) := by
  rw [← isSupported_iff]
  cases supported : key.tag.isSupported with
  | false => simp [copy, supported]
  | true => simp [copy, supported, vacant.material]

theorem isInert [Engine] (vacant : key.IsVacant) : key.IsInert where
  exportBlob := by simp [Key.exportBlob, vacant.isPublic]
  supported typed :=
    ⟨fun draw digest => (vacant.sign_eq draw digest).1 typed,
      fun digest s => (vacant.verify_eq digest s).1 typed,
      fun demote => (vacant.copy_eq demote).1 typed⟩
  unsupported other :=
    ⟨fun draw digest => (vacant.sign_eq draw digest).2 other,
      fun digest s => (vacant.verify_eq digest s).2 other,
      fun demote => (vacant.copy_eq demote).2 other⟩

end IsVacant

end Key

/-! ## Later operations -/

namespace Operation

variable [Engine] {keys : List Key} {key : Key} {place : Nat}

/-- The handles after operations upon those that are there already. -/
def runOn (keys : List Key) (ops : List Operation) : List Key :=
  ops.foldl (fun keys op => op.apply keys) keys

theorem runOn_cons (keys : List Key) (op : Operation) (ops : List Operation) :
    runOn keys (op :: ops) = runOn (op.apply keys) ops :=
  rfl

theorem getElem?_apply_free (found : keys[place]? = some key) :
    ((free place).apply keys)[place]? = some key.free.1 := by
  simp [apply, found]

/-- An operation leaves a vacant handle as it is: to free it again changes nothing, and every other
    operation that changes a handle makes a new one. -/
theorem getElem?_apply_of_isVacant (found : keys[place]? = some key) (vacant : key.IsVacant)
    (op : Operation) : (op.apply keys)[place]? = some key := by
  by_cases again : op = free place
  · subst again
    rw [getElem?_apply_free found, vacant.free_eq]
  · exact getElem?_apply_of_ne found again

theorem getElem?_runOn_of_isVacant (found : keys[place]? = some key) (vacant : key.IsVacant)
    (ops : List Operation) : (runOn keys ops)[place]? = some key := by
  induction ops generalizing keys with
  | nil => exact found
  | cons op ops ih =>
      rw [runOn_cons]
      exact ih (getElem?_apply_of_isVacant found vacant op)

end Operation

namespace Key

/-- A handle of any kind, once freed, has its type and its name and nothing else, and what it held
    is burned. Freeing it again changes nothing, nothing comes of any operation on it, and whatever
    operations follow, it stays as it is. The same is true of every handle without flags and
    material. -/
theorem free_inert [Engine] (key : Key) :
    (key.free.1.material = none ∧ key.free.1.flags = 0 ∧ key.free.1.tag = key.tag ∧
      key.free.1.tag.name? = key.tag.name?) ∧
    (∀ m, key.material = some m → ∃ burned, key.free.2 = some burned ∧ m.IsBurned burned) ∧
    key.free.1.free = (key.free.1, none) ∧
    key.free.1.IsInert ∧
    (∀ keys place, keys[place]? = some key → ∀ later,
      (Operation.runOn keys (.free place :: later))[place]? = some key.free.1) ∧
    ∀ other : Key, other.IsVacant → other.IsInert := by
  refine ⟨⟨rfl, rfl, rfl, rfl⟩, ?_, key.isVacant_free.free_eq, key.isVacant_free.isInert, ?_, ?_⟩
  · intro m filled
    refine ⟨m.burn, ?_, m.isBurned_burn⟩
    rw [free, filled, Option.map_some]
  · intro keys place found later
    rw [Operation.runOn_cons]
    exact Operation.getElem?_runOn_of_isVacant (Operation.getElem?_apply_free found)
      key.isVacant_free later
  · intro other vacant
    exact vacant.isInert

end Key

end SshKeys
