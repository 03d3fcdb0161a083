import Mathlib.Data.Int.Bitwise
import SshKeys.Key.Operation

/-! # Copies of whole keys

A key with all public integers can be copied if it is demoted or not flagged as private, and
otherwise if it has a private exponent as well. The copy has the type and the public half of its
source. It has the private half as it stands in the source, or nothing of it.
-/

namespace SshKeys

namespace Key

variable {key copied : Key} {demote : Bool} {m : Material}

theorem ldiff_zero (n : Int) : n.ldiff 0 = n := by
  cases n with
  | ofNat n => exact congrArg Int.ofNat (by simp [Nat.ldiff])
  | negSucc n => exact congrArg Int.negSucc (by simp)

theorem publicFlags_eq_ldiff (key : Key) : key.publicFlags = key.flags.ldiff flagPrivate := by
  have two : flagPrivate = Int.bit false (Int.bit true 0) := rfl
  have whole : key.flags =
      Int.bit key.flags.bodd (Int.bit key.flags.div2.bodd key.flags.div2.div2) := by
    rw [Int.bit_decomp, Int.bit_decomp]
  rw [publicFlags, isPrivate, whole, two, Int.ldiff_bit, Int.ldiff_bit, ldiff_zero]
  generalize key.flags.div2.div2 = n
  cases key.flags.bodd <;> cases key.flags.div2.bodd <;> simp [Int.bit_val] <;> omega

theorem isPublic_publicFlags (h : copied.flags = key.publicFlags) :
    copied.isPublic = key.isPublic := by
  simp only [isPublic, h, publicFlags, flagPrivate]
  split
  · rw [Int.sub_emod_right]
  · rfl

theorem isPrivate_publicFlags (h : copied.flags = key.publicFlags) : copied.isPrivate = false := by
  simp only [isPrivate, h, publicFlags, flagPrivate, beq_iff_eq, beq_eq_false_iff_ne]
  split <;> omega

theorem publicFlags_of_isPrivate (h : key.isPrivate = false) : key.publicFlags = key.flags := by
  simp [publicFlags, h]

theorem copy_eq_ok_iff : key.copy demote = .ok copied ↔
    key.tag.isSupported = true ∧ ∃ m, key.material = some m ∧ hasAllPublic m = true ∧
      (demote = false → key.isPrivate = true → m.hasPrivate = true) ∧
      copied = { tag := key.tag
                 flags := if demote then key.publicFlags else key.flags
                 material := some (if !demote && key.isPrivate then m else m.publicHalf) } := by
  unfold copy
  cases key.tag.isSupported with
  | false => simp
  | true =>
      cases key.material with
      | none => simp
      | some m =>
          have enough : (hasAllPublic m && (!(!demote && key.isPrivate) || m.hasPrivate)) = true ↔
              hasAllPublic m = true ∧
                (demote = false → key.isPrivate = true → m.hasPrivate = true) := by
            cases demote <;> cases key.isPrivate <;> simp
          simp only [Bool.not_true, Bool.false_eq_true, if_false, enough, true_and,
            Option.some.injEq, exists_eq_left']
          split
          · next whole =>
              constructor
              · intro same
                exact ⟨whole.1, whole.2, (Except.ok.inj same).symm⟩
              · intro given
                rw [given.2.2]
          · next other =>
              constructor
              · intro same
                cases same
              · intro given
                exact absurd ⟨given.1, given.2.1⟩ other

theorem copy_error (supported : key.tag.isSupported = true)
    (unmade : ∀ copied, key.copy demote ≠ .ok copied) :
    key.copy demote = .error (.allocationFailed key.tag) := by
  unfold copy at unmade ⊢
  cases filled : key.material with
  | none => simp [supported]
  | some m =>
      simp only [supported, filled, Bool.not_true, Bool.false_eq_true, if_false] at unmade ⊢
      split
      · next whole => exact absurd (if_pos whole) (unmade _)
      · rfl

theorem hasAllPublic_iff : hasAllPublic m = true ↔ ∀ field ∈ m.publicFields, field ≠ none := by
  simp [hasAllPublic, Option.isSome_iff_ne_none]

theorem hasPrivate_iff : m.hasPrivate = true ↔ m.privateExponent ≠ none := by
  simp [Material.hasPrivate, Option.isSome_iff_ne_none]

theorem publicHalf_publicHalf (m : Material) : m.publicHalf.publicHalf = m.publicHalf := by
  cases m <;> rfl

theorem publicFields_publicHalf (m : Material) : m.publicHalf.publicFields = m.publicFields := by
  cases m <;> rfl

theorem privateFields_publicHalf (m : Material) :
    ∀ field ∈ m.publicHalf.privateFields, field = none := by
  cases m <;> simp [Material.publicHalf, Material.privateFields]

theorem hasAllPublic_publicHalf (m : Material) : hasAllPublic m.publicHalf = hasAllPublic m := by
  rw [hasAllPublic, publicFields_publicHalf, hasAllPublic]

theorem exists_copy (supported : key.tag.isSupported = true) (filled : key.material = some m)
    (whole : hasAllPublic m = true) (hasPrivate : m.hasPrivate = true) (demote : Bool) :
    ∃ copied, key.copy demote = .ok copied :=
  ⟨_, copy_eq_ok_iff.mpr ⟨supported, m, filled, whole, fun _ _ => hasPrivate, rfl⟩⟩

theorem copy_publicHalf (made : key.copy demote = .ok copied) : copied.tag = key.tag ∧
    copied.isPublic = key.isPublic ∧
      copied.material.map Material.publicHalf = key.material.map Material.publicHalf := by
  obtain ⟨_, m, filled, _, _, rfl⟩ := copy_eq_ok_iff.mp made
  refine ⟨rfl, ?_, ?_⟩
  · cases demote with
    | true => exact isPublic_publicFlags rfl
    | false => rfl
  · rw [filled, Option.map_some, Option.map_some]
    split
    · rfl
    · rw [publicHalf_publicHalf]

theorem publicFlags_copy (made : key.copy demote = .ok copied) :
    copied.publicFlags = key.publicFlags := by
  obtain ⟨_, m, _, _, _, rfl⟩ := copy_eq_ok_iff.mp made
  cases demote with
  | true => exact publicFlags_of_isPrivate (isPrivate_publicFlags rfl)
  | false => rfl

theorem copy_true (supported : key.tag.isSupported = true) (filled : key.material = some m)
    (whole : hasAllPublic m = true) : key.copy true =
      .ok { tag := key.tag, flags := key.publicFlags, material := some m.publicHalf } :=
  copy_eq_ok_iff.mpr ⟨supported, m, filled, whole, by simp, rfl⟩

theorem copy_true_of_copy (made : key.copy demote = .ok copied) :
    copied.copy true = key.copy true := by
  obtain ⟨tag, _, half⟩ := copy_publicHalf made
  obtain ⟨supported, m, filled, whole, _, _⟩ := copy_eq_ok_iff.mp made
  rw [filled, Option.map_some] at half
  obtain ⟨m', filled', half⟩ := Option.map_eq_some_iff.mp half
  have whole' : hasAllPublic m' = true := by
    rw [← hasAllPublic_publicHalf, half, hasAllPublic_publicHalf, whole]
  have supported' : copied.tag.isSupported = true := by rw [tag, supported]
  rw [copy_true supported' filled' whole', copy_true supported filled whole, tag, half,
    publicFlags_copy made]

theorem copy_false_of_copy_true (made : key.copy true = .ok copied) :
    copied.copy false = .ok copied := by
  obtain ⟨supported, m, filled, whole, _, rfl⟩ := copy_eq_ok_iff.mp made
  have cleared : Key.isPrivate
      { tag := key.tag, flags := key.publicFlags, material := some m.publicHalf } = false :=
    isPrivate_publicFlags rfl
  refine copy_eq_ok_iff.mpr ⟨supported, m.publicHalf, by simp, ?_, by simp [cleared], ?_⟩
  · rw [hasAllPublic_publicHalf, whole]
  · simp [cleared, publicHalf_publicHalf]

/-- What is in a copy: all of the public half, and all of the private half or nothing. -/
structure IsCopy (key : Key) (demote : Bool) (copied : Key) : Prop where
  tag : copied.tag = key.tag
  name : copied.tag.name? = key.tag.name?
  flags : copied.flags = if demote then key.flags.ldiff flagPrivate else key.flags
  material : ∃ m m', key.material = some m ∧ copied.material = some m' ∧
    m'.algorithm = m.algorithm ∧ m'.publicFields = m.publicFields ∧
    (demote = false ∧ key.isPrivate = true → m'.privateFields = m.privateFields) ∧
    (¬ (demote = false ∧ key.isPrivate = true) → ∀ field ∈ m'.privateFields, field = none)

theorem isCopy_of_copy (made : key.copy demote = .ok copied) : IsCopy key demote copied := by
  obtain ⟨_, m, filled, _, _, rfl⟩ := copy_eq_ok_iff.mp made
  refine ⟨rfl, rfl, by rw [publicFlags_eq_ldiff], m, _, filled, rfl, ?_⟩
  by_cases keeps : demote = false ∧ key.isPrivate = true
  · simp [keeps]
  · have halved : (!demote && key.isPrivate) = false := by
      cases demote <;> simp_all
    simp only [halved, keeps, Bool.false_eq_true, if_false, false_implies, not_false_eq_true,
      true_implies, true_and, publicFields_publicHalf]
    exact ⟨by cases m <;> rfl, privateFields_publicHalf m⟩

theorem prefix_apply_copy [Engine] (keys : List Key) (source : Nat) (demote : Bool) :
    keys <+: (Operation.copy source demote).apply keys := by
  unfold Operation.apply
  split
  · next same => cases same
  · split
    · exact List.prefix_append _ _
    · exact List.prefix_rfl

/-- The whole outcome of copying. A type that is not supported is the one failure, missing material
    and missing integers are the other; all other handles can be copied. A copy has the type, the
    name, the flags and the public half of its source, and the private half as it stands there or
    nothing of it. The source is left as it is, and so is every other handle. Demoting twice is
    demoting once, before or after another copy. -/
theorem copy_outcome [Engine] (key : Key) (demote : Bool) :
    (key.tag.isSupported = false →
      key.copy demote = .error (.unsupportedAlgorithm (.keyType key.tag))) ∧
    (key.tag.isSupported = true →
      ((∃ copied, key.copy demote = .ok copied) ↔ ∃ m, key.material = some m ∧
        (∀ field ∈ m.publicFields, field ≠ none) ∧
        (demote = false → key.isPrivate = true → m.privateExponent ≠ none)) ∧
      ((¬ ∃ copied, key.copy demote = .ok copied) →
        key.copy demote = .error (.allocationFailed key.tag))) ∧
    (∀ copied, key.copy demote = .ok copied → IsCopy key demote copied ∧
      copied.copy true = key.copy true ∧ (∃ demoted, key.copy true = .ok demoted) ∧
      (demote = true → copied.copy false = .ok copied)) ∧
    ∀ keys source, keys[source]? = some key →
      ((Operation.copy source demote).apply keys)[source]? = some key ∧
        keys <+: (Operation.copy source demote).apply keys := by
  refine ⟨?_, ?_, ?_, ?_⟩
  · intro unsupported
    simp [copy, unsupported]
  · intro supported
    refine ⟨?_, fun unmade => copy_error supported fun copied made => unmade ⟨copied, made⟩⟩
    simp only [copy_eq_ok_iff, supported, true_and, hasAllPublic_iff, hasPrivate_iff]
    constructor
    · intro given
      obtain ⟨_, m, filled, complete, secret, _⟩ := given
      exact ⟨m, filled, complete, secret⟩
    · intro given
      obtain ⟨m, filled, complete, secret⟩ := given
      exact ⟨_, m, filled, complete, secret, rfl⟩
  · intro copied made
    obtain ⟨supported, m, filled, whole, _, _⟩ := copy_eq_ok_iff.mp made
    refine ⟨isCopy_of_copy made, copy_true_of_copy made, ⟨_, copy_true supported filled whole⟩, ?_⟩
    rintro rfl
    exact copy_false_of_copy_true made
  · intro keys source found
    refine ⟨?_, prefix_apply_copy keys source demote⟩
    obtain ⟨added, kept⟩ := prefix_apply_copy keys source demote
    obtain ⟨inside, _⟩ := List.getElem?_eq_some_iff.mp found
    rw [← kept, List.getElem?_append_left inside, found]

end Key

end SshKeys
