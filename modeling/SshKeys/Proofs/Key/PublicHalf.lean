import SshKeys.Key.Signature
import SshKeys.Key.Wire
import SshKeys.Proofs.Key.Copy

/-! # Public operations see the public half only

Handles that agree on their type, on the flag of a public half and on the public integers write the
same blob, have the same fingerprint and verify the same signatures, with the same faults. A handle
and its copies do agree.
-/

namespace SshKeys.Key

variable {key other copied : Key} {demote : Bool} {m m' : Material}

/-- Two handles of one supported type that cannot be told apart by their public halves. -/
structure SharesPublicHalf (key other : Key) : Prop where
  supported : key.tag.isSupported = true
  typed : other.tag.type? = key.tag.type?
  isPublic : other.isPublic = key.isPublic
  half : other.material.map Material.publicHalf = key.material.map Material.publicHalf

/-- Two handles on which every public operation has one outcome. -/
structure ActsAlike [Engine] (key other : Key) : Prop where
  blob : other.exportBlob = key.exportBlob
  fingerprint : other.fingerprint = key.fingerprint
  verdict : ∀ digest s, other.verify digest s = key.verify digest s

/-- Handles of one known type with material of its algorithm, the same flag of a public half and the
    same public integers, of which any may be missing. Nothing is said about other flags and private
    integers. -/
structure AgreesInPublic (key other : Key) (t : KeyType) (m m' : Material) : Prop where
  supported : t.algorithm? = some m.algorithm
  typed : key.tag.type? = some t
  typed' : other.tag.type? = some t
  filled : key.material = some m
  filled' : other.material = some m'
  algorithm : m'.algorithm = m.algorithm
  isPublic : other.isPublic = key.isPublic
  fields : m'.publicFields = m.publicFields

theorem publicHalf_eq_of_publicFields (algorithm : m'.algorithm = m.algorithm)
    (fields : m'.publicFields = m.publicFields) : m'.publicHalf = m.publicHalf := by
  cases m with
  | rsa m =>
      cases m' with
      | rsa m' =>
          simp only [Material.publicFields, List.cons.injEq, and_true] at fields
          obtain ⟨he, hn⟩ := fields
          rw [Material.publicHalf, Material.publicHalf, he, hn]
      | dss m' => cases algorithm
  | dss m =>
      cases m' with
      | rsa m' => cases algorithm
      | dss m' =>
          simp only [Material.publicFields, List.cons.injEq, and_true] at fields
          obtain ⟨hp, hq, hg, hy⟩ := fields
          rw [Material.publicHalf, Material.publicHalf, hp, hq, hg, hy]

theorem AgreesInPublic.sharesPublicHalf {t} (h : AgreesInPublic key other t m m') :
    SharesPublicHalf key other where
  supported := KeyTag.isSupported_of_algorithm?
    ((KeyTag.algorithm?_of_type? h.typed).trans h.supported)
  typed := by rw [h.typed, h.typed']
  isPublic := h.isPublic
  half := by
    rw [h.filled, h.filled', Option.map_some, Option.map_some,
      publicHalf_eq_of_publicFields h.algorithm h.fields]

theorem sharesPublicHalf_of_copy (made : key.copy demote = .ok copied) :
    SharesPublicHalf key copied := by
  obtain ⟨tag, isPublic, half⟩ := copy_publicHalf made
  obtain ⟨supported, _⟩ := copy_eq_ok_iff.mp made
  exact ⟨supported, by rw [tag], isPublic, half⟩

namespace SharesPublicHalf

variable (h : SharesPublicHalf key other)
include h

theorem algorithm?_eq : other.tag.algorithm? = key.tag.algorithm? := by
  rw [KeyTag.algorithm?, h.typed, KeyTag.algorithm?]

theorem name?_eq : other.tag.name? = key.tag.name? := by
  rw [KeyTag.name?, h.typed, KeyTag.name?]

theorem exportBlob_eq : other.exportBlob = key.exportBlob := by
  have halved (k : Key) :
      k.exportBlob = { k with material := k.material.map Material.publicHalf }.exportBlob := by
    unfold exportBlob
    cases k.material with
    | none => rfl
    | some m =>
        simp only [Option.map_some, publicFields_publicHalf]
        rfl
  have supported : other.tag.isSupported = true := by
    rw [KeyTag.isSupported, h.algorithm?_eq, ← KeyTag.isSupported, h.supported]
  have isPublic := h.isPublic
  simp only [Key.isPublic] at isPublic
  rw [halved other, halved key, h.half]
  simp only [exportBlob, Key.isPublic, isPublic, supported, h.supported, KeyTag.label, h.name?_eq,
    Bool.not_true, Bool.false_eq_true, if_false]

theorem verifyWith_eq [Engine] (a : Algorithm) (digest : Bytes) (s : Signature) :
    other.verifyWith a digest s = key.verifyWith a digest s := by
  have halved (k : Key) : k.verifyWith a digest s =
      { k with material := k.material.map Material.publicHalf }.verifyWith a digest s := by
    unfold verifyWith
    cases k.material with
    | none => rfl
    | some m => cases m <;> rfl
  rw [halved other, halved key, h.half]
  rfl

theorem verify_eq [Engine] (digest : Bytes) (s : Signature) :
    other.verify digest s = key.verify digest s := by
  obtain ⟨a, found⟩ := Option.isSome_iff_exists.mp h.supported
  simp only [verify, h.algorithm?_eq, found, h.typed, h.isPublic, h.verifyWith_eq]

theorem actsAlike [Engine] : ActsAlike key other where
  blob := h.exportBlob_eq
  fingerprint := by rw [fingerprint, h.exportBlob_eq, fingerprint]
  verdict := h.verify_eq

end SharesPublicHalf

theorem verify_copy [Engine] (made : key.copy demote = .ok copied) (digest : Bytes)
    (s : Signature) : copied.verify digest s = key.verify digest s :=
  (sharesPublicHalf_of_copy made).verify_eq digest s

/-- Blobs, fingerprints and verdicts, failures included, are those of every handle that agrees in
    public, and those of every copy. -/
theorem publicOperations_congr [Engine] (key other : Key) :
    (∀ t m m', AgreesInPublic key other t m m' → ActsAlike key other) ∧
    ∀ demote copied, key.copy demote = .ok copied → ActsAlike key copied :=
  ⟨fun _ _ _ agree => agree.sharesPublicHalf.actsAlike,
    fun _ _ made => (sharesPublicHalf_of_copy made).actsAlike⟩

section

attribute [local instance] Engine.plain

theorem publicOperations_congr_burned :
    let m : RsaMaterial := { e := some 13, n := some 33, d := some 17, p := some 3 }
    let key : Key :=
      { tag := .known .rsa, flags := flagPublic + flagPrivate, material := some (.rsa m) }
    let other : Key :=
      { tag := .known .rsa, flags := flagPublic + 4
        material := some (.rsa { m with d := some 0, p := none }) }
    ActsAlike key other ∧
      ∀ demote, ∃ copied, key.copy demote = .ok copied ∧ ActsAlike key copied := by
  intro m key other
  have agree : AgreesInPublic key other .rsa (.rsa m) (.rsa { m with d := some 0, p := none }) :=
    ⟨rfl, KeyTag.type?_known .rsa, KeyTag.type?_known .rsa, rfl, rfl, rfl, rfl, rfl⟩
  obtain ⟨alike, copies⟩ := publicOperations_congr key other
  refine ⟨alike _ _ _ agree, fun demote => ?_⟩
  obtain ⟨copied, made⟩ :=
    exists_copy agree.sharesPublicHalf.supported rfl (by decide) (by decide) demote
  exact ⟨copied, made, copies demote copied made⟩

end

end SshKeys.Key
