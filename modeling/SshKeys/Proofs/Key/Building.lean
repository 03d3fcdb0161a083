import SshKeys.Key.Wire
import SshKeys.Proofs.Integer.Canonical
import SshKeys.Proofs.Outcome.Traversal

/-! # Putting public keys together

A key is put together of fields of any sort. The type is looked at first, then the number of fields,
and then the fields one by one, up to the first that is no framed integer. If all of them are, the
handle has exactly the integers that were read. What each of these ends leads to is `BuildsTo`, and
nothing else happens.
-/

namespace SshKeys

-- Powers of natural numbers are those of the core library, whatever else is imported.
attribute [local instance (2000)] instPowNat

open Outcome

theorem Material.eq_ofPublic {m : Material} {numbers : List Nat}
    (fields : m.publicFields = numbers.map fun (n : Nat) => some (n : Int))
    (bare : ∀ field ∈ m.privateFields, field = none) : m = ofPublic m.algorithm numbers := by
  have count := congrArg List.length fields
  rw [List.length_map] at count
  cases m with
  | rsa m =>
      obtain ⟨e, n, rfl⟩ := numbers_of_rsa count.symm
      cases m
      simp_all [publicFields, privateFields, algorithm, ofPublic]
  | dss m =>
      obtain ⟨p, q, g, y, rfl⟩ := numbers_of_dss count.symm
      cases m
      simp_all [publicFields, privateFields, algorithm, ofPublic]

namespace Key

variable {key : Key} {tag : KeyTag} {field : Value} {fields : List Value} {numbers : List Nat}
  {failure : Failure} {outcome : Except Failure Key}

/-- A handle of a type that holds these public integers and nothing else. -/
structure IsPublicOnly (key : Key) (tag : KeyTag) (numbers : List Nat) : Prop where
  typed : key.tag = tag
  flags : key.flags = flagPublic
  material : ∃ m, key.material = some m ∧ tag.algorithm? = some m.algorithm ∧
    m.publicFields = numbers.map (fun (n : Nat) => some (n : Int)) ∧
    ∀ field ∈ m.privateFields, field = none

/-- What putting a key together leads to. An unsupported type is reported whatever the fields are, a
    wrong number of fields whatever is in them, and a field that is no framed integer if all in
    front of it are, whatever is behind it. -/
inductive BuildsTo (tag : KeyTag) (fields : List Value) : Except Failure Key → Prop
  | unsupported (other : tag.isSupported = false) :
    BuildsTo tag fields (.error (.unsupportedAlgorithm (.keyType tag)))
  | miscounted {a} (selected : tag.algorithm? = some a)
      (other : fields.length ≠ Material.publicCount a) :
    BuildsTo tag fields (.error (.malformedInteger
      (.integerCount tag.label (Material.publicCount a) fields.length)))
  | undecodable {a before field after fault} (selected : tag.algorithm? = some a)
      (count : fields.length = Material.publicCount a) (found : fields = before ++ field :: after)
      (decoded : ∀ f ∈ before, ∃ n, Framed.decode f = .ok n)
      (refused : Framed.decode field = .error fault) :
    BuildsTo tag fields (.error (.malformedInteger (.integer fault)))
  | built {a key} {numbers : List Nat} (selected : tag.algorithm? = some a)
      (count : fields.length = Material.publicCount a)
      (decoded : List.Forall₂ (fun field n => Framed.decode field = .ok n) fields numbers)
      (made : key.IsPublicOnly tag numbers) : BuildsTo tag fields (.ok key)

theorem decodeFields_eq_mapM (fields : List Value) : decodeFields fields =
    (fields.mapM Framed.decode).mapError fun fault => .malformedInteger (.integer fault) := by
  induction fields with
  | nil => rfl
  | cons field fields ih =>
      rw [decodeFields, ih, List.mapM_cons]
      cases Framed.decode field with
      | error fault => rfl
      | ok n => cases fields.mapM Framed.decode <;> rfl

theorem decodeFields_eq_ok_iff : decodeFields fields = .ok numbers ↔
    List.Forall₂ (fun field n => Framed.decode field = .ok n) fields numbers := by
  rw [decodeFields_eq_mapM, mapError_eq_ok_iff, mapM_eq_ok_iff]

theorem decodeFields_eq_error_iff : decodeFields fields = .error failure ↔
    ∃ before field after fault, fields = before ++ field :: after ∧
      (∀ f ∈ before, ∃ n, Framed.decode f = .ok n) ∧ Framed.decode field = .error fault ∧
      failure = .malformedInteger (.integer fault) := by
  simp only [decodeFields_eq_mapM, mapError_eq_error_iff, mapM_eq_error_iff]
  constructor
  · rintro ⟨fault, ⟨before, field, after, found, decoded, refused⟩, rfl⟩
    exact ⟨before, field, after, fault, found, decoded, refused, rfl⟩
  · rintro ⟨before, field, after, fault, found, decoded, refused, rfl⟩
    exact ⟨fault, ⟨before, field, after, found, decoded, refused⟩, rfl⟩

theorem isPublicOnly_ofPublic {a} (selected : tag.algorithm? = some a)
    (count : numbers.length = Material.publicCount a) :
    IsPublicOnly { tag := tag, flags := flagPublic, material := some (Material.ofPublic a numbers) }
      tag numbers where
  typed := rfl
  flags := rfl
  material := ⟨_, rfl, by rw [Material.algorithm_ofPublic, selected],
    Material.publicFields_ofPublic count, Material.privateFields_ofPublic a numbers⟩

theorem buildsTo_build (tag : KeyTag) (fields : List Value) :
    BuildsTo tag fields (build tag fields) := by
  unfold build
  cases selected : tag.algorithm? with
  | none => exact .unsupported (by simp [KeyTag.isSupported, selected])
  | some a =>
      by_cases count : fields.length = Material.publicCount a
      · simp only [count, ne_eq, not_true, if_false]
        cases read : decodeFields fields with
        | error failure =>
            obtain ⟨_, _, _, _, found, decoded, refused, rfl⟩ := decodeFields_eq_error_iff.mp read
            exact .undecodable selected count found decoded refused
        | ok numbers =>
            have decoded := decodeFields_eq_ok_iff.mp read
            exact .built selected count decoded
              (isPublicOnly_ofPublic selected (decoded.length_eq.symm.trans count))
      · simp only [ne_eq, count, not_false_eq_true, if_true]
        exact .miscounted selected count

theorem IsPublicOnly.eq {a} (h : key.IsPublicOnly tag numbers)
    (selected : tag.algorithm? = some a) :
    key = { tag := tag, flags := flagPublic, material := some (Material.ofPublic a numbers) } := by
  obtain ⟨_, _, _⟩ := key
  obtain ⟨rfl, rfl, m, rfl, same, fields, bare⟩ := h
  cases selected.symm.trans same
  rw [← Material.eq_ofPublic fields bare]

theorem build_eq_iff : build tag fields = outcome ↔ BuildsTo tag fields outcome := by
  constructor
  · intro made
    subst made
    exact buildsTo_build tag fields
  · intro leads
    cases leads with
    | unsupported other =>
        have none : tag.algorithm? = none := by simpa [KeyTag.isSupported] using other
        simp [build, none]
    | miscounted selected other => simp [build, selected, other]
    | undecodable selected count found decoded refused =>
        have read := decodeFields_eq_error_iff.mpr ⟨_, _, _, _, found, decoded, refused, rfl⟩
        simp [build, selected, count, read, Except.map]
    | built selected count decoded made =>
        have read := decodeFields_eq_ok_iff.mpr decoded
        simp [build, selected, count, read, Except.map, made.eq selected]

/-- Putting a key together leads to exactly one of the listed ends, and every end that is listed is
    one that it leads to. Of integers that are framed by writing them the key has these integers. -/
theorem build_outcome (tag : KeyTag) :
    (∀ fields outcome, build tag fields = outcome ↔ BuildsTo tag fields outcome) ∧
    ∀ a (numbers : List Nat), tag.algorithm? = some a → numbers.length = Material.publicCount a →
      (∀ n ∈ numbers, (Signed.encode (n : Nat)).length < 2 ^ (32 : Nat)) →
      ∃ frames key,
        List.Forall₂ (fun (n : Nat) frame => Framed.encode n = .ok frame) numbers frames ∧
        build tag (frames.map .bytes) = .ok key ∧ key.IsPublicOnly tag numbers := by
  refine ⟨fun fields outcome => build_eq_iff, ?_⟩
  intro a numbers selected count shorts
  have made := isPublicOnly_ofPublic selected count
  refine ⟨numbers.map fun (n : Nat) => Framed.frame (Signed.encode n), _, ?_, ?_, made⟩
  · rw [List.forall₂_map_right_iff, List.forall₂_same]
    exact fun n _ => Framed.encode_natCast n
  · refine build_eq_iff.mpr (.built selected (by simpa using count) ?_ made)
    rw [List.map_map, List.forall₂_map_left_iff, List.forall₂_same]
    exact fun n member => Framed.decode_frame_encode (shorts n member)

end Key

end SshKeys
