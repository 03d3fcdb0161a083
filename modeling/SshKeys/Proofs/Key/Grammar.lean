import SshKeys.Proofs.Key.Building
import SshKeys.Proofs.Payload.Items

/-! # The grammar of public key blobs

`Spells` is the grammar of blobs: one of three names, and behind it as many framed bodies as keys of
that name have public integers, of any content. Reading accepts exactly this grammar and takes every
body as an unsigned number; all other bytes are refused for a reason that is told.
-/

namespace SshKeys

-- Powers of natural numbers are those of the core library, whatever else is imported.
attribute [local instance (2000)] instPowNat

open Framed Outcome Payload

theorem KeyType.ofNameValue_eq_iff {t : KeyType} {known : String} (h : t.name? = some known)
    (name : Bytes) : ofNameValue (.bytes name) = t ↔ name = known.toUTF8.toList := by
  have spelled : Bytes.isAscii known.toUTF8.toList = true ∧
      Bytes.toChars known.toUTF8.toList = known.toList := by
    cases t <;> cases h <;> decide +kernel
  have unknown : KeyType.unknown ≠ t := by
    intro same
    subst same
    cases h
  constructor
  · intro named
    simp only [ofNameValue] at named
    split at named
    · have text : String.ofList name.toChars = known := (ofName_eq_iff h).mp named
      rw [← Bytes.toChars_inj, spelled.2, ← text, String.toList_ofList]
    · exact absurd named unknown
  · intro same
    subst same
    simp only [ofNameValue, spelled, if_true, String.ofList_toList]
    exact ofName_eq_of_name? h

namespace Key

/-- The names that begin a blob, and how many bodies follow each. -/
def wireForms : List (KeyType × String × Nat) :=
  [(.dss, "ssh-dss", 4), (.rsa, "ssh-rsa", 2), (.rsa1, "ssh-rsa1", 2)]

/-- The blob spells a key type and bodies: the name of the type and then the bodies, all of them
    framed, with nothing behind. -/
structure Spells (blob : Bytes) (t : KeyType) (bodies : List Bytes) : Prop where
  form : ∃ name, (t, name, bodies.length) ∈ wireForms ∧
    blob = frame name.toUTF8.toList ++ bodies.flatMap frame
  short : ∀ body ∈ bodies, body.length < 2 ^ (32 : Nat)

theorem mem_wireForms_iff {t name count} : (t, name, count) ∈ wireForms ↔
    t.name? = some name ∧ ∃ a, t.algorithm? = some a ∧ Material.publicCount a = count := by
  cases t <;>
    simp [wireForms, KeyType.name?, KeyType.algorithm?, Material.publicCount, eq_comm]

/-- The handle of a public key. -/
def ofPublic (t : KeyType) (a : Algorithm) (numbers : List Nat) : Key :=
  { tag := .known t, flags := flagPublic, material := some (Material.ofPublic a numbers) }

theorem name?_of_algorithm? {t : KeyType} {a} (h : t.algorithm? = some a) :
    ∃ name, t.name? = some name := by
  cases t <;> simp [KeyType.algorithm?, KeyType.name?] at h ⊢

theorem algorithm?_known (t : KeyType) : (KeyTag.known t).algorithm? = t.algorithm? :=
  KeyTag.algorithm?_of_type? (KeyTag.type?_known t)

theorem name?_known (t : KeyType) : (KeyTag.known t).name? = t.name? := by
  simp [KeyTag.name?]

theorem name_short {t : KeyType} {name : String} (h : t.name? = some name) :
    name.toUTF8.toList.length < 2 ^ (32 : Nat) := by
  cases t <;> cases h <;> decide +kernel

theorem ofPublic_of_build {t fields key} (h : build (.known t) fields = .ok key) :
    ∃ a numbers, t.algorithm? = some a ∧ numbers.length = Material.publicCount a ∧
      key = ofPublic t a numbers := by
  cases build_eq_iff.mp h with
  | @built a _ numbers selected count decoded made =>
      exact ⟨a, numbers, (algorithm?_known t).symm.trans selected,
        decoded.length_eq.symm.trans count, made.eq selected⟩

theorem build_frames {t a} {bodies : List Bytes} (supported : t.algorithm? = some a)
    (count : bodies.length = Material.publicCount a)
    (short : ∀ body ∈ bodies, body.length < 2 ^ (32 : Nat)) :
    build (.known t) (bodies.map fun body => .bytes (frame body)) =
      .ok (ofPublic t a (bodies.map Bytes.toNat)) := by
  have selected := (algorithm?_known t).trans supported
  refine build_eq_iff.mpr (.built selected (by simpa using count) ?_
    (isPublicOnly_ofPublic selected (by simpa using count)))
  rw [List.forall₂_map_left_iff, List.forall₂_map_right_iff, List.forall₂_same]
  intro body member
  exact decodeBytes_frame (short body member)

theorem zipWith_view {bodies : List Bytes} {count : Nat} (h : bodies.length = count) :
    List.zipWith Code.view (List.replicate count Code.framedInteger) bodies =
      bodies.map frame := by
  subst h
  induction bodies with
  | nil => rfl
  | cons body bodies ih => simp [List.replicate_succ, Code.view, ih]

theorem importBlob_behind_name {blob : Bytes} {t : KeyType} {known : String} {a offset}
    (named : t.name? = some known) (supported : t.algorithm? = some a)
    (start : readItem .string blob 0 = .ok (known.toUTF8.toList, offset)) :
    importBlob blob =
      match unpack (List.replicate (Material.publicCount a) .framedInteger) blob offset with
      | .error _ => .error (.malformedInteger (.truncatedKey known))
      | .ok (fields, stop) =>
        if stop = blob.length then build (.known t) (fields.map .bytes)
        else .error (.malformedInteger (.trailingBytes (blob.length - stop))) := by
  have typed : KeyType.ofNameValue (.bytes known.toUTF8.toList) = t :=
    (KeyType.ofNameValue_eq_iff named _).mpr rfl
  have label : (KeyTag.known t).label = known := by
    simp [KeyTag.label, name?_known, named]
  rcases rest : unpack (List.replicate (Material.publicCount a) .framedInteger) blob offset with
    fault | ⟨fields, stop⟩
  · simp only [importBlob, start, typed, algorithm?_known, supported, label, rest]
  · simp only [importBlob, start, typed, algorithm?_known, supported, rest]

/-- A spelled blob is read in two goes: the name, and behind it the bodies, with nothing left. -/
theorem Spells.goes {blob t bodies} (h : Spells blob t bodies) : ∃ known a,
    t.name? = some known ∧ t.algorithm? = some a ∧ bodies.length = Material.publicCount a ∧
    frame known.toUTF8.toList <+: blob ∧
    readItem .string blob 0 =
      .ok (known.toUTF8.toList, (frame known.toUTF8.toList).length) ∧
    unpack (List.replicate (Material.publicCount a) .framedInteger) blob
      (frame known.toUTF8.toList).length = .ok (bodies.map frame, blob.length) := by
  obtain ⟨⟨name, form, rfl⟩, short⟩ := h
  obtain ⟨named, a, supported, count⟩ := mem_wireForms_iff.mp form
  refine ⟨name, a, named, supported, count.symm, List.prefix_append _ _, ?_, ?_⟩
  · exact readItem_eq_ok_iff.mpr ⟨rfl, _, _, rfl, name_short named, rfl, by simp⟩
  · refine unpack_eq_ok_iff.mpr ⟨?_, bodies, [], by simp [count], short, ?_, ?_, ?_⟩
    · intro code member
      rw [List.eq_of_mem_replicate member]
      rfl
    · rw [List.drop_left' rfl, List.append_nil]
    · exact (zipWith_view count.symm).symm
    · rw [List.length_append]

theorem importBlob_of_spells {blob t bodies} (h : Spells blob t bodies) :
    ∃ a, t.algorithm? = some a ∧ bodies.length = Material.publicCount a ∧
      importBlob blob = .ok (ofPublic t a (bodies.map Bytes.toNat)) := by
  obtain ⟨known, a, named, supported, count, _, start, rest⟩ := h.goes
  have built := build_frames supported count h.short
  refine ⟨a, supported, count, ?_⟩
  simp only [importBlob_behind_name named supported start, rest, if_true, List.map_map]
  exact built

theorem spells_of_frames {name after : Bytes} {a items stop}
    (supported : (KeyType.ofNameValue (.bytes name)).algorithm? = some a)
    (rest : unpack (List.replicate (Material.publicCount a) .framedInteger)
      (frame name ++ after) (frame name).length = .ok (items, stop))
    (ends : stop = (frame name ++ after).length) :
    ∃ bodies, Spells (frame name ++ after) (KeyType.ofNameValue (.bytes name)) bodies := by
  obtain ⟨_, bodies, behind, count, short, located, _, stopped⟩ := unpack_eq_ok_iff.mp rest
  rw [List.drop_left' rfl] at located
  subst located
  -- Reading stopped at the end of the blob, so nothing stands behind the last frame.
  have nothing : behind = [] := by
    simp only [ends, List.length_append] at stopped
    exact List.length_eq_zero_iff.mp (by omega)
  obtain ⟨known, named⟩ := name?_of_algorithm? supported
  have spelled : name = known.toUTF8.toList := (KeyType.ofNameValue_eq_iff named name).mp rfl
  refine ⟨bodies, ⟨known, mem_wireForms_iff.mpr ⟨named, a, supported, ?_⟩, ?_⟩, short⟩
  · rw [count, List.length_replicate]
  · rw [nothing, List.append_nil, ← spelled]

/-- What is read was spelled; otherwise the failure says how far the spelling went. -/
theorem importBlob_cases (blob : Bytes) :
    (∃ t bodies, Spells blob t bodies) ∨
      importBlob blob = .error (.malformedInteger .truncatedName) ∨
      (∃ name, importBlob blob = .error (.unsupportedAlgorithm (.wireName name))) ∨
      (∃ name, importBlob blob = .error (.malformedInteger (.truncatedKey name))) ∨
      ∃ count, importBlob blob = .error (.malformedInteger (.trailingBytes count)) := by
  cases start : readItem .string blob 0 with
  | error _ =>
      right; left
      simp only [importBlob, start]
  | ok read =>
      obtain ⟨name, offset⟩ := read
      obtain ⟨_, _, after, located, small, rfl, rfl⟩ := readItem_eq_ok_iff.mp start
      simp only [Nat.zero_add, List.drop_zero] at start located
      subst located
      cases supported : (KeyType.ofNameValue (.bytes name)).algorithm? with
      | none =>
          right; right; left
          exact ⟨name, by simp only [importBlob, start, algorithm?_known, supported]⟩
      | some a =>
          cases rest : unpack (List.replicate (Material.publicCount a) .framedInteger)
              (frame name ++ after) (frame name).length with
          | error _ =>
              right; right; right; left
              refine ⟨(KeyTag.known (KeyType.ofNameValue (.bytes name))).label, ?_⟩
              simp only [importBlob, start, algorithm?_known, supported, rest]
          | ok read =>
              obtain ⟨items, stop⟩ := read
              by_cases ends : stop = (frame name ++ after).length
              · exact .inl ⟨_, spells_of_frames supported rest ends⟩
              · right; right; right; right
                refine ⟨(frame name ++ after).length - stop, ?_⟩
                simp only [importBlob, start, algorithm?_known, supported, rest, if_neg ends]

theorem spells_of_importBlob {blob key} (h : importBlob blob = .ok key) :
    ∃ t bodies, Spells blob t bodies := by
  rcases importBlob_cases blob with spells | other | ⟨_, other⟩ | ⟨_, other⟩ | ⟨_, other⟩
  · exact spells
  all_goals
    rw [other] at h
    cases h

theorem ofPublic_of_importBlob {blob key} (h : importBlob blob = .ok key) :
    ∃ t a numbers, t.algorithm? = some a ∧ numbers.length = Material.publicCount a ∧
      key = ofPublic t a numbers := by
  obtain ⟨t, bodies, spells⟩ := spells_of_importBlob h
  obtain ⟨a, supported, count, read⟩ := importBlob_of_spells spells
  exact ⟨t, a, bodies.map Bytes.toNat, supported, by rw [List.length_map, count],
    Except.ok.inj (h.symm.trans read)⟩

end Key

end SshKeys
