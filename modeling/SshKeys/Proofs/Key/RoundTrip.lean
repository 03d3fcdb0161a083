import SshKeys.Proofs.Key.Grammar

/-! # Public keys travel unharmed

A handle whose public half is whole writes a blob that spells its type and its public integers. So a
key that is written and read again keeps both, whatever private half it had, and the blob tells it
from every key that differs in one of them.
-/

namespace SshKeys.Key

-- Powers of natural numbers are those of the core library, whatever else is imported.
attribute [local instance (2000)] instPowNat

open Framed Outcome Payload

variable {key : Key} {t : KeyType} {m : Material} {numbers : List Nat}

/-- The public half of a handle is whole: its material belongs to the algorithm of its type, and
    every public integer is there, is not negative and fits a frame. Nothing is asked of other flags
    and of private integers. -/
structure IsWritable (key : Key) (t : KeyType) (m : Material) : Prop where
  isPublic : key.isPublic = true
  typed : key.tag.type? = some t
  filled : key.material = some m
  supported : t.algorithm? = some m.algorithm
  fields : ∀ field ∈ m.publicFields,
    ∃ n : Int, field = some n ∧ 0 ≤ n ∧ (Signed.encode n).length < 2 ^ (32 : Nat)

theorem length_publicFields (m : Material) :
    m.publicFields.length = Material.publicCount m.algorithm := by
  cases m <;> rfl

theorem exists_numbers {fields : List (Option Int)}
    (h : ∀ field ∈ fields,
      ∃ n : Int, field = some n ∧ 0 ≤ n ∧ (Signed.encode n).length < 2 ^ (32 : Nat)) :
    ∃ numbers : List Nat, fields = numbers.map (fun (n : Nat) => some (n : Int)) ∧
      ∀ n ∈ numbers, (Signed.encode n).length < 2 ^ (32 : Nat) := by
  induction fields with
  | nil => exact ⟨[], rfl, by simp⟩
  | cons field fields ih =>
      obtain ⟨⟨n, rfl, nonneg, short⟩, others⟩ := List.forall_mem_cons.mp h
      obtain ⟨numbers, rfl, shorts⟩ := ih others
      obtain ⟨k, rfl⟩ := Int.eq_ofNat_of_zero_le nonneg
      exact ⟨k :: numbers, rfl, List.forall_mem_cons.mpr ⟨short, shorts⟩⟩

theorem encodeFields_numbers (numbers : List Nat) :
    encodeFields (numbers.map fun (n : Nat) => some (n : Int)) =
      .ok (numbers.map fun (n : Nat) => frame (Signed.encode n)) := by
  induction numbers with
  | nil => rfl
  | cons n numbers ih =>
      simp only [List.map_cons, encodeFields, encode_natCast, ih, Except.map]

theorem exportBlob_eq {known} (isPublic : key.isPublic = true) (typed : key.tag.type? = some t)
    (filled : key.material = some m) (supported : t.algorithm? = some m.algorithm)
    (named : t.name? = some known)
    (fields : m.publicFields = numbers.map fun (n : Nat) => some (n : Int)) :
    key.exportBlob = .ok (frame known.toUTF8.toList ++
      (numbers.map fun (n : Nat) => Signed.encode n).flatMap frame) := by
  have isSupported : key.tag.isSupported = true := by
    simp [KeyTag.isSupported, KeyTag.algorithm?, typed, supported]
  have label : key.tag.label = known := by
    simp [KeyTag.label, KeyTag.name?, typed, named]
  simp [exportBlob, isPublic, isSupported, filled, fields, encodeFields_numbers, label, Except.map,
    List.flatMap_def, Function.comp_def]

theorem map_toNat_encode (numbers : List Nat) :
    (numbers.map fun (n : Nat) => Signed.encode n).map Bytes.toNat = numbers := by
  induction numbers with
  | nil => rfl
  | cons n numbers ih => simp [ih]

theorem importBlob_numbers {a known} (named : t.name? = some known)
    (supported : t.algorithm? = some a) (count : numbers.length = Material.publicCount a)
    (short : ∀ n ∈ numbers, (Signed.encode (n : Nat)).length < 2 ^ (32 : Nat)) :
    importBlob (frame known.toUTF8.toList ++
      (numbers.map fun (n : Nat) => Signed.encode n).flatMap frame) =
        .ok (ofPublic t a numbers) := by
  have form : (t, known, (numbers.map fun (n : Nat) => Signed.encode n).length) ∈ wireForms :=
    mem_wireForms_iff.mpr ⟨named, a, supported, by rw [List.length_map, count]⟩
  obtain ⟨b, same, _, read⟩ :=
    importBlob_of_spells ⟨⟨known, form, rfl⟩, List.forall_mem_map.mpr short⟩
  cases supported.symm.trans same
  rw [map_toNat_encode] at read
  exact read

/-- A handle with a whole public half writes a blob that is read as its public integers. -/
theorem IsWritable.read_back (h : IsWritable key t m) :
    ∃ (known : String) (numbers : List Nat),
      t.name? = some known ∧ m.publicFields = numbers.map (fun (n : Nat) => some (n : Int)) ∧
      key.exportBlob = .ok (frame known.toUTF8.toList ++
        (numbers.map fun (n : Nat) => Signed.encode n).flatMap frame) ∧
      importBlob (frame known.toUTF8.toList ++
        (numbers.map fun (n : Nat) => Signed.encode n).flatMap frame) =
          .ok (ofPublic t m.algorithm numbers) := by
  obtain ⟨numbers, fields, short⟩ := exists_numbers h.fields
  obtain ⟨known, named⟩ := name?_of_algorithm? h.supported
  have count : numbers.length = Material.publicCount m.algorithm := by
    rw [← length_publicFields, fields, List.length_map]
  exact ⟨known, numbers, named, fields,
    exportBlob_eq h.isPublic h.typed h.filled h.supported named fields,
    importBlob_numbers named h.supported count short⟩

theorem ofPublic_inj {u a b} {numbers' : List Nat}
    (count : numbers.length = Material.publicCount a)
    (count' : numbers'.length = Material.publicCount b)
    (same : ofPublic t a numbers = ofPublic u b numbers') : t = u ∧ numbers = numbers' := by
  have types := congrArg (fun k => k.tag.type?) same
  have materials := congrArg Key.material same
  simp only [ofPublic, KeyTag.type?_known, Option.some.injEq] at types materials
  have fields := congrArg Material.publicFields materials
  rw [Material.publicFields_ofPublic count, Material.publicFields_ofPublic count'] at fields
  refine ⟨types, (List.map_inj_right ?_).mp fields⟩
  intro x y equal
  exact Int.ofNat_inj.mp (Option.some.inj equal)

theorem IsWritable.eq_of_exportBlob_eq {other u m'} (h : IsWritable key t m)
    (h' : IsWritable other u m') (same : other.exportBlob = key.exportBlob) :
    u = t ∧ m'.publicFields = m.publicFields := by
  obtain ⟨_, numbers, _, fields, written, read⟩ := h.read_back
  obtain ⟨_, numbers', _, fields', written', read'⟩ := h'.read_back
  rw [written, written'] at same
  rw [Except.ok.inj same, read] at read'
  have count := congrArg List.length fields
  have count' := congrArg List.length fields'
  rw [length_publicFields, List.length_map] at count count'
  obtain ⟨types, equal⟩ := ofPublic_inj count.symm count'.symm (Except.ok.inj read')
  exact ⟨types.symm, by rw [fields, fields', equal]⟩

/-- A handle with a whole public half is read back from its blob: the copy has the type, the name
    and the public integers of the handle and no private half, and it writes the same blob. Handles
    that write one blob agree on their types and public integers. -/
theorem exportBlob_roundTrip (h : IsWritable key t m) :
    (∃ blob copy, key.exportBlob = .ok blob ∧ importBlob blob = .ok copy ∧
      copy.tag = .known t ∧ copy.tag.type? = key.tag.type? ∧ copy.tag.name? = key.tag.name? ∧
      copy.flags = flagPublic ∧
      (∃ m', copy.material = some m' ∧ m'.algorithm = m.algorithm ∧
        m'.publicFields = m.publicFields ∧ ∀ field ∈ m'.privateFields, field = none) ∧
      copy.exportBlob = .ok blob) ∧
    ∀ other u m', IsWritable other u m' → other.exportBlob = key.exportBlob →
      u = t ∧ m'.publicFields = m.publicFields := by
  constructor
  · obtain ⟨known, numbers, named, fields, written, read⟩ := h.read_back
    have count : numbers.length = Material.publicCount m.algorithm := by
      rw [← length_publicFields, fields, List.length_map]
    have kept := Material.publicFields_ofPublic count
    have typed : (ofPublic t m.algorithm numbers).tag.type? = some t := KeyTag.type?_known t
    refine ⟨_, ofPublic t m.algorithm numbers, written, read, rfl, ?_, ?_, rfl,
      ⟨_, rfl, Material.algorithm_ofPublic .., kept.trans fields.symm,
        Material.privateFields_ofPublic m.algorithm numbers⟩, ?_⟩
    · rw [typed, h.typed]
    · rw [KeyTag.name?, KeyTag.name?, typed, h.typed]
    · have supported : t.algorithm? = some (Material.ofPublic m.algorithm numbers).algorithm := by
        rw [Material.algorithm_ofPublic, h.supported]
      exact exportBlob_eq rfl typed rfl supported named kept
  · intro other u m' h' same
    exact h.eq_of_exportBlob_eq h' same

/-- A handle with a private half as well. -/
theorem exportBlob_roundTrip_private :
    let m : Material := .rsa { e := some 3, n := some 33, d := some 7 }
    let key : Key := { tag := .known .rsa1, flags := 3, material := some m }
    IsWritable key .rsa1 m ∧ ∃ blob copy, key.exportBlob = .ok blob ∧ importBlob blob = .ok copy ∧
      copy.flags = flagPublic ∧ copy.exportBlob = .ok blob := by
  intro m key
  have whole : IsWritable key .rsa1 m := by
    refine ⟨rfl, rfl, rfl, rfl, List.forall_mem_cons.mpr ⟨⟨3, rfl, by decide, by decide⟩, ?_⟩⟩
    exact List.forall_mem_cons.mpr ⟨⟨33, rfl, by decide, by decide⟩, by simp⟩
  obtain ⟨⟨blob, copy, written, read, _, _, _, flags, _, again⟩, _⟩ := exportBlob_roundTrip whole
  exact ⟨whole, blob, copy, written, read, flags, again⟩

theorem build_error_cases {tag fields failure} (h : build tag fields = .error failure) :
    failure = .unsupportedAlgorithm (.keyType tag) ∨
      (∃ name needed given, failure = .malformedInteger (.integerCount name needed given)) ∨
      ∃ fault, failure = .malformedInteger (.integer fault) := by
  cases build_eq_iff.mp h with
  | unsupported => exact .inl rfl
  | miscounted => exact .inr (.inl ⟨_, _, _, rfl⟩)
  | undecodable => exact .inr (.inr ⟨_, rfl⟩)

theorem short_rewritten {bodies : List Bytes}
    (h : ∀ body ∈ bodies, body.length < 2 ^ (32 : Nat) - 1) :
    ∀ n ∈ bodies.map Bytes.toNat, (Signed.encode (n : Nat)).length < 2 ^ (32 : Nat) := by
  refine List.forall_mem_map.mpr ?_
  intro body member
  have room := h body member
  -- Leading zeros are lost, and at most the byte of the sign is gained.
  have narrow := Signed.width_le (Bytes.toNat_lt body)
  rw [Signed.length_encode]
  omega

/-- Every reading accepts exactly the spelled blobs. The key has the type and the bodies that are
    spelled, as unsigned numbers, and no private half; putting these bodies together by hand makes
    the same key, and so does reading what the key writes. Other blobs are malformed or name an
    algorithm that is not supported, and it is never the putting together that fails. -/
theorem importBlob_grammar (blob : Bytes) :
    ((∃ key, importBlob blob = .ok key) ↔ ∃ t bodies, Spells blob t bodies) ∧
    (∀ t bodies, Spells blob t bodies → ∃ key m, importBlob blob = .ok key ∧
      key.tag = .known t ∧ key.flags = flagPublic ∧ key.material = some m ∧
      t.algorithm? = some m.algorithm ∧
      m.publicFields = bodies.map (fun body => some (Bytes.toNat body : Int)) ∧
      (∀ field ∈ m.privateFields, field = none) ∧
      build (.known t) (bodies.map fun body => .bytes (frame body)) = .ok key ∧
      ((∀ body ∈ bodies, body.length < 2 ^ (32 : Nat) - 1) →
        ∃ again, key.exportBlob = .ok again ∧ importBlob again = .ok key)) ∧
    ((¬ ∃ t bodies, Spells blob t bodies) → ∃ failure, importBlob blob = .error failure ∧
      (failure.kind? = some .malformedInteger ∨ failure.kind? = some .unsupportedAlgorithm) ∧
      ∀ tag fields, build tag fields ≠ .error failure) := by
  refine ⟨⟨?_, ?_⟩, ?_, ?_⟩
  · intro given
    obtain ⟨key, read⟩ := given
    rcases importBlob_cases blob with spells | h | ⟨_, h⟩ | ⟨_, h⟩ | ⟨_, h⟩
    · exact spells
    all_goals
      rw [h] at read
      cases read
  · intro given
    obtain ⟨t, bodies, spells⟩ := given
    obtain ⟨_, _, _, read⟩ := importBlob_of_spells spells
    exact ⟨_, read⟩
  · intro t bodies spells
    obtain ⟨a, supported, count, read⟩ := importBlob_of_spells spells
    obtain ⟨known, named⟩ := name?_of_algorithm? supported
    have counted : (bodies.map Bytes.toNat).length = Material.publicCount a := by
      rw [List.length_map, count]
    have fields := Material.publicFields_ofPublic counted
    refine ⟨_, _, read, rfl, rfl, rfl, ?_, ?_, Material.privateFields_ofPublic _ _,
      build_frames supported count spells.short, ?_⟩
    · rw [Material.algorithm_ofPublic, supported]
    · rw [fields, List.map_map]
      rfl
    · intro room
      have typed := KeyTag.type?_known t
      exact ⟨_, exportBlob_eq rfl typed rfl (by rw [Material.algorithm_ofPublic, supported]) named
        fields, importBlob_numbers named supported counted (short_rewritten room)⟩
  · intro unspelled
    rcases importBlob_cases blob with spells | h | ⟨_, h⟩ | ⟨_, h⟩ | ⟨_, h⟩
    · exact absurd spells unspelled
    all_goals
      refine ⟨_, h, by simp [Failure.kind?], ?_⟩
      intro tag fields built
      rcases build_error_cases built with f | ⟨_, _, _, f⟩ | ⟨_, f⟩ <;> cases f

end SshKeys.Key
