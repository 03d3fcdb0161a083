import Mathlib.Data.List.Induction
import SshKeys.Key.Operation
import SshKeys.Proofs.Key.Copy
import SshKeys.Proofs.Key.Grammar
import SshKeys.Proofs.PrivateKey.Checked

/-! # Handles at rest

A handle is empty, public or private at any time, and whoever reads its flags knows which of its
integers are there. Every operation makes handles of these three kinds from handles of these kinds,
and a failing one makes none.
-/

namespace SshKeys

/-- Material for a type: all public integers, and of the private ones either that which cannot be
    done without or none at all. -/
structure Material.Fits (t : KeyType) (isPrivate : Bool) (m : Material) : Prop where
  typed : t.algorithm? = some m.algorithm
  complete : ∀ field ∈ m.publicFields, ∃ n : Nat, field = some (n : Int)
  secret : isPrivate = true → m.privateExponent ≠ none
  bare : isPrivate = false → ∀ field ∈ m.privateFields, field = none

/-- The three kinds of handle. -/
inductive Key.IsSettled (t : KeyType) : Key → Prop
  | vacant : IsSettled t (Key.empty (.known t))
  | onlyPublic {m : Material} (fits : m.Fits t false) :
    IsSettled t { tag := .known t, flags := flagPublic, material := some m }
  | withPrivate {m : Material} (fits : m.Fits t true) : IsSettled t (Loading.handle t m)

/-- What callers may rely on when they look at the flags of a handle. -/
structure Key.WellFormed (t : KeyType) (key : Key) : Prop where
  tag : key.tag = .known t
  name : key.tag.name? = t.name?
  flags : key.flags = 0 ∨ key.flags = flagPublic ∨ key.flags = flagPublic + flagPrivate
  vacant : key.material = none ↔ key.flags = 0
  typed : key.flags ≠ 0 → t = .dss ∨ t = .rsa ∨ t = .rsa1
  filled : ∀ m, key.material = some m → t.algorithm? = some m.algorithm ∧
    (∀ field ∈ m.publicFields, ∃ n : Nat, field = some (n : Int)) ∧
    (key.isPrivate = true → m.privateExponent ≠ none) ∧
    (key.isPrivate = false → ∀ field ∈ m.privateFields, field = none)

namespace Material

variable {t : KeyType} {m : Material}

theorem Fits.publicHalf {isPrivate : Bool} (h : m.Fits t isPrivate) :
    m.publicHalf.Fits t false where
  typed := by
    rw [h.typed]
    cases m <;> rfl
  complete := by
    rw [Key.publicFields_publicHalf]
    exact h.complete
  secret := nofun
  bare _ := Key.privateFields_publicHalf m

theorem Fits.supported {isPrivate : Bool} (h : m.Fits t isPrivate) :
    t = .dss ∨ t = .rsa ∨ t = .rsa1 := by
  have typed := h.typed
  cases t <;> simp [KeyType.algorithm?] at typed ⊢

theorem complete_of_numbers {numbers : List Nat}
    (h : m.publicFields = numbers.map fun (n : Nat) => some (n : Int)) :
    ∀ field ∈ m.publicFields, ∃ n : Nat, field = some (n : Int) := by
  intro field member
  rw [h] at member
  obtain ⟨n, _, rfl⟩ := List.mem_map.mp member
  exact ⟨n, rfl⟩

theorem fits_ofPublic {a : Algorithm} {numbers : List Nat} (typed : t.algorithm? = some a)
    (count : numbers.length = publicCount a) : (ofPublic a numbers).Fits t false where
  typed := by rw [algorithm_ofPublic, typed]
  complete := complete_of_numbers (publicFields_ofPublic count)
  secret := nofun
  bare _ := privateFields_ofPublic a numbers

theorem IsChecked.fits [Engine] {a : Algorithm} (h : IsChecked a m) (typed : t.algorithm? = some a)
    (whole : m.hasPrivate = true) : m.Fits t true where
  typed := by rw [h.algorithm_eq, typed]
  complete := by
    obtain ⟨_, numbers⟩ := h.publicFields_eq
    exact complete_of_numbers numbers
  secret _ := Key.hasPrivate_iff.mp whole
  bare := nofun

end Material

namespace Key

variable {t : KeyType} {key copied : Key}

theorem IsSettled.copy {demote : Bool} (h : key.IsSettled t) (made : key.copy demote = .ok copied) :
    copied.IsSettled t := by
  obtain ⟨_, m, filled, _, _, rfl⟩ := copy_eq_ok_iff.mp made
  cases h with
  | vacant => cases filled
  | onlyPublic fits =>
      cases filled
      cases demote with
      | true => exact .onlyPublic fits.publicHalf
      | false => exact .onlyPublic fits.publicHalf
  | withPrivate fits =>
      cases filled
      cases demote with
      | true => exact .onlyPublic fits.publicHalf
      | false => exact .withPrivate fits

theorem IsSettled.free (h : key.IsSettled t) : key.free.1.IsSettled t := by
  cases h <;> exact .vacant

theorem IsSettled.wellFormed (h : key.IsSettled t) : key.WellFormed t := by
  cases h with
  | vacant =>
      refine ⟨rfl, name?_known t, .inl rfl, by simp [empty], by simp [empty], ?_⟩
      intro m filled
      cases filled
  | onlyPublic fits =>
      refine ⟨rfl, name?_known t, .inr (.inl rfl), by simp [flagPublic],
        fun _ => fits.supported, ?_⟩
      intro m filled
      cases filled
      refine ⟨fits.typed, fits.complete, ?_, fun _ => fits.bare rfl⟩
      simp [isPrivate, flagPublic]
  | withPrivate fits =>
      refine ⟨rfl, name?_known t, .inr (.inr rfl),
        by simp [Loading.handle, flagPublic, flagPrivate], fun _ => fits.supported, ?_⟩
      intro m filled
      cases filled
      refine ⟨fits.typed, fits.complete, fun _ => fits.secret rfl, ?_⟩
      simp [isPrivate, Loading.handle, flagPublic, flagPrivate]

end Key

namespace Operation

section Engine

variable [Engine] {op : Operation} {keys : List Key} {key : Key} {place : Nat}

@[simp] theorem run_nil : run [] = [] := rfl

@[simp] theorem run_append_singleton (ops : List Operation) (op : Operation) :
    run (ops ++ [op]) = op.apply (run ops) := by
  simp [run]

theorem apply_of_outcome (made : op.outcome? keys = some (.ok key)) :
    op.apply keys = keys ++ [key] := by
  unfold apply
  split
  · cases made
  · rw [made]

/-- An operation frees a handle, makes one behind all others, or changes nothing. -/
theorem apply_cases (op : Operation) (keys : List Key) :
    (∃ target, op = .free target ∧ op.apply keys = keys.modify target fun key => key.free.1) ∨
      (∃ key, op.outcome? keys = some (.ok key) ∧ op.apply keys = keys ++ [key]) ∨
      (∀ target, op ≠ .free target) ∧ op.apply keys = keys := by
  unfold apply
  split
  · exact .inl ⟨_, rfl, rfl⟩
  · next other =>
      split
      · next made => exact .inr (.inl ⟨_, made, rfl⟩)
      · exact .inr (.inr ⟨fun target same => other target same, rfl⟩)

/-- A handle after an operation was there before and is not the one that the operation freed, or it
    is the one that was freed, or it stands behind all others and was made. -/
theorem getElem?_apply (found : (op.apply keys)[place]? = some key) :
    (keys[place]? = some key ∧ op ≠ .free place) ∨
      (∃ old, keys[place]? = some old ∧ op = .free place ∧ key = old.free.1) ∨
      place = keys.length ∧ op.outcome? keys = some (.ok key) := by
  rcases apply_cases op keys with ⟨target, rfl, same⟩ | ⟨last, made, same⟩ | ⟨other, same⟩
  · rw [same, List.getElem?_modify] at found
    obtain ⟨old, there, rfl⟩ := Option.map_eq_some_iff.mp found
    by_cases here : target = place
    · subst here
      exact .inr (.inl ⟨old, there, rfl, by simp⟩)
    · exact .inl ⟨by simp [here, there], by simpa using here⟩
  · rw [same] at found
    by_cases inside : place < keys.length
    · rw [List.getElem?_append_left inside] at found
      refine .inl ⟨found, ?_⟩
      rintro rfl
      cases made
    · have behind : place = keys.length := by
        obtain ⟨below, _⟩ := List.getElem?_eq_some_iff.mp found
        rw [List.length_append, List.length_singleton] at below
        omega
      subst behind
      rw [List.getElem?_concat_length] at found
      exact .inr (.inr ⟨rfl, Option.some.inj found ▸ made⟩)
  · exact .inl ⟨same ▸ found, other place⟩

theorem getElem?_apply_of_ne (found : keys[place]? = some key) (other : op ≠ .free place) :
    (op.apply keys)[place]? = some key := by
  obtain ⟨inside, _⟩ := List.getElem?_eq_some_iff.mp found
  rcases apply_cases op keys with ⟨target, rfl, same⟩ | ⟨last, _, same⟩ | ⟨_, same⟩
  · have elsewhere : target ≠ place := fun here => other (here ▸ rfl)
    simp [same, found, elsewhere]
  · rw [same, List.getElem?_append_left inside, found]
  · rw [same, found]

theorem mem_apply (h : key ∈ op.apply keys) : key ∈ keys ∨
    (∃ old ∈ keys, key = old.free.1) ∨ op.outcome? keys = some (.ok key) := by
  obtain ⟨place, found⟩ := List.mem_iff_getElem?.mp h
  rcases getElem?_apply found with ⟨kept, _⟩ | ⟨old, there, _, rfl⟩ | ⟨_, made⟩
  · exact .inl (List.mem_of_getElem? kept)
  · exact .inr (.inl ⟨old, List.mem_of_getElem? there, rfl⟩)
  · exact .inr (.inr made)

/-- A property that freeing keeps, and that every handle has that is made next to handles with the
    property, holds of all handles at any time. -/
theorem forall_mem_run {P : Key → Prop} (freed : ∀ key, P key → P key.free.1)
    (made : ∀ op keys key, (∀ key ∈ keys, P key) → outcome? keys op = some (.ok key) → P key)
    (ops : List Operation) : ∀ key ∈ run ops, P key := by
  -- By induction on the last operation: what it does is said by the handles right before it.
  induction ops using List.reverseRecOn with
  | nil => simp
  | append_singleton ops op ih =>
      rw [run_append_singleton]
      intro key member
      rcases mem_apply member with kept | ⟨old, there, rfl⟩ | new
      · exact ih key kept
      · exact freed old (ih old there)
      · exact made op _ key ih new

/-- A handle is made empty, of public integers, of material that was checked as a private key, or as
    a copy of another one. -/
theorem outcome_cases (made : op.outcome? keys = some (.ok key)) :
    (∃ t, op = .create t ∧ key = Key.empty (.known t)) ∨
      (∃ (t : KeyType) (a : Algorithm) (numbers : List Nat), t.algorithm? = some a ∧
        numbers.length = Material.publicCount a ∧ key = Key.ofPublic t a numbers) ∨
      (∃ (t : KeyType) (a : Algorithm) (m : Material), t.algorithm? = some a ∧ m.IsChecked a ∧
        m.hasPrivate = true ∧ key = Loading.handle t m) ∨
      ∃ old ∈ keys, ∃ demote, old.copy demote = .ok key := by
  cases op with
  | create t => exact .inl ⟨t, rfl, (Except.ok.inj (Option.some.inj made)).symm⟩
  | build t fields =>
      obtain ⟨a, numbers, typed, count, same⟩ := Key.ofPublic_of_build (Option.some.inj made)
      exact .inr (.inl ⟨t, a, numbers, typed, count, same⟩)
  | importBlob blob => exact .inr (.inl (Key.ofPublic_of_importBlob (Option.some.inj made)))
  | load text passphrase callback session typed =>
      obtain ⟨_, a, m, supported, checked, whole, same⟩ :=
        Loading.handle_of_load (Option.some.inj made)
      exact .inr (.inr (.inl ⟨_, a, m, supported, checked, whole, same⟩))
  | copy source demote =>
      obtain ⟨old, found, copied⟩ := Option.map_eq_some_iff.mp made
      exact .inr (.inr (.inr ⟨old, List.mem_of_getElem? found, demote, copied⟩))
  | free target => cases made

theorem isSettled_outcome (h : ∀ key ∈ keys, ∃ t, key.IsSettled t)
    (made : op.outcome? keys = some (.ok key)) : ∃ t, key.IsSettled t := by
  rcases outcome_cases made with ⟨t, _, rfl⟩ | ⟨t, a, numbers, typed, count, rfl⟩ |
    ⟨t, a, m, supported, checked, whole, rfl⟩ | ⟨old, there, demote, copied⟩
  · exact ⟨t, .vacant⟩
  · exact ⟨t, .onlyPublic (Material.fits_ofPublic typed count)⟩
  · exact ⟨t, .withPrivate (checked.fits supported whole)⟩
  · obtain ⟨t, settled⟩ := h old there
    exact ⟨t, settled.copy copied⟩

theorem isSettled_run (ops : List Operation) : ∀ key ∈ run ops, ∃ t, key.IsSettled t := by
  refine forall_mem_run ?_ ?_ ops
  · intro key given
    obtain ⟨t, settled⟩ := given
    exact ⟨t, settled.free⟩
  · intro op keys key settled made
    exact isSettled_outcome settled made

/-- After operations of any kind, succeeding and failing, all handles are well formed. -/
theorem wellFormed_run (ops : List Operation) : ∀ key ∈ run ops, ∃ t, key.WellFormed t := by
  intro key member
  obtain ⟨t, settled⟩ := isSettled_run ops key member
  exact ⟨t, settled.wellFormed⟩

end Engine

section Plain

attribute [local instance] Engine.plain

/-- A public handle, its copy, and the former once it was freed. -/
theorem wellFormed_run_copied :
    let fields : List Value := [.bytes (Framed.frame [3]), .bytes (Framed.frame [33])]
    let keys := run [.create .ecdsa, .build .rsa fields, .copy 1 false, .free 1]
    ∃ freed ∈ keys, ∃ copied ∈ keys, freed.flags = 0 ∧ copied.flags = flagPublic ∧
      (∃ t, freed.WellFormed t) ∧ ∃ t, copied.WellFormed t := by
  intro fields keys
  let made := Key.ofPublic .rsa .rsa [3, 33]
  have all : keys = [Key.empty (.known .ecdsa), made.free.1, made] := rfl
  have freed : made.free.1 ∈ keys := by simp [all]
  have copied : made ∈ keys := by simp [all]
  exact ⟨_, freed, _, copied, rfl, rfl, wellFormed_run _ _ freed, wellFormed_run _ _ copied⟩

end Plain

end Operation

end SshKeys
