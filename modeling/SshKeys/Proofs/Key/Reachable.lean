import SshKeys.Proofs.Key.Handles
import SshKeys.Proofs.Key.PublicHalf
import SshKeys.Proofs.Key.Rechecking
import SshKeys.Proofs.Key.RoundTrip
import SshKeys.Proofs.PrivateKey.Consistency

/-! # Operations on handles that callers can have

Whatever callers do, a handle holds material from when it is filled until it is freed. As long as it
does, it can be written and copied, and otherwise both fail in the one way that is documented.
Signing fails in documented ways only: the private halves that handles come by have been checked,
and pass the checks of signing again.
-/

namespace SshKeys

-- Powers of natural numbers are those of the core library, whatever else is imported.
attribute [local instance (2000)] instPowNat

/-- A handle that is flagged as private has the private half of a checked key. -/
def Key.IsProven [Engine] (key : Key) : Prop :=
  key.isPrivate = true → ∃ a m, key.material = some m ∧ Material.IsChecked a m ∧ m.hasPrivate = true

/-- The handle at a place was filled when it was made and has not been freed since. -/
inductive Operation.IsLive [Engine] : List Operation → Nat → Prop
  | filled {ops op key} (made : op.outcome? (run ops) = some (.ok key))
    (fills : ∀ t, op ≠ .create t) : IsLive (ops ++ [op]) (run ops).length
  | kept {ops op place} (live : IsLive ops place) (other : op ≠ .free place) :
    IsLive (ops ++ [op]) place

/-- The public integers of a handle have bodies that fit a frame. -/
def Key.HasShortFields (key : Key) : Prop :=
  ∀ m, key.material = some m → ∀ n : Int, some n ∈ m.publicFields →
    (Signed.encode n).length < 2 ^ (32 : Nat)

theorem Material.publicHalf_eq_ofPublic {m : Material} {numbers : List Nat}
    (fields : m.publicFields = numbers.map fun (n : Nat) => some (n : Int)) :
    m.publicHalf = ofPublic m.algorithm numbers := by
  have half : m.publicHalf.algorithm = m.algorithm := by cases m <;> rfl
  rw [← half]
  exact eq_ofPublic ((Key.publicFields_publicHalf m).trans fields) (Key.privateFields_publicHalf m)

namespace Key

variable {t : KeyType} {key copied : Key} {m : Material} {demote : Bool}

theorem IsProven.copy [Engine] (h : key.IsProven) (made : key.copy demote = .ok copied) :
    copied.IsProven := by
  obtain ⟨_, m, filled, _, _, rfl⟩ := copy_eq_ok_iff.mp made
  intro flagged
  cases demote with
  | true =>
      rw [isPrivate_publicFlags rfl] at flagged
      cases flagged
  | false =>
      have own : key.isPrivate = true := flagged
      obtain ⟨a, m', filled', checked, whole⟩ := h own
      cases filled.symm.trans filled'
      exact ⟨a, m, by simp [own], checked, whole⟩

namespace IsSettled

theorem eq_empty (h : key.IsSettled t) (empty : key.material = none) :
    key = Key.empty (.known t) := by
  cases h with
  | vacant => rfl
  | onlyPublic | withPrivate => cases empty

theorem fits (h : key.IsSettled t) (filled : key.material = some m) : key.tag = .known t ∧
    key.isPublic = true ∧ key.publicFlags = flagPublic ∧ m.Fits t key.isPrivate := by
  cases h with
  | vacant => cases filled
  | onlyPublic fits | withPrivate fits =>
      cases filled
      exact ⟨rfl, rfl, rfl, fits⟩

theorem exists_copy (h : key.IsSettled t) (filled : key.material = some m) (demote : Bool) :
    ∃ copied, key.copy demote = .ok copied := by
  obtain ⟨tag, _, _, fits⟩ := h.fits filled
  have supported : key.tag.isSupported = true := by
    rw [tag]
    exact KeyTag.isSupported_of_algorithm? ((algorithm?_known t).trans fits.typed)
  refine ⟨_, copy_eq_ok_iff.mpr ⟨supported, m, filled, ?_, ?_, rfl⟩⟩
  · rw [hasAllPublic_iff]
    intro field member absent
    obtain ⟨n, present⟩ := fits.complete field member
    cases absent.symm.trans present
  · intro _ flagged
    exact hasPrivate_iff.mpr (fits.secret flagged)

theorem isWritable (h : key.IsSettled t) (filled : key.material = some m)
    (short : key.HasShortFields) : key.IsWritable t m := by
  obtain ⟨tag, isPublic, _, fits⟩ := h.fits filled
  refine ⟨isPublic, by rw [tag, KeyTag.type?_known], filled, fits.typed, ?_⟩
  intro field member
  obtain ⟨n, rfl⟩ := fits.complete field member
  exact ⟨n, rfl, Int.natCast_nonneg n, short m filled n member⟩

theorem exportBlob_copy (h : key.IsSettled t) (filled : key.material = some m)
    (short : key.HasShortFields) :
    ∃ blob, key.exportBlob = .ok blob ∧ importBlob blob = key.copy true := by
  obtain ⟨known, numbers, _, fields, written, read⟩ := (h.isWritable filled short).read_back
  obtain ⟨copied, made⟩ := h.exists_copy filled true
  obtain ⟨tag, _, flags, _⟩ := h.fits filled
  obtain ⟨supported, m', filled', whole, _⟩ := copy_eq_ok_iff.mp made
  cases filled.symm.trans filled'
  refine ⟨_, written, ?_⟩
  rw [read, copy_true supported filled whole, tag, flags, Material.publicHalf_eq_ofPublic fields]
  rfl

end IsSettled

theorem exportBlob_empty (t : KeyType) : (Key.empty (.known t)).exportBlob =
    .error (.noPublicMaterial (Key.empty (.known t)).tag.name?) := rfl

theorem copy_empty (t : KeyType) (demote : Bool) : ∃ failure,
    (Key.empty (.known t)).copy demote = .error failure ∧
      (failure.kind? = some .unsupportedAlgorithm ∨ failure.kind? = some .allocationFailed) := by
  unfold Key.copy
  split
  · exact ⟨_, rfl, .inl rfl⟩
  · exact ⟨_, rfl, .inr rfl⟩

theorem IsProven.sign_error_kind [Engine] (h : key.IsProven) {draw : Draw} {digest : Bytes}
    {failure : Failure} (failed : key.sign draw digest = .error failure) :
    failure.kind? = some .unsupportedAlgorithm ∨ failure.kind? = some .signingFailed := by
  rcases sign_error_cases failed with documented | rfl
  · exact documented
  · obtain ⟨passes, undefined⟩ := sign_eq_fault_iff.mp failed
    obtain ⟨a, m, filled, checked, whole⟩ := h passes.isPrivate
    exact absurd undefined ((signWith_failsOnly filled checked whole).ne_error (by simp))

end Key

namespace Operation

section Engine

variable [Engine] {op : Operation} {ops : List Operation} {keys : List Key} {key : Key}
  {place : Nat}

theorem isProven_outcome (h : ∀ key ∈ keys, key.IsProven)
    (made : op.outcome? keys = some (.ok key)) : key.IsProven := by
  rcases outcome_cases made with ⟨t, _, rfl⟩ | ⟨t, a, numbers, _, _, rfl⟩ |
    ⟨t, a, m, _, checked, whole, rfl⟩ | ⟨old, there, demote, copied⟩
  · exact nofun
  · exact nofun
  · exact fun _ => ⟨a, m, rfl, checked, whole⟩
  · exact (h old there).copy copied

theorem isProven_run (ops : List Operation) : ∀ key ∈ run ops, key.IsProven := by
  refine forall_mem_run ?_ ?_ ops
  · exact fun _ _ => nofun
  · intro op keys key proven made
    exact isProven_outcome proven made

theorem exists_material_outcome (made : op.outcome? keys = some (.ok key))
    (fills : ∀ t, op ≠ .create t) : ∃ m, key.material = some m := by
  rcases outcome_cases made with ⟨t, same, _⟩ | ⟨t, a, numbers, _, _, rfl⟩ |
    ⟨t, a, m, _, _, _, rfl⟩ | ⟨old, _, demote, copied⟩
  · exact absurd same (fills t)
  · exact ⟨_, rfl⟩
  · exact ⟨m, rfl⟩
  · obtain ⟨_, m, _, _, _, rfl⟩ := Key.copy_eq_ok_iff.mp copied
    exact ⟨_, rfl⟩

/-- Exactly the handles with material are live. -/
theorem isLive_iff : IsLive ops place ↔
    ∃ key m, (run ops)[place]? = some key ∧ key.material = some m := by
  constructor
  · intro live
    induction live with
    | @filled ops op key made fills =>
        obtain ⟨m, filled⟩ := exists_material_outcome made fills
        refine ⟨key, m, ?_, filled⟩
        rw [run_append_singleton, apply_of_outcome made, List.getElem?_concat_length]
    | @kept ops op place _ other ih =>
        obtain ⟨key, m, found, filled⟩ := ih
        exact ⟨key, m, by rw [run_append_singleton, getElem?_apply_of_ne found other], filled⟩
  · induction ops using List.reverseRecOn with
    | nil => simp
    | append_singleton ops op ih =>
        intro given
        obtain ⟨key, m, found, filled⟩ := given
        rw [run_append_singleton] at found
        rcases getElem?_apply found with ⟨there, other⟩ | ⟨old, _, _, rfl⟩ | ⟨rfl, made⟩
        · exact .kept (ih ⟨key, m, there, filled⟩) other
        · cases filled
        · refine .filled made ?_
          rintro t rfl
          cases made
          cases filled

/-- After operations of any kind, succeeding and failing, a live handle is written, as a blob that
    is read as its public half, and copied, and any other handle has nothing to write and nothing
    to copy. Signing makes a signature or fails in one of the documented ways. -/
theorem outcomes_run (found : (run ops)[place]? = some key) :
    (IsLive ops place →
      (key.HasShortFields →
        ∃ blob, key.exportBlob = .ok blob ∧ Key.importBlob blob = key.copy true) ∧
      ∀ demote, ∃ copied, key.copy demote = .ok copied) ∧
    (¬ IsLive ops place →
      key.exportBlob = .error (.noPublicMaterial key.tag.name?) ∧
      ∀ demote, ∃ failure, key.copy demote = .error failure ∧
        (failure.kind? = some .unsupportedAlgorithm ∨ failure.kind? = some .allocationFailed)) ∧
    ∀ draw digest, (∃ s, key.sign draw digest = .ok s) ∨
      ∃ failure, key.sign draw digest = .error failure ∧
        (failure.kind? = some .unsupportedAlgorithm ∨ failure.kind? = some .signingFailed) := by
  have member := List.mem_of_getElem? found
  obtain ⟨t, settled⟩ := isSettled_run ops key member
  refine ⟨?_, ?_, ?_⟩
  · intro live
    obtain ⟨_, m, there, filled⟩ := isLive_iff.mp live
    cases found.symm.trans there
    exact ⟨settled.exportBlob_copy filled, settled.exists_copy filled⟩
  · intro other
    have empty : key.material = none := by
      apply Option.eq_none_iff_forall_ne_some.mpr
      intro m filled
      exact other (isLive_iff.mpr ⟨key, m, found, filled⟩)
    obtain rfl := settled.eq_empty empty
    exact ⟨Key.exportBlob_empty t, Key.copy_empty t⟩
  · intro draw digest
    cases signed : key.sign draw digest with
    | ok s => exact .inl ⟨s, rfl⟩
    | error failure =>
        exact .inr ⟨failure, rfl, (isProven_run ops key member).sign_error_kind signed⟩

end Engine

section Plain

attribute [local instance] Engine.plain

/-- A handle that was freed, and the copy of one that was loaded. -/
theorem outcomes_run_loaded :
    let fields : List Value := [.bytes (Framed.frame [3]), .bytes (Framed.frame [33])]
    let load : Operation := .load (.text Loading.smallRsaText) .absent none none ""
    let ops : List Operation :=
      [.create .ecdsa, .build .rsa fields, load, .copy 2 false, .free 1]
    ∃ freed copied, (run ops)[1]? = some freed ∧ (run ops)[3]? = some copied ∧
      freed.exportBlob = .error (.noPublicMaterial freed.tag.name?) ∧
      (∃ blob, copied.exportBlob = .ok blob ∧ Key.importBlob blob = copied.copy true) ∧
      ∃ again, copied.copy false = .ok again := by
  intro fields load ops
  let empty := Key.empty (.known .ecdsa)
  let built := Key.ofPublic .rsa .rsa [3, 33]
  let loaded := Loading.handle .rsa (.rsa Loading.smallRsaMaterial)
  have two : run [.create .ecdsa, .build .rsa fields] = [empty, built] := rfl
  have loads : load.outcome? [empty, built] = some (.ok loaded) :=
    congrArg some Loading.load_smallRsaText
  have all : run ops = [empty, built.free.1, loaded, loaded] := by
    calc
      run ops = apply (.free 1) (apply (.copy 2 false)
          (load.apply (run [.create .ecdsa, .build .rsa fields]))) := by
        simp only [ops, run, List.foldl_cons, List.foldl_nil]
      _ = apply (.free 1) (apply (.copy 2 false) [empty, built, loaded]) := by
        rw [two, apply_of_outcome loads]
        rfl
      _ = [empty, built.free.1, loaded, loaded] := rfl
  have atOne : (run ops)[1]? = some built.free.1 := by rw [all]; rfl
  have atThree : (run ops)[3]? = some loaded := by rw [all]; rfl
  have dead : ¬ IsLive ops 1 := by
    rw [isLive_iff, atOne]
    simp [Key.free]
  have short : loaded.HasShortFields := by
    intro m filled n member
    cases filled
    rcases List.mem_pair.mp member with same | same <;> cases same <;> decide
  obtain ⟨live, _, _⟩ := outcomes_run atThree
  obtain ⟨written, copied⟩ := live (isLive_iff.mpr ⟨loaded, _, atThree, rfl⟩)
  exact ⟨_, loaded, atOne, atThree, ((outcomes_run atOne).2.1 dead).1, written short, copied false⟩

end Plain

end Operation

end SshKeys
