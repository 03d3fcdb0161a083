import SshKeys.Key.Request
import SshKeys.Proofs.Key.Containment

/-! # The gates in front of signing

Four gates are looked at one after the other: the type, the order of DSS material, the flag of the
private half and the length of the digest. The first that is closed settles how signing fails, and
the arithmetic is reached behind the last one only. What it makes is a signature of the type of the
handle, and the handle is what it was.
-/

namespace SshKeys

open Outcome

/-- A signature of a type: it holds what the type selects, and that only. -/
inductive Signature.IsOf (tag : KeyTag) : Signature → Prop
  | rsa {bytes : Bytes} (typed : tag.type? = some .rsa ∨ tag.type? = some .rsa1) :
    IsOf tag { tag := tag, rsa := some (.bytes bytes), dss := none }
  | dss {r t : Int} (typed : tag.type? = some .dss) :
    IsOf tag { tag := tag, rsa := none, dss := some (.pair r t) }

namespace Key

variable {key : Key} {draw : Draw} {digest : Bytes} {s : Signature} {failure : Failure} {bits : Nat}

/-- One of the three types that there is something to sign with for. -/
def HasSigningType (key : Key) : Prop :=
  key.tag.type? = some .dss ∨ key.tag.type? = some .rsa ∨ key.tag.type? = some .rsa1

/-- A DSS handle whose order is there and has another size than the wire form is made for. -/
structure HasOtherOrder (key : Key) (bits : Nat) : Prop where
  typed : key.tag.type? = some .dss
  order : ∃ m q, key.material = some (.dss m) ∧ m.q = some q ∧ bitLength q.natAbs = bits
  other : bits ≠ 160

/-- The failure of the first gate that is closed. The second is looked at whatever the flags and the
    digest are, and each of the last two only where all before it are open. -/
inductive StopsWith (key : Key) (digest : Bytes) : Failure → Prop
  | type (other : ¬ key.HasSigningType) :
    StopsWith key digest (.unsupportedAlgorithm (.keyType key.tag))
  | order {bits : Nat} (other : key.HasOtherOrder bits) :
    StopsWith key digest (.unsupportedAlgorithm (.subgroupSize "ssh-dss" bits))
  | flag (typed : key.HasSigningType) (fit : ∀ bits, ¬ key.HasOtherOrder bits)
      (onlyPublic : key.isPrivate = false) :
    StopsWith key digest (.signingFailed (.noPrivateMaterial key.tag.label))
  | digest (typed : key.HasSigningType) (fit : ∀ bits, ¬ key.HasOtherOrder bits)
      (isPrivate : key.isPrivate = true) (other : digest.length ≠ 20) :
    StopsWith key digest (.signingFailed (.digestLength digest.length 20))

/-- Signing ends as the arithmetic of the material does: with the signature that is made, or with
    the failure for a fault in making it. -/
def EndsInArithmetic [Engine] (key : Key) (draw : Draw) (digest : Bytes) : Prop :=
  key.sign draw digest = (key.signWith draw digest).mapError key.signFailure

theorem isSupported_iff : key.tag.isSupported = true ↔ key.HasSigningType := by
  rw [KeyTag.isSupported, Option.isSome_iff_exists]
  constructor
  · rintro ⟨algorithm, selected⟩
    cases algorithm with
    | dss => exact .inl (algorithm?_eq_dss_iff.mp selected)
    | rsa => exact .inr (algorithm?_eq_rsa_iff.mp selected)
  · rintro (typed | typed)
    · exact ⟨_, algorithm?_eq_dss_iff.mpr typed⟩
    · exact ⟨_, algorithm?_eq_rsa_iff.mpr typed⟩

theorem unfitOrderBits?_eq_some_iff (own : key.HoldsOwn) :
    key.unfitOrderBits? = some bits ↔ key.HasOtherOrder bits := by
  constructor
  · intro unfit
    unfold unfitOrderBits? at unfit
    split at unfit
    · next typed =>
        split at unfit
        · next q found =>
            obtain ⟨m, filled, order⟩ := Option.bind_eq_some_iff.mp found
            split at unfit
            · cases unfit
            · next other =>
                cases unfit
                cases m with
                | rsa m => cases own _ _ typed filled
                | dss m => exact ⟨algorithm?_eq_dss_iff.mp typed, ⟨m, q, filled, order, rfl⟩, other⟩
        · cases unfit
    · cases unfit
  · rintro ⟨typed, ⟨m, q, filled, order, rfl⟩, other⟩
    have wide : bitLength q.natAbs ≠ wireOrderBits := other
    simp [unfitOrderBits?, algorithm?_eq_dss_iff.mpr typed, filled, Material.orderField, order,
      wide]

theorem unfitOrderBits?_eq_none_iff (own : key.HoldsOwn) :
    key.unfitOrderBits? = none ↔ ∀ bits, ¬ key.HasOtherOrder bits := by
  simp only [Option.eq_none_iff_forall_ne_some, ne_eq, unfitOrderBits?_eq_some_iff own]

theorem passesGates_iff (own : key.HoldsOwn) :
    key.PassesGates digest ↔ ∀ failure, ¬ key.StopsWith digest failure := by
  constructor
  · intro passes failure stops
    have typed := isSupported_iff.mp passes.supported
    have fit := (unfitOrderBits?_eq_none_iff own).mp passes.fit
    cases stops with
    | type other => exact other typed
    | order other => exact fit _ other
    | flag _ _ onlyPublic => exact absurd passes.isPrivate (by simp [onlyPublic])
    | digest _ _ _ other => exact other passes.whole
  · intro opened
    have typed : key.HasSigningType := Classical.byContradiction fun other => opened _ (.type other)
    have fit : ∀ bits, ¬ key.HasOtherOrder bits := fun bits other => opened _ (.order other)
    have isPrivate : key.isPrivate = true :=
      Bool.of_not_eq_false fun onlyPublic => opened _ (.flag typed fit onlyPublic)
    have whole : digest.length = 20 :=
      Classical.byContradiction fun other => opened _ (.digest typed fit isPrivate other)
    exact ⟨isSupported_iff.mpr typed, (unfitOrderBits?_eq_none_iff own).mpr fit, isPrivate, whole⟩

theorem label_of_dss (typed : key.tag.type? = some .dss) : key.tag.label = "ssh-dss" := by
  rw [KeyTag.label, KeyTag.name?, typed]
  rfl

theorem StopsWith.ne_signFailure (stops : key.StopsWith digest failure) (f : Fault) :
    key.signFailure f ≠ failure := by
  unfold signFailure
  split
  · cases stops <;> exact nofun
  · cases stops <;> exact nofun

section Engine

variable [Engine]

theorem sign_of_stopsWith (own : key.HoldsOwn) (stops : key.StopsWith digest failure) :
    key.sign draw digest = .error failure := by
  unfold sign
  cases stops with
  | type other =>
      have unsupported : key.tag.isSupported = false :=
        Bool.of_not_eq_true fun supported => other (isSupported_iff.mp supported)
      simp [unsupported]
  | order other =>
      have supported := isSupported_iff.mpr (.inl other.typed)
      simp [supported, (unfitOrderBits?_eq_some_iff own).mpr other, label_of_dss other.typed]
  | flag typed fit onlyPublic =>
      have supported := isSupported_iff.mpr typed
      simp [supported, (unfitOrderBits?_eq_none_iff own).mpr fit, onlyPublic]
  | digest typed fit isPrivate other =>
      have supported := isSupported_iff.mpr typed
      have short : digest.length ≠ digestLength := other
      simp only [supported, (unfitOrderBits?_eq_none_iff own).mpr fit, isPrivate, Bool.not_true,
        Bool.false_eq_true, if_false, ne_eq, short, not_false_eq_true, if_true]
      rfl

theorem endsInArithmetic_iff (own : key.HoldsOwn) :
    key.EndsInArithmetic draw digest ↔ ∀ failure, ¬ key.StopsWith digest failure := by
  constructor
  · intro ends failure stops
    rw [EndsInArithmetic, sign_of_stopsWith own stops] at ends
    cases made : key.signWith draw digest with
    | ok s =>
        rw [made] at ends
        cases ends
    | error f =>
        rw [made] at ends
        exact stops.ne_signFailure f (Except.error.inj ends).symm
  · intro opened
    exact sign_of_passes ((passesGates_iff own).mpr opened)

theorem isOf_of_sign (own : key.HoldsOwn) (signed : key.sign draw digest = .ok s) :
    s.IsOf key.tag := by
  obtain ⟨m, data, filled, made, rfl⟩ := material_of_sign signed
  obtain ⟨a, supported⟩ := Option.isSome_iff_exists.mp (sign_eq_ok_iff.mp signed).1
  cases own a m supported filled
  cases m with
  | rsa m =>
      obtain ⟨bytes, _, rfl⟩ := map_eq_ok_iff.mp made
      rw [holding_of_rsa supported]
      exact .rsa (algorithm?_eq_rsa_iff.mp supported)
  | dss m =>
      obtain ⟨pair, _, rfl⟩ := map_eq_ok_iff.mp made
      rw [holding_of_dss supported]
      exact .dss (algorithm?_eq_dss_iff.mp supported)

end Engine

end Key

namespace Request

variable [Engine] {held : Holdings} {request : Request} {requests : List Request} {s : Signature}

theorem apply_eq {key : Key} (found : held.keys[request.place]? = some key) :
    request.apply held = { held with signatures :=
      held.signatures ++ (key.sign request.draw request.digest).toOption.toList } := by
  simp only [apply, outcome?, found, Option.map_some]
  cases key.sign request.draw request.digest with
  | ok s => rfl
  | error failure => simp [Except.toOption]

theorem apply_of_none (missing : held.keys[request.place]? = none) : request.apply held = held := by
  simp [apply, outcome?, missing]

theorem keys_apply (request : Request) (held : Holdings) :
    (request.apply held).keys = held.keys := by
  cases found : held.keys[request.place]? with
  | none => rw [apply_of_none found]
  | some key => rw [apply_eq found]

theorem mem_signatures_apply (member : s ∈ (request.apply held).signatures) :
    s ∈ held.signatures ∨ ∃ key ∈ held.keys, key.sign request.draw request.digest = .ok s := by
  cases found : held.keys[request.place]? with
  | none =>
      rw [apply_of_none found] at member
      exact .inl member
  | some key =>
      rw [apply_eq found] at member
      rcases List.mem_append.mp member with before | added
      · exact .inl before
      · exact .inr ⟨key, List.mem_of_getElem? found,
          toOption_eq_some_iff.mp (Option.mem_toList.mp added)⟩

theorem run_cons (request : Request) (requests : List Request) (held : Holdings) :
    run (request :: requests) held = run requests (request.apply held) :=
  rfl

/-- No run of requests changes a handle. -/
theorem keys_run (requests : List Request) (held : Holdings) :
    (run requests held).keys = held.keys := by
  induction requests generalizing held with
  | nil => rfl
  | cons request requests ih => rw [run_cons, ih, keys_apply]

/-- Whatever a run over handles with material of their own adds is a signature of the type of one of
    them, and was made of a digest that was asked for. -/
theorem mem_signatures_run (own : ∀ key ∈ held.keys, key.HoldsOwn)
    (member : s ∈ (run requests held).signatures) :
    s ∈ held.signatures ∨ ∃ request ∈ requests, ∃ key ∈ held.keys,
      key.sign request.draw request.digest = .ok s ∧ s.IsOf key.tag := by
  induction requests generalizing held with
  | nil => exact .inl member
  | cons request requests ih =>
      -- The later requests find the handles that the first one found.
      rw [run_cons] at member
      rcases ih (by rwa [keys_apply]) member with before | ⟨later, asked, key, there, made⟩
      · rcases mem_signatures_apply before with before | ⟨key, there, signed⟩
        · exact .inl before
        · exact .inr ⟨request, List.mem_cons_self, key, there, signed,
            Key.isOf_of_sign (own key there) signed⟩
      · rw [keys_apply] at there
        exact .inr ⟨later, List.mem_cons_of_mem _ asked, key, there, made⟩

end Request

namespace Key

/-- How a handle signs that holds material of its own algorithm or none. The first closed gate
    reports its failure, whatever is drawn, and signing ends as the arithmetic does exactly where no
    gate is closed. A signature has the type of the handle and holds what the type selects, and that
    only. The handle is left as it is, and so is whatever else is held. -/
theorem sign_outcome [Engine] {key : Key} (own : key.HoldsOwn) (draw : Draw) (digest : Bytes) :
    (∀ failure, key.StopsWith digest failure → key.sign draw digest = .error failure) ∧
    (key.EndsInArithmetic draw digest ↔ ∀ failure, ¬ key.StopsWith digest failure) ∧
    (∀ s, key.sign draw digest = .ok s → s.IsOf key.tag) ∧
    ∀ held place, held.keys[place]? = some key →
      ((⟨place, draw, digest⟩ : Request).apply held).keys = held.keys ∧
      ((⟨place, draw, digest⟩ : Request).apply held).signatures =
        held.signatures ++ (key.sign draw digest).toOption.toList := by
  refine ⟨fun failure => sign_of_stopsWith own, endsInArithmetic_iff own,
    fun s => isOf_of_sign own, ?_⟩
  intro held place found
  refine ⟨Request.keys_apply _ held, ?_⟩
  rw [Request.apply_eq found]

section Plain

attribute [local instance] Engine.plain

/-- A public DSS handle with an order of two bits and a digest without bytes: of three closed gates
    the one for the order reports. -/
theorem sign_outcome_narrow :
    let m : DssMaterial := ⟨some 7, some 3, some 2, some 2, none⟩
    let key : Key := { tag := .known .dss, flags := flagPublic, material := some (.dss m) }
    key.HoldsOwn ∧ ¬ key.EndsInArithmetic ⟨2, 2⟩ [] ∧
      key.sign ⟨2, 2⟩ [] = .error (.unsupportedAlgorithm (.subgroupSize "ssh-dss" 2)) := by
  intro m key
  have own : key.HoldsOwn := by
    rintro a _ ⟨⟩ ⟨⟩
    rfl
  have stops : key.StopsWith [] (.unsupportedAlgorithm (.subgroupSize "ssh-dss" 2)) :=
    .order ⟨rfl, ⟨m, 3, rfl, rfl, rfl⟩, by decide⟩
  obtain ⟨reports, ends, _⟩ := sign_outcome own ⟨2, 2⟩ []
  exact ⟨own, fun ended => ends.mp ended _ stops, reports _ stops⟩

end Plain

end Key

end SshKeys
