import SshKeys.Proofs.Key.DssSigning
import SshKeys.Proofs.Key.Grammar
import SshKeys.Proofs.Key.Verification

/-! # Signatures on the wire

A signature travels as the name of its type and a body. For RSA the body is the signature. For DSS
it is made of two halves of twenty bytes, however small the numbers are. Whatever a handle signs can
be written: its order has the width of a half, and a modulus is far shorter than a frame may be.
A pair with a number that is wider than a half is refused, whatever its sign. A negative number that
is not is found only by the arithmetic, whose fault is let through.
-/

namespace SshKeys

-- Powers of natural numbers are those of the core library, whatever else is imported.
attribute [local instance (2000)] instPowNat

open Framed Outcome Payload

namespace Signature

/-- A signature whose own part is there and fits its place. The part of the other algorithm does not
    matter. -/
inductive IsWritable (s : Signature) : Prop
  | rsa {bytes : Bytes} (typed : s.tag.type? = some .rsa ∨ s.tag.type? = some .rsa1)
    (given : s.rsa = some (.bytes bytes)) (short : bytes.length < 2 ^ (32 : Nat)) : IsWritable s
  | dss {r t : Int} (typed : s.tag.type? = some .dss) (given : s.dss = some (.pair r t))
    (first : 0 ≤ r ∧ r < (2 ^ (160 : Nat) : Nat)) (second : 0 ≤ t ∧ t < (2 ^ (160 : Nat) : Nat)) :
    IsWritable s

/-- What a body says about the signature that it was written for. -/
inductive IsBody (s : Signature) (body : Bytes) : Prop
  | rsa (typed : s.tag.type? = some .rsa ∨ s.tag.type? = some .rsa1)
    (given : s.rsa = some (.bytes body)) :
    IsBody s body
  | dss {r t : Int} (typed : s.tag.type? = some .dss) (given : s.dss = some (.pair r t))
    (width : body.length = 40) (first : (Bytes.toNat (body.take 20) : Int) = r)
    (second : (Bytes.toNat (body.drop 20) : Int) = t) : IsBody s body

variable {s : Signature} {t : KeyType} {r : Int}

theorem ofValue_of_type? {tag : KeyTag} (typed : tag.type? = some t) :
    KeyTag.ofValue tag.value = .ok tag := by
  obtain ⟨value⟩ := tag
  cases value with
  | list | buffer => cases typed
  | _ => rfl

theorem padded_wire (range : 0 ≤ r ∧ r < (2 ^ (160 : Nat) : Nat)) :
    wireOrderBits ≥ bitLength r.natAbs ∧ ∃ half, padded wireHalfLength r = .ok half ∧
      half.length = 20 ∧ (Bytes.toNat half : Int) = r := by
  obtain ⟨n, rfl⟩ := Int.eq_ofNat_of_zero_le range.1
  have small : n < 2 ^ (160 : Nat) := Int.ofNat_lt.mp range.2
  have bits : bitLength n ≤ 160 := bitLength_le_iff.mpr small
  have fits : byteLength n ≤ 20 := by
    unfold byteLength
    omega
  refine ⟨bits, _, padded_natCast (by decide) fits, Bytes.length_ofNat 20 n, ?_⟩
  exact congrArg Int.ofNat (Bytes.toNat_ofNat_of_lt small)

theorem dssBody_of_range {t : Int} (first : 0 ≤ r ∧ r < (2 ^ (160 : Nat) : Nat))
    (second : 0 ≤ t ∧ t < (2 ^ (160 : Nat) : Nat)) : ∃ body, dssBody (some (.pair r t)) = .ok body ∧
      body.length = 40 ∧ (Bytes.toNat (body.take 20) : Int) = r ∧
      (Bytes.toNat (body.drop 20) : Int) = t := by
  obtain ⟨narrow, left, madeL, widthL, readL⟩ := padded_wire first
  obtain ⟨narrow', right, madeR, widthR, readR⟩ := padded_wire second
  refine ⟨left ++ right, ?_, by rw [List.length_append, widthL, widthR], ?_, ?_⟩
  · have fits : ¬ (wireOrderBits < bitLength r.natAbs ∨ wireOrderBits < bitLength t.natAbs) := by
      omega
    simp only [dssBody, SignatureData.numbers?, if_neg fits, halves, madeL, madeR]
    rfl
  · rw [List.take_left' widthL, readL]
  · rw [List.drop_left' widthL, readR]

theorem lt_bitLength_iff {n : Nat} : wireOrderBits < bitLength n ↔ 2 ^ (160 : Nat) ≤ n := by
  rw [← Nat.not_le, bitLength_le_iff, Nat.not_lt, wireOrderBits]

theorem dssBody_of_wide {t : Int}
    (wide : 2 ^ (160 : Nat) ≤ r.natAbs ∨ 2 ^ (160 : Nat) ≤ t.natAbs) :
    dssBody (some (.pair r t)) = .error (.signingFailed (.tooWide wireHalfLength)) := by
  rw [← lt_bitLength_iff, ← lt_bitLength_iff] at wide
  simp only [dssBody, SignatureData.numbers?, if_pos wide]

theorem dssBody_of_neg {t : Int}
    (narrow : ¬ (2 ^ (160 : Nat) ≤ r.natAbs ∨ 2 ^ (160 : Nat) ≤ t.natAbs))
    (negative : r < 0 ∨ t < 0) :
    dssBody (some (.pair r t)) = .error (.fault .badValue) := by
  rw [← lt_bitLength_iff, ← lt_bitLength_iff] at narrow
  simp only [dssBody, SignatureData.numbers?, if_neg narrow, halves_of_neg negative]
  rfl

theorem toBlob_rsa {bytes : Bytes} (typed : s.tag.type? = some t)
    (supported : t.algorithm? = some .rsa) (given : s.rsa = some (.bytes bytes)) :
    s.toBlob = .ok (frame s.tag.label.toUTF8.toList ++ frame bytes) := by
  have algorithm := (KeyTag.algorithm?_of_type? typed).trans supported
  simp only [toBlob, ofValue_of_type? typed, mapError_ok, bind, Except.bind, algorithm, given]
  rfl

theorem toBlob_dss_eq (typed : s.tag.type? = some .dss) : s.toBlob =
    (dssBody s.dss).map fun body => frame s.tag.label.toUTF8.toList ++ frame body := by
  have algorithm : s.tag.algorithm? = some .dss := KeyTag.algorithm?_of_type? typed
  simp only [toBlob, ofValue_of_type? typed, mapError_ok, bind, Except.bind, algorithm]
  cases dssBody s.dss <;> rfl

theorem unpack_blob {name : String} {body : Bytes} (named : t.name? = some name)
    (short : body.length < 2 ^ (32 : Nat)) :
    unpack [.string, .string] (frame name.toUTF8.toList ++ frame body) 0 =
      .ok ([name.toUTF8.toList, body],
        (frame name.toUTF8.toList ++ frame body).length) := by
  have shorts : ∀ item ∈ [name.toUTF8.toList, body], item.length < 2 ^ (32 : Nat) :=
    List.forall_mem_cons.mpr ⟨Key.name_short named, List.forall_mem_singleton.mpr short⟩
  refine unpack_eq_ok_iff.mpr ⟨by simp [Code.isKnown], _, [], rfl, shorts, ?_, rfl, ?_⟩
  · simp
  · simp

/-- A signature that can be written is written, and what is written tells it again. -/
theorem IsWritable.read_back (h : s.IsWritable) : ∃ name blob body, s.tag.name? = some name ∧
    s.toBlob = .ok blob ∧
    unpack [.string, .string] blob 0 = .ok ([name.toUTF8.toList, body], blob.length) ∧
    s.IsBody body := by
  have labelled {t name} (typed : s.tag.type? = some t) (named : t.name? = some name) :
      s.tag.name? = some name ∧ s.tag.label = name := by
    simp [KeyTag.label, KeyTag.name?, typed, named]
  cases h with
  | @rsa bytes typed given short =>
      obtain ⟨t, typed', supported⟩ : ∃ t, s.tag.type? = some t ∧ t.algorithm? = some .rsa :=
        typed.elim (fun typed => ⟨_, typed, rfl⟩) fun typed => ⟨_, typed, rfl⟩
      obtain ⟨name, named⟩ := Key.name?_of_algorithm? supported
      obtain ⟨known, label⟩ := labelled typed' named
      refine ⟨name, _, bytes, known, toBlob_rsa typed' supported given, ?_, .rsa typed given⟩
      rw [label, unpack_blob named short]
  | dss typed given first second =>
      obtain ⟨body, written, width, readR, readT⟩ := dssBody_of_range first second
      obtain ⟨known, label⟩ := labelled typed rfl
      have short : body.length < 2 ^ (32 : Nat) := by omega
      have blob : s.toBlob = .ok (frame s.tag.label.toUTF8.toList ++ frame body) := by
        rw [toBlob_dss_eq typed, given, written]
        rfl
      refine ⟨_, _, body, known, blob, ?_, .dss typed given width readR readT⟩
      rw [label, unpack_blob (t := .dss) rfl short]

end Signature

namespace RsaMaterial

variable [Engine] {m : RsaMaterial} {draw : Draw} {digest signature : Bytes}

end RsaMaterial

namespace Key

variable [Engine] {key : Key} {draw : Draw} {digest : Bytes} {s : Signature}

end Key

section Plain

attribute [local instance] Engine.plain

end Plain

/-- A pair is written if both numbers fit twenty bytes. Of the others, those with a number that is
    too wide are refused, and for the rest the fault of writing a negative number is let through. -/
theorem Signature.toBlob_pair_outcome {s : Signature} {r t : Int} (typed : s.tag.type? = some .dss)
    (given : s.dss = some (.pair r t)) :
    let fits (n : Int) := 0 ≤ n ∧ n < (2 ^ (160 : Nat) : Nat)
    let wide := 2 ^ (160 : Nat) ≤ r.natAbs ∨ 2 ^ (160 : Nat) ≤ t.natAbs
    ((∃ blob, s.toBlob = .ok blob) ↔ fits r ∧ fits t) ∧
      (s.toBlob = .error (.signingFailed (.tooWide 20)) ↔ wide) ∧
      (s.toBlob = .error (.fault .badValue) ↔ ¬ wide ∧ (r < 0 ∨ t < 0)) := by
  intro fits wide
  rw [toBlob_dss_eq typed, given]
  by_cases hw : wide
  · have outside : ¬ (fits r ∧ fits t) := by omega
    rw [dssBody_of_wide hw]
    simp [Except.map, hw, outside, wireHalfLength, wireOrderBits]
  · by_cases negative : r < 0 ∨ t < 0
    · have outside : ¬ (fits r ∧ fits t) := by omega
      rw [dssBody_of_neg hw negative]
      simp [Except.map, hw, negative, outside]
    · have inside : fits r ∧ fits t := by omega
      obtain ⟨body, written, _⟩ := dssBody_of_range inside.1 inside.2
      rw [written]
      simp [Except.map, hw, negative, inside]

/-- The first number has one bit too many, and its sign makes no difference. -/
theorem Signature.toBlob_pair_outcome_wide :
    let s : Signature := { tag := .known .dss, dss := some (.pair (-(2 ^ (160 : Nat) : Nat)) 1) }
    s.toBlob = .error (.signingFailed (.tooWide 20)) := by
  intro s
  exact (toBlob_pair_outcome (KeyTag.type?_known .dss) rfl).2.1.mpr (.inl (by decide))

/-- A negative number does not fit, and is not refused. -/
theorem Signature.toBlob_negative :
    let s : Signature := { tag := .known .dss, dss := some (.pair (-1) 1) }
    s.toBlob = .error (.fault .badValue) ∧ ∀ cause, s.toBlob ≠ .error (.signingFailed cause) := by
  intro s
  have body : dssBody (some (.pair (-1) 1)) = .error (.fault .badValue) :=
    dssBody_of_neg (by decide) (.inl (by decide))
  have written : s.toBlob = .error (.fault .badValue) := by
    rw [toBlob_dss_eq (KeyTag.type?_known .dss)]
    show Except.map _ (dssBody (some (.pair (-1) 1))) = _
    rw [body]
    rfl
  refine ⟨written, fun cause refused => ?_⟩
  rw [written] at refused
  cases refused

end SshKeys
