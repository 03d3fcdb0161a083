import Mathlib.Data.List.Forall2
import SshKeys.Text.Safe

/-! # What a mask shows

A mask has one character for each place of what it masks, whether that is a text, given by its code
points, or a byte string. `StandsFor` says which one. A text is masked as if it were written on
bytes first, and a mask has nothing left to hide.
-/

namespace SshKeys.Text

variable {c : Char} {code : Nat} {codes : List Nat} {bytes : Bytes} {text masked : List Char}

/-- A printable character of ASCII. -/
def IsPlain (c : Char) : Prop := 0x20 ≤ c.toNat ∧ c.toNat ≤ 0x7e

instance : DecidablePred IsPlain := fun c =>
  inferInstanceAs (Decidable (0x20 ≤ c.toNat ∧ c.toNat ≤ 0x7e))

/-- The blanks that lay out a text: tab, newline, return, vertical tab and form feed. -/
def layout : List Char := ['\t', '\n', '\r', '\x0b', '\x0c']

/-- A character that is safe to show: it is printable, or lays out the text. -/
def IsShowable (c : Char) : Prop := IsPlain c ∨ c ∈ layout

/-- The character that stands in a mask for a code: what is safe to show stands for itself, a
    question mark for what is beyond a byte, and a dollar sign for all other bytes. -/
inductive StandsFor : Nat → Char → Prop
  | itself {c : Char} (showable : IsShowable c) : StandsFor c.toNat c
  | beyond {code : Nat} (wide : 0xff < code) : StandsFor code '?'
  | hidden {code : Nat} (narrow : code ≤ 0xff) (unsafely : ∀ c, IsShowable c → c.toNat ≠ code) :
    StandsFor code '$'

/-- The bytes of a text given by its code points, one for each. What is beyond a byte becomes a
    question mark. -/
def lossyLatin1 (codes : List Nat) : Bytes :=
  codes.map fun code => if code < 256 then UInt8.ofNat code else 0x3f

/-- The codes at the places of a text or a byte string. -/
def codes? : Value → Option (List Nat)
  | .text s => some (s.toList.map Char.toNat)
  | v => v.bytes?.map fun bytes => bytes.map UInt8.toNat

theorem mem_layout_iff : c ∈ layout ↔ 9 ≤ c.toNat ∧ c.toNat ≤ 13 := by
  constructor
  · intro member
    simp only [layout, List.mem_cons, List.not_mem_nil, or_false] at member
    rcases member with rfl | rfl | rfl | rfl | rfl <;> decide
  · rintro ⟨low, high⟩
    have all : ∀ n < 14, 9 ≤ n → Char.ofNat n ∈ layout := by decide
    rw [← Char.ofNat_toNat c]
    exact all c.toNat (Nat.lt_succ_of_le high) low

theorem isShown_toNat_iff : isShown c.toNat = true ↔ IsShowable c := by
  rw [IsShowable, mem_layout_iff, IsPlain]
  simp [isShown]

theorem IsShowable.toNat_lt (h : IsShowable c) : c.toNat < 128 := by
  rw [IsShowable, mem_layout_iff, IsPlain] at h
  omega

theorem exists_of_isShown (shown : isShown code = true) : ∃ c, IsShowable c ∧ c.toNat = code := by
  have low : code < 127 := by
    simp only [isShown, Bool.or_eq_true, Bool.and_eq_true, decide_eq_true_eq] at shown
    omega
  have same : (Char.ofNat code).toNat = code :=
    (by decide : ∀ code < 127, (Char.ofNat code).toNat = code) code low
  exact ⟨Char.ofNat code, isShown_toNat_iff.mp (same.symm ▸ shown), same⟩

theorem maskCode_of_isShowable (h : IsShowable c) : maskCode c.toNat = c := by
  rw [maskCode, if_pos (isShown_toNat_iff.mpr h), Char.ofNat_toNat]

theorem standsFor_iff : StandsFor code c ↔ (if code < 256 then maskCode code else '?') = c := by
  constructor
  · intro stands
    cases stands with
    | itself showable =>
        rw [if_pos (Nat.lt_trans showable.toNat_lt (by decide)), maskCode_of_isShowable showable]
    | beyond wide => rw [if_neg (Nat.not_lt.mpr wide)]
    | hidden narrow unsafely =>
        have other : ¬ isShown code = true := by
          intro shown
          obtain ⟨c, showable, same⟩ := exists_of_isShown shown
          exact unsafely c showable same
        rw [if_pos (Nat.lt_succ_of_le narrow), maskCode, if_neg other]
  · rintro rfl
    split
    · next narrow =>
        by_cases shown : isShown code = true
        · obtain ⟨c, showable, rfl⟩ := exists_of_isShown shown
          rw [maskCode_of_isShowable showable]
          exact .itself showable
        · rw [maskCode, if_neg shown]
          refine .hidden (Nat.le_of_lt_succ narrow) ?_
          rintro c showable rfl
          exact shown (isShown_toNat_iff.mpr showable)
    · next wide => exact .beyond (Nat.not_lt.mp wide)

theorem StandsFor.isShowable (h : StandsFor code c) : IsShowable c := by
  cases h with
  | itself showable => exact showable
  | beyond => exact .inl (by decide)
  | hidden => exact .inl (by decide)

/-! ## Place by place -/

theorem maskCodePoints_eq_iff :
    maskCodePoints codes = masked ↔ List.Forall₂ StandsFor codes masked := by
  rw [maskCodePoints, ← List.forall₂_eq_eq_eq, List.forall₂_map_left_iff]
  constructor
  · exact List.Forall₂.imp fun _ _ => standsFor_iff.mpr
  · exact List.Forall₂.imp fun _ _ => standsFor_iff.mp

theorem isShowable_of_mem (member : c ∈ maskCodePoints codes) : IsShowable c := by
  obtain ⟨code, _, rfl⟩ := List.mem_map.mp member
  exact (standsFor_iff.mpr rfl).isShowable

theorem mask_of_isShowable (showable : ∀ c ∈ text, IsShowable c) : mask text = text := by
  rw [mask, maskCodePoints_eq_iff, List.forall₂_map_left_iff, List.forall₂_same]
  exact fun c member => .itself (showable c member)

theorem maskBytes_eq (bytes : Bytes) :
    maskBytes bytes = maskCodePoints (bytes.map UInt8.toNat) := by
  rw [maskBytes, maskCodePoints, List.map_map]
  refine List.map_congr_left fun b _ => ?_
  rw [Function.comp_apply, if_pos b.toNat_lt]

theorem maskBytes_lossyLatin1 (codes : List Nat) :
    maskBytes (lossyLatin1 codes) = maskCodePoints codes := by
  rw [maskBytes, lossyLatin1, maskCodePoints, List.map_map]
  refine List.map_congr_left fun code _ => ?_
  rw [Function.comp_apply]
  split
  · next narrow => rw [UInt8.toNat_ofNat', Nat.mod_eq_of_lt narrow]
  · decide

theorem mask?_of_codes? {v : Value} (spelled : codes? v = some codes) :
    mask? v = some (maskCodePoints codes) := by
  cases v with
  | text s =>
      cases spelled
      rfl
  | bytes b | buffer b =>
      cases spelled
      rw [mask?, maskBytes_eq]
  | _ => cases spelled

/-- Masking keeps places. A mask is told by what stands for the code at each of them, and masking is
    the same as writing the text on bytes, those beyond a byte as question marks, and masking the
    bytes. All of a mask is safe to show, so masking it again leaves it as it is. A text, given by
    any code points, and a byte string of either sort are masked in the same way. -/
theorem mask_places (codes : List Nat) :
    (∀ masked, maskCodePoints codes = masked ↔ List.Forall₂ StandsFor codes masked) ∧
    (maskCodePoints codes).length = codes.length ∧
    maskBytes (lossyLatin1 codes) = maskCodePoints codes ∧
    (∀ c ∈ maskCodePoints codes, IsShowable c) ∧
    mask (maskCodePoints codes) = maskCodePoints codes ∧
    ∀ v, codes? v = some codes → mask? v = some (maskCodePoints codes) ∧
      mask? (.text (String.ofList (maskCodePoints codes))) = some (maskCodePoints codes) := by
  have again : mask (maskCodePoints codes) = maskCodePoints codes :=
    mask_of_isShowable fun _ member => isShowable_of_mem member
  refine ⟨fun masked => maskCodePoints_eq_iff, ?_, maskBytes_lossyLatin1 codes,
    fun c member => isShowable_of_mem member, again, ?_⟩
  · rw [maskCodePoints, List.length_map]
  · intro v spelled
    refine ⟨mask?_of_codes? spelled, ?_⟩
    rw [mask?, String.toList_ofList, again]

/-- A letter, half of a surrogate pair, an escape and a sign beyond a byte. -/
example : maskCodePoints [0x61, 0xd800, 0x1b, 0x20ac] = "a?$?".toList := by decide

end SshKeys.Text
