import SshKeys.Bytes

/-! # Characters as bytes

A text of which every character is below 256 has one byte for each of them. This is how such a text
is written, below any limit that its characters keep to, and its characters can be read off the
bytes again.
-/

namespace SshKeys.Bytes

variable {text : List Char}

/-- The bytes of a text of which every character is a byte. -/
def ofCodes (text : List Char) : Bytes := text.map fun c => UInt8.ofNat c.toNat

@[simp] theorem length_ofCodes (text : List Char) : (ofCodes text).length = text.length := by
  rw [ofCodes, List.length_map]

theorem isAscii_ofCodes (ascii : ∀ c ∈ text, c.toNat < 128) : (ofCodes text).isAscii = true := by
  rw [isAscii, ofCodes, List.all_map, List.all_eq_true]
  intro c member
  have small := ascii c member
  have code : (UInt8.ofNat c.toNat).toNat = c.toNat :=
    UInt8.toNat_ofNat_of_lt (Nat.lt_trans small (by decide))
  exact decide_eq_true (UInt8.lt_iff_toNat_lt.mpr (code.symm ▸ small))

theorem toChars_ofCodes (narrow : ∀ c ∈ text, c.toNat < 256) : (ofCodes text).toChars = text := by
  induction text with
  | nil => rfl
  | cons c text ih =>
      obtain ⟨first, others⟩ := List.forall_mem_cons.mp narrow
      have code : (UInt8.ofNat c.toNat).toNat = c.toNat := UInt8.toNat_ofNat_of_lt first
      have rest := ih others
      simp only [toChars, ofCodes, List.map_cons, code, Char.ofNat_toNat] at rest ⊢
      rw [rest]

theorem ofChars?_eq {limit : Nat} (kept : ∀ c ∈ text, c.toNat < limit) :
    ofChars? limit text = some (ofCodes text) := by
  induction text with
  | nil => rfl
  | cons c text ih =>
      obtain ⟨first, others⟩ := List.forall_mem_cons.mp kept
      have rest := ih others
      simp only [ofChars?] at rest
      simp only [ofChars?, List.mapM_cons, if_pos first, rest]
      rfl

theorem ofChars?_eq_none {limit : Nat} {c : Char} (member : c ∈ text) (beyond : limit ≤ c.toNat) :
    ofChars? limit text = none := by
  induction text with
  | nil => cases member
  | cons d text ih =>
      simp only [ofChars?] at ih
      simp only [ofChars?, List.mapM_cons]
      rcases List.mem_cons.mp member with rfl | behind
      · rw [if_neg (Nat.not_lt.mpr beyond)]
        rfl
      · rw [ih behind]
        split <;> rfl

end SshKeys.Bytes
