import Mathlib.Data.List.Forall2
import SshKeys.Proofs.Payload.Items
import SshKeys.Proofs.Text.Codes

/-! # What is packed is unpacked

Values that fit their codes are packed as frames, one behind the other. Reading finds the frames
wherever they stand, whatever is in front of them and behind them, and stops where they end. Of a
string item the content comes back, of a framed integer the whole frame, so that both kinds give
what was packed.
-/

namespace SshKeys.Payload

-- Powers of natural numbers are those of the core library, whatever else is imported.
attribute [local instance (2000)] instPowNat

open Framed

/-- What a value says: a text its codes, and a byte string itself. -/
def contentOf : Value → Bytes
  | .text s => Bytes.ofCodes s.toList
  | v => v.bytes?.getD []

/-- A value that a code can pack. Texts are ASCII, contents are no longer than a frame can be, and a
    framed integer is exactly one frame: a length of four bytes and as many bytes behind it. -/
inductive Fits : Code → Value → Prop
  | text {s : String} (ascii : ∀ c ∈ s.toList, c.toNat < 128)
    (short : s.toList.length < 2 ^ (32 : Nat)) : Fits .string (.text s)
  | bytes {v : Value} {b : Bytes} (given : v.bytes? = some b) (short : b.length < 2 ^ (32 : Nat)) :
    Fits .string v
  | framed {v : Value} {b : Bytes} (given : v.bytes? = some b) (whole : 4 ≤ b.length)
    (counted : Bytes.toNat (b.take 4) = (b.drop 4).length) : Fits .framedInteger v

variable {code : Code} {format : List Code} {v : Value} {values : List Value} {bytes : Bytes}

theorem contentOf_of_bytes? (given : v.bytes? = some bytes) : contentOf v = bytes := by
  cases v with
  | bytes | buffer => exact Option.some.inj given
  | _ => cases given

theorem stringItem_of_bytes? (given : v.bytes? = some bytes) :
    stringItem v = .ok (frame bytes) := by
  cases v with
  | bytes | buffer =>
      cases given
      rfl
  | _ => cases given

theorem Fits.exists_body (h : Fits code v) : code.isKnown = true ∧ ∃ body piece,
    body.length < 2 ^ (32 : Nat) ∧ code.view body = contentOf v ∧
      prepare code v = .ok piece ∧ piece.bytes? = some (frame body) := by
  cases h with
  | @text s ascii short =>
      have written : Bytes.ofAscii? s.toList = some (Bytes.ofCodes s.toList) :=
        Bytes.ofChars?_eq ascii
      refine ⟨rfl, Bytes.ofCodes s.toList, .bytes (frame (Bytes.ofCodes s.toList)), ?_, rfl, ?_,
        rfl⟩
      · rwa [Bytes.length_ofCodes]
      · rw [prepare, stringItem, written]
        rfl
  | @bytes v b given short =>
      refine ⟨rfl, b, .bytes (frame b), short, (contentOf_of_bytes? given).symm, ?_, rfl⟩
      rw [prepare, stringItem_of_bytes? given]
      rfl
  | @framed v b given whole counted =>
      obtain ⟨same, short⟩ := eq_frame whole counted
      refine ⟨rfl, b.drop 4, v, short, ?_, rfl, ?_⟩
      · rw [Code.view, ← same, contentOf_of_bytes? given]
      · rw [given, ← same]

theorem pack_cons {piece : Value} {packed : Bytes} (prepared : prepare code v = .ok piece)
    (given : piece.bytes? = some bytes) (others : pack format values = .ok packed) :
    pack (code :: format) (v :: values) = .ok (bytes ++ packed) := by
  simp only [pack] at others ⊢
  split at others
  · next count =>
      obtain ⟨pieces, prepareds, joined⟩ := Outcome.bind_eq_ok_iff.mp others
      have all : prepareAll (code :: format) (v :: values) = .ok (piece :: pieces) := by
        rw [prepareAll, prepared, prepareds]
        rfl
      have whole : join (piece :: pieces) = .ok (bytes ++ packed) := by
        rw [join, given, joined]
        rfl
      rw [if_pos (by simp [count]), all]
      exact whole
  · cases others

theorem exists_bodies (h : List.Forall₂ Fits format values) :
    (∀ code ∈ format, code.isKnown = true) ∧ ∃ bodies : List Bytes,
      bodies.length = format.length ∧ (∀ body ∈ bodies, body.length < 2 ^ (32 : Nat)) ∧
      List.zipWith Code.view format bodies = values.map contentOf ∧
      pack format values = .ok (bodies.flatMap frame) := by
  induction h with
  | nil => exact ⟨by simp, [], rfl, by simp, rfl, rfl⟩
  | cons first _ ih =>
      obtain ⟨known, body, piece, short, seen, prepared, framed⟩ := first.exists_body
      obtain ⟨knowns, bodies, count, shorts, views, packed⟩ := ih
      exact ⟨List.forall_mem_cons.mpr ⟨known, knowns⟩, body :: bodies, by simp [count],
        List.forall_mem_cons.mpr ⟨short, shorts⟩, by simp [seen, views],
        pack_cons prepared framed packed⟩

/-- What is packed of values that fit is unpacked as their contents, from any place of any payload,
    and reading stops right behind it. -/
theorem unpack_pack (fits : List.Forall₂ Fits format values) (before after : Bytes) :
    ∃ packed, pack format values = .ok packed ∧
      unpack format (before ++ packed ++ after) before.length =
        .ok (values.map contentOf, before.length + packed.length) := by
  obtain ⟨knowns, bodies, count, shorts, views, packed⟩ := exists_bodies fits
  refine ⟨_, packed, unpack_eq_ok_iff.mpr
    ⟨knowns, bodies, after, count, shorts, ?_, views.symm, rfl⟩⟩
  rw [List.append_assoc, List.drop_left' rfl]

/-- A name, an integer and an empty string behind one byte and in front of another. -/
theorem unpack_pack_embedded :
    let format : List Code := [.string, .framedInteger, .string]
    let values : List Value := [.text "ssh-rsa", .bytes [0, 0, 0, 1, 3], .buffer []]
    List.Forall₂ Fits format values ∧ ∃ packed, pack format values = .ok packed ∧
      unpack format ([9] ++ packed ++ [7]) 1 =
        .ok ([[115, 115, 104, 45, 114, 115, 97], [0, 0, 0, 1, 3], []], 1 + packed.length) := by
  intro format values
  have fits : List.Forall₂ Fits format values :=
    .cons (.text (List.forall_mem_iff_forall_getElem.mpr (by decide)) (by decide))
      (.cons (.framed rfl (by decide) (by decide)) (.cons (.bytes rfl (by decide)) .nil))
  obtain ⟨packed, written, read⟩ := unpack_pack fits [9] [7]
  exact ⟨fits, packed, written, read⟩

end SshKeys.Payload
