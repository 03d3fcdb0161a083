import SshKeys.Proofs.Payload.Consumption

/-! # Payloads that are cut off

A packed payload that is cut off, wherever that is, is never read: the fault names the place where
the first item starts that is not there as a whole. An item that seemed to be read in front of the
cut would be read of the whole payload too, where it ends behind the cut.
-/

namespace SshKeys.Payload

-- Powers of natural numbers are those of the core library, whatever else is imported.
attribute [local instance (2000)] instPowNat

open Framed Outcome

variable {code : Code} {format : List Code} {values : List Value} {offset : Nat} {fault : Fault}
  {payload body front cut packed : Bytes}

/-- Of the packed values cut to a length, the item at a place is the first that is not there as a
    whole: the items in front of it are, and take up the bytes up to `start`, and together with it
    they take up more than there is. -/
structure IsCutAt (format : List Code) (values : List Value) (length place start : Nat) : Prop where
  asked : place < format.length
  before : ∃ packed, pack (format.take place) (values.take place) = .ok packed ∧
    packed.length = start
  there : start ≤ length
  through : ∃ packed, pack (format.take (place + 1)) (values.take (place + 1)) = .ok packed ∧
    length < packed.length

theorem length_lt_of_cut (part : cut <+: packed) (other : cut ≠ packed) :
    cut.length < packed.length :=
  Nat.lt_of_le_of_ne part.length_le fun same => other (part.eq_of_length same)

theorem lengthAt_eq_error (refused : lengthAt payload offset = .error fault) :
    fault = .truncated offset := by
  simp only [lengthAt] at refused
  split at refused
  · exact (Except.error.inj refused).symm
  · split at refused
    · exact (Except.error.inj refused).symm
    · cases refused

theorem readItem_eq_error (known : code.isKnown = true)
    (refused : readItem code payload offset = .error fault) : fault = .truncated offset := by
  cases code with
  | string | framedInteger =>
      rcases bind_eq_error_iff.mp refused with first | ⟨_, _, other⟩
      · exact lengthAt_eq_error first
      · cases other
  | unknown => cases known

theorem readItem_cut (known : code.isKnown = true) (short : body.length < 2 ^ (32 : Nat))
    (part : cut <+: frame body) (strict : cut.length < (frame body).length) (front : Bytes) :
    readItem code (front ++ cut) front.length = .error (.truncated front.length) := by
  cases read : readItem code (front ++ cut) front.length with
  | error fault => rw [readItem_eq_error known read]
  | ok result =>
      obtain ⟨item, next⟩ := result
      obtain ⟨rest, whole⟩ := part
      obtain ⟨within, again⟩ := readItem_append read rest
      have full : readItem code (front ++ cut ++ rest) front.length =
          .ok (code.view body, front.length + (frame body).length) := by
        refine readItem_eq_ok_iff.mpr ⟨known, body, [], ?_, short, rfl, rfl⟩
        rw [List.append_assoc, List.drop_left' rfl, whole, List.append_nil]
      cases again.symm.trans full
      rw [List.length_append] at within
      omega

namespace IsCutAt

variable {v piece : Value} {length place start : Nat}

theorem first (prepared : prepare code v = .ok piece) (given : piece.bytes? = some body)
    (inside : length < body.length) : IsCutAt (code :: format) (v :: values) length 0 0 where
  asked := Nat.succ_pos _
  before := ⟨[], rfl, rfl⟩
  there := Nat.zero_le _
  through := ⟨body ++ [], pack_cons prepared given rfl, by simpa using inside⟩

theorem later (h : IsCutAt format values length place start) (prepared : prepare code v = .ok piece)
    (given : piece.bytes? = some body) : IsCutAt (code :: format) (v :: values)
      (body.length + length) (place + 1) (body.length + start) where
  asked := Nat.succ_lt_succ h.asked
  before := by
    obtain ⟨packed, written, rfl⟩ := h.before
    exact ⟨body ++ packed, pack_cons prepared given written, List.length_append⟩
  there := Nat.add_le_add_left h.there _
  through := by
    obtain ⟨packed, written, beyond⟩ := h.through
    exact ⟨body ++ packed, pack_cons prepared given written, by simpa using beyond⟩

end IsCutAt

theorem unpack_behind (known : code.isKnown = true) (short : body.length < 2 ^ (32 : Nat))
    (front after : Bytes) : unpack (code :: format) (front ++ (frame body ++ after)) front.length =
      (unpack format (front ++ frame body ++ after) (front ++ frame body).length).map
        fun read => (code.view body :: read.1, read.2) := by
  have located : (front ++ (frame body ++ after)).drop front.length = frame body ++ after :=
    List.drop_left' rfl
  rw [unpack, readItem_eq_ok_iff.mpr ⟨known, body, after, located, short, rfl, rfl⟩,
    List.append_assoc, List.length_append]
  rfl

theorem unpack_cut (fits : List.Forall₂ Fits format values)
    (written : pack format values = .ok packed) (part : cut <+: packed)
    (strict : cut.length < packed.length) (front : Bytes) :
    ∃ place start, IsCutAt format values cut.length place start ∧
      unpack format (front ++ cut) front.length = .error (.truncated (front.length + start)) := by
  -- The items in front of the cut are read one by one and become part of what stands in front.
  induction fits generalizing packed cut front with
  | nil =>
      cases written
      exact absurd strict (Nat.not_lt_zero _)
  | cons first others ih =>
      obtain ⟨known, body, piece, short, _, prepared, framed⟩ := first.exists_body
      obtain ⟨_, bodies, _, _, _, packedOthers⟩ := exists_bodies others
      cases written.symm.trans (pack_cons prepared framed packedOthers)
      by_cases inside : cut.length < (frame body).length
      · have part := List.prefix_of_prefix_length_le part (List.prefix_append _ _)
          (Nat.le_of_lt inside)
        refine ⟨0, 0, .first prepared framed inside, ?_⟩
        rw [unpack, readItem_cut known short part inside]
        rfl
      · obtain ⟨more, rfl⟩ :=
          List.prefix_of_prefix_length_le (List.prefix_append _ _) part (Nat.not_lt.mp inside)
        rw [List.prefix_append_right_inj] at part
        rw [List.length_append, List.length_append, Nat.add_lt_add_iff_left] at strict
        obtain ⟨place, start, isCut, refused⟩ := ih packedOthers part strict (front ++ frame body)
        refine ⟨place + 1, (frame body).length + start, ?_, ?_⟩
        · rw [List.length_append]
          exact isCut.later prepared framed
        · rw [unpack_behind known short, refused, List.length_append, Nat.add_assoc]
          rfl

/-- Packed values that are cut off are not read, wherever they stand. The fault tells the place
    where the first item starts that is not there as a whole. -/
theorem unpack_truncated (fits : List.Forall₂ Fits format values) :
    ∃ packed, pack format values = .ok packed ∧ ∀ cut front, cut <+: packed → cut ≠ packed →
      ∃ place start, IsCutAt format values cut.length place start ∧
        unpack format (front ++ cut) front.length =
          .error (.truncated (front.length + start)) := by
  obtain ⟨_, bodies, _, _, _, written⟩ := exists_bodies fits
  refine ⟨_, written, ?_⟩
  intro cut front part other
  exact unpack_cut fits written part (length_lt_of_cut part other) front

/-- A name and an integer, cut off behind the second byte of the length of the integer. -/
theorem unpack_truncated_inside :
    let format : List Code := [.string, .framedInteger]
    let values : List Value := [.text "ssh-rsa", .bytes [0, 0, 0, 1, 3]]
    let cut : Bytes := [0, 0, 0, 7, 115, 115, 104, 45, 114, 115, 97, 0, 0]
    List.Forall₂ Fits format values ∧ unpack format cut 0 = .error (.truncated 11) := by
  intro format values cut
  have fits : List.Forall₂ Fits format values :=
    .cons (.text (List.forall_mem_iff_forall_getElem.mpr (by decide)) (by decide))
      (.cons (.framed rfl (by decide) (by decide)) .nil)
  have name : pack [.string] [.text "ssh-rsa"] = .ok (cut.take 11) := rfl
  have whole : pack format values = .ok (cut ++ [0, 1, 3]) := rfl
  obtain ⟨packed, written, refuses⟩ := unpack_truncated fits
  cases written.symm.trans whole
  obtain ⟨place, start, isCut, refused⟩ := refuses cut [] (List.prefix_append _ _) (by decide)
  refine ⟨fits, ?_⟩
  match place, isCut with
  | 0, isCut =>
      obtain ⟨through, written, beyond⟩ := isCut.through
      cases written.symm.trans name
      exact absurd beyond (by decide)
  | 1, isCut =>
      obtain ⟨before, written, rfl⟩ := isCut.before
      cases written.symm.trans name
      exact refused
  | place + 2, isCut => exact absurd isCut.asked (by simp [format])

end SshKeys.Payload
