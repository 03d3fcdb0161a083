import SshKeys.Payload
import SshKeys.Proofs.Integer.Framed
import SshKeys.Proofs.Outcome

/-! # Reading payloads

A payload can be read from an offset exactly if the frames that the format asks for stand there, in
order. Each item shows the body of its frame or the whole frame, and reading stops behind the last.
-/

namespace SshKeys.Payload

-- Powers of natural numbers are those of the core library, whatever else is imported.
attribute [local instance (2000)] instPowNat

open Framed Outcome

/-- What a code takes of an item with the given body. -/
def Code.view : Code → Bytes → Bytes
  | .framedInteger, body => frame body
  | _, body => body

/-- Whether a code can be read. -/
def Code.isKnown : Code → Bool
  | .unknown _ => false
  | _ => true

theorem lengthAt_eq_ok_iff {payload offset length} :
    lengthAt payload offset = .ok length ↔ ∃ body after, payload.drop offset = frame body ++ after ∧
      body.length = length ∧ length < 2 ^ (32 : Nat) := by
  simp only [lengthAt]
  constructor
  · intro h
    split at h
    · cases h
    · split at h
      · cases h
      · rename_i long whole
        have counted : Bytes.toNat ((payload.drop offset).take 4) = length := by simpa using h
        rw [counted] at whole
        have four : ((payload.drop offset).take 4).length = 4 := by
          simp only [List.length_take, List.length_drop]
          omega
        have digits := Bytes.ofNat_toNat ((payload.drop offset).take 4)
        have small := Bytes.toNat_lt ((payload.drop offset).take 4)
        rw [four, counted] at digits small
        have exact : (((payload.drop offset).drop 4).take length).length = length := by
          simp only [List.length_take, List.length_drop]
          omega
        refine ⟨((payload.drop offset).drop 4).take length,
          ((payload.drop offset).drop 4).drop length, ?_, exact, small⟩
        rw [frame, exact, digits, List.append_assoc, List.take_append_drop, List.take_append_drop]
  · intro given
    obtain ⟨body, after, located, rfl, small⟩ := given
    have size := congrArg List.length located
    simp only [List.length_drop, List.length_append, length_frame] at size
    rw [if_neg (by omega), located, toNat_take_frame small, if_neg (by omega)]

theorem cut_frame {payload body after : Bytes} {offset}
    (located : payload.drop offset = frame body ++ after) :
    (payload.drop (offset + 4)).take body.length = body ∧
      (payload.drop offset).take (4 + body.length) = frame body := by
  constructor
  · rw [← List.drop_drop, located, drop_frame, List.take_left' rfl]
  · rw [located, List.take_left' (length_frame body)]

theorem readItem_eq_ok_iff {code payload offset item next} :
    readItem code payload offset = .ok (item, next) ↔ code.isKnown = true ∧ ∃ body after,
      payload.drop offset = frame body ++ after ∧ body.length < 2 ^ (32 : Nat) ∧
        item = code.view body ∧ next = offset + (frame body).length := by
  cases code with
  | string | framedInteger =>
      simp only [readItem, bind_eq_ok_iff, lengthAt_eq_ok_iff, pure_eq, Except.ok.injEq,
        Prod.mk.injEq, Code.isKnown, Code.view, length_frame, ← Nat.add_assoc, true_and]
      constructor
      · intro given
        obtain ⟨_, ⟨body, after, located, rfl, small⟩, rfl, rfl⟩ := given
        exact ⟨body, after, located, small, by simp only [cut_frame located], rfl⟩
      · intro given
        obtain ⟨body, after, located, small, same, rfl⟩ := given
        exact ⟨body.length, ⟨body, after, located, rfl, small⟩,
          by simp only [cut_frame located, same], rfl⟩
  | unknown name => simp [readItem, Code.isKnown]

/-- Reading a format succeeds exactly where frames stand for all of its codes. -/
theorem unpack_eq_ok_iff {format payload offset items stop} :
    unpack format payload offset = .ok (items, stop) ↔
      (∀ code ∈ format, code.isKnown = true) ∧ ∃ bodies after,
        bodies.length = format.length ∧ (∀ body ∈ bodies, body.length < 2 ^ (32 : Nat)) ∧
        payload.drop offset = bodies.flatMap frame ++ after ∧
        items = List.zipWith Code.view format bodies ∧
        stop = offset + (bodies.flatMap frame).length := by
  -- Every item moves the offset behind its frame, where the frames of the other codes begin.
  induction format generalizing offset items stop with
  | nil =>
      simp only [unpack, Except.ok.injEq, Prod.mk.injEq, List.length_nil,
        List.length_eq_zero_iff]
      constructor
      · intro given
        obtain ⟨rfl, rfl⟩ := given
        exact ⟨by simp, [], payload.drop offset, by simp⟩
      · intro given
        obtain ⟨_, _, _, rfl, _, _, rfl, rfl⟩ := given
        simp
  | cons code format ih =>
      simp only [unpack, bind_eq_ok_iff, Prod.exists, readItem_eq_ok_iff, ih, pure_eq,
        Except.ok.injEq, Prod.mk.injEq]
      constructor
      · intro given
        obtain ⟨_, _, first, _, _, others, rfl, rfl⟩ := given
        obtain ⟨known, body, after, located, small, rfl, rfl⟩ := first
        obtain ⟨knowns, bodies, rest, count, smalls, behind, rfl, rfl⟩ := others
        refine ⟨List.forall_mem_cons.mpr ⟨known, knowns⟩, body :: bodies, rest, ?_,
          List.forall_mem_cons.mpr ⟨small, smalls⟩, ?_, rfl, ?_⟩
        · simp [count]
        · rw [← List.drop_drop, located, List.drop_left' rfl] at behind
          rw [located, behind, List.flatMap_cons, List.append_assoc]
        · simp [Nat.add_assoc]
      · intro given
        obtain ⟨knowns, bodies, rest, count, smalls, located, rfl, rfl⟩ := given
        cases bodies with
        | nil => simp at count
        | cons body bodies =>
            obtain ⟨known, knowns⟩ := List.forall_mem_cons.mp knowns
            obtain ⟨small, smalls⟩ := List.forall_mem_cons.mp smalls
            rw [List.flatMap_cons, List.append_assoc] at located
            refine ⟨_, _, ⟨known, body, _, located, small, rfl, rfl⟩, _, _,
              ⟨knowns, bodies, rest, by simpa using count, smalls, ?_, rfl, rfl⟩, rfl, ?_⟩
            · rw [← List.drop_drop, located, List.drop_left' rfl]
            · simp [Nat.add_assoc]

end SshKeys.Payload
