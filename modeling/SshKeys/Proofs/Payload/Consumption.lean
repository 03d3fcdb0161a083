import SshKeys.Proofs.Payload.RoundTrip

/-! # Reading takes what packing writes

Reading a format takes a stretch of the payload, and packing the items that were read writes the
same stretch. Bytes behind it do not matter. So a format can be read in two goes, the second from
where the first stopped, and a payload that is cut off shows the same items as the whole, or fails.
-/

namespace SshKeys.Payload

-- Powers of natural numbers are those of the core library, whatever else is imported.
attribute [local instance (2000)] instPowNat

open Framed Outcome

variable {code : Code} {format : List Code} {payload item body : Bytes} {items bodies : List Bytes}
  {offset next stop : Nat}

/-- The items, one for each code, are what packing writes as the bytes from the offset to where
    reading stopped. Only the format that asks for nothing stops where it started, and it alone may
    do so behind the end of the payload. -/
structure Consumes (format : List Code) (payload : Bytes) (offset : Nat) (items : List Bytes)
    (stop : Nat) : Prop where
  fits : List.Forall₂ Fits format (items.map .bytes)
  written : pack format (items.map .bytes) = .ok ((payload.drop offset).take (stop - offset))
  forward : offset ≤ stop
  still : format = [] → stop = offset
  within : format ≠ [] → stop ≤ payload.length

theorem fits_view (known : code.isKnown = true) (short : body.length < 2 ^ (32 : Nat)) :
    Fits code (.bytes (code.view body)) ∧
      prepare code (.bytes (code.view body)) = .ok (.bytes (frame body)) := by
  cases code with
  | string => exact ⟨.bytes rfl short, rfl⟩
  | framedInteger =>
      have rest := drop_frame body []
      have counted := toNat_take_frame short []
      simp only [List.append_nil] at rest counted
      exact ⟨.framed rfl (by simp [Code.view]) (by rw [Code.view, rest, counted]), rfl⟩
  | unknown => cases known

theorem pack_views (count : bodies.length = format.length)
    (knowns : ∀ code ∈ format, code.isKnown = true)
    (shorts : ∀ body ∈ bodies, body.length < 2 ^ (32 : Nat)) :
    List.Forall₂ Fits format ((List.zipWith Code.view format bodies).map .bytes) ∧
      pack format ((List.zipWith Code.view format bodies).map .bytes) =
        .ok (bodies.flatMap frame) := by
  induction format generalizing bodies with
  | nil =>
      rw [List.length_eq_zero_iff.mp count]
      exact ⟨.nil, rfl⟩
  | cons code format ih =>
      cases bodies with
      | nil => cases count
      | cons body bodies =>
          obtain ⟨known, knowns⟩ := List.forall_mem_cons.mp knowns
          obtain ⟨short, shorts⟩ := List.forall_mem_cons.mp shorts
          obtain ⟨first, prepared⟩ := fits_view known short
          obtain ⟨fits, packed⟩ := ih (Nat.succ.inj count) knowns shorts
          exact ⟨.cons first fits, pack_cons prepared rfl packed⟩

theorem unpack_eq_ok_iff_consumes :
    unpack format payload offset = .ok (items, stop) ↔
      Consumes format payload offset items stop := by
  constructor
  · intro read
    obtain ⟨knowns, bodies, after, count, shorts, located, rfl, rfl⟩ := unpack_eq_ok_iff.mp read
    obtain ⟨fits, packed⟩ := pack_views count knowns shorts
    have size := congrArg List.length located
    simp only [List.length_drop, List.length_append] at size
    refine ⟨fits, ?_, Nat.le_add_right _ _, ?_, ?_⟩
    · rw [packed, located, Nat.add_sub_cancel_left, List.take_left' rfl]
    · intro empty
      subst empty
      rw [List.length_eq_zero_iff.mp count]
      rfl
    · intro asked
      cases bodies with
      | nil => exact absurd (List.length_eq_zero_iff.mp count.symm) asked
      | cons body bodies =>
          simp only [List.flatMap_cons, List.length_append, length_frame] at size ⊢
          omega
  · intro consumes
    obtain ⟨knowns, bodies, count, shorts, views, packed⟩ := exists_bodies consumes.fits
    have stretch := Except.ok.inj (consumes.written.symm.trans packed)
    have contents : (items.map Value.bytes).map contentOf = items := by
      rw [List.map_map]
      exact List.map_id items
    refine unpack_eq_ok_iff.mpr ⟨knowns, bodies, (payload.drop offset).drop (stop - offset), count,
      shorts, ?_, ?_, ?_⟩
    · rw [← stretch, List.take_append_drop]
    · rw [views, contents]
    · rw [← stretch, List.length_take, List.length_drop]
      have forward := consumes.forward
      by_cases empty : format = []
      · have still := consumes.still empty
        omega
      · have within := consumes.within empty
        omega

theorem readItem_append (read : readItem code payload offset = .ok (item, next)) (suffix : Bytes) :
    next ≤ payload.length ∧ readItem code (payload ++ suffix) offset = .ok (item, next) := by
  obtain ⟨known, body, after, located, short, rfl, rfl⟩ := readItem_eq_ok_iff.mp read
  have size := congrArg List.length located
  simp only [List.length_drop, List.length_append, length_frame] at size
  have longer : (payload ++ suffix).drop offset = frame body ++ (after ++ suffix) := by
    rw [List.drop_append_of_le_length (by omega), located, List.append_assoc]
  rw [length_frame]
  exact ⟨by omega, readItem_eq_ok_iff.mpr ⟨known, body, _, longer, short, rfl, by simp⟩⟩

theorem unpack_suffix (read : unpack format payload offset = .ok (items, stop)) (suffix : Bytes) :
    unpack format (payload ++ suffix) offset = .ok (items, stop) := by
  induction format generalizing offset items stop with
  | nil => exact read
  | cons code format ih =>
      simp only [unpack, bind_eq_ok_iff, Prod.exists] at read ⊢
      obtain ⟨item, next, first, items, stop, others, same⟩ := read
      exact ⟨item, next, (readItem_append first suffix).2, items, stop, ih others, same⟩

/-- A format is read like its first part, and the rest of it from where that stopped. -/
theorem unpack_append (format more : List Code) (payload : Bytes) (offset : Nat) :
    unpack (format ++ more) payload offset = (do
      let (items, middle) ← unpack format payload offset
      let (others, stop) ← unpack more payload middle
      return (items ++ others, stop)) := by
  induction format generalizing offset with
  | nil =>
      show unpack more payload offset =
        (do let (others, stop) ← unpack more payload offset; return ([] ++ others, stop))
      simp
  | cons code format ih =>
      simp only [List.cons_append, unpack, ih, bind_assoc, pure_bind]

/-- Reading takes exactly the bytes that packing the items writes, whatever stands behind them. If a
    format is read in two goes, items, end and faults are those of reading it at once. -/
theorem unpack_consumes (format : List Code) (payload : Bytes) (offset : Nat) :
    (∀ items stop, unpack format payload offset = .ok (items, stop) ↔
      Consumes format payload offset items stop) ∧
    (∀ items stop suffix, unpack format payload offset = .ok (items, stop) →
      unpack format (payload ++ suffix) offset = .ok (items, stop)) ∧
    ∀ more, unpack (format ++ more) payload offset = (do
      let (items, middle) ← unpack format payload offset
      let (others, stop) ← unpack more payload middle
      return (items ++ others, stop)) := by
  refine ⟨fun items stop => unpack_eq_ok_iff_consumes, ?_, ?_⟩
  · intro items stop suffix read
    exact unpack_suffix read suffix
  · intro more
    exact unpack_append format more payload offset

end SshKeys.Payload
