import SshKeys.Proofs.Outcome.Traversal
import SshKeys.Proofs.Payload.RoundTrip

/-! # What packing leads to

Packing looks at all codes before it looks at any framed integer. What stops it on the way is a code
that nobody knows, or a value that is no string where one is asked for, and the first such place
decides the fault, whatever the framed integers are. Only behind all codes a framed integer that is
no byte string is reported. What each of these ends leads to is `PacksTo`, and nothing else happens.
-/

namespace SshKeys.Payload

-- Powers of natural numbers are those of the core library, whatever else is imported.
attribute [local instance (2000)] instPowNat

open Framed Outcome

variable {code : Code} {format : List Code} {v : Value} {values prepared : List Value}
  {pairs : List (Code × Value)} {content bytes : Bytes} {fault : Fault}
  {outcome : Except Fault Bytes}

/-- What a value says as a string: a text of ASCII its codes, and a byte string itself. -/
inductive Says : Value → Bytes → Prop
  | text {s : String} (ascii : ∀ c ∈ s.toList, c.toNat < 128) :
    Says (.text s) (Bytes.ofCodes s.toList)
  | bytes {v : Value} {b : Bytes} (given : v.bytes? = some b) : Says v b

/-- What stops packing at a place, by the code and the value there. -/
inductive Stops : Code → Value → Fault → Prop
  | unknown {name : String} {v : Value} : Stops (.unknown name) v (.unknownCode name)
  | wide {s : String} {c : Char} (member : c ∈ s.toList) (beyond : 128 ≤ c.toNat) :
    Stops .string (.text s) .notAscii
  | sort {v : Value} (untold : ∀ s, v ≠ .text s) (bare : v.bytes? = none) :
    Stops .string v .notPackable

/-- What is written at a place: a string behind four bytes that spell its length, and a framed
    integer as it is given. -/
inductive Writes : Code → Value → Bytes → Prop
  | string {v : Value} {length content : Bytes} (said : Says v content) (four : length.length = 4)
    (counted : Bytes.toNat length = content.length) : Writes .string v (length ++ content)
  | framed {v : Value} {b : Bytes} (given : v.bytes? = some b) : Writes .framedInteger v b

/-- Every string that is asked for is short enough for its length to be spelled. -/
def AreCountable (pairs : List (Code × Value)) : Prop :=
  ∀ v content, (.string, v) ∈ pairs → Says v content → content.length < 2 ^ (32 : Nat)

/-- What packing leads to. A wrong number of values is reported whatever they are; the first place
    that stops packing whatever is behind it, and whatever framed integers are in front of it; a
    framed integer that is no byte string if nothing stops packing. -/
inductive PacksTo (format : List Code) (values : List Value) : Except Fault Bytes → Prop
  | miscounted (other : values.length ≠ format.length) :
    PacksTo format values (.error .countMismatch)
  | stopped {before after : List (Code × Value)} {code : Code} {v : Value} {fault : Fault}
    (count : values.length = format.length)
    (found : format.zip values = before ++ (code, v) :: after)
    (passed : ∀ p ∈ before, ∀ fault, ¬ Stops p.1 p.2 fault) (stops : Stops code v fault) :
    PacksTo format values (.error fault)
  | unframed {v : Value} (count : values.length = format.length)
    (passed : ∀ p ∈ format.zip values, ∀ fault, ¬ Stops p.1 p.2 fault)
    (asked : (.framedInteger, v) ∈ format.zip values) (bare : v.bytes? = none) :
    PacksTo format values (.error .notPackable)
  | packed {pieces : List Bytes} (count : values.length = format.length)
    (written : List.Forall₂ (fun p piece => Writes p.1 p.2 piece) (format.zip values) pieces) :
    PacksTo format values (.ok pieces.flatten)

section Place

/-! ## At one place -/

theorem stringItem_of_says (said : Says v content) : stringItem v = .ok (frame content) := by
  cases said with
  | @text s ascii =>
      have written : Bytes.ofAscii? s.toList = some (Bytes.ofCodes s.toList) :=
        Bytes.ofChars?_eq ascii
      rw [stringItem, written]
  | bytes given => exact stringItem_of_bytes? given

theorem prepare_of_stops (stops : Stops code v fault) : prepare code v = .error fault := by
  cases stops with
  | unknown => rfl
  | @wide s c member beyond =>
      have unwritten : Bytes.ofAscii? s.toList = none := Bytes.ofChars?_eq_none member beyond
      rw [prepare, stringItem, unwritten]
      rfl
  | sort untold bare =>
      cases v with
      | text s => exact absurd rfl (untold s)
      | bytes | buffer => cases bare
      | _ => rfl

theorem prepare_cases (code : Code) (v : Value) : (∃ fault, Stops code v fault) ∨
    (∃ content, code = .string ∧ Says v content ∧
      prepare code v = .ok (.bytes (frame content))) ∨
    code = .framedInteger ∧ prepare code v = .ok v := by
  cases code with
  | unknown name => exact .inl ⟨_, .unknown⟩
  | framedInteger => exact .inr (.inr ⟨rfl, rfl⟩)
  | string =>
      have framed {content : Bytes} (said : Says v content) :
          prepare .string v = .ok (.bytes (frame content)) := by
        rw [prepare, stringItem_of_says said]
        rfl
      cases given : v.bytes? with
      | some b => exact .inr (.inl ⟨b, rfl, .bytes given, framed (.bytes given)⟩)
      | none =>
          cases v with
          | text s =>
              by_cases wide : ∃ c ∈ s.toList, 128 ≤ c.toNat
              · obtain ⟨c, member, beyond⟩ := wide
                exact .inl ⟨_, .wide member beyond⟩
              · have ascii : ∀ c ∈ s.toList, c.toNat < 128 := fun c member =>
                  Nat.lt_of_not_le fun beyond => wide ⟨c, member, beyond⟩
                exact .inr (.inl ⟨_, rfl, .text ascii, framed (.text ascii)⟩)
          | _ => exact .inl ⟨_, .sort (by simp) given⟩

theorem prepare_eq_error_iff : prepare code v = .error fault ↔ Stops code v fault := by
  constructor
  · intro refused
    rcases prepare_cases code v with ⟨other, stops⟩ | ⟨_, _, _, passed⟩ | ⟨_, passed⟩
    · cases refused.symm.trans (prepare_of_stops stops)
      exact stops
    · cases refused.symm.trans passed
    · cases refused.symm.trans passed
  · exact prepare_of_stops

theorem exists_prepare_iff :
    (∃ piece, prepare code v = .ok piece) ↔ ∀ fault, ¬ Stops code v fault := by
  simp only [← prepare_eq_error_iff]
  cases prepare code v with
  | error fault => simp
  | ok piece => simp

theorem eq_frame_of_counted {length : Bytes} (four : length.length = 4)
    (counted : Bytes.toNat length = content.length) : length ++ content = frame content := by
  rw [frame, ← counted, ← four, Bytes.ofNat_toNat]

theorem writes_iff {piece : Bytes}
    (short : code = .string → ∀ content, Says v content → content.length < 2 ^ (32 : Nat)) :
    Writes code v piece ↔ ∃ w, prepare code v = .ok w ∧ w.bytes? = some piece := by
  constructor
  · intro written
    cases written with
    | string said four counted =>
        refine ⟨.bytes (frame _), ?_, congrArg some (eq_frame_of_counted four counted).symm⟩
        rw [prepare, stringItem_of_says said]
        rfl
    | framed given => exact ⟨v, rfl, given⟩
  · rintro ⟨w, passed, given⟩
    rcases prepare_cases code v with ⟨_, stops⟩ | ⟨content, rfl, said, framed⟩ | ⟨rfl, taken⟩
    · cases passed.symm.trans (prepare_of_stops stops)
    · cases passed.symm.trans framed
      cases given
      exact .string said (Bytes.length_ofNat ..) (Bytes.toNat_ofNat_of_lt (short rfl content said))
    · cases passed.symm.trans taken
      exact .framed given

end Place

section Whole

/-! ## From the first place to the last -/

theorem prepareAll_eq_mapM (format : List Code) (values : List Value) :
    prepareAll format values = (format.zip values).mapM fun p => prepare p.1 p.2 := by
  induction format generalizing values with
  | nil => rfl
  | cons code format ih =>
      cases values with
      | nil => rfl
      | cons v values => rw [prepareAll, ih, List.zip_cons_cons, List.mapM_cons]

theorem join_eq_ok_iff : join prepared = .ok bytes ↔ ∃ pieces,
    List.Forall₂ (fun w piece => w.bytes? = some piece) prepared pieces ∧
      bytes = pieces.flatten := by
  induction prepared generalizing bytes with
  | nil => simp [join, eq_comm]
  | cons w prepared ih =>
      rw [join]
      cases given : w.bytes? with
      | none => simp [List.forall₂_cons_left_iff, given]
      | some piece =>
          simp only [map_eq_ok_iff, ih, List.forall₂_cons_left_iff, given, Option.some.injEq]
          constructor
          · rintro ⟨_, ⟨pieces, others, rfl⟩, rfl⟩
            exact ⟨piece :: pieces, ⟨piece, pieces, rfl, others, rfl⟩, rfl⟩
          · rintro ⟨_, ⟨_, pieces, rfl, others, rfl⟩, rfl⟩
            exact ⟨_, ⟨pieces, others, rfl⟩, rfl⟩

theorem join_eq_error_iff : join prepared = .error fault ↔
    (∃ w ∈ prepared, w.bytes? = none) ∧ fault = .notPackable := by
  induction prepared with
  | nil => simp [join]
  | cons w prepared ih =>
      rw [join]
      cases given : w.bytes? with
      | none => simp [given, eq_comm]
      | some piece => simp [map_eq_error_iff, ih, given]

theorem pack_of_count (count : values.length = format.length) : pack format values =
    ((format.zip values).mapM fun p => prepare p.1 p.2) >>= join := by
  rw [pack, if_pos count, prepareAll_eq_mapM]
  rfl

theorem prepare_eq_ok_of_bare {w : Value} (bare : w.bytes? = none) :
    prepare code v = .ok w ↔ code = .framedInteger ∧ w = v := by
  constructor
  · intro taken
    rcases prepare_cases code v with ⟨_, stops⟩ | ⟨_, _, _, framed⟩ | ⟨asked, kept⟩
    · cases taken.symm.trans (prepare_of_stops stops)
    · cases taken.symm.trans framed
      cases bare
    · exact ⟨asked, Except.ok.inj (taken.symm.trans kept)⟩
  · rintro ⟨rfl, rfl⟩
    rfl

theorem writes_pairs_iff {pieces : List Bytes} (short : AreCountable pairs) :
    List.Forall₂ (fun p piece => Writes p.1 p.2 piece) pairs pieces ↔
      ∃ prepared, (pairs.mapM fun p => prepare p.1 p.2) = .ok prepared ∧
        List.Forall₂ (fun w piece => w.bytes? = some piece) prepared pieces := by
  have shorts : ∀ p ∈ pairs, p.1 = .string → ∀ content, Says p.2 content →
      content.length < 2 ^ (32 : Nat) := by
    rintro ⟨_, v⟩ member rfl content said
    exact short v content member said
  simp only [mapM_eq_ok_iff, exists_forall₂_iff]
  constructor
  · intro written
    exact ((List.forall₂_and_left _ _).mpr ⟨shorts, written⟩).imp
      fun _ _ h => (writes_iff h.1).mp h.2
  · intro taken
    exact ((List.forall₂_and_left _ _).mpr ⟨shorts, taken⟩).imp
      fun _ _ h => (writes_iff h.1).mpr h.2

theorem exists_prepared_iff : (∃ prepared, (pairs.mapM fun p => prepare p.1 p.2) = .ok prepared) ↔
    ∀ p ∈ pairs, ∀ fault, ¬ Stops p.1 p.2 fault := by
  simp only [exists_mapM_iff, exists_prepare_iff]

theorem packsTo_pack (short : AreCountable (format.zip values)) :
    PacksTo format values (pack format values) := by
  by_cases count : values.length = format.length
  case neg =>
    rw [pack, if_neg count]
    exact .miscounted count
  rw [pack_of_count count]
  cases passed : (format.zip values).mapM fun p => prepare p.1 p.2 with
  | error fault =>
      obtain ⟨before, p, after, found, clear, stops⟩ := mapM_eq_error_iff.mp passed
      exact .stopped count found (fun p member => exists_prepare_iff.mp (clear p member))
        (prepare_eq_error_iff.mp stops)
  | ok prepared =>
      show PacksTo format values (join prepared)
      cases joined : join prepared with
      | error fault =>
          obtain ⟨⟨w, member, bare⟩, rfl⟩ := join_eq_error_iff.mp joined
          obtain ⟨⟨code, v⟩, asked, taken⟩ := (mem_mapM_iff passed).mp member
          obtain ⟨rfl, rfl⟩ := (prepare_eq_ok_of_bare bare).mp taken
          exact .unframed count (exists_prepared_iff.mp ⟨prepared, passed⟩) asked bare
      | ok bytes =>
          obtain ⟨pieces, given, rfl⟩ := join_eq_ok_iff.mp joined
          exact .packed count ((writes_pairs_iff short).mpr ⟨prepared, passed, given⟩)

/-- Every end that is listed is one that packing leads to. -/
theorem pack_of_packsTo (short : AreCountable (format.zip values))
    (leads : PacksTo format values outcome) : pack format values = outcome := by
  cases leads with
  | miscounted other => rw [pack, if_neg other]
  | stopped count found passed stops =>
      rw [pack_of_count count, mapM_eq_error_iff.mpr ⟨_, _, _, found,
        fun p member => exists_prepare_iff.mpr (passed p member), prepare_of_stops stops⟩]
      rfl
  | unframed count passed asked bare =>
      obtain ⟨prepared, taken⟩ := exists_prepared_iff.mpr passed
      have member := (mem_mapM_iff taken).mpr ⟨_, asked, rfl⟩
      rw [pack_of_count count, taken]
      exact join_eq_error_iff.mpr ⟨⟨_, member, bare⟩, rfl⟩
  | packed count written =>
      obtain ⟨prepared, taken, given⟩ := (writes_pairs_iff short).mp written
      rw [pack_of_count count, taken]
      exact join_eq_ok_iff.mpr ⟨_, given, rfl⟩

end Whole

/-- Packing leads to exactly one of the listed ends, and every end that is listed is one that it
    leads to, as long as the strings are short enough to be counted. -/
theorem pack_outcome (short : AreCountable (format.zip values)) (outcome : Except Fault Bytes) :
    pack format values = outcome ↔ PacksTo format values outcome := by
  constructor
  · intro made
    subst made
    exact packsTo_pack short
  · exact pack_of_packsTo short

/-- Behind a string there is a framed integer that is none, then a text beyond ASCII and a code that
    nobody knows: the text is reported. -/
theorem pack_outcome_mixed :
    let format : List Code := [.string, .framedInteger, .string, .unknown "bogus"]
    let values : List Value := [.text "ssh-rsa", .int 5, .text "é", .absent]
    AreCountable (format.zip values) ∧ pack format values = .error .notAscii := by
  intro format values
  have short : AreCountable (format.zip values) := by
    intro v content member said
    obtain rfl | rfl : v = .text "ssh-rsa" ∨ v = .text "é" := by simpa [format, values] using member
    · cases said with
      | text => decide
      | bytes given => cases given
    · cases said with
      | text ascii => exact absurd (ascii 'é' (by decide)) (by decide)
      | bytes given => cases given
  have found : format.zip values = [(.string, .text "ssh-rsa"), (.framedInteger, .int 5)] ++
      (.string, .text "é") :: [(.unknown "bogus", .absent)] := rfl
  have passed : ∀ p ∈ [(Code.string, Value.text "ssh-rsa"), (.framedInteger, .int 5)], ∀ fault,
      ¬ Stops p.1 p.2 fault := by
    simp only [List.forall_mem_cons, ← exists_prepare_iff]
    exact ⟨⟨_, rfl⟩, ⟨_, rfl⟩, List.forall_mem_nil _⟩
  have wide : Stops .string (.text "é") .notAscii := .wide (c := 'é') (by decide) (by decide)
  exact ⟨short, (pack_outcome short _).mpr (.stopped rfl found passed wide)⟩

/-- Nothing stops packing here, so the framed integer is looked at. -/
example : pack [.framedInteger, .string] [.int 5, .text "ssh-rsa"] = .error .notPackable := rfl

end SshKeys.Payload
