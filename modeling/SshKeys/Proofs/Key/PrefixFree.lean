import SshKeys.Proofs.Key.Grammar
import SshKeys.Proofs.Payload.Truncation

/-! # No public key blob begins another

A blob that is read as a key is read up to its last byte, so it is no blob any more if it is cut off
or goes on. Where it is cut tells which of the two goes of reading fails, the one for the name or
the one for the integers, and if it goes on, all the bytes behind it are reported.
-/

namespace SshKeys

-- Powers of natural numbers are those of the core library, whatever else is imported.
attribute [local instance (2000)] instPowNat

open Framed Payload

theorem Failure.message?_malformedInteger (what : Malformation) :
    (Failure.malformedInteger what).message? = some what.message := by
  simp [message?, kind?, subject, Kind.message, Value.hasText, Value.shown, Except.toOption]

namespace Key

variable {blob cut extra : Bytes} {t : KeyType} {bodies : List Bytes} {what : Malformation}

/-- Reading the blob fails because it is malformed, and the failure says so in these words. -/
def IsRefused (blob : Bytes) (words : String) : Prop :=
  ∃ failure, importBlob blob = .error failure ∧ failure.kind? = some .malformedInteger ∧
    failure.message? = some words

theorem isRefused_of_eq (refused : importBlob blob = .error (.malformedInteger what)) :
    IsRefused blob what.message :=
  ⟨_, refused, rfl, Failure.message?_malformedInteger what⟩

theorem Spells.importBlob_cut {known : String} (h : Spells blob t bodies)
    (named : t.name? = some known) (part : cut <+: blob) (strict : cut.length < blob.length) :
    importBlob cut = .error (.malformedInteger
      (if cut.length < (frame known.toUTF8.toList).length then .truncatedName
        else .truncatedKey known)) := by
  obtain ⟨name, a, named', supported, _, begins, _, whole⟩ := h.goes
  cases named.symm.trans named'
  split
  · next inside =>
      have part := List.prefix_of_prefix_length_le part begins (Nat.le_of_lt inside)
      have refused : readItem .string cut 0 = .error (.truncated 0) :=
        readItem_cut rfl (name_short named) part inside []
      simp only [importBlob, refused]
  · next behind =>
      obtain ⟨after, rfl⟩ := List.prefix_of_prefix_length_le begins part (Nat.not_lt.mp behind)
      have start : readItem .string (frame known.toUTF8.toList ++ after) 0 =
          .ok (known.toUTF8.toList, (frame known.toUTF8.toList).length) :=
        readItem_eq_ok_iff.mpr ⟨rfl, _, _, rfl, name_short named, rfl, by simp⟩
      rw [importBlob_behind_name named supported start]
      cases rest : unpack (List.replicate (Material.publicCount a) .framedInteger)
          (frame known.toUTF8.toList ++ after) (frame known.toUTF8.toList).length with
      | error _ => rfl
      | ok read =>
          -- What is read in front of the cut is read of the blob, which is read to its end.
          obtain ⟨fields, stop⟩ := read
          obtain ⟨others, rfl⟩ := part
          cases (unpack_suffix rest others).symm.trans whole
          have asked : List.replicate (Material.publicCount a) Code.framedInteger ≠ [] := by
            cases a <;> exact List.cons_ne_nil _ _
          have within := (unpack_eq_ok_iff_consumes.mp rest).within asked
          omega

theorem Spells.importBlob_append (h : Spells blob t bodies) (more : extra ≠ []) :
    importBlob (blob ++ extra) = .error (.malformedInteger (.trailingBytes extra.length)) := by
  obtain ⟨known, a, named, supported, _, _, start, whole⟩ := h.goes
  have longer := List.length_pos_iff.mpr more
  rw [importBlob_behind_name named supported (readItem_append start extra).2]
  simp only [unpack_suffix whole extra, List.length_append]
  rw [if_neg (by omega), Nat.add_sub_cancel_left]

/-- A blob that is read begins with the name of the type, framed. Cut off anywhere it is refused,
    and the words tell whether the cut is in the name or behind it; if it goes on it is refused with
    the number of bytes that are too many. So no blob that is read begins another. -/
theorem importBlob_prefixFree {key : Key} (accepted : importBlob blob = .ok key) :
    ∃ name, key.tag.name? = some name ∧ frame name.toUTF8.toList <+: blob ∧
      (∀ cut, cut <+: blob → cut ≠ blob → IsRefused cut
        (if cut.length < (frame name.toUTF8.toList).length then "truncated key type"
          else "truncated " ++ name ++ " public key")) ∧
      (∀ extra, extra ≠ [] → IsRefused (blob ++ extra)
        (toString extra.length ++ " trailing bytes after public key")) ∧
      ∀ other key', importBlob other = .ok key' → blob <+: other → other = blob := by
  obtain ⟨t, bodies, spells⟩ := spells_of_importBlob accepted
  obtain ⟨a, _, _, read⟩ := importBlob_of_spells spells
  cases accepted.symm.trans read
  obtain ⟨name, _, named, _, _, begins, _, _⟩ := spells.goes
  refine ⟨name, (name?_known t).trans named, begins, ?_, ?_, ?_⟩
  · intro cut part other
    have strict := length_lt_of_cut part other
    have refused := isRefused_of_eq (spells.importBlob_cut named part strict)
    split at refused
    · next inside => rwa [if_pos inside]
    · next behind => rwa [if_neg behind]
  · intro extra more
    exact isRefused_of_eq (spells.importBlob_append more)
  · intro other key' accepted' part
    obtain ⟨extra, rfl⟩ := part
    by_cases more : extra = []
    · rw [more, List.append_nil]
    · rw [spells.importBlob_append more] at accepted'
      cases accepted'

/-- A small key, cut off in the length of its name and in that of its first integer, and with a byte
    too many. -/
theorem importBlob_prefixFree_rsa :
    let name := frame "ssh-rsa".toUTF8.toList
    let blob := name ++ [0, 0, 0, 1, 3, 0, 0, 0, 1, 33]
    (∃ key, importBlob blob = .ok key) ∧ IsRefused (name.take 3) "truncated key type" ∧
      IsRefused (name ++ [0, 0]) "truncated ssh-rsa public key" ∧
      IsRefused (blob ++ [0]) "1 trailing bytes after public key" := by
  intro name blob
  have spells : Spells blob .rsa [[3], [33]] :=
    ⟨⟨"ssh-rsa", by simp [wireForms], rfl⟩, by simp⟩
  obtain ⟨_, _, _, read⟩ := importBlob_of_spells spells
  obtain ⟨known, named, _, cuts, longer, _⟩ := importBlob_prefixFree read
  cases (name?_known .rsa).symm.trans named
  have inName := cuts (name.take 3) ((List.take_prefix 3 name).trans (List.prefix_append _ _))
    (ne_of_apply_ne List.length (by simp [blob]; omega))
  have inInteger := cuts (name ++ [0, 0]) ((List.prefix_append_right_inj name).mpr (by decide))
    (ne_of_apply_ne List.length (by simp [blob]))
  rw [if_pos (by rw [List.length_take, length_frame]; omega)] at inName
  rw [if_neg (by simp [name])] at inInteger
  exact ⟨⟨_, read⟩, inName, inInteger, longer [0] (by simp)⟩

end Key

end SshKeys
