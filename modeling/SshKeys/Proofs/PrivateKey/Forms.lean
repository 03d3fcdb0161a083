import SshKeys.PrivateKey.Encoding
import SshKeys.Proofs.Der

/-! # Telling the forms of keys apart

Before a form looks at numbers it reads elements, and what goes wrong there has the faults of
reading. What a form did read shows in the tags and the number of its elements, so a certificate is
neither a pair nor a row of integers.
-/

namespace SshKeys.Encoding

open Outcome

section Reading

/-! ## What precedes the arithmetic -/

end Reading

section Shapes

/-! ## Shapes -/

variable {es : List Der.Element}

theorem wrappedPublic_of_length (h : es.length ≠ 2) : wrappedPublic es = .error .badValue := by
  unfold wrappedPublic
  split
  · simp at h
  · rfl

theorem certified_of_tag {first rest} (h : first.tag ≠ Der.sequenceTag) :
    certified (first :: rest) = .error .badValue := by
  unfold certified
  split
  · next same =>
      cases same
      simp only [Der.Element.elements, if_neg h]
      rfl
  · rfl

end Shapes

end SshKeys.Encoding
