import SshKeys.Key.Failure
import SshKeys.Key.Handle

/-! # Copies of keys

A copy has the type of its source and, unless it is demoted, its flags. It gets the public integers,
which all have to be there, and the private ones if the source is flagged as private and the copy is
not demoted; of those only the private exponent has to be there.
-/

namespace SshKeys.Key

def hasAllPublic (m : Material) : Bool := m.publicFields.all Option.isSome

def copy (key : Key) (demote : Bool) : Except Failure Key :=
  if !key.tag.isSupported then .error (.unsupportedAlgorithm (.keyType key.tag))
  else match key.material with
    | none => .error (.allocationFailed key.tag)
    | some m =>
      let keepsPrivate := !demote && key.isPrivate
      if hasAllPublic m && (!keepsPrivate || m.hasPrivate) then
        .ok { tag := key.tag
              flags := if demote then key.publicFlags else key.flags
              material := some (if keepsPrivate then m else m.publicHalf) }
      else .error (.allocationFailed key.tag)

end SshKeys.Key
