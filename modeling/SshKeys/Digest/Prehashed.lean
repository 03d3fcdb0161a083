import SshKeys.Der

/-! # Finished digests

Signatures are made of SHA-1 digests that the caller has computed. A `Prehashed` digest stands in
for the hash itself: it names the hash and gives the bytes, of whatever number.
-/

namespace SshKeys

structure Prehashed where
  digest : Bytes
  deriving Repr, DecidableEq

namespace Prehashed

def objectId : List Nat := [1, 3, 14, 3, 2, 26]

def encodedObjectId : Bytes := [0x2b, 0x0e, 0x03, 0x02, 0x1a]

theorem objectId?_encodedObjectId :
    (Der.Element.mk Der.objectIdTag encodedObjectId).objectId? = some objectId := by decide

def size : Nat := 20

/-- The object identifier with its arcs in decimal, separated by points. -/
def dottedObjectId : String := ".".intercalate (objectId.map toString)

end Prehashed

end SshKeys
