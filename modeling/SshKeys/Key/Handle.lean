import SshKeys.Key.Material

/-! # Key handles

A handle has a type for life, flags that say which halves of a key it carries, and its material. It
owns the material: freeing the handle burns and drops it.
-/

namespace SshKeys

def flagPublic : Int := 1

def flagPrivate : Int := 2

structure Key where
  tag : KeyTag
  flags : Int := 0
  material : Option Material := none
  deriving Repr

namespace Key

def empty (tag : KeyTag) : Key := { tag := tag }

/-- Whether the flag of a public half is set. -/
def isPublic (key : Key) : Bool := key.flags % 2 == 1

/-- Whether the flag of a private half is set. -/
def isPrivate (key : Key) : Bool := key.flags / 2 % 2 == 1

def publicFlags (key : Key) : Int := if key.isPrivate then key.flags - flagPrivate else key.flags

/-- Burns and drops the material and clears the flags; the burned material is returned as well. -/
def free (key : Key) : Key × Option Material :=
  ({ key with flags := 0, material := none }, key.material.map Material.burn)

/-- The digits of a number in base sixteen behind their mark. -/
def hexNumber (n : Int) : String :=
  (if n < 0 then "-0x" else "0x") ++ String.ofList (Nat.toDigits 16 n.natAbs)

def describe (key : Key) : String :=
  "<SSH_Key type=" ++ key.tag.label ++ " flags=" ++ hexNumber key.flags ++ ">"

end Key

end SshKeys
