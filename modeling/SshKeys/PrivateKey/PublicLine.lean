import SshKeys.Key.Material
import SshKeys.Pem.Base64
import SshKeys.Text.Blank

/-! # Public keys on one line

A line with a public key begins with the name of the algorithm and a space. The next word is the
transfer encoding of the key's items, each behind a four-byte length: the name once more, and the
integers. The last item may be cut short.
-/

namespace SshKeys.PublicLine

/-- What a line of an algorithm begins with. -/
def opening : Algorithm → List Char
  | .rsa => "ssh-rsa ".toList
  | .dss => "ssh-dss ".toList

/-- The name that the items of a DSA key begin with. -/
def dsaName : Bytes := "ssh-dss".toUTF8.toList

/-- The items of a payload, at most `count` of them. Four bytes or less at the end are no item. -/
def items : (count : Nat) → Bytes → List Bytes
  | 0, _ => []
  | count + 1, payload =>
    if payload.length ≤ 4 then []
    else
      let length := Bytes.toNat (payload.take 4)
      let rest := payload.drop 4
      rest.take length :: items count (rest.drop length)

/-- The integer in an item; there may be fewer items than that. -/
def integerAt (es : List Bytes) (place : Nat) : Except Fault (Option Int) :=
  match es[place]? with
  | some item => .ok (some (Bytes.toNat item : Int))
  | none => .error .badIndex

/-- The material of the items of a key. The name is looked at in a DSA key only. -/
def ofItems [Engine] (algorithm : Algorithm) (es : List Bytes) : Except Fault Material :=
  match algorithm with
  | .rsa => do
    let e ← integerAt es 1
    let n ← integerAt es 2
    let key ← Rsa.publicKey n e
    return .rsa (.ofPublicKey key)
  | .dss =>
    if es = [] then .error .badIndex
    else if es.head? ≠ some dsaName then .error .badValue
    else do
      let y ← integerAt es 4
      let g ← integerAt es 3
      let p ← integerAt es 1
      let q ← integerAt es 2
      let key ← Dsa.publicKey p q g y
      return .dss (.ofPublicKey key)

/-- The material in a line, whose beginning is left out here. -/
def material [Engine] (algorithm : Algorithm) (afterOpening : List Char) :
    Except Fault Material :=
  match Base64.decodeFrom [] 0 (afterOpening.takeWhile (· ≠ ' ')) with
  | some payload => ofItems algorithm (items payload.length payload)
  | none => .error .badValue

end SshKeys.PublicLine
