import SshKeys.Key.Copy
import SshKeys.Key.Wire
import SshKeys.PrivateKey.Loading

/-! # Operations on handles

Callers make handles from nothing, from integers, from blobs, from key texts and from other handles,
and free them. Handles are told apart by the order in which they were made. An operation that fails
makes none and leaves the others as they are.
-/

namespace SshKeys

inductive Operation where
  | create (t : KeyType)
  | build (t : KeyType) (fields : List Value)
  | importBlob (blob : Bytes)
  | load (text passphrase : Value) (callback : Option Callback) (session : Option Session)
      (typed : String)
  | copy (source : Nat) (demote : Bool)
  | free (target : Nat)

namespace Operation

/-- The handle that an operation makes next to others, if it is one that makes a handle. -/
def outcome? [Engine] (keys : List Key) : Operation → Option (Except Failure Key)
  | create t => some (.ok (Key.empty (.known t)))
  | build t fields => some (Key.build (.known t) fields)
  | importBlob blob => some (Key.importBlob blob)
  | load text passphrase callback session typed =>
    some (Loading.load text passphrase callback session typed).key
  | copy source demote => keys[source]?.map fun key => key.copy demote
  | free _ => none

/-- The handles after an operation. A handle that was freed is still there. -/
def apply [Engine] (op : Operation) (keys : List Key) : List Key :=
  match op with
  | free target => keys.modify target fun key => key.free.1
  | op => match op.outcome? keys with
    | some (.ok key) => keys ++ [key]
    | _ => keys

/-- The handles after one operation upon the other, of which the first finds none. -/
def run [Engine] (ops : List Operation) : List Key := ops.foldl (fun keys op => op.apply keys) []

end Operation

end SshKeys
