import SshKeys.Key.Signature

/-! # Requests for signatures

Callers hold handles and collect the signatures that are made with them. A request names a handle by
its place. One that fails, or that names no handle, adds no signature.
-/

namespace SshKeys

/-- What a caller holds. -/
structure Holdings where
  keys : List Key
  signatures : List Signature := []
  deriving Repr

/-- A digest that the handle at a place is to sign. -/
structure Request where
  place : Nat
  draw : Draw
  digest : Bytes
  deriving Repr, DecidableEq

namespace Request

def outcome? [Engine] (keys : List Key) (request : Request) : Option (Except Failure Signature) :=
  keys[request.place]?.map fun key => key.sign request.draw request.digest

def apply [Engine] (request : Request) (held : Holdings) : Holdings :=
  match request.outcome? held.keys with
  | some (.ok s) => { held with signatures := held.signatures ++ [s] }
  | _ => held

/-- What is held after one request upon the other. -/
def run [Engine] (requests : List Request) (held : Holdings) : Holdings :=
  requests.foldl (fun held request => request.apply held) held

end Request

end SshKeys
