import SshKeys.Digest.Md5
import SshKeys.Key.Failure
import SshKeys.Key.Handle
import SshKeys.Payload

/-! # Public keys on the wire

A public key travels as its type name followed by its public integers, each framed. `build` makes a
handle from framed integers, `importBlob` from a whole blob, and `exportBlob` writes the blob of a
handle. Reading accepts any framing of the right integers and nothing behind it.
-/

namespace SshKeys.Key

/-- Decodes framed integers in order; the first one that fails is reported. -/
def decodeFields : List Value → Except Failure (List Nat)
  | [] => .ok []
  | field :: fields => match Framed.decode field with
    | .error fault => .error (.malformedInteger (.integer fault))
    | .ok n => (decodeFields fields).map (n :: ·)

/-- A public key of a type from its framed integers. -/
def build (tag : KeyTag) (fields : List Value) : Except Failure Key :=
  match tag.algorithm? with
  | none => .error (.unsupportedAlgorithm (.keyType tag))
  | some algorithm =>
    let needed := Material.publicCount algorithm
    if fields.length ≠ needed then
      .error (.malformedInteger (.integerCount tag.label needed fields.length))
    else (decodeFields fields).map fun numbers =>
      { tag := tag, flags := flagPublic, material := some (Material.ofPublic algorithm numbers) }

def importBlob (blob : Bytes) : Except Failure Key :=
  match Payload.readItem .string blob 0 with
  | .error _ => .error (.malformedInteger .truncatedName)
  | .ok (name, offset) =>
    let tag := KeyTag.known (KeyType.ofNameValue (.bytes name))
    match tag.algorithm? with
    | none => .error (.unsupportedAlgorithm (.wireName name))
    | some algorithm =>
      let format := List.replicate (Material.publicCount algorithm) Payload.Code.framedInteger
      match Payload.unpack format blob offset with
      | .error _ => .error (.malformedInteger (.truncatedKey tag.label))
      | .ok (fields, stop) =>
        if stop = blob.length then build tag (fields.map .bytes)
        else .error (.malformedInteger (.trailingBytes (blob.length - stop)))

/-- Frames public integers in order; the first one that is missing or negative is reported. -/
def encodeFields : List (Option Int) → Except Failure (List Bytes)
  | [] => .ok []
  | none :: _ => .error (.fault .badType)
  | some n :: fields => match Framed.encode n with
    | .error failure => .error (.ofWriting failure)
    | .ok frame => (encodeFields fields).map (frame :: ·)

def exportBlob (key : Key) : Except Failure Bytes :=
  if !key.isPublic then .error (.noPublicMaterial key.tag.name?)
  else if !key.tag.isSupported then .error (.unsupportedAlgorithm (.keyType key.tag))
  else match key.material with
    | none => .error (.fault .noMember)
    | some material =>
      (encodeFields material.publicFields).map fun frames =>
        Framed.frame (key.tag.label.toUTF8.toList) ++ frames.flatten

/-- Two hexadecimal digits for every byte, with colons between them. -/
def colonHex : Bytes → List Char
  | [] => []
  | [b] => Bytes.hexPair b
  | b :: rest => Bytes.hexPair b ++ ':' :: colonHex rest

def fingerprint (key : Key) : Except Failure String :=
  key.exportBlob.map fun blob => String.ofList (colonHex (Md5.digest blob))

end SshKeys.Key
