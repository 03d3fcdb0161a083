import SshKeys.Integer.Framed
import SshKeys.Key.Type
import SshKeys.Value.Printer

/-! # Failures of key operations

Every operation on keys returns a complete result or one of these failures. A failure is its cause;
`Failure.message?` is the wording. A fault that an operation lets pass has no wording of its own.
-/

namespace SshKeys

/-- What is malformed about integers on the wire. -/
inductive Malformation where
  /-- A single integer. -/
  | integer (fault : IntegerFault)
  /-- A public key of the named type needs another number of integers. -/
  | integerCount (name : String) (needed given : Nat)
  /-- A blob ends before its type name does. -/
  | truncatedName
  /-- A blob of the named type ends before its integers do. -/
  | truncatedKey (name : String)
  /-- Bytes are left over behind a key. -/
  | trailingBytes (count : Nat)
  deriving Repr, DecidableEq

inductive Unsupported where
  | keyType (tag : KeyTag)
  | wireName (name : Bytes)
  /-- The size of the subgroup of a key of the named type. -/
  | subgroupSize (name : String) (bits : Nat)
  deriving Repr

/-- Why a signature cannot be made or written. -/
inductive SigningCause where
  /-- The key has no private half. -/
  | noPrivateMaterial (name : String)
  /-- The digest is not as long as the hash makes it. -/
  | digestLength (given needed : Nat)
  /-- The arithmetic refused. -/
  | refused (name : String)
  /-- A half of the signature is wider than its place. -/
  | tooWide (bytes : Nat)
  deriving Repr, DecidableEq

/-- Why an operation on keys has no result. -/
inductive Failure where
  | malformedInteger (what : Malformation)
  | unsupportedAlgorithm (what : Unsupported)
  | unknownKeyFormat
  /-- A wrong passphrase and corrupt data are one and the same failure. -/
  | decryptionFailed
  | allocationFailed (tag : KeyTag)
  | noPublicMaterial (name : Option String)
  | signingFailed (cause : SigningCause)
  /-- A fault that the operation does not turn into a failure of its own. -/
  | fault (f : Fault)
  deriving Repr

namespace Malformation

def message : Malformation → String
  | .integer fault => fault.message
  | .integerCount name needed given =>
    name ++ " public key needs " ++ toString needed ++ " integers, got " ++ toString given
  | .truncatedName => "truncated key type"
  | .truncatedKey name => "truncated " ++ name ++ " public key"
  | .trailingBytes count => toString count ++ " trailing bytes after public key"

end Malformation

namespace Unsupported

/-- What is reported as unsupported. -/
def value : Unsupported → Value
  | .keyType tag => tag.value
  | .wireName name => .bytes name
  | .subgroupSize name bits => .text (name ++ " with " ++ toString bits ++ "-bit q")

end Unsupported

namespace SigningCause

def message : SigningCause → String
  | .noPrivateMaterial name => name ++ " key has no private material"
  | .digestLength given needed =>
    "digest is " ++ toString given ++ " bytes, expected " ++ toString needed
  | .refused name => name ++ " signing failed"
  | .tooWide bytes => "DSS signature does not fit in " ++ toString bytes ++ " bytes"

end SigningCause

namespace Failure

/-- The failure of an operation that could not write an integer. -/
def ofWriting : WritingFailure → Failure
  | .malformed why => .malformedInteger (.integer why)
  | .fault f => .fault f

/-- The kinds of failure that key operations have of their own. -/
inductive Kind where
  /-- Any of them. -/
  | general
  | malformedInteger
  | unsupportedAlgorithm
  | unknownKeyFormat
  | decryptionFailed
  | allocationFailed
  | noPublicMaterial
  | signingFailed
  deriving Repr, DecidableEq

namespace Kind

/-- The wording of a failure of this kind about a subject, which has to be one that is written. What
is unsupported is quoted; every other kind shows its subject alone, or nothing. -/
def message (kind : Kind) (subject : Option Value) : Except Fault String :=
  match kind, subject with
  | .unsupportedAlgorithm, none => .error .badType
  | _, none => .ok ""
  | kind, some v =>
    if !v.hasText then .error .badValue
    else if kind = .unsupportedAlgorithm then
      .ok ("<Unsupported_Algorithm: " ++ String.ofList v.quoted ++ ">")
    else .ok (String.ofList v.shown)

end Kind

/-- The kind of a failure that is the key layer's own. -/
def kind? : Failure → Option Kind
  | .malformedInteger _ => some .malformedInteger
  | .unsupportedAlgorithm _ => some .unsupportedAlgorithm
  | .unknownKeyFormat => some .unknownKeyFormat
  | .decryptionFailed => some .decryptionFailed
  | .allocationFailed _ => some .allocationFailed
  | .noPublicMaterial _ => some .noPublicMaterial
  | .signingFailed _ => some .signingFailed
  | .fault _ => none

def subject : Failure → Value
  | .malformedInteger what => .text what.message
  | .unsupportedAlgorithm what => what.value
  | .unknownKeyFormat => .text "not a PEM private key"
  | .decryptionFailed => .text "unable to decode private key"
  | .allocationFailed tag => tag.value
  | .noPublicMaterial name => match name with
    | some name => .text name
    | none => .absent
  | .signingFailed cause => .text cause.message
  | .fault _ => .absent

/-- The wording of a failure; a fault that passed through has none. -/
def message? (f : Failure) : Option String :=
  f.kind?.bind fun kind => (kind.message (some f.subject)).toOption

end Failure

end SshKeys
