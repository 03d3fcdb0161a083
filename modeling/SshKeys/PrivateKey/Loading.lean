import SshKeys.Key.Failure
import SshKeys.Key.Handle
import SshKeys.PrivateKey.Reading
import SshKeys.Text.Safe

/-! # Loading private keys

`load` makes a handle from the text of a private key. The passphrase comes from exactly one place:
the argument, else a callback (the argument or the one that the session holds), else the terminal;
and nothing is asked unless the text is encrypted. What fails is recorded on the session in fixed
words, so that neither the text nor the passphrase shows in them.
-/

namespace SshKeys.Loading

/-- What loading a key leaves behind. -/
structure Load where
  key : Except Failure Key
  session : Option Session
  /-- The scratch buffer afterwards, if there was one. -/
  scratch : Option Bytes := none
  interactions : List Passphrase.Interaction := []

/-- How much of a text that is no key is shown in the log, in characters. -/
def shownLength : Nat := 40

def unknownMessage : String := "Unknown or invalid private key."

def unsupportedMessage (t : KeyType) : String :=
  "Unknown or invalid private key type " ++ toString t.number

def undecodableMessage : String := "Parsing private key: unable to decode private key"

def memoryMessage : String := "Parsing private key: out of memory"

/-- Records a failure on the session, if there is one. -/
def record (session : Option Session) (message : String) : Option Session × Option Fault :=
  match session with
  | none => (none, none)
  | some s =>
    let (after, fault) := s.recordError Session.fatal message
    (some after, fault)

/-- Ends with a failure once it has been recorded. A stream that breaks over it puts its own fault
in the failure's place. -/
def fail (session : Option Session) (failure : Failure) (message : String) : Load :=
  let (after, fault) := record session message
  { key := .error ((fault.map Failure.fault).getD failure), session := after }

/-- The characters of a key text: byte strings have to be ASCII. -/
def characters (text : Value) : Except Failure (List Char) :=
  match text with
  | .text s => .ok s.toList
  | .bytes b => if b.isAscii then .ok b.toChars else .error .unknownKeyFormat
  | .buffer _ => .error (.fault .badType)
  | _ => .error (.fault .noMember)

/-- The line in the log about a text that is no key. -/
def unrecognizedMessage (text : List Char) : String :=
  "Unrecognized private key envelope: " ++
    String.ofList (Text.quote (Text.mask ((Text.trimStart text).take shownLength)))

/-- What becomes of a fault while a key is read: the failure, and the words that are recorded. A
fault that is not the key's passes through and nothing is recorded. -/
def failureOf (t : KeyType) (f : Fault) : Failure × Option String :=
  match f with
  | .badValue | .notEncodable | .badIndex | .badType => (.decryptionFailed, some undecodableMessage)
  | .outOfMemory => (.allocationFailed (.known t), some memoryMessage)
  | .noMember | .zeroModulus | .raised _ => (.fault f, none)

def handle (t : KeyType) (m : Material) : Key :=
  { tag := .known t, flags := flagPublic + flagPrivate, material := some m }

/-- What reading a key of a type leaves behind as a load. -/
def conclude (t : KeyType) (read : Reading.Read) : Load :=
  let ending : Load := match read.material with
    | .ok m =>
      if m.hasPrivate then { key := .ok (handle t m), session := read.session }
      else fail read.session .decryptionFailed undecodableMessage
    | .error f => match failureOf t f with
      | (failure, some message) => fail read.session failure message
      | (failure, none) => { key := .error failure, session := read.session }
  { ending with scratch := read.scratch, interactions := read.interactions }

/-- Who is asked for a passphrase: the callback given, else the session's, else the terminal, where
`typed` is what the user types. -/
def asker (callback : Option Callback) (session : Option Session) (typed : String) :
    (buffer : Bytes) → (size : Int) → Passphrase.Asked :=
  match callback.or (session.bind Session.callback) with
  | some c => Passphrase.viaCallback c session
  | none => Passphrase.viaTerminal typed session

def loadText [Engine] (text : List Char) (passphrase : Value) (callback : Option Callback)
    (session : Option Session) (typed : String) : Load :=
  let t := Pem.keyType text
  match t, t.algorithm? with
  | .unknown, _ => match Session.reportTo session .debug1 (unrecognizedMessage text) with
    | (session, none) => fail session .unknownKeyFormat unknownMessage
    | (session, some fault) => { key := .error (.fault fault), session := session }
  | _, none => fail session (.unsupportedAlgorithm (.keyType (.known t))) (unsupportedMessage t)
  | _, some algorithm =>
    conclude t (Reading.readText algorithm text passphrase session (asker callback session typed))

def load [Engine] (text passphrase : Value) (callback : Option Callback) (session : Option Session)
    (typed : String) : Load :=
  match characters text with
  | .ok chars => loadText chars passphrase callback session typed
  | .error (.fault f) => { key := .error (.fault f), session := session }
  | .error failure => fail session failure unknownMessage

end SshKeys.Loading
