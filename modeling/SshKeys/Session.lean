import SshKeys.Diagnostics
import SshKeys.Fault

/-! # Sessions

A session remembers the last error, owns the sink that messages go to, and holds the callback that
asks the user for passphrases.
-/

namespace SshKeys

/-- What a callback did: the buffer as it left it, and the count it answered with, if it did. -/
structure Reply where
  buffer : Bytes
  count : Except Fault (Option Int)

/-- A passphrase callback. It is shown a prompt and a buffer, and told how many bytes it may write
into the buffer. -/
structure Callback where
  /-- The text that stands for the callback in the log. -/
  label : String
  ask : (prompt : String) → (buffer : Bytes) → (limit : Int) → Reply

structure Session where
  errorCode : Int := 0
  errorMessage : String := ""
  sink : Sink := {}
  callback : Option Callback := none

namespace Session

def fatal : Int := 2

/-- Reports a message. The fault of a stream that breaks is handed on. -/
def report (s : Session) (level : Level) (message : String) : Session × Option Fault :=
  let (sink, fault) := s.sink.report level message
  ({ s with sink := sink }, fault)

/-- Reports a message to a session, if there is one. -/
def reportTo (session : Option Session) (level : Level) (message : String) :
    Option Session × Option Fault :=
  match session with
  | none => (none, none)
  | some s =>
    let (after, fault) := s.report level message
    (some after, fault)

/-- Registers a passphrase callback, or removes the one that is there, once that was reported. -/
def setCallback (s : Session) (callback : Option Callback) : Session × Option Fault :=
  let label := match callback with
    | some c => c.label
    | none => "None"
  match s.report .debug3 ("set_auth_callback(auth_function=" ++ label ++ ")") with
  | (after, none) => ({ after with callback := callback }, none)
  | (after, some fault) => (after, some fault)

/-- Records an error with a ready message, and reports it. -/
def recordError (s : Session) (code : Int) (message : String) : Session × Option Fault :=
  { s with errorCode := code, errorMessage := message }.report .error message

/-- The session after an error is to be recorded and reported, and the fault that this ends with.
The message is put together once, and nothing is recorded if that fails. The sink gets it as it is;
one with a stream that breaks finds the error recorded. -/
def attemptErrorBy (filler : Template.Filler) (s : Session) (code : Int) (template : String)
    (args : Option (List Value)) : Session × Option SinkFault :=
  match Template.messageBy filler template args with
  | .error fault => (s, some (.template fault))
  | .ok message =>
    let recorded := { s with errorCode := code, errorMessage := message }
    match recorded.sink.writeBy filler Level.error.number message none with
    | .error fault => (recorded, some fault)
    | .ok sink => ({ recorded with sink := sink }, none)

/-- Records an error whose message is put together in the usual way. -/
def setError (s : Session) (code : Int) (template : String) (args : Option (List Value)) :
    Session × Option SinkFault :=
  s.attemptErrorBy Template.filled code template args

end Session

end SshKeys
