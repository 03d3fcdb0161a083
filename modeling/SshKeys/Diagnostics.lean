import SshKeys.Fault
import SshKeys.Text.Template

/-! # Diagnostics

A sink takes messages at six named levels and writes those that are at most as detailed as its own
level, one line each. A message that stays hidden is not even put together, so nothing about it can
go wrong; a message that goes wrong leaves the sink as it was.
-/

namespace SshKeys

/-- The levels of messages, from the gravest to the most detailed. -/
inductive Level where
  | error
  | warning
  | info
  | debug1
  | debug2
  | debug3
  deriving Repr, DecidableEq

namespace Level

/-- The number of a level; larger is more detailed. -/
def number : Level → Int
  | .error => 0
  | .warning => 1
  | .info => 2
  | .debug1 => 3
  | .debug2 => 4
  | .debug3 => 5

def name : Level → String
  | .error => "Error"
  | .warning => "Warning"
  | .info => "Info"
  | .debug1 => "Debug 1"
  | .debug2 => "Debug 2"
  | .debug3 => "Debug 3"

def all : List Level := [.error, .warning, .info, .debug1, .debug2, .debug3]

def ofNumber? (n : Int) : Option Level := all.find? fun l => l.number = n

theorem ofNumber?_number (l : Level) : ofNumber? l.number = some l := by
  cases l <;> rfl

end Level

/-- How the stream behind a sink behaves. -/
inductive Stream where
  /-- It takes what is written. -/
  | working
  /-- It refuses every line, and the refusal is passed over. -/
  | refusing
  /-- It breaks on every line, with a fault that is not passed over. -/
  | broken (fault : Fault)
  deriving Repr, DecidableEq

/-- The fault that a stream breaks with, if it does. -/
def Stream.breaks? : Stream → Option Fault
  | .working | .refusing => none
  | .broken fault => some fault

/-- Where messages go. -/
structure Sink where
  /-- The most detailed level that is written. -/
  level : Int := Level.warning.number
  stream : Stream := .working
  /-- Everything written so far. -/
  written : String := ""
  deriving Repr, DecidableEq

inductive SinkFault where
  | template (fault : TemplateFault)
  /-- There is no level of that number. -/
  | unknownLevel (n : Int)
  /-- The stream broke. -/
  | stream (fault : Fault)
  deriving Repr, DecidableEq

namespace Sink

def line (level : Level) (message : String) : String :=
  "[" ++ level.name ++ "] " ++ message ++ "\n"

/-- Hands a line to the stream. -/
def put (sink : Sink) (text : String) : Except Fault Sink :=
  match sink.stream with
  | .working => .ok { sink with written := sink.written ++ text }
  | .refusing => .ok sink
  | .broken fault => .error fault

/-- Writes a message at a level given by number, if the sink shows that level. How the message is
put together is up to the filler. -/
def writeBy (filler : Template.Filler) (sink : Sink) (level : Int) (template : String)
    (args : Option (List Value)) : Except SinkFault Sink :=
  if level ≤ sink.level then
    match Template.messageBy filler template args with
    | .error fault => .error (.template fault)
    | .ok message => match Level.ofNumber? level with
      | none => .error (.unknownLevel level)
      | some named => (sink.put (line named message)).mapError .stream
  else .ok sink

def write (sink : Sink) (level : Int) (template : String) (args : Option (List Value)) :
    Except SinkFault Sink :=
  sink.writeBy Template.filled level template args

/-- Writes a ready message at a named level. A stream that breaks leaves the sink as it was. -/
def report (sink : Sink) (level : Level) (message : String) : Sink × Option Fault :=
  if level.number ≤ sink.level then
    match sink.put (line level message) with
    | .ok next => (next, none)
    | .error fault => (sink, some fault)
  else (sink, none)

/-- What happens to a sink: a message is written to it, or it gets another level. -/
inductive Event where
  | write (level : Int) (template : String) (args : Option (List Value))
  | setLevel (level : Int)
  deriving Repr

/-- The sink after an event, and the fault that the event ends with. A message that goes wrong
leaves the sink as it was. -/
def handleBy (filler : Template.Filler) (sink : Sink) : Event → Sink × Option SinkFault
  | .write level template args => match sink.writeBy filler level template args with
    | .ok next => (next, none)
    | .error fault => (sink, some fault)
  | .setLevel level => ({ sink with level := level }, none)

/-- The sink after one event upon the other, and how each of them ends. -/
def runBy (filler : Template.Filler) (sink : Sink) : List Event → Sink × List (Option SinkFault)
  | [] => (sink, [])
  | event :: events =>
    let (next, fault) := sink.handleBy filler event
    let (last, faults) := runBy filler next events
    (last, fault :: faults)

end Sink

end SshKeys
