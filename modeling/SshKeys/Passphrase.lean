import SshKeys.Session

/-! # Asking for passphrases

A passphrase is written into a scratch buffer by whoever is asked: a callback, reached through the
session's adapter or directly, or the user at the terminal. `Asked` is all that one such question
leaves behind. `obtain` asks with a fresh scratch buffer, takes the passphrase out of it and burns
it, whatever happened.
-/

namespace SshKeys

namespace Passphrase

def scratchSize : Nat := 1024

def callbackPrompt : String := "Passphrase for private key:"

def terminalPrompt : String := "Enter PEM pass phrase:"

/-- One question to the user. -/
inductive Interaction where
  /-- The callback of this label was called with this prompt, buffer and limit. -/
  | callback (label prompt : String) (buffer : Bytes) (limit : Int)
  | terminal (prompt : String)
  deriving Repr, DecidableEq

/-- What a question leaves behind. -/
structure Asked where
  count : Except Fault (Option Int)
  /-- The buffer afterwards. -/
  buffer : Bytes
  session : Option Session
  interactions : List Interaction

/-- What the session is told before its callback is called. -/
def callMessage : String := "Trying to call external authentication function"

/-- The count that an answer stands for, between zero and the size. -/
def bounded (size : Int) : Option Int → Int
  | none => 0
  | some n => if n ≤ 0 then 0 else min n size

/-- Asks a callback through the adapter: the session is told, the buffer is burned before the
callback sees it, and the count is brought between zero and the size. Where the session cannot be
told, the callback is not called. -/
def viaCallback (callback : Callback) (session : Option Session) (buffer : Bytes) (size : Int) :
    Asked :=
  match Session.reportTo session .debug2 callMessage with
  | (session, some fault) =>
    { count := .error fault, buffer := buffer, session := session, interactions := [] }
  | (session, none) =>
    let clean := buffer.burn
    let reply := callback.ask callbackPrompt clean size
    { count := reply.count.map fun answer => some (bounded size answer)
      buffer := reply.buffer
      session := session
      interactions := [.callback callback.label callbackPrompt clean size] }

/-- Asks a callback through the adapter, where there may be no buffer to write to. -/
def viaCallback? (callback : Callback) (session : Option Session) (buffer : Option Bytes)
    (size : Int) : Asked :=
  match buffer with
  | some buffer => viaCallback callback session buffer size
  | none => { count := .ok (some 0), buffer := [], session := session, interactions := [] }

/-- Asks a callback directly, with a prompt of its own. -/
def direct (callback : Callback) (prompt : String) (buffer : Bytes) (size : Int) : Asked :=
  let reply := callback.ask prompt buffer size
  { count := reply.count
    buffer := reply.buffer
    session := none
    interactions := [.callback callback.label prompt buffer size] }

/-- Asks at the terminal: what is typed is written as UTF-8, cut to the size. -/
def viaTerminal (typed : String) (session : Option Session) (buffer : Bytes) (size : Int) : Asked :=
  let passphrase := Bytes.ofUtf8 typed
  let length := min (passphrase.length : Int) size
  { count := .ok (some length)
    buffer := buffer.replaceUpTo length (passphrase.upTo length)
    session := session
    interactions := [.terminal terminalPrompt] }

/-- A passphrase, and what asking for it leaves behind. -/
structure Obtained where
  passphrase : Except Fault Bytes
  /-- The scratch buffer afterwards. -/
  scratch : Bytes
  session : Option Session
  interactions : List Interaction

/-- The passphrase that a count and a buffer stand for: a count that is not positive means that
none was obtained. -/
def fromScratch (count : Except Fault (Option Int)) (buffer : Bytes) : Except Fault Bytes :=
  match count with
  | .error f => .error f
  | .ok none => .error .badType
  | .ok (some n) =>
    if n ≤ 0 then .error .badValue else .ok (buffer.take (min n.toNat scratchSize))

/-- Asks once with a fresh scratch buffer, and burns it. -/
def obtain (ask : (buffer : Bytes) → (size : Int) → Asked) : Obtained :=
  let asked := ask (Bytes.zeros scratchSize) scratchSize
  { passphrase := fromScratch asked.count asked.buffer
    scratch := asked.buffer.burn
    session := asked.session
    interactions := asked.interactions }

end Passphrase

end SshKeys
