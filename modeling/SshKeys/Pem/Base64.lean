import SshKeys.Bytes

/-! # Base64 text

Four characters of a 64-letter alphabet spell three bytes. Reading is lenient: characters outside
the alphabet are passed over, and reading stops at the first group that padding completes.
-/

namespace SshKeys.Base64

/-- The number that a character of the alphabet stands for. -/
def sextet? (c : Char) : Option Nat :=
  if 'A' ≤ c ∧ c ≤ 'Z' then some (c.toNat - 65)
  else if 'a' ≤ c ∧ c ≤ 'z' then some (c.toNat - 71)
  else if '0' ≤ c ∧ c ≤ '9' then some (c.toNat + 4)
  else if c = '+' then some 62
  else if c = '/' then some 63
  else none

def firstByte (a b : Nat) : UInt8 := UInt8.ofNat (a * 4 + b / 16)

def secondByte (b c : Nat) : UInt8 := UInt8.ofNat (b % 16 * 16 + c / 4)

def thirdByte (c d : Nat) : UInt8 := UInt8.ofNat (c % 4 * 64 + d)

/-- Reads on from inside a group whose numbers so far are `group`, followed by `pads` padding
characters. Padding counts once a group has two numbers, and completes it when numbers and padding
make four. Another number takes the padding back. Text must not end inside a group. -/
def decodeFrom (group : List Nat) (pads : Nat) : List Char → Option Bytes
  | [] => if group = [] then some [] else none
  | c :: rest =>
    if c = '=' then
      match group with
      | [a, b] => if pads = 0 then decodeFrom group 1 rest else some [firstByte a b]
      | [a, b, c] => some [firstByte a b, secondByte b c]
      | _ => decodeFrom group pads rest
    else match sextet? c with
      | none => decodeFrom group pads rest
      | some d => match group with
        | [a, b, c] =>
          (decodeFrom [] 0 rest).map ([firstByte a b, secondByte b c, thirdByte c d] ++ ·)
        | _ => decodeFrom (group ++ [d]) 0 rest

/-- The bytes of a text, which has to be ASCII. -/
def decode? (text : List Char) : Option Bytes :=
  if text.all (fun c => c.toNat < 128) then decodeFrom [] 0 text else none

end SshKeys.Base64
