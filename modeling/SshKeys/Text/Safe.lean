import SshKeys.Value

/-! # Text that is safe to show

Control codes and everything beyond ASCII are masked before foreign text reaches a terminal or a
log. Masking keeps positions: the result has one character for each code point or byte.
-/

namespace SshKeys.Text

/-- Whether a code is shown as it is: printable ASCII, or one of tab, newline, vertical tab, form
feed and carriage return. -/
def isShown (code : Nat) : Bool := (0x20 ≤ code && code ≤ 0x7e) || (9 ≤ code && code ≤ 13)

/-- The character that stands for a code: itself when it is shown, a dollar sign otherwise. -/
def maskCode (code : Nat) : Char := if isShown code then Char.ofNat code else '$'

/-- Masks a text given by its code points; a code point above 255 becomes a question mark. -/
def maskCodePoints (codes : List Nat) : List Char :=
  codes.map fun code => if code < 256 then maskCode code else '?'

def mask (text : List Char) : List Char := maskCodePoints (text.map Char.toNat)

def maskBytes (bytes : Bytes) : List Char := bytes.map fun b => maskCode b.toNat

/-- Masks one item of a list: a whole number that is shown stands for its character. An item that
cannot be looked up among the codes, or that is shown but is no integer, has no masked form. -/
def maskItem? : Value → Option Char
  | .list _ | .buffer _ => none
  | .float x => match x.toInt? with
    | some n => if 0 ≤ n ∧ isShown n.toNat then none else some '$'
    | none => some '$'
  | item => match item.number? with
    | some n => if 0 ≤ n then some (maskCode n.toNat) else some '$'
    | none => some '$'

/-- Masks a value: texts, byte strings and lists have a masked form. -/
def mask? : Value → Option (List Char)
  | .text s => some (mask s.toList)
  | .bytes b | .buffer b => some (maskBytes b)
  | .list items => items.mapM maskItem?
  | _ => none

end SshKeys.Text
