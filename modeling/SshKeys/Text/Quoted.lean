import SshKeys.Bytes
import SshKeys.Text.Printable

/-! # Quoted text

A quoted text stands between apostrophes, or between quotation marks when it holds an apostrophe
and no quotation mark. The backslash, the surrounding mark and what is not printable are escaped.
Byte strings are quoted alike, with a leading letter, and show ASCII only.
-/

namespace SshKeys.Text

def apostrophe : Char := Char.ofNat 39

def quotationMark : Char := Char.ofNat 34

def backslash : Char := Char.ofNat 92

def quoteMark (text : List Char) : Char :=
  if text.contains apostrophe && !text.contains quotationMark then quotationMark else apostrophe

/-- The `width` low hexadecimal digits of a number. -/
def hexDigits : (width : Nat) → Nat → List Char
  | 0, _ => []
  | width + 1, n => hexDigits width (n / 16) ++ [Bytes.hexDigit (n % 16)]

/-- The escape of a code point, on two, four or eight hexadecimal digits as it needs. -/
def escapeCode (n : Nat) : List Char :=
  if n < 0x100 then backslash :: 'x' :: hexDigits 2 n
  else if n < 0x10000 then backslash :: 'u' :: hexDigits 4 n
  else backslash :: 'U' :: hexDigits 8 n

/-- A character as it stands between two `mark`s. -/
def escapeChar (mark c : Char) : List Char :=
  if c = mark ∨ c = backslash then [backslash, c]
  else if c = '\n' then [backslash, 'n']
  else if c = '\r' then [backslash, 'r']
  else if c = '\t' then [backslash, 't']
  else if isPrintable c then [c]
  else escapeCode c.toNat

/-- A byte as it stands between two `mark`s. -/
def escapeByte (mark : Char) (b : UInt8) : List Char :=
  if b < 128 then escapeChar mark (Char.ofNat b.toNat) else escapeCode b.toNat

def quote (text : List Char) : List Char :=
  let mark := quoteMark text
  mark :: text.flatMap (escapeChar mark) ++ [mark]

def quoteBytes (bytes : Bytes) : List Char :=
  let mark := quoteMark (Bytes.toChars bytes)
  'b' :: mark :: bytes.flatMap (escapeByte mark) ++ [mark]

end SshKeys.Text
