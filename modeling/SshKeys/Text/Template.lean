import SshKeys.Value.Printer

/-! # Message templates

A template is a text with places for arguments: `%s` takes the shown text of one, `%r` its quoted
text and `%d` its whole-number text, while `%%` stands for a per cent sign. The arguments are used
up from left to right, each exactly once; the first fault from the left is reported, and arguments
left over only at the end.
-/

namespace SshKeys

inductive TemplateFault where
  /-- A place without an argument. -/
  | tooFewArguments
  /-- An argument without a place. -/
  | tooManyArguments
  /-- A whole-number place with an argument that is no number by its sort. -/
  | notANumber
  /-- A whole-number place with an infinite argument. -/
  | infinite
  /-- A whole-number place with an argument of a number's sort that is undefined. -/
  | undefined
  /-- An argument that is not written. -/
  | noText
  /-- A per cent sign at the very end. -/
  | unfinished
  /-- A place of no known kind. -/
  | unknownPlace (c : Char)
  deriving Repr, DecidableEq

namespace Template

/-- The whole number that a numeric argument is written as; fractions are cut off. -/
def wholeNumber : Value → Except TemplateFault Int
  | .float (.infinite _) => .error .infinite
  | .float .undefined => .error .undefined
  | .float (.finite isNegative significand exponent) =>
    .ok (Double.wholePart isNegative significand exponent)
  | v => match v.number? with
    | some n => .ok n
    | none => .error .notANumber

/-- The text that an argument contributes at a place of the given kind. -/
def place (kind : Char) (arg : Value) : Except TemplateFault (List Char) :=
  if kind = 's' then if arg.hasText then .ok arg.shown else .error .noText
  else if kind = 'r' then if arg.hasText then .ok arg.quoted else .error .noText
  else if kind = 'd' then do
    let n ← wholeNumber arg
    if isWritable n then .ok (intChars n) else .error .noText
  else .error (.unknownPlace kind)

def fill : (template : List Char) → (args : List Value) → Except TemplateFault (List Char)
  | [], [] => .ok []
  | [], _ :: _ => .error .tooManyArguments
  | c :: rest, args =>
    if c = '%' then
      match rest, args with
      | [], _ => .error .unfinished
      | kind :: rest, args =>
        if kind = '%' then (fill rest args).map ('%' :: ·)
        else match args with
          | [] => .error .tooFewArguments
          | arg :: args => do
            let text ← place kind arg
            let remaining ← fill rest args
            return text ++ remaining
    else (fill rest args).map (c :: ·)

/-- A way of filling templates. -/
def Filler : Type := String → List Value → Except TemplateFault String

/-- Fills the places that are described above. -/
def filled : Filler := fun template args => (fill template.toList args).map String.ofList

/-- The message that a filler puts together if arguments are given; without any, the template is the
message itself and its per cent signs mean nothing. -/
def messageBy (filler : Filler) (template : String) :
    Option (List Value) → Except TemplateFault String
  | none => .ok template
  | some args => filler template args

end Template

end SshKeys
