/-! # Faults

A fault is what can go wrong below the key layer: in arithmetic, in an argument of the wrong sort,
or inside a callback. Operations of the key layer turn most faults into failures of their own; the
ones that pass through keep their name.
-/

namespace SshKeys

/-- What went wrong below the key layer. -/
inductive Fault where
  /-- A value of the right sort that is not acceptable. -/
  | badValue
  /-- A text that does not fit the encoding asked for. -/
  | notEncodable
  /-- A position outside what is there. -/
  | badIndex
  /-- A value of the wrong sort, or none where one is needed. -/
  | badType
  /-- Something is asked of a thing that does not have it. -/
  | noMember
  /-- A division by zero, or arithmetic modulo zero. -/
  | zeroModulus
  | outOfMemory
  /-- Anything else that a callback raises, by its name. -/
  | raised (name : String)
  deriving Repr, DecidableEq

end SshKeys
