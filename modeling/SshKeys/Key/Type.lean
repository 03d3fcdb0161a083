import SshKeys.Fault
import SshKeys.Value

/-! # Key types

Five key types are known by number, and four of them have a wire name. Three are supported: they
select the algorithm that their material belongs to. Callers may ask for a type by any value, so a
`KeyTag` keeps the value that was asked for and `KeyTag.type?` is the known type that it stands for.
-/

namespace SshKeys

/-- The algorithms that there is key material for. -/
inductive Algorithm where
  | dss
  | rsa
  deriving Repr, DecidableEq

inductive KeyType where
  | unknown
  | dss
  | rsa
  | rsa1
  | ecdsa
  deriving Repr, DecidableEq

namespace KeyType

def number : KeyType → Nat
  | .unknown => 0
  | .dss => 1
  | .rsa => 2
  | .rsa1 => 3
  | .ecdsa => 4

def name? : KeyType → Option String
  | .unknown => none
  | .dss => some "ssh-dss"
  | .rsa => some "ssh-rsa"
  | .rsa1 => some "ssh-rsa1"
  | .ecdsa => some "ssh-ecdsa"

def algorithm? : KeyType → Option Algorithm
  | .dss => some .dss
  | .rsa | .rsa1 => some .rsa
  | .unknown | .ecdsa => none

def all : List KeyType := [.unknown, .dss, .rsa, .rsa1, .ecdsa]

def ofNumber? (n : Int) : Option KeyType := all.find? fun t => (t.number : Int) = n

/-- The key type of a wire name; a name that nobody has is of unknown type. -/
def ofName (name : String) : KeyType := (all.find? fun t => t.name? = some name).getD .unknown

/-- The key type that a value names: a text, or a byte string that is ASCII and not writable. -/
def ofNameValue : Value → KeyType
  | .text name => ofName name
  | .bytes b => if b.isAscii then ofName (String.ofList b.toChars) else .unknown
  | _ => .unknown

theorem ofNumber?_number (t : KeyType) : ofNumber? t.number = some t := by
  cases t <;> rfl

theorem ofName_eq_of_name? {t : KeyType} {name : String} (h : t.name? = some name) :
    ofName name = t := by
  cases t <;> simp only [name?, Option.some.injEq, reduceCtorEq] at h <;> subst h <;> rfl

theorem ofName_eq_iff {t : KeyType} {name known : String} (h : t.name? = some known) :
    ofName name = t ↔ name = known := by
  constructor
  · intro found
    unfold ofName at found
    cases hit : all.find? fun t => t.name? = some name with
    | none =>
        simp only [hit, Option.getD_none] at found
        subst found
        cases h
    | some u =>
        simp only [hit, Option.getD_some] at found
        subst found
        simpa [h, eq_comm] using List.find?_some hit
  · rintro rfl
    exact ofName_eq_of_name? h

end KeyType

/-- The type that a handle or a signature was made with: any value that a type was asked for by. -/
structure KeyTag where
  value : Value
  deriving Repr

namespace KeyTag

def known (t : KeyType) : KeyTag := ⟨.int t.number⟩

/-- The tag of a value. Lists and writable byte strings cannot be looked up among the types. -/
def ofValue (v : Value) : Except Fault KeyTag :=
  match v with
  | .list _ | .buffer _ => .error .badType
  | v => .ok ⟨v⟩

/-- The known type that a tag stands for. Whatever counts as a whole number counts as that number's
type. -/
def type? (tag : KeyTag) : Option KeyType := tag.value.number?.bind KeyType.ofNumber?

@[simp] theorem type?_known (t : KeyType) : (known t).type? = some t := by
  simp [known, type?, Value.number?, KeyType.ofNumber?_number]

def name? (tag : KeyTag) : Option String := tag.type?.bind KeyType.name?

/-- The text that stands for the wire name in messages. -/
def label (tag : KeyTag) : String := tag.name?.getD "None"

def algorithm? (tag : KeyTag) : Option Algorithm := tag.type?.bind KeyType.algorithm?

def isSupported (tag : KeyTag) : Bool := tag.algorithm?.isSome

theorem algorithm?_of_type? {tag : KeyTag} {t : KeyType} (h : tag.type? = some t) :
    tag.algorithm? = t.algorithm? := by
  rw [algorithm?, h, Option.bind_some]

theorem isSupported_of_algorithm? {tag : KeyTag} {a : Algorithm} (h : tag.algorithm? = some a) :
    tag.isSupported = true := by
  rw [isSupported, h, Option.isSome_some]

end KeyTag

end SshKeys
