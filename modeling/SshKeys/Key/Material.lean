import SshKeys.Dsa.Key
import SshKeys.Key.Type
import SshKeys.Rsa.Key

/-! # Key material

Material holds the integers of a key, any of which may be missing. `ofPrivateKey` and its kin copy
the numbers out of a checked key, and `privateKey` and `publicKey` check them again: absence is a
fault of the sort, inconsistency one of the value.
-/

namespace SshKeys

/-- The integers of an RSA key. The last three repeat what the others determine and are not needed.
-/
structure RsaMaterial where
  e : Option Int := none
  n : Option Int := none
  d : Option Int := none
  p : Option Int := none
  q : Option Int := none
  dmp1 : Option Int := none
  dmq1 : Option Int := none
  iqmp : Option Int := none
  deriving Repr, DecidableEq

structure DssMaterial where
  p : Option Int := none
  q : Option Int := none
  g : Option Int := none
  pubKey : Option Int := none
  privKey : Option Int := none
  deriving Repr, DecidableEq

namespace RsaMaterial

def publicKey [Engine] (m : RsaMaterial) : Except Fault Rsa.PublicKey := Rsa.publicKey m.n m.e

def factors? (m : RsaMaterial) : Option (Int × Int) :=
  match m.p, m.q with
  | some p, some q => some (p, q)
  | _, _ => none

/-- The checked private key of the material; missing factors are recovered. -/
def privateKey [Engine] (m : RsaMaterial) : Except Fault Rsa.PrivateKey :=
  Rsa.privateKey m.n m.e m.d m.factors?

def ofPublicKey (key : Rsa.PublicKey) : RsaMaterial :=
  { n := some (key.n : Int), e := some (key.e : Int) }

/-- The material of a private key, with everything that can be computed from it. -/
def ofPrivateKey (key : Rsa.PrivateKey) : RsaMaterial :=
  { n := some (key.n : Int)
    e := some (key.e : Int)
    d := some (key.d : Int)
    p := some (key.p : Int)
    q := some (key.q : Int)
    dmp1 := some ((key.d % (key.p - 1) : Nat) : Int)
    dmq1 := some ((key.d % (key.q - 1) : Nat) : Int)
    iqmp := (inverse? key.q key.p).map fun u => (u : Int) }

def burn (m : RsaMaterial) : RsaMaterial :=
  let zero := Option.map fun (_ : Int) => (0 : Int)
  ⟨zero m.e, zero m.n, zero m.d, zero m.p, zero m.q, zero m.dmp1, zero m.dmq1, zero m.iqmp⟩

end RsaMaterial

namespace DssMaterial

def publicKey [Engine] (m : DssMaterial) : Except Fault Dsa.PublicKey :=
  Dsa.publicKey m.p m.q m.g m.pubKey

def privateKey [Engine] (m : DssMaterial) : Except Fault Dsa.PrivateKey :=
  Dsa.privateKey m.p m.q m.g m.pubKey m.privKey

def ofPublicKey (key : Dsa.PublicKey) : DssMaterial :=
  { p := some (key.p : Int)
    q := some (key.q : Int)
    g := some (key.g : Int)
    pubKey := some (key.y : Int) }

def ofPrivateKey (key : Dsa.PrivateKey) : DssMaterial :=
  { ofPublicKey key.publicKey with privKey := some (key.x : Int) }

def burn (m : DssMaterial) : DssMaterial :=
  let zero := Option.map fun (_ : Int) => (0 : Int)
  ⟨zero m.p, zero m.q, zero m.g, zero m.pubKey, zero m.privKey⟩

end DssMaterial

inductive Material where
  | rsa (m : RsaMaterial)
  | dss (m : DssMaterial)
  deriving Repr, DecidableEq

namespace Material

def algorithm : Material → Algorithm
  | .rsa _ => .rsa
  | .dss _ => .dss

/-- Material of an algorithm without any integers. -/
def empty : Algorithm → Material
  | .rsa => .rsa {}
  | .dss => .dss {}

/-- The names of all integers of an algorithm's material, the public ones first and in the order in
which they travel. -/
def fieldNames : Algorithm → List String
  | .rsa => ["e", "n", "d", "p", "q", "dmp1", "dmq1", "iqmp"]
  | .dss => ["p", "q", "g", "pub_key", "priv_key"]

/-- How many of the integers are public. -/
def publicCount : Algorithm → Nat
  | .rsa => 2
  | .dss => 4

/-- All integers, in the order of their names. -/
def fields : Material → List (Option Int)
  | .rsa m => [m.e, m.n, m.d, m.p, m.q, m.dmp1, m.dmq1, m.iqmp]
  | .dss m => [m.p, m.q, m.g, m.pubKey, m.privKey]

/-- The public integers, in the order in which they travel. -/
def publicFields : Material → List (Option Int)
  | .rsa m => [m.e, m.n]
  | .dss m => [m.p, m.q, m.g, m.pubKey]

/-- The private integers, in the order of their names. -/
def privateFields : Material → List (Option Int)
  | .rsa m => [m.d, m.p, m.q, m.dmp1, m.dmq1, m.iqmp]
  | .dss m => [m.privKey]

/-- The private integer that cannot be done without. -/
def privateExponent : Material → Option Int
  | .rsa m => m.d
  | .dss m => m.privKey

def publicHalf : Material → Material
  | .rsa m => .rsa { e := m.e, n := m.n }
  | .dss m => .dss { m with privKey := none }

def hasPrivate (m : Material) : Bool := m.privateExponent.isSome

/-- Material with the given public integers, in the order in which they travel. -/
def ofPublic : Algorithm → List Nat → Material
  | .rsa, [e, n] => .rsa { e := some (e : Int), n := some (n : Int) }
  | .dss, [p, q, g, y] =>
    .dss { p := some (p : Int), q := some (q : Int), g := some (g : Int), pubKey := some (y : Int) }
  | algorithm, _ => empty algorithm

@[simp] theorem algorithm_ofPublic (a : Algorithm) (numbers : List Nat) :
    (ofPublic a numbers).algorithm = a := by
  unfold ofPublic
  split
  · rfl
  · rfl
  · cases a <;> rfl

theorem numbers_of_rsa {numbers : List Nat} (h : numbers.length = publicCount .rsa) :
    ∃ e n, numbers = [e, n] := by
  match numbers, h with
  | [e, n], _ => exact ⟨e, n, rfl⟩

theorem numbers_of_dss {numbers : List Nat} (h : numbers.length = publicCount .dss) :
    ∃ p q g y, numbers = [p, q, g, y] := by
  match numbers, h with
  | [p, q, g, y], _ => exact ⟨p, q, g, y, rfl⟩

theorem publicFields_ofPublic {a : Algorithm} {numbers : List Nat}
    (h : numbers.length = publicCount a) :
    (ofPublic a numbers).publicFields = numbers.map fun (n : Nat) => some (n : Int) := by
  cases a with
  | rsa =>
      obtain ⟨e, n, rfl⟩ := numbers_of_rsa h
      rfl
  | dss =>
      obtain ⟨p, q, g, y, rfl⟩ := numbers_of_dss h
      rfl

theorem privateFields_ofPublic (a : Algorithm) (numbers : List Nat) :
    ∀ field ∈ (ofPublic a numbers).privateFields, field = none := by
  unfold ofPublic
  split
  · simp [privateFields]
  · simp [privateFields]
  · cases a <;> simp [empty, privateFields]

def burn : Material → Material
  | .rsa m => .rsa m.burn
  | .dss m => .dss m.burn

/-- The material with one integer set; nothing changes if there is none of that name. -/
def set (m : Material) (name : String) (value : Option Int) : Material :=
  match m with
  | .rsa m => .rsa (match name with
    | "e" => { m with e := value }
    | "n" => { m with n := value }
    | "d" => { m with d := value }
    | "p" => { m with p := value }
    | "q" => { m with q := value }
    | "dmp1" => { m with dmp1 := value }
    | "dmq1" => { m with dmq1 := value }
    | "iqmp" => { m with iqmp := value }
    | _ => m)
  | .dss m => .dss (match name with
    | "p" => { m with p := value }
    | "q" => { m with q := value }
    | "g" => { m with g := value }
    | "pub_key" => { m with pubKey := value }
    | "priv_key" => { m with privKey := value }
    | _ => m)

/-- Material with the named integers, or the first name that the algorithm does not have. -/
def ofFields (algorithm : Algorithm) (fields : List (String × Option Int)) :
    Except String Material :=
  match fields.find? fun (name, _) => !(fieldNames algorithm).contains name with
  | some (name, _) => .error name
  | none => .ok (fields.foldl (fun m (name, value) => m.set name value) (empty algorithm))

/-- The material that is left when its integers have been checked as a key and copied out again. -/
def recheck [Engine] (m : Material) (withPrivate : Bool) : Except Fault Material :=
  match m, withPrivate with
  | .rsa m, true => m.privateKey.map fun key => .rsa (.ofPrivateKey key)
  | .rsa m, false => m.publicKey.map fun key => .rsa (.ofPublicKey key)
  | .dss m, true => m.privateKey.map fun key => .dss (.ofPrivateKey key)
  | .dss m, false => m.publicKey.map fun key => .dss (.ofPublicKey key)

end Material

end SshKeys
