import SshKeys.Der
import SshKeys.Key.Material

/-! # Encoded keys

The forms in which a body can hold a key: the traditional private one, the plain and the wrapped
public one, the certificate, and the wrapped private one. The wrapped forms name the algorithm, and
what they wrap is not wrapped again. Every form is a sequence.

The forms are tried in a fixed order. A body of another form is a fault of the value, which leads to
the next form; any other fault is final. A passphrase matters for the wrapped private form only,
where it is up to the engine.
-/

namespace SshKeys.Encoding

def rsaIds : List (List Nat) := [[1, 2, 840, 113549, 1, 1, 1], [1, 2, 840, 113549, 1, 1, 10]]

def dsaId : List Nat := [1, 2, 840, 10040, 4, 1]

/-- What a form takes for granted. -/
def expected {α : Type} (a : Option α) : Except Fault α :=
  match a with
  | some a => .ok a
  | none => .error .badValue

/-- The name of an algorithm with its parameters, where an empty element counts as none. -/
structure AlgorithmName where
  id : List Nat
  parameters : Option Der.Element
  deriving Repr, DecidableEq

def algorithmName (e : Der.Element) : Except Fault AlgorithmName := do
  match ← e.elements with
  | [id] => return ⟨← expected id.objectId?, none⟩
  | [id, parameters] =>
    let id ← expected id.objectId?
    return ⟨id, if parameters.tag = Der.nullTag then none else some parameters⟩
  | _ => .error .badValue

/-- A key under the name of its algorithm. -/
structure Wrapped where
  algorithm : AlgorithmName
  key : Bytes
  deriving Repr, DecidableEq

def wrappedPublic (es : List Der.Element) : Except Fault Wrapped :=
  match es with
  | [name, key] => do
    let algorithm ← algorithmName name
    return ⟨algorithm, ← expected key.bits?⟩
  | _ => .error .badValue

/-- The tag of what a certificate gives as its version. -/
def versionTag : UInt8 := 0xa0

/-- Where the public key stands among the fields of a certificate: they begin with a version, which
has to be a known one, or with a number. -/
def publicKeyPlace (fields : List Der.Element) : Except Fault Nat :=
  match fields with
  | [] => .error .badValue
  | first :: _ =>
    if first.tag = Der.integerTag then .ok 5
    else if first.tag = versionTag then do
      let version ← Der.integerOf first.content
      if version = 2 ∨ version = 3 then .ok 6 else .error .badValue
    else .error .badValue

def certified (es : List Der.Element) : Except Fault Wrapped :=
  match es with
  | [contents, _, _] => do
    let fields ← contents.elements
    if 6 ≤ fields.length ∧ fields.length ≤ 10 then do
      let place ← publicKeyPlace fields
      match fields[place]? with
      | some key => wrappedPublic (← key.elements)
      | none => .error .badIndex
    else .error .badValue
  | _ => .error .badValue

/-- How many elements a wrapped private key of a version has. -/
def elementCounts (version : Int) : List Nat :=
  if version = 0 then [3, 4] else if version = 1 then [3, 4, 5] else []

/-- The tag of the public key that a wrapped private key may carry along, a string of bits. -/
def publicKeyTag : UInt8 := 0x81

/-- The same tag for an element that is put together from others, which a string of bits is not. -/
def compoundPublicKeyTag : UInt8 := 0xa1

/-- Whether an element may follow the key in a wrapped private key. Only a public key is looked
at. -/
def mayFollow (e : Der.Element) : Bool :=
  if e.tag = publicKeyTag then (Der.Element.wholeBits? e.content).isSome
  else e.tag ≠ compoundPublicKeyTag

def wrappedPrivate (es : List Der.Element) : Except Fault Wrapped :=
  match es with
  | version :: name :: key :: rest => do
    let version ← expected version.integer?
    if es.length ∈ elementCounts version then do
      let algorithm ← algorithmName name
      let octets ← expected key.octets?
      if rest.all mayFollow then return ⟨algorithm, octets⟩ else .error .badValue
    else .error .badValue
  | _ => .error .badValue

/-- The elements of a wrapped private key, made accessible with a passphrase if there is one. -/
def unlocked [Engine] (passphrase : Option Bytes) (es : List Der.Element) :
    Except Fault (List Der.Element) :=
  match passphrase with
  | some secret => Engine.unlock secret es
  | none => .ok es

/-- A form of key: what it makes of the elements of a body. -/
abbrev Form := List Der.Element → Except Fault Material

/-- The key that elements hold in the first form that they have. -/
def firstOf : List Form → Form
  | [], _ => .error .badValue
  | form :: forms, es =>
    match form es with
    | .error .badValue => firstOf forms es
    | result => result

/-- The material of an RSA key with the given modulus and exponent. -/
def rsaPublic [Engine] (n e : Nat) : Except Fault Material :=
  (Rsa.publicKey (some n) (some e)).map fun key => .rsa (.ofPublicKey key)

/-- An RSA private key in its traditional form: a version and eight integers, of which the last
three are not looked at. -/
def rsaTraditional [Engine] : Form := fun es =>
  match Der.naturals? es with
  | some [0, n, e, d, p, q, _, _, _] => do
    let u ← Rsa.coefficient p q
    let key ← Rsa.ofNumbers n e d p q u
    return .rsa (.ofPrivateKey key)
  | _ => .error .badValue

def rsaPlain [Engine] : Form := fun es =>
  match Der.naturals? es with
  | some [n, e] => rsaPublic n e
  | _ => .error .badValue

def rsaFromWrapped [Engine] (w : Wrapped) : Except Fault Material :=
  if w.algorithm.id ∈ rsaIds ∧ w.algorithm.parameters = none then do
    rsaPlain (← Der.sequenceOf w.key)
  else .error .badValue

def rsaFromWrappedPrivate [Engine] (w : Wrapped) : Except Fault Material :=
  if w.algorithm.id ∈ rsaIds then do
    rsaTraditional (← Der.sequenceOf w.key)
  else .error .badValue

/-- The forms of RSA keys that need no passphrase, in the order in which they are tried. -/
def rsaForms [Engine] : List Form :=
  [rsaTraditional, rsaPlain, fun es => (wrappedPublic es).bind rsaFromWrapped,
    fun es => (certified es).bind rsaFromWrapped]

/-- A DSA private key in its traditional form: a version and five integers. -/
def dsaTraditional [Engine] : Form := fun es =>
  match Der.naturals? es with
  | some [0, p, q, g, y, x] => do
    let key ← Dsa.privateKey (some p) (some q) (some g) (some y) (some x)
    return .dss (.ofPrivateKey key)
  | _ => .error .badValue

/-- The parameters `p`, `q` and `g` of a DSA key, where an element that is no integer counts as
missing. -/
structure DsaDomain where
  p : Option Int
  q : Option Int
  g : Option Int
  deriving Repr, DecidableEq

/-- Reads the parameters that come with the name of the algorithm. -/
def dsaDomain (name : AlgorithmName) : Except Fault DsaDomain := do
  let parameters ← expected name.parameters
  match ← parameters.elements with
  | [p, q, g] => return ⟨p.integer?, q.integer?, g.integer?⟩
  | _ => .error .badValue

def dsaFromWrapped [Engine] (w : Wrapped) : Except Fault Material :=
  if w.algorithm.id = dsaId then do
    let y ← Der.integerOf w.key
    let domain ← dsaDomain w.algorithm
    let key ← Dsa.publicKey domain.p domain.q domain.g (some y)
    return .dss (.ofPublicKey key)
  else .error .badValue

/-- The material of a DSA key from its parameters and its private number. The public number is
computed first, modulo `p`, which has to be possible. -/
def dsaFromPrivate [Engine] (domain : DsaDomain) (x : Int) : Except Fault Material :=
  match domain.p, domain.g with
  | some p, some g =>
    if p ≤ 0 ∨ (x < 0 ∧ Int.gcd g p ≠ 1) then .error .badValue
    else do
      let y := powMod (g % p).toNat x.toNat p.toNat
      let key ← Dsa.privateKey domain.p domain.q domain.g (some (y : Int)) (some x)
      return .dss (.ofPrivateKey key)
  | _, _ => .error .badType

def dsaFromWrappedPrivate [Engine] (w : Wrapped) : Except Fault Material :=
  if w.algorithm.id = dsaId then do
    let x ← Der.integerOf w.key
    let domain ← dsaDomain w.algorithm
    dsaFromPrivate domain x
  else .error .badValue

/-- The forms of DSA keys that need no passphrase, in the order in which they are tried. -/
def dsaForms [Engine] : List Form :=
  [dsaTraditional, fun es => (wrappedPublic es).bind dsaFromWrapped,
    fun es => (certified es).bind dsaFromWrapped]

def forms [Engine] : Algorithm → List Form
  | .rsa => rsaForms
  | .dss => dsaForms

def fromWrappedPrivate [Engine] : Algorithm → Wrapped → Except Fault Material
  | .rsa => rsaFromWrappedPrivate
  | .dss => dsaFromWrappedPrivate

/-- The form that is tried last: a wrapped private key. -/
def unwrapped [Engine] (algorithm : Algorithm) (passphrase : Option Bytes) : Form := fun es => do
  let w ← wrappedPrivate (← unlocked passphrase es)
  fromWrappedPrivate algorithm w

def material [Engine] (algorithm : Algorithm) (passphrase : Option Bytes) (body : Bytes) :
    Except Fault Material := do
  firstOf (forms algorithm ++ [unwrapped algorithm passphrase]) (← Der.sequenceOf body)

end SshKeys.Encoding
