import SshKeys.Proofs.Der.RoundTrip
import SshKeys.Proofs.Rsa.Signature

/-! # The digest in an encoding

The filling of an encoding ends at its first zero byte, and no two elements are written alike. So an
encoding is that of one digest only, however long it is and whether the name of its hash has
parameters or not. A signature has one public power, which is the encoding of at most one digest.
-/

namespace SshKeys.Rsa

-- Powers of natural numbers are those of the core library, whatever else is imported.
attribute [local instance (2000)] instPowNat

variable {width : Nat} {parameters : Bool} {digest encoded : Bytes}

/-- What is behind the filling of an encoding. -/
def infoOf (encoded : Bytes) : Bytes := ((encoded.drop 2).dropWhile (· == 0xff)).drop 1

theorem infoOf_filled (count : Nat) (info : Bytes) :
    infoOf ([0x00, 0x01] ++ List.replicate count 0xff ++ [0x00] ++ info) = info := by
  have front : List.drop 2 ([0x00, 0x01] ++ List.replicate count 0xff ++ [0x00] ++ info : Bytes) =
      List.replicate count 0xff ++ ([0x00] ++ info) := by
    rw [List.append_assoc, List.append_assoc]
    rfl
  rw [infoOf, front, List.dropWhile_append_of_pos]
  · rfl
  · intro b member
    exact beq_iff_eq.mpr (List.eq_of_mem_replicate member)

theorem digestInfo_inj {parameters' : Bool} {digest' : Bytes}
    (same : digestInfo parameters digest = digestInfo parameters' digest') : digest = digest' := by
  have inside := congrArg Der.Element.content (Der.encode_inj.mp same)
  simp only [Der.sequence, List.flatMap_cons, List.flatMap_nil, List.append_nil] at inside
  -- The name of the hash says in its second byte whether it has parameters.
  have kind : parameters = parameters' := by
    have second := congrArg (fun bytes : Bytes => bytes[1]?) inside
    cases parameters <;> cases parameters' <;> first | rfl | cases second
  subst kind
  rw [List.append_cancel_left_eq] at inside
  exact congrArg Der.Element.content (Der.encode_inj.mp inside)

theorem IsEncoding.digest_eq {parameters' : Bool} {digest' : Bytes}
    (encoding : IsEncoding parameters digest encoded)
    (encoding' : IsEncoding parameters' digest' encoded) : digest = digest' := by
  obtain ⟨fill, _, rfl⟩ := encoding
  obtain ⟨fill', _, same⟩ := encoding'
  have info := congrArg infoOf same
  rw [infoOf_filled, infoOf_filled] at info
  exact digestInfo_inj info

/-- What verification asks for: a signature below the modulus on as many bytes, a digest that has an
    encoding with parameters, and one of its two encodings as the public power. -/
theorem verify_iff {key : PublicKey} {signature : Bytes} : verify key digest signature = true ↔
    signature.length = byteLength key.n ∧ signature.toNat < key.n ∧
      (encodeDigest? (byteLength key.n) true digest).isSome = true ∧
      ∃ parameters, encodeDigest? (byteLength key.n) parameters digest =
        some (Bytes.ofNat (byteLength key.n) (powMod signature.toNat key.e key.n)) := by
  simp only [verify]
  split
  · next whole =>
      simp only [whole, true_and, Bool.exists_bool]
      cases encodeDigest? (byteLength key.n) true digest with
      | none => simp
      | some expected =>
          simp only [Bool.or_eq_true, beq_iff_eq, Option.isSome_some, Option.some.injEq, true_and]
          rw [or_comm, eq_comm (a := some _), eq_comm (b := expected)]
  · next other =>
      simp only [Bool.false_eq_true, false_iff]
      intro given
      exact other ⟨given.1, given.2.1⟩

/-- A signature of a digest by the numbers of a public key. There has to be room for the longer
    encoding of the digest, though the public power may be the shorter one. -/
structure IsSignature (n e : Nat) (digest signature : Bytes) : Prop where
  width : signature.length = (bitLength n + 7) / 8
  small : signature.toNat < n
  room : (digestInfo true digest).length + 11 ≤ signature.length
  encoding : ∃ parameters, IsEncoding parameters digest
    (Bytes.ofNat signature.length (signature.toNat ^ e % n))

theorem verify_iff_isSignature {key : PublicKey} {signature : Bytes} :
    verify key digest signature = true ↔ IsSignature key.n key.e digest signature := by
  have room_iff (width : Nat) : (encodeDigest? width true digest).isSome = true ↔
      (digestInfo true digest).length + 11 ≤ width := by
    simp only [encodeDigest?]
    split <;> simp_all
  rw [verify_iff, room_iff]
  constructor
  · intro given
    obtain ⟨whole, small, room, parameters, fits⟩ := given
    rw [← whole] at room fits
    rw [powMod_eq (Nat.zero_lt_of_lt small)] at fits
    exact ⟨whole, small, room, parameters, (encodeDigest?_eq_some_iff.mp fits).2⟩
  · intro given
    obtain ⟨whole, small, room, parameters, encoding⟩ := given
    have whole : signature.length = byteLength key.n := whole
    rw [whole] at room encoding
    refine ⟨whole, small, room, parameters, ?_⟩
    rw [powMod_eq (Nat.zero_lt_of_lt small)]
    exact encodeDigest?_eq_some_iff.mpr ⟨Bytes.length_ofNat _ _, encoding⟩

theorem digest_unique {key : PublicKey} {digest' signature : Bytes}
    (first : verify key digest signature = true) (second : verify key digest' signature = true) :
    digest = digest' := by
  obtain ⟨_, _, _, _, fits⟩ := verify_iff.mp first
  obtain ⟨_, _, _, _, fits'⟩ := verify_iff.mp second
  exact (encodeDigest?_eq_some_iff.mp fits).2.digest_eq (encodeDigest?_eq_some_iff.mp fits').2

end SshKeys.Rsa
