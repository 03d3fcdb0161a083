import SshKeys.Proofs.Dsa.Signature
import SshKeys.Proofs.Key.PublicHalf
import SshKeys.Proofs.Key.Signing
import SshKeys.Proofs.Key.Verification

/-! # Signing with DSS handles

The arithmetic writes a pair of numbers as bytes. Signing splits the bytes into the numbers again
and verification joins them once more, which loses nothing as long as both numbers are below the
order. Wider numbers are written on more bytes, and verification asks for the length first.
-/

namespace SshKeys

open Outcome

namespace Signature

theorem padded_natCast {width n : Nat} (positive : 0 < width) (fits : byteLength n ≤ width) :
    padded width (n : Int) = .ok (Bytes.ofNat width n) := by
  have once : (max 1 (byteLength n) + width - 1) / width = 1 := by
    apply Nat.div_eq_of_lt_le
    · omega
    · omega
  have nonneg : ¬ (n : Int) < 0 := by omega
  have nonzero : width ≠ 0 := by omega
  simp [padded, nonneg, nonzero, once]

theorem halves_natCast {width r t : Nat} (positive : 0 < width) (hr : byteLength r ≤ width)
    (ht : byteLength t ≤ width) :
    halves width (r : Int) (t : Int) = .ok (Bytes.ofNat width r ++ Bytes.ofNat width t) := by
  rw [halves, padded_natCast positive hr, padded_natCast positive ht]
  rfl

theorem length_padded {width n : Nat} {bytes : Bytes} (positive : 0 < width)
    (written : padded width (n : Int) = .ok bytes) :
    width ≤ bytes.length ∧ (width < byteLength n → 2 * width ≤ bytes.length) := by
  have nonneg : ¬ (n : Int) < 0 := by omega
  simp only [padded, if_neg nonneg, if_neg (Nat.ne_of_gt positive), Int.toNat_natCast,
    Except.ok.injEq] at written
  rw [← written, Bytes.length_ofNat]
  -- The length counts whole blocks.
  refine ⟨?_, fun wide => Nat.mul_le_mul_right width ?_⟩
  · exact Nat.le_mul_of_pos_left width ((Nat.le_div_iff_mul_le positive).mpr (by omega))
  · exact (Nat.le_div_iff_mul_le positive).mpr (by omega)

theorem halves_of_wide {width r t : Nat} (positive : 0 < width)
    (wide : width < byteLength r ∨ width < byteLength t) :
    ∃ bytes, halves width (r : Int) (t : Int) = .ok bytes ∧ bytes.length ≠ 2 * width := by
  obtain ⟨first, written⟩ := padded_of_nonneg width (Int.natCast_nonneg r)
  obtain ⟨second, written'⟩ := padded_of_nonneg width (Int.natCast_nonneg t)
  obtain ⟨least, more⟩ := length_padded positive written
  obtain ⟨least', more'⟩ := length_padded positive written'
  refine ⟨first ++ second, by simp only [halves, written, written']; rfl, ?_⟩
  rw [List.length_append]
  omega

end Signature

namespace DssMaterial

variable [Engine] {m : DssMaterial} {secret : Dsa.PrivateKey} {draw : Draw} {digest : Bytes}
  {r t : Nat}

theorem publicKey_of_privateKey (made : m.privateKey = .ok secret) :
    m.q = some (secret.q : Int) ∧ m.publicKey = .ok secret.publicKey := by
  obtain ⟨hp, hq, hg, hy, _, isPublic, isPrivate⟩ := Dsa.privateKey_sound made
  refine ⟨hq, ?_⟩
  rw [publicKey, hp, hq, hg, hy]
  exact Dsa.publicKey_of_isPublic isPublic (Dsa.ne_zero_of_isPrivate isPrivate)

theorem privateKey_ofPrivateKey
    (isPublic : Dsa.isPublic secret.p secret.q secret.g secret.y = true)
    (isPrivate : Dsa.isPrivate secret.p secret.q secret.g secret.y secret.x = true) :
    (ofPrivateKey secret).privateKey = .ok secret :=
  Dsa.privateKey_of_isPrivate isPublic isPrivate

theorem sign_eq_ok_iff {pair : Int × Int} (made : m.privateKey = .ok secret)
    (found : Dsa.pair? secret draw.nonce (Dsa.digestNumber secret.q digest) = some (r, t)) :
    m.sign draw digest = .ok pair ↔
      Dsa.isAdmitted secret.p secret.q = true ∧ pair = ((r : Int), (t : Int)) := by
  obtain ⟨hr, ht⟩ := Dsa.pair?_lt found
  let written := Bytes.ofNat (byteLength secret.q) r ++ Bytes.ofNat (byteLength secret.q) t
  have middle : written.length / 2 = byteLength secret.q := by
    rw [List.length_append, Bytes.length_ofNat, Bytes.length_ofNat]
    omega
  have read {n : Nat} (small : n < secret.q) :=
    Bytes.toNat_ofNat_of_lt (Nat.lt_trans small (lt_pow_byteLength secret.q))
  have first : Bytes.toNat (written.take (written.length / 2)) = r := by
    rw [middle, List.take_left' (Bytes.length_ofNat _ _), read hr]
  have second : Bytes.toNat (written.drop (written.length / 2)) = t := by
    rw [middle, List.drop_left' (Bytes.length_ofNat _ _), read ht]
  constructor
  · intro signed
    obtain ⟨_, same, signed⟩ := bind_eq_ok_iff.mp signed
    cases made.symm.trans same
    obtain ⟨signature, signed, halved⟩ := bind_eq_ok_iff.mp signed
    obtain ⟨admitted, r', t', found', rfl⟩ := Dsa.sign_eq_ok_iff.mp signed
    cases found.symm.trans found'
    cases halved
    exact ⟨admitted, congrArg₂ _ (congrArg _ first) (congrArg _ second)⟩
  · intro given
    obtain ⟨admitted, rfl⟩ := given
    refine bind_eq_ok_iff.mpr ⟨secret, made, bind_eq_ok_iff.mpr ⟨written, ?_, ?_⟩⟩
    · exact Dsa.sign_eq_ok_iff.mpr ⟨admitted, r, t, found, rfl⟩
    · exact congrArg Except.ok (congrArg₂ _ (congrArg _ first) (congrArg _ second))

/-- Whatever is signed is signed with an admitted key, and both numbers are below the order. -/
theorem sign_sound {pair : Int × Int} (signed : m.sign draw digest = .ok pair) :
    ∃ (secret : Dsa.PrivateKey) (r t : Nat), m.privateKey = .ok secret ∧
      Dsa.isAdmitted secret.p secret.q = true ∧ r < secret.q ∧ t < secret.q ∧
      pair = ((r : Int), (t : Int)) := by
  obtain ⟨secret, made, computed⟩ := bind_eq_ok_iff.mp signed
  obtain ⟨_, computed, _⟩ := bind_eq_ok_iff.mp computed
  obtain ⟨_, r, t, found, _⟩ := Dsa.sign_eq_ok_iff.mp computed
  obtain ⟨admitted, same⟩ := (sign_eq_ok_iff made found).mp signed
  obtain ⟨hr, ht⟩ := Dsa.pair?_lt found
  exact ⟨secret, r, t, made, admitted, hr, ht, same⟩

/-- Every pair is checked as it was before it was written out. One that takes more bytes than two
    numbers below the order is not accepted, however the bytes could be split. -/
theorem verify_of_publicKey {key : Dsa.PublicKey} (made : m.publicKey = .ok key)
    (admitted : Dsa.isAdmitted key.p key.q = true) : m.verify digest (r : Int) (t : Int) =
      .ok (Dsa.isSolution key (Dsa.digestNumber key.q digest) r t) := by
  obtain ⟨⟨_, order, _, _⟩, _⟩ := Dsa.publicKey_sound made
  have positive := Dsa.byteLength_pos_of_isAdmitted admitted
  have checked {bytes : Bytes} (written : Signature.halves (byteLength key.q) r t = .ok bytes) :
      m.verify digest (r : Int) (t : Int) = .ok (Dsa.verify key digest bytes) := by
    rw [verify, order]
    show Signature.halves (byteLength key.q) (r : Int) (t : Int) >>= _ = _
    rw [written, made]
    rfl
  by_cases narrow : byteLength r ≤ byteLength key.q ∧ byteLength t ≤ byteLength key.q
  · rw [checked (Signature.halves_natCast positive narrow.1 narrow.2),
      Dsa.verify_halves admitted narrow.1 narrow.2]
  · obtain ⟨bytes, written, other⟩ :=
      Signature.halves_of_wide (r := r) (t := t) positive (by omega)
    have unsolved : Dsa.isSolution key (Dsa.digestNumber key.q digest) r t ≠ true := by
      intro solves
      obtain ⟨⟨_, hr⟩, ⟨_, ht⟩, _⟩ := Dsa.isSolution_eq_true_iff.mp solves
      exact narrow ⟨byteLength_mono (Nat.le_of_lt hr), byteLength_mono (Nat.le_of_lt ht)⟩
    rw [checked written, Dsa.verify_of_length other, Bool.eq_false_iff.mpr unsolved]

end DssMaterial

namespace Key

variable {key : Key} {m : DssMaterial} {secret : Dsa.PrivateKey} {draw : Draw} {digest : Bytes}
  {s : Signature}

theorem bitLength_of_unfitOrderBits? {q : Nat} (typed : key.tag.algorithm? = some .dss)
    (filled : key.material = some (.dss m)) (order : m.q = some (q : Int))
    (fit : key.unfitOrderBits? = none) : bitLength q = 160 := by
  simp only [unfitOrderBits?, typed, filled, Option.bind_some, Material.orderField, order,
    if_true, Int.natAbs_natCast] at fit
  split at fit
  · next bits => exact bits
  · cases fit

section Engine

variable [Engine]

theorem sign_dss_iff (typed : key.tag.algorithm? = some .dss)
    (filled : key.material = some (.dss m)) (fit : key.unfitOrderBits? = none) :
    key.sign draw digest = .ok s ↔ key.isPrivate = true ∧ digest.length = digestLength ∧
      ∃ r t, m.sign draw digest = .ok (r, t) ∧
        s = { tag := key.tag, dss := some (.pair r t) } := by
  have supported := KeyTag.isSupported_of_algorithm? typed
  have made : key.signWith draw digest =
      (m.sign draw digest).map fun pair =>
        { tag := key.tag, dss := some (.pair pair.1 pair.2) } := by
    simp only [signWith, filled, Material.sign]
    cases m.sign draw digest with
    | error f => rfl
    | ok pair => exact congrArg Except.ok (holding_of_dss typed _)
  rw [sign_eq_ok_iff]
  simp only [supported, fit, made, map_eq_ok_iff, true_and, Prod.exists, eq_comm (b := s)]

theorem verify_dss_eq {r t : Int} (typed : key.tag.algorithm? = some .dss)
    (isPublic : key.isPublic = true) (filled : key.material = some (.dss m))
    (sameType : s.tag.type? = key.tag.type?) (given : s.dss = some (.pair r t)) :
    key.verify digest s = (m.verify digest r t).mapError .fault := by
  simp [verify, typed, sameType, isPublic, verifyWith, Signature.place, given, filled,
    Material.verify, SignatureData.numbers?]

theorem verify_dss_natCast {pub : Dsa.PublicKey} {r t : Nat}
    (typed : key.tag.algorithm? = some .dss) (isPublic : key.isPublic = true)
    (filled : key.material = some (.dss m)) (made : m.publicKey = .ok pub)
    (admitted : Dsa.isAdmitted pub.p pub.q = true) (sameType : s.tag.type? = key.tag.type?)
    (given : s.dss = some (.pair r t)) :
    key.verify digest s = .ok (Dsa.isSolution pub (Dsa.digestNumber pub.q digest) r t) := by
  rw [verify_dss_eq typed isPublic filled sameType given,
    DssMaterial.verify_of_publicKey made admitted]
  rfl

theorem exists_copy_dss (typed : key.tag.algorithm? = some .dss)
    (filled : key.material = some (.dss m)) (made : m.privateKey = .ok secret) (demote : Bool) :
    ∃ copied, key.copy demote = .ok copied := by
  obtain ⟨hp, hq, hg, hy, hx, _⟩ := Dsa.privateKey_sound made
  have whole : hasAllPublic (.dss m) = true := by
    simp [hasAllPublic, Material.publicFields, hp, hq, hg, hy]
  have hasPrivate : (Material.dss m).hasPrivate = true := by
    simp [Material.hasPrivate, Material.privateExponent, hx]
  exact exists_copy (KeyTag.isSupported_of_algorithm? typed) filled whole hasPrivate demote

/-- The nonce and the digest settle what is signed, and only the size of the modulus can keep a
    handle from signing. -/
theorem sign_dss_pair_iff {r t : Nat} (typed : key.tag.algorithm? = some .dss)
    (isPrivate : key.isPrivate = true) (filled : key.material = some (.dss m))
    (made : m.privateKey = .ok secret) (bits : bitLength secret.q = 160)
    (whole : digest.length = digestLength)
    (found : Dsa.pair? secret draw.nonce (Dsa.digestNumber secret.q digest) = some (r, t)) :
    key.sign draw digest = .ok s ↔ bitLength secret.p = 1024 ∧
      s = { tag := key.tag, dss := some (.pair r t) } := by
  obtain ⟨order, _⟩ := DssMaterial.publicKey_of_privateKey made
  have fit : key.unfitOrderBits? = none := by
    simp [unfitOrderBits?, typed, filled, Material.orderField, order, bits, wireOrderBits]
  rw [sign_dss_iff typed filled fit, ← Dsa.isAdmitted_iff bits]
  simp [isPrivate, whole, DssMaterial.sign_eq_ok_iff made found]

theorem verify_dss_pair {r t : Nat} (typed : key.tag.algorithm? = some .dss)
    (isPublic : key.isPublic = true) (filled : key.material = some (.dss m))
    (made : m.privateKey = .ok secret) (prime : secret.q.Prime)
    (admitted : Dsa.isAdmitted secret.p secret.q = true)
    (found : Dsa.pair? secret draw.nonce (Dsa.digestNumber secret.q digest) = some (r, t))
    (nonzeroR : 0 < r) (nonzeroT : 0 < t) :
    key.verify digest { tag := key.tag, dss := some (.pair r t) } = .ok true := by
  obtain ⟨_, _, _, _, _, consistent, secretly⟩ := Dsa.privateKey_sound made
  have publicKey := (DssMaterial.publicKey_of_privateKey made).2
  rw [verify_dss_natCast typed isPublic filled publicKey admitted rfl rfl]
  exact congrArg Except.ok
    (Dsa.isSolution_pair prime consistent secretly found nonzeroR nonzeroT)

/-- A DSS handle with an order of 160 bits signs with every nonce, provided that its modulus has
    1024 bits. Both halves are below the order. Unless one of them is zero the handle and all its
    copies verify the signature. -/
theorem verify_sign_dss (typed : key.tag.type? = some .dss) (isPublic : key.isPublic = true)
    (isPrivate : key.isPrivate = true) (filled : key.material = some (.dss m))
    (made : m.privateKey = .ok secret) (prime : secret.q.Prime) (bits : bitLength secret.q = 160)
    (whole : digest.length = 20) (low : 1 < draw.nonce) (high : draw.nonce < secret.q) :
    ((∃ s, key.sign draw digest = .ok s) ↔ bitLength secret.p = 1024) ∧
    ∀ s, key.sign draw digest = .ok s → ∃ r t : Int, s.dss = some (.pair r t) ∧
      0 ≤ r ∧ r < secret.q ∧ 0 ≤ t ∧ t < secret.q ∧
      (r ≠ 0 → t ≠ 0 → key.verify digest s = .ok true ∧
        ∀ demote, ∃ copied, key.copy demote = .ok copied ∧ copied.verify digest s = .ok true) := by
  have algorithm : key.tag.algorithm? = some .dss := KeyTag.algorithm?_of_type? typed
  obtain ⟨⟨r, t⟩, found⟩ :=
    Dsa.exists_pair prime low high (Dsa.digestNumber secret.q digest)
  have signed_iff (s : Signature) :=
    sign_dss_pair_iff (s := s) algorithm isPrivate filled made bits whole found
  refine ⟨?_, ?_⟩
  · simp only [signed_iff, exists_and_left, exists_eq, and_true]
  · intro s signed
    obtain ⟨size, rfl⟩ := (signed_iff s).mp signed
    obtain ⟨hr, ht⟩ := Dsa.pair?_lt found
    refine ⟨r, t, rfl, by omega, by omega, by omega, by omega, ?_⟩
    intro nonzeroR nonzeroT
    have verified := verify_dss_pair algorithm isPublic filled made prime
      ((Dsa.isAdmitted_iff bits).mpr size) found (by omega) (by omega)
    refine ⟨verified, ?_⟩
    intro demote
    obtain ⟨copied, made⟩ := exists_copy_dss algorithm filled made demote
    exact ⟨copied, made, by rw [verify_copy made, verified]⟩

end Engine

/-- A key whose order is easily proved prime. -/
def smoothSecret : Dsa.PrivateKey :=
  let q : Nat := 2 ^ 77 * 3 ^ 52 + 1
  let cofactor : Nat := 2 ^ 864 + 1524
  let p : Nat := q * cofactor + 1
  let g := powMod 2 cofactor p
  { p := p, q := q, g := g, y := powMod g 7 p, x := 7 }

section Plain

attribute [local instance] Engine.plain

theorem privateKey_smooth :
    (DssMaterial.ofPrivateKey smoothSecret).privateKey = .ok smoothSecret := by
  have tested : isProbablePrime smoothSecret.p = true := by
    rw [isProbablePrime, passesLucas, lucasDiscriminant?_eq (i := 1) (by decide +kernel)
      (by decide +kernel) (by decide +kernel)]
    decide +kernel
  apply DssMaterial.privateKey_ofPrivateKey
  · rw [Dsa.isPublic, tested, Bool.and_true]
    decide +kernel
  · decide +kernel

theorem verify_sign_dss_smooth :
    let key : Key :=
      { tag := .known .dss
        flags := flagPublic + flagPrivate
        material := some (.dss (.ofPrivateKey smoothSecret)) }
    ∃ s copied, key.sign ⟨0, 2⟩ (Bytes.zeros digestLength) = .ok s ∧
      key.verify (Bytes.zeros digestLength) s = .ok true ∧ key.copy true = .ok copied ∧
      copied.verify (Bytes.zeros digestLength) s = .ok true := by
  intro key
  have prime : smoothSecret.q.Prime :=
    prime_of_powMod (a := 5) (i := 77) (j := 52) rfl (by decide +kernel) (by decide +kernel)
      (by decide +kernel) (by decide +kernel)
  have bits : bitLength smoothSecret.q = 160 := by decide +kernel
  have low : 1 < (⟨0, 2⟩ : Draw).nonce := by decide
  have high : (⟨0, 2⟩ : Draw).nonce < smoothSecret.q := by decide +kernel
  have general := @verify_sign_dss key _ smoothSecret ⟨0, 2⟩ (Bytes.zeros digestLength) _ rfl rfl
    rfl rfl privateKey_smooth prime bits rfl low high
  obtain ⟨s, signed⟩ := general.1.mpr (by decide +kernel)
  obtain ⟨r, t, given, _, _, _, _, verified⟩ := general.2 s signed
  obtain ⟨⟨r', t'⟩, found⟩ := Dsa.exists_pair prime low high
    (Dsa.digestNumber smoothSecret.q (Bytes.zeros digestLength))
  obtain ⟨_, rfl⟩ := (sign_dss_pair_iff rfl rfl rfl privateKey_smooth bits rfl found).mp signed
  have nonzero : (Dsa.pair? smoothSecret 2 (Dsa.digestNumber smoothSecret.q
      (Bytes.zeros digestLength))).all fun pair => pair.1 ≠ 0 ∧ pair.2 ≠ 0 := by
    decide +kernel
  rw [found] at nonzero
  cases given
  obtain ⟨nonzeroR, nonzeroT⟩ : r' ≠ 0 ∧ t' ≠ 0 := by simpa using nonzero
  obtain ⟨accepted, copies⟩ := verified (by omega) (by omega)
  obtain ⟨copied, made, copyAccepted⟩ := copies true
  exact ⟨_, copied, signed, accepted, made, copyAccepted⟩

end Plain

end Key

end SshKeys
