import SshKeys.Dsa.Signature
import SshKeys.Proofs.Arithmetic.Inverse
import SshKeys.Proofs.Arithmetic.Order
import SshKeys.Proofs.Dsa.Key
import SshKeys.Proofs.Integer.Framed

/-! # Every nonce makes a signature

The second half of a signature is made so that the two powers of verification, one of the generator
and one of the public number, make the power of the generator that the first half was taken of. What
this needs is a prime order; the modulus need not be prime.
-/

namespace SshKeys.Dsa

variable {key : PrivateKey} {nonce z r s : Nat}

/-- The exponents of verification add up to the nonce. -/
theorem modEq_nonce {q x k w : Nat} (hk : nonce * k ≡ 1 [MOD q]) (hw : s * w ≡ 1 [MOD q])
    (hs : s ≡ k * (z + x * r) [MOD q]) : w * z + x * (w * r) ≡ nonce [MOD q] := by
  calc
    w * z + x * (w * r) = 1 * (w * (z + x * r)) := by ring
    _ ≡ nonce * k * (w * (z + x * r)) [MOD q] := hk.symm.mul_right _
    _ = nonce * (k * (z + x * r) * w) := by ring
    _ ≡ nonce * (s * w) [MOD q] := (hs.symm.mul_right w).mul_left nonce
    _ ≡ nonce * 1 [MOD q] := hw.mul_left nonce
    _ = nonce := Nat.mul_one nonce

theorem powMod_mul_powMod {p q g x a b c : Nat} (one : 1 < p) (period : powMod g q p = 1)
    (exponents : a + x * b ≡ c [MOD q]) :
    powMod g (a % q) p * powMod (powMod g x p) (b % q) p % p = powMod g c p := by
  have positive : 0 < p := by omega
  have back : (g : ZMod p) ^ q = 1 := (natCast_pow_eq_one_iff one g q).mpr period
  have reduced : a % q + x * (b % q) ≡ c [MOD q] :=
    ((Nat.mod_modEq a q).add ((Nat.mod_modEq b q).mul_left x)).trans exponents
  have same : ((powMod g (a % q) p * powMod (powMod g x p) (b % q) p : Nat) : ZMod p) =
      (g ^ c : Nat) := by
    rw [Nat.cast_mul, natCast_powMod positive, natCast_powMod positive, natCast_powMod positive,
      ← pow_mul, ← pow_add, pow_congr_of_period back reduced, Nat.cast_pow]
  have last : powMod g c p = g ^ c % p := powMod_eq positive
  rw [last]
  exact (ZMod.natCast_eq_natCast_iff' _ _ p).mp same

theorem exists_inverse {a q : Nat} (prime : q.Prime) (positive : 0 < a) (small : a < q) :
    ∃ u, inverse? a q = some u := by
  have coprime := Nat.coprime_of_lt_prime (by omega) small prime
  exact Option.isSome_iff_exists.mp (inverse?_isSome_iff.mpr coprime.symm)

theorem exists_pair (prime : key.q.Prime) (low : 1 < nonce) (high : nonce < key.q) (z : Nat) :
    ∃ pair, pair? key nonce z = some pair := by
  obtain ⟨k, found⟩ := exists_inverse prime (by omega) high
  exact ⟨_, by rw [pair?, if_pos ⟨low, high⟩, found, Option.map_some]⟩

theorem pair?_lt (made : pair? key nonce z = some (r, s)) : r < key.q ∧ s < key.q := by
  unfold pair? at made
  split at made
  · next range =>
      have positive : 0 < key.q := by omega
      obtain ⟨k, _, made⟩ := Option.map_eq_some_iff.mp made
      obtain ⟨rfl, rfl⟩ := Prod.mk.inj made
      exact ⟨Nat.mod_lt _ positive, Nat.mod_lt _ positive⟩
  · cases made

theorem isSolution_eq_true_iff {key : PublicKey} : isSolution key z r s = true ↔
    (0 < r ∧ r < key.q) ∧ (0 < s ∧ s < key.q) ∧ ∃ w, inverse? s key.q = some w ∧
      powMod key.g (w * z % key.q) key.p * powMod key.y (w * r % key.q) key.p % key.p % key.q =
        r := by
  simp only [isSolution, Bool.and_eq_true, decide_eq_true_eq, and_assoc]
  cases inverse? s key.q <;> simp

/-- Neither half may be zero: a first half that is leaves the secret out, and a second half that is
    has no inverse. -/
theorem isSolution_pair (prime : key.q.Prime) (isPublic : isPublic key.p key.q key.g key.y = true)
    (isPrivate : isPrivate key.p key.q key.g key.y key.x = true)
    (made : pair? key nonce z = some (r, s)) (nonzeroR : 0 < r) (nonzeroS : 0 < s) :
    isSolution key.publicKey z r s = true := by
  obtain ⟨smallR, smallS⟩ := pair?_lt made
  unfold pair? at made
  split at made
  · obtain ⟨k, hk, made⟩ := Option.map_eq_some_iff.mp made
    obtain ⟨hr, hs⟩ := Prod.mk.inj made
    rw [hr] at hs
    obtain ⟨w, hw⟩ := exists_inverse prime nonzeroS smallS
    -- What is compared is a power of the generator, and only its exponent is in question.
    have exponents : w * z + key.x * (w * r) ≡ nonce [MOD key.q] :=
      modEq_nonce (inverse?_sound hk prime.pos).2 (inverse?_sound hw prime.pos).2
        (hs ▸ Nat.mod_modEq _ _)
    have sound := isPublic_iff.mp isPublic
    have modulus : 1 < key.p := Nat.lt_trans sound.generator.1 sound.generator.2
    have power := powMod_mul_powMod modulus sound.period exponents
    rw [(isPrivate_iff.mp isPrivate).power] at power
    refine isSolution_eq_true_iff.mpr ⟨⟨nonzeroR, smallR⟩, ⟨nonzeroS, smallS⟩, w, hw, ?_⟩
    exact (congrArg (· % key.q) power).trans hr
  · cases made

theorem isAdmitted_iff {p q : Nat} (h : bitLength q = 160) :
    isAdmitted p q = true ↔ bitLength p = 1024 := by
  simp [isAdmitted, admittedSizes, h]

theorem sign_eq_ok_iff {digest signature : Bytes} : sign key nonce digest = .ok signature ↔
    isAdmitted key.p key.q = true ∧
      ∃ r s, pair? key nonce (digestNumber key.q digest) = some (r, s) ∧
        signature = Bytes.ofNat (byteLength key.q) r ++ Bytes.ofNat (byteLength key.q) s := by
  unfold sign
  split
  · next admitted =>
      split
      · next r s made =>
          simp only [made, admitted, Except.ok.injEq, true_and, Option.some.injEq, Prod.mk.injEq]
          constructor
          · intro same
            exact ⟨r, s, ⟨rfl, rfl⟩, same.symm⟩
          · intro given
            obtain ⟨_, _, ⟨rfl, rfl⟩, same⟩ := given
            exact same.symm
      · next unusable => simp [unusable]
  · next other => simp [other]

theorem byteLength_pos_of_isAdmitted {p q : Nat} (admitted : isAdmitted p q = true) :
    0 < byteLength q := by
  simp only [isAdmitted, admittedSizes, List.contains_eq_mem, List.mem_cons, Prod.mk.injEq,
    List.not_mem_nil, or_false, decide_eq_true_eq] at admitted
  unfold byteLength
  omega

theorem verify_halves {key : PublicKey} {digest : Bytes}
    (admitted : isAdmitted key.p key.q = true) (hr : byteLength r ≤ byteLength key.q)
    (hs : byteLength s ≤ byteLength key.q) :
    verify key digest (Bytes.ofNat (byteLength key.q) r ++ Bytes.ofNat (byteLength key.q) s) =
      isSolution key (digestNumber key.q digest) r s := by
  have read {n : Nat} (fits : byteLength n ≤ byteLength key.q) :
      Bytes.toNat (Bytes.ofNat (byteLength key.q) n) = n :=
    Bytes.toNat_ofNat_of_lt (byteLength_le_iff.mp fits)
  have total : (Bytes.ofNat (byteLength key.q) r ++ Bytes.ofNat (byteLength key.q) s).length =
      2 * byteLength key.q := by
    rw [List.length_append, Bytes.length_ofNat, Bytes.length_ofNat]
    omega
  simp only [verify, admitted, total, BEq.rfl, Bool.true_and,
    List.take_left' (Bytes.length_ofNat _ _), List.drop_left' (Bytes.length_ofNat _ _), read hr,
    read hs]

theorem verify_of_length {key : PublicKey} {digest signature : Bytes}
    (other : signature.length ≠ 2 * byteLength key.q) : verify key digest signature = false := by
  simp [verify, other]

end SshKeys.Dsa
