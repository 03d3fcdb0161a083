import SshKeys.Proofs.Key.DssSigning
import SshKeys.Proofs.PrivateKey.Checked

/-! # Checked keys pass again

A key is checked again every time it is used, with the coefficient computed afresh. There is one
coefficient only, so the integers of a checked key make the same key again, and the faults of the
checks do not occur in signing.
-/

namespace SshKeys

-- Powers of natural numbers are those of the core library, whatever else is imported.
attribute [local instance (2000)] instPowNat

open Outcome

namespace Rsa

variable {n e d p q u : Nat} {key : PrivateKey} {blind : Nat} {digest : Bytes}

theorem sign_failsOnly : FailsOnly [.badType, .badValue] (sign key blind digest) := by
  simp only [sign]
  split
  · exact .error (by simp)
  · split
    · exact .error (by simp)
    · exact .ok _

variable [Engine]

theorem IsPrivate.factors (h : IsPrivate n e d p q u) : 1 < p ∧ 1 < q := by
  have inverts := h.coefficient
  have range := h.range
  refine ⟨?_, by omega⟩
  match p with
  | 0 => simp at inverts
  | 1 =>
      rw [Nat.one_mul, Nat.mod_eq_of_lt range.2] at inverts
      omega
  | p + 2 => omega

theorem privateKey_of_isPrivate (consistent : isPrivate n e d p q u = true) :
    privateKey (some (n : Int)) (some (e : Int)) (some (d : Int))
      (some ((p : Int), (q : Int))) = .ok ⟨n, e, d, p, q, u⟩ := by
  have sound := isPrivate_iff.mp consistent
  have factors := sound.factors
  have found : inverse? p q = some u :=
    inverse?_eq_of_inverts sound.range.2 (by rw [sound.coefficient, Nat.mod_eq_of_lt factors.2])
  have coefficient : coefficient p q = .ok u := by
    rw [Rsa.coefficient, if_neg (by omega), found]
  have narrow : checkWidth n = .ok () := checkWidth_eq_ok_iff.mpr sound.publicHalf.admitted
  obtain ⟨_, first⟩ := exists_reducedExponent_iff (d := d).mpr factors.1
  obtain ⟨_, second⟩ := exists_reducedExponent_iff (d := d).mpr factors.2
  simp only [privateKey, required_natCast, checkSigns, integers, hasNegative_natCast_cons,
    hasNegative_nil]
  show ofFactors n e d p q = _
  refine bind_eq_ok_iff.mpr ⟨(), narrow, bind_eq_ok_iff.mpr ⟨u, coefficient, ?_⟩⟩
  refine bind_eq_ok_iff.mpr ⟨(), narrow, bind_eq_ok_iff.mpr ⟨_, first, ?_⟩⟩
  refine bind_eq_ok_iff.mpr ⟨_, second, ?_⟩
  rw [if_pos consistent]

end Rsa

theorem Dsa.sign_failsOnly {key : Dsa.PrivateKey} {nonce : Nat} {digest : Bytes} :
    FailsOnly [.badValue] (Dsa.sign key nonce digest) := by
  unfold Dsa.sign
  refine .ite (fun _ => ?_) fun _ => .error (by simp)
  split
  · exact .ok _
  · exact .error (by simp)

section Engine

variable [Engine]

theorem RsaMaterial.privateKey_ofPrivateKey {key : Rsa.PrivateKey}
    (consistent : Rsa.isPrivate key.n key.e key.d key.p key.q key.u = true) :
    (ofPrivateKey key).privateKey = .ok key :=
  Rsa.privateKey_of_isPrivate consistent

theorem RsaMaterial.sign_failsOnly {m : RsaMaterial} {key : Rsa.PrivateKey} {draw : Draw}
    {digest : Bytes} (made : m.privateKey = .ok key) :
    FailsOnly [.badType, .badValue] (m.sign draw digest) := by
  rw [sign, made]
  exact Rsa.sign_failsOnly

theorem DssMaterial.sign_failsOnly {m : DssMaterial} {key : Dsa.PrivateKey} {draw : Draw}
    {digest : Bytes} (made : m.privateKey = .ok key) :
    FailsOnly [.badType, .badValue] (m.sign draw digest) := by
  rw [sign, made]
  exact (Dsa.sign_failsOnly.mono (by simp)).bind fun _ _ => .ok _

/-- Checked material with a private half signs or has a fault that signing reports. -/
theorem Key.signWith_failsOnly {key : Key} {draw : Draw} {digest : Bytes} {a : Algorithm}
    {m : Material} (filled : key.material = some m) (checked : m.IsChecked a)
    (whole : m.hasPrivate = true) :
    FailsOnly [.badType, .badValue] (key.signWith draw digest) := by
  unfold signWith
  rw [filled]
  cases checked with
  | rsaPublic | dssPublic => cases whole
  | rsaPrivate consistent =>
      exact .map _ (.map _
        (RsaMaterial.sign_failsOnly (RsaMaterial.privateKey_ofPrivateKey consistent)))
  | dssPrivate consistent secret =>
      exact .map _ (.map _
        (DssMaterial.sign_failsOnly (DssMaterial.privateKey_ofPrivateKey consistent secret)))

end Engine

end SshKeys
