import SshKeys.Proofs.Key.Rechecking
import SshKeys.Proofs.PrivateKey.Consistency

/-! # Material that was checked and copied out

Material is checked as a key, which has an order of its own for the integers, and what is copied out
of the key takes their places again. Nothing is lost and nothing changes its place: RSA material may
only gain what follows from its integers, and DSS material stays as it is. Of a check without the
private half the public half is left.
-/

namespace SshKeys

open Outcome

namespace RsaMaterial

variable [Engine] {m : RsaMaterial} {key : Rsa.PrivateKey}

/-- RSA material with the modulus and the exponents of another, and with its factors if it has both.
    Everything that follows from these is there, whatever stood in its place. -/
structure IsRestored (m copied : RsaMaterial) : Prop where
  exponents : copied.n = m.n ∧ copied.e = m.e ∧ copied.d = m.d
  factors : ∀ p q, m.p = some p → m.q = some q → copied.p = some p ∧ copied.q = some q
  whole : ∃ n e d p q u, copied.IsWhole n e d p q u

theorem factors_of_privateKey {p q : Int} (made : m.privateKey = .ok key)
    (first : m.p = some p) (second : m.q = some q) : p = key.p ∧ q = key.q := by
  obtain ⟨hn, he, hd, _⟩ := Rsa.privateKey_sound made
  rw [privateKey, factors?, hn, he, hd, first, second] at made
  obtain ⟨_, _, _, hp, hq, _⟩ := Rsa.ofFactors_of_privateKey made
  exact ⟨hp, hq⟩

theorem isRestored_of_privateKey (made : m.privateKey = .ok key) :
    m.IsRestored (ofPrivateKey key) := by
  obtain ⟨hn, he, hd, consistent⟩ := Rsa.privateKey_sound made
  obtain ⟨u, whole⟩ := exists_whole consistent
  refine ⟨⟨hn.symm, he.symm, hd.symm⟩, ?_, ⟨_, _, _, _, _, u, whole⟩⟩
  intro p q first second
  obtain ⟨rfl, rfl⟩ := factors_of_privateKey made first second
  exact ⟨rfl, rfl⟩

theorem privateKey_restored (made : m.privateKey = .ok key) :
    (ofPrivateKey key).privateKey = .ok key :=
  privateKey_ofPrivateKey (Rsa.privateKey_sound made).2.2.2

theorem ofPublicKey_of_publicKey {key : Rsa.PublicKey} (made : m.publicKey = .ok key) :
    ofPublicKey key = { n := m.n, e := m.e } := by
  obtain ⟨hn, he, _⟩ := Rsa.publicKey_eq_ok_iff.mp made
  rw [hn, he]
  rfl

end RsaMaterial

namespace DssMaterial

variable [Engine] {m : DssMaterial}

theorem ofPrivateKey_of_privateKey {key : Dsa.PrivateKey} (made : m.privateKey = .ok key) :
    ofPrivateKey key = m := by
  obtain ⟨hp, hq, hg, hy, hx, _⟩ := Dsa.privateKey_sound made
  cases m
  cases hp
  cases hq
  cases hg
  cases hy
  cases hx
  rfl

theorem ofPublicKey_of_publicKey {key : Dsa.PublicKey} (made : m.publicKey = .ok key) :
    ofPublicKey key = { m with privKey := none } := by
  obtain ⟨⟨hp, hq, hg, hy⟩, _⟩ := Dsa.publicKey_sound made
  rw [hp, hq, hg, hy]
  rfl

end DssMaterial

namespace Material

variable {m copied : Material} {withPrivate : Bool}

/-- What may be left of material when it has been checked, with the private half or without. -/
inductive IsRestored : Bool → Material → Material → Prop
  | rsa {m copied : RsaMaterial} (restored : m.IsRestored copied) :
    IsRestored true (.rsa m) (.rsa copied)
  | dss {m : DssMaterial} : IsRestored true (.dss m) (.dss m)
  | publicHalf {m : Material} : IsRestored false m m.publicHalf

section Engine

variable [Engine]

theorem eq_publicHalf_of_recheck (made : m.recheck false = .ok copied) : copied = m.publicHalf := by
  cases m with
  | rsa m =>
      obtain ⟨key, checked, rfl⟩ := map_eq_ok_iff.mp made
      rw [RsaMaterial.ofPublicKey_of_publicKey checked]
      rfl
  | dss m =>
      obtain ⟨key, checked, rfl⟩ := map_eq_ok_iff.mp made
      rw [DssMaterial.ofPublicKey_of_publicKey checked]
      rfl

theorem isRestored_of_recheck (made : m.recheck withPrivate = .ok copied) :
    IsRestored withPrivate m copied := by
  cases withPrivate with
  | false =>
      rw [eq_publicHalf_of_recheck made]
      exact .publicHalf
  | true =>
      cases m with
      | rsa m =>
          obtain ⟨key, checked, rfl⟩ := map_eq_ok_iff.mp made
          exact .rsa (RsaMaterial.isRestored_of_privateKey checked)
      | dss m =>
          obtain ⟨key, checked, rfl⟩ := map_eq_ok_iff.mp made
          rw [DssMaterial.ofPrivateKey_of_privateKey checked]
          exact .dss

theorem recheck_publicHalf (m : Material) : m.publicHalf.recheck false = m.recheck false := by
  cases m with
  | rsa m => rfl
  | dss m => rfl

theorem recheck_copied (made : m.recheck withPrivate = .ok copied) :
    copied.recheck withPrivate = .ok copied := by
  cases withPrivate with
  | false =>
      obtain rfl := eq_publicHalf_of_recheck made
      rw [recheck_publicHalf, made]
  | true =>
      cases m with
      | rsa m =>
          obtain ⟨key, checked, rfl⟩ := map_eq_ok_iff.mp made
          rw [recheck, RsaMaterial.privateKey_restored checked]
          rfl
      | dss m =>
          obtain ⟨key, checked, rfl⟩ := map_eq_ok_iff.mp made
          have same := DssMaterial.ofPrivateKey_of_privateKey checked
          rw [same] at made ⊢
          exact made

/-- Material that passes as a key survives it. With the private half, RSA material keeps the
    modulus, the exponents and the factors, and missing factors and all that follows from the others
    are put in; DSS material keeps every integer. Without, the public half is kept and nothing else.
    What is left passes again and stays as it is. -/
theorem recheck_restores (made : m.recheck withPrivate = .ok copied) :
    IsRestored withPrivate m copied ∧ copied.recheck withPrivate = .ok copied :=
  ⟨isRestored_of_recheck made, recheck_copied made⟩

end Engine

section Plain

attribute [local instance] Engine.plain

/-- One factor of RSA material is missing and the other is none. -/
theorem recheck_restores_unfactored :
    let m : RsaMaterial := { n := some 33, e := some 13, d := some 17, p := some 5 }
    let whole : RsaMaterial :=
      { m with p := some 11, q := some 3, dmp1 := some 7, dmq1 := some 1, iqmp := some 4 }
    (rsa m).recheck true = .ok (rsa whole) ∧ IsRestored true (rsa m) (rsa whole) ∧
      (rsa whole).recheck true = .ok (rsa whole) := by
  intro m whole
  have made : (rsa m).recheck true = .ok (rsa whole) := toOption_eq_some_iff.mp (by decide)
  exact ⟨made, recheck_restores made⟩

end Plain

end Material

end SshKeys
