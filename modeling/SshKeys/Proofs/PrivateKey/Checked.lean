import SshKeys.PrivateKey.Loading
import SshKeys.Proofs.Dsa.Key
import SshKeys.Proofs.PrivateKey.Loading
import SshKeys.Proofs.Rsa.Key

/-! # What is read has been checked

Whichever form a text has, the material in it is that of a key which was made of its integers, and
keys are made of consistent integers only. A handle is made of the material if that has a private
half.
-/

namespace SshKeys

open Outcome

/-- Material of an algorithm that was copied out of a consistent key. -/
inductive Material.IsChecked [Engine] : Algorithm → Material → Prop
  | rsaPublic {key : Rsa.PublicKey} (consistent : Rsa.isPublic key.n key.e = true) :
    IsChecked .rsa (.rsa (.ofPublicKey key))
  | rsaPrivate {key : Rsa.PrivateKey}
      (consistent : Rsa.isPrivate key.n key.e key.d key.p key.q key.u = true) :
    IsChecked .rsa (.rsa (.ofPrivateKey key))
  | dssPublic {key : Dsa.PublicKey} (consistent : Dsa.isPublic key.p key.q key.g key.y = true) :
    IsChecked .dss (.dss (.ofPublicKey key))
  | dssPrivate {key : Dsa.PrivateKey} (consistent : Dsa.isPublic key.p key.q key.g key.y = true)
      (secret : Dsa.isPrivate key.p key.q key.g key.y key.x = true) :
    IsChecked .dss (.dss (.ofPrivateKey key))

namespace Material.IsChecked

variable [Engine] {a : Algorithm} {m : Material}

theorem algorithm_eq (h : IsChecked a m) : m.algorithm = a := by
  cases h <;> rfl

theorem publicFields_eq (h : IsChecked a m) :
    ∃ numbers : List Nat, m.publicFields = numbers.map fun (n : Nat) => some (n : Int) := by
  cases h with
  | @rsaPublic key _ => exact ⟨[key.e, key.n], rfl⟩
  | @rsaPrivate key _ => exact ⟨[key.e, key.n], rfl⟩
  | @dssPublic key _ => exact ⟨[key.p, key.q, key.g, key.y], rfl⟩
  | @dssPrivate key _ _ => exact ⟨[key.p, key.q, key.g, key.y], rfl⟩

end Material.IsChecked

open Material (IsChecked)

namespace Encoding

theorem firstOf_yields {P : Material → Prop} {forms : List Form} {es : List Der.Element}
    (h : ∀ form ∈ forms, Yields P (form es)) : Yields P (firstOf forms es) := by
  induction forms with
  | nil => exact .error _
  | cons form forms ih =>
      obtain ⟨first, rest⟩ := List.forall_mem_cons.mp h
      unfold firstOf
      split
      -- The fault of another form is the only one that leads on to the rest.
      · exact ih rest
      · exact first

variable [Engine] {es : List Der.Element} {a : Algorithm}

theorem rsaPlain_checked (es : List Der.Element) : Yields (IsChecked .rsa) (rsaPlain es) := by
  unfold rsaPlain
  split
  · exact .map fun _ made => .rsaPublic (Rsa.publicKey_sound made)
  · exact .error _

theorem rsaFromWrapped_checked (w : Wrapped) : Yields (IsChecked .rsa) (rsaFromWrapped w) :=
  .ite (fun _ => .bind fun es _ => rsaPlain_checked es) fun _ => .error _

theorem rsaTraditional_checked (es : List Der.Element) :
    Yields (IsChecked .rsa) (rsaTraditional es) := by
  unfold rsaTraditional
  split
  · refine .bind fun u _ => .bind fun key made => .ok ?_
    obtain ⟨rfl, consistent⟩ := Rsa.ofNumbers_sound made
    exact .rsaPrivate consistent
  · exact .error _

theorem rsaFromWrappedPrivate_checked (w : Wrapped) :
    Yields (IsChecked .rsa) (rsaFromWrappedPrivate w) :=
  .ite (fun _ => .bind fun es _ => rsaTraditional_checked es) fun _ => .error _

theorem dsaTraditional_checked (es : List Der.Element) :
    Yields (IsChecked .dss) (dsaTraditional es) := by
  unfold dsaTraditional
  split
  · refine .bind fun key made => .ok ?_
    obtain ⟨_, _, _, _, _, consistent, secret⟩ := Dsa.privateKey_sound made
    exact .dssPrivate consistent secret
  · exact .error _

theorem dsaFromWrapped_checked (w : Wrapped) : Yields (IsChecked .dss) (dsaFromWrapped w) := by
  refine .ite (fun _ => ?_) fun _ => .error _
  exact .bind fun _ _ => .bind fun _ _ => .bind fun _ made =>
    .ok (.dssPublic (Dsa.publicKey_sound made).2)

theorem dsaFromPrivate_checked (domain : DsaDomain) (x : Int) :
    Yields (IsChecked .dss) (dsaFromPrivate domain x) := by
  unfold dsaFromPrivate
  split
  · refine .ite (fun _ => .error _) fun _ => .bind fun key made => .ok ?_
    obtain ⟨_, _, _, _, _, consistent, secret⟩ := Dsa.privateKey_sound made
    exact .dssPrivate consistent secret
  · exact .error _

theorem dsaFromWrappedPrivate_checked (w : Wrapped) :
    Yields (IsChecked .dss) (dsaFromWrappedPrivate w) :=
  .ite (fun _ => .bind fun x _ => .bind fun domain _ => dsaFromPrivate_checked domain x)
    fun _ => .error _

theorem unwrapped_checked (a : Algorithm) (passphrase : Option Bytes) (es : List Der.Element) :
    Yields (IsChecked a) (unwrapped a passphrase es) := by
  refine .bind fun _ _ => .bind fun w _ => ?_
  cases a with
  | rsa => exact rsaFromWrappedPrivate_checked w
  | dss => exact dsaFromWrappedPrivate_checked w

theorem forms_checked (a : Algorithm) : ∀ form ∈ forms a, Yields (IsChecked a) (form es) := by
  cases a with
  | rsa =>
      simp only [forms, rsaForms, List.forall_mem_cons, List.not_mem_nil, false_implies,
        implies_true, and_true]
      exact ⟨rsaTraditional_checked es, rsaPlain_checked es,
        .bind fun w _ => rsaFromWrapped_checked w, .bind fun w _ => rsaFromWrapped_checked w⟩
  | dss =>
      simp only [forms, dsaForms, List.forall_mem_cons, List.not_mem_nil, false_implies,
        implies_true, and_true]
      exact ⟨dsaTraditional_checked es, .bind fun w _ => dsaFromWrapped_checked w,
        .bind fun w _ => dsaFromWrapped_checked w⟩

theorem material_checked (a : Algorithm) (passphrase : Option Bytes) (body : Bytes) :
    Yields (IsChecked a) (material a passphrase body) := by
  refine .bind fun es _ => firstOf_yields fun form member => ?_
  rcases List.mem_append.mp member with early | last
  · exact forms_checked a form early
  · rw [List.mem_singleton.mp last]
    exact unwrapped_checked a passphrase es

end Encoding

theorem Loading.conclude_eq_ok_iff {t : KeyType} {read : Reading.Read} {key : Key} :
    (conclude t read).key = .ok key ↔
      ∃ m, read.material = .ok m ∧ m.hasPrivate = true ∧ key = handle t m := by
  unfold conclude
  cases read.material with
  | ok m =>
      cases whole : m.hasPrivate with
      | true => simp [whole, eq_comm (a := handle t m)]
      | false => simp [whole, fail_key]
  | error f =>
      simp only [reduceCtorEq, false_and, exists_false, iff_false]
      split
      · rw [fail_key]
        nofun
      · nofun

section Engine

variable [Engine]

theorem OpenSsh.material_checked (body : Bytes) (passphrase : Option Bytes) :
    Yields (IsChecked .rsa) (OpenSsh.material body passphrase) := by
  have key_checked (inside : Bytes) : Yields (fun key : Rsa.PrivateKey =>
      Rsa.isPrivate key.n key.e key.d key.p key.q key.u = true) (rsaKey inside) := by
    refine .ite (fun _ => ?_) fun _ => .error _
    split
    · refine .ite (fun _ key made => ?_) fun _ => .error _
      obtain ⟨rfl, consistent⟩ := Rsa.ofNumbers_sound made
      exact consistent
    · exact .error _
  unfold material
  split
  · exact .map fun key made => .rsaPrivate (key_checked _ key made)
  · exact .error _

theorem PublicLine.material_checked (a : Algorithm) (line : List Char) :
    Yields (IsChecked a) (PublicLine.material a line) := by
  unfold material
  split
  · cases a with
    | rsa =>
        exact .bind fun _ _ => .bind fun _ _ => .bind fun _ made =>
          .ok (.rsaPublic (Rsa.publicKey_sound made))
    | dss =>
        refine .ite (fun _ => .error _) fun _ => .ite (fun _ => .error _) fun _ => ?_
        exact .bind fun _ _ => .bind fun _ _ => .bind fun _ _ => .bind fun _ _ =>
          .bind fun _ made => .ok (.dssPublic (Dsa.publicKey_sound made).2)
  · exact .error _

namespace Reading

theorem keyIn_checked (a : Algorithm) (text : List Char) (passphrase : Option Bytes) :
    Yields (IsChecked a) (keyIn a text passphrase) := by
  unfold keyIn
  split
  · unfold armouredKey
    split
    · exact .error _
    · split
      · next openSsh =>
          obtain ⟨rfl, _⟩ := openSsh
          exact OpenSsh.material_checked _ _
      · exact Encoding.material_checked a _ _
  · split
    · exact PublicLine.material_checked a _
    · split
      · exact Encoding.material_checked a _ _
      · exact .error _

theorem importText_checked (a : Algorithm) (text : List Char) (passphrase : Value) :
    Yields (IsChecked a) (importText a text passphrase) := by
  by_cases latin : ∀ c ∈ text, c.toNat < 256
  · rw [importText_latin latin]
    exact .bind fun secret _ => keyIn_checked a text secret
  · rw [importText_wide latin]
    exact .error _

end Reading

namespace Loading

variable {text passphrase : Value} {callback : Option Callback} {session : Option Session}
  {typed : String}

/-- A loaded handle is that of the announced type, with material that was checked and has a private
    half. -/
theorem handle_of_load (made : (load text passphrase callback session typed).key = .ok key) :
    ∃ chars a m, (Pem.keyType chars).algorithm? = some a ∧ IsChecked a m ∧ m.hasPrivate = true ∧
      key = handle (Pem.keyType chars) m := by
  unfold load at made
  split at made
  · next chars _ =>
      cases announced : (Pem.keyType chars).algorithm? with
      | none =>
          obtain ⟨_, failed, _⟩ :=
            loadText_unannounced announced passphrase callback session typed
          cases made.symm.trans failed
      | some a =>
          rw [loadText_key announced] at made
          obtain ⟨m, read, whole, same⟩ := conclude_eq_ok_iff.mp made
          obtain ⟨secret, _, read⟩ := bind_eq_ok_iff.mp read
          have checked := Reading.importText_checked a chars secret m read
          exact ⟨chars, a, m, announced, checked, whole, same⟩
  · cases made
  · rw [fail_key] at made
    cases made

end Loading

end Engine

end SshKeys
