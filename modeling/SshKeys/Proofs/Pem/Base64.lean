import SshKeys.Pem.Base64
import SshKeys.Proofs.Text.Blank

/-! # Reading back base64

`encode` is the standard way to write bytes: three of them on four letters, and padding where bytes
are missing at the end. Lenient as reading is, it takes this for the same bytes.
-/

namespace SshKeys.Base64

def alphabet : List Char :=
  "ABCDEFGHIJKLMNOPQRSTUVWXYZabcdefghijklmnopqrstuvwxyz0123456789+/".toList

def letter (n : Nat) : Char := alphabet.getD n '='

def encode : Bytes → List Char
  | [] => []
  | [x] => [letter (x.toNat / 4), letter (x.toNat % 4 * 16), '=', '=']
  | [x, y] =>
    [letter (x.toNat / 4), letter (x.toNat % 4 * 16 + y.toNat / 16), letter (y.toNat % 16 * 4), '=']
  | x :: y :: z :: rest =>
    [letter (x.toNat / 4), letter (x.toNat % 4 * 16 + y.toNat / 16),
      letter (y.toNat % 16 * 4 + z.toNat / 64), letter (z.toNat % 64)] ++ encode rest

example : encode (Bytes.ofUtf8 "fooba") = "Zm9vYmE=".toList := by decide +kernel

theorem sextet?_letter {n : Nat} (h : n < 64) : letter n ≠ '=' ∧ sextet? (letter n) = some n := by
  have all : ∀ n : Fin 64, letter n ≠ '=' ∧ sextet? (letter n) = some n.val := by decide +kernel
  exact all ⟨n, h⟩

theorem letter_mem (n : Nat) : letter n ∈ '=' :: alphabet := by
  rw [letter, List.getD_eq_getElem?_getD]
  cases found : alphabet[n]? with
  | none => exact List.mem_cons_self
  | some c => exact List.mem_cons_of_mem _ (List.mem_of_getElem? found)

theorem mem_of_mem_encode {bytes : Bytes} : ∀ c ∈ encode bytes, c ∈ '=' :: alphabet := by
  induction bytes using encode.induct with
  | case1 => simp [encode]
  | case2 x =>
      simp only [encode, List.forall_mem_cons, letter_mem, List.mem_cons_self, true_and]
      simp
  | case3 x y =>
      simp only [encode, List.forall_mem_cons, letter_mem, List.mem_cons_self, true_and]
      simp
  | case4 x y z rest ih =>
      simp only [encode, List.cons_append, List.nil_append, List.forall_mem_cons, letter_mem,
        true_and]
      exact ih

theorem encode_ne_nil {bytes : Bytes} (h : bytes ≠ []) : encode bytes ≠ [] := by
  match bytes with
  | [] => exact absurd rfl h
  | [_] | [_, _] | _ :: _ :: _ :: _ => simp [encode]

theorem plain_of_mem_encode {bytes : Bytes} : ∀ c ∈ encode bytes,
    c.toNat < 128 ∧ Text.isBlank c = false ∧ c ≠ '-' ∧ c ≠ ':' := by
  have all : ∀ c ∈ '=' :: alphabet,
      c.toNat < 128 ∧ Text.isBlank c = false ∧ c ≠ '-' ∧ c ≠ ':' :=
    Text.forall_mem_of_all (by decide)
  exact fun c member => all c (mem_of_mem_encode c member)

theorem decodeFrom_letter {group : List Nat} {n : Nat} (inside : group.length < 3) (h : n < 64)
    (pads : Nat) (rest : List Char) :
    decodeFrom group pads (letter n :: rest) = decodeFrom (group ++ [n]) 0 rest := by
  obtain ⟨other, number⟩ := sextet?_letter h
  match group with
  | [] | [_] | [_, _] => simp [decodeFrom, other, number]
  | _ :: _ :: _ :: _ =>
      simp only [List.length_cons] at inside
      omega

theorem decodeFrom_letters {a b c d : Nat} (ha : a < 64) (hb : b < 64) (hc : c < 64) (hd : d < 64)
    (rest : List Char) :
    decodeFrom [] 0 (letter a :: letter b :: letter c :: letter d :: rest) =
      (decodeFrom [] 0 rest).map ([firstByte a b, secondByte b c, thirdByte c d] ++ ·) := by
  obtain ⟨other, number⟩ := sextet?_letter hd
  rw [decodeFrom_letter (by simp) ha, decodeFrom_letter (by simp) hb,
    decodeFrom_letter (by simp) hc]
  simp [decodeFrom, other, number]

theorem firstByte_eq (x : UInt8) {low : Nat} (h : low < 16) :
    firstByte (x.toNat / 4) (x.toNat % 4 * 16 + low) = x := by
  apply UInt8.toNat_inj.mp
  rw [firstByte, UInt8.toNat_ofNat']
  have := x.toNat_lt
  omega

theorem secondByte_eq (y : UInt8) {high low : Nat} (h : low < 4) :
    secondByte (high * 16 + y.toNat / 16) (y.toNat % 16 * 4 + low) = y := by
  apply UInt8.toNat_inj.mp
  rw [secondByte, UInt8.toNat_ofNat']
  have := y.toNat_lt
  omega

theorem thirdByte_eq (z : UInt8) {high : Nat} :
    thirdByte (high * 4 + z.toNat / 64) (z.toNat % 64) = z := by
  apply UInt8.toNat_inj.mp
  rw [thirdByte, UInt8.toNat_ofNat']
  have := z.toNat_lt
  omega

theorem decodeFrom_encode (bytes : Bytes) : decodeFrom [] 0 (encode bytes) = some bytes := by
  induction bytes using encode.induct with
  | case1 => rfl
  | case2 x =>
      have := x.toNat_lt
      rw [encode, decodeFrom_letter (by simp) (by omega), decodeFrom_letter (by simp) (by omega)]
      show some [firstByte (x.toNat / 4) (x.toNat % 4 * 16)] = _
      rw [← Nat.add_zero (x.toNat % 4 * 16), firstByte_eq x (by decide)]
  | case3 x y =>
      have := x.toNat_lt
      have := y.toNat_lt
      rw [encode, decodeFrom_letter (by simp) (by omega), decodeFrom_letter (by simp) (by omega),
        decodeFrom_letter (by simp) (by omega)]
      show some [firstByte (x.toNat / 4) (x.toNat % 4 * 16 + y.toNat / 16),
        secondByte (x.toNat % 4 * 16 + y.toNat / 16) (y.toNat % 16 * 4)] = _
      rw [firstByte_eq x (by omega), ← Nat.add_zero (y.toNat % 16 * 4),
        secondByte_eq y (by decide)]
  | case4 x y z rest ih =>
      have := x.toNat_lt
      have := y.toNat_lt
      have := z.toNat_lt
      rw [encode]
      simp only [List.cons_append, List.nil_append]
      rw [decodeFrom_letters (by omega) (by omega) (by omega) (by omega), ih,
        firstByte_eq x (by omega), secondByte_eq y (by omega), thirdByte_eq z]
      rfl

theorem decode?_encode (bytes : Bytes) : decode? (encode bytes) = some bytes := by
  have ascii : (encode bytes).all (fun c => c.toNat < 128) = true := by
    rw [List.all_eq_true]
    exact fun c member => decide_eq_true (plain_of_mem_encode c member).1
  rw [decode?, if_pos ascii, decodeFrom_encode]

end SshKeys.Base64
