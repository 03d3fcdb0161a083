import SshKeys.Proofs.Text.Blank
import SshKeys.Proofs.Text.Masked
import SshKeys.Text.Quoted

/-! # What quoted text is made of

A quoted text consists of the printable characters of the text and of what escapes are written with:
the marks, the backslash, and letters and digits behind a backslash. So a quoted text never breaks a
line, and of a text that was masked before nothing is left but printable ASCII.
-/

namespace SshKeys.Text

variable {text : List Char} {mark c d : Char}

/-- The characters that stand in a quoted text without standing for themselves. -/
def escapeAlphabet : List Char :=
  apostrophe :: quotationMark :: backslash :: "nrtxuU0123456789abcdef".toList

theorem hexDigit_mem {n : Nat} (h : n < 16) : Bytes.hexDigit n ∈ escapeAlphabet :=
  (by decide : ∀ n < 16, Bytes.hexDigit n ∈ escapeAlphabet) n h

theorem mem_alphabet_of_mem_hexDigits {width n : Nat} (h : c ∈ hexDigits width n) :
    c ∈ escapeAlphabet := by
  induction width generalizing n with
  | zero => cases h
  | succ width ih =>
      rcases List.mem_append.mp h with high | low
      · exact ih high
      · cases List.mem_singleton.mp low
        exact hexDigit_mem (Nat.mod_lt n (by decide))

theorem mem_alphabet_of_mem_escapeCode {n : Nat} (h : c ∈ escapeCode n) : c ∈ escapeAlphabet := by
  have escaped {letter : Char} {width : Nat} (known : letter ∈ escapeAlphabet)
      (h : c ∈ backslash :: letter :: hexDigits width n) : c ∈ escapeAlphabet := by
    rcases List.mem_cons.mp h with rfl | h
    · decide
    rcases List.mem_cons.mp h with rfl | h
    · exact known
    · exact mem_alphabet_of_mem_hexDigits h
  unfold escapeCode at h
  split at h
  · exact escaped (by decide) h
  · split at h
    · exact escaped (by decide) h
    · exact escaped (by decide) h

theorem escapeChar_cases (marked : mark ∈ escapeAlphabet) (c : Char) :
    (∀ d ∈ escapeChar mark c, d ∈ escapeAlphabet) ∨
      isPrintable c = true ∧ escapeChar mark c = [c] := by
  have pair {d : Char} (known : d ∈ escapeAlphabet) : ∀ e ∈ [backslash, d], e ∈ escapeAlphabet :=
    List.forall_mem_cons.mpr ⟨by decide, List.forall_mem_singleton.mpr known⟩
  unfold escapeChar
  split
  · next special =>
      refine .inl (pair ?_)
      rcases special with rfl | rfl
      · exact marked
      · decide
  split
  · exact .inl (pair (by decide))
  split
  · exact .inl (pair (by decide))
  split
  · exact .inl (pair (by decide))
  split
  · next shown => exact .inr ⟨shown, rfl⟩
  · exact .inl fun _ member => mem_alphabet_of_mem_escapeCode member

theorem quoteMark_mem (text : List Char) : quoteMark text ∈ escapeAlphabet := by
  unfold quoteMark
  split
  · decide
  · decide

theorem mem_quote (h : c ∈ quote text) :
    c ∈ escapeAlphabet ∨ c ∈ text ∧ isPrintable c = true := by
  have marked := quoteMark_mem text
  rcases List.mem_append.mp h with h | h
  · rcases List.mem_cons.mp h with rfl | h
    · exact .inl marked
    · obtain ⟨d, own, member⟩ := List.mem_flatMap.mp h
      rcases escapeChar_cases marked d with escaped | ⟨shown, itself⟩
      · exact .inl (escaped c member)
      · rw [itself] at member
        cases List.mem_singleton.mp member
        exact .inr ⟨own, shown⟩
  · cases List.mem_singleton.mp h
    exact .inl marked

theorem newline_notMem_quote (text : List Char) : '\n' ∉ quote text := by
  intro h
  rcases mem_quote h with escape | ⟨_, shown⟩
  · exact absurd escape (by decide)
  · exact absurd shown (by decide)

/-! ## Masked text -/

/-- The blanks that a mask leaves in place are escaped by the quotes. -/
theorem isPlain_of_mem_quote_mask (h : c ∈ quote (mask text)) : IsPlain c := by
  rcases mem_quote h with escape | ⟨own, shown⟩
  · exact forall_mem_of_all (by decide) c escape
  · have low : c.toNat < 0x80 := (isShowable_of_mem own).toNat_lt
    simp only [isPrintable, if_pos low, Bool.and_eq_true, decide_eq_true_eq] at shown
    exact ⟨shown.1, Nat.le_of_lt_succ shown.2⟩

end SshKeys.Text
