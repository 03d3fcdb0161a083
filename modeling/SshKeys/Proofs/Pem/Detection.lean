import SshKeys.Proofs.Pem.Armour

/-! # Where the header of an encrypted body is looked for

Two detectors read the same text. `isEncrypted` looks for the header at the beginning of a line,
with blanks of any sort at its gaps. The decoder takes all spaces out and looks for it in the second
piece of armour that is whole. Neither finds everything that the other finds: a header farther down,
or one with a tab in it, counts for the first only; one behind a space, or with a space in a word,
for the second only. `detection_agrees_iff` says on which texts they agree.
-/

namespace SshKeys.Pem

variable {text : List Char}

section Lines

/-! ## At the beginning of a line -/

/-- The header of an encrypted body, with a text at each of its gaps. -/
def spacedHeader (first second third : List Char) : List Char :=
  "Proc-Type:".toList ++ (first ++ '4' :: (second ++ ',' :: (third ++ "ENCRYPTED".toList)))

/-- A line of the text begins with the header, with blanks of any sort at its gaps. -/
def HasHeaderLine (text : List Char) : Prop :=
  ∃ before first second third rest, (before = [] ∨ before.getLast? = some '\n') ∧
    (∀ c ∈ first ++ second ++ third, Text.isBlank c = true) ∧
    text = before ++ (spacedHeader first second third ++ rest)

theorem beginsEncrypted_iff : beginsEncrypted text = true ↔ ∃ first second third rest,
    (∀ c ∈ first ++ second ++ third, Text.isBlank c = true) ∧
      text = spacedHeader first second third ++ rest := by
  obtain ⟨others, word⟩ : ∃ others, "ENCRYPTED".toList = 'E' :: others :=
    List.head?_eq_some_iff.mp (by decide)
  have four : Text.isBlank '4' = false := by decide
  have comma : Text.isBlank ',' = false := by decide
  have letter : Text.isBlank 'E' = false := by decide
  -- The words stand for any texts from here on; literals would be taken apart again and again.
  unfold beginsEncrypted spacedHeader
  generalize "Proc-Type:".toList = name
  generalize "ENCRYPTED".toList = last at word
  subst word
  simp only [Option.isSome_iff_exists, Option.bind_eq_bind, Option.bind_eq_some_iff,
    Text.dropStart?_eq_some_iff, List.cons_append, List.nil_append, List.append_assoc,
    Text.trimStart_eq_cons_iff four, Text.trimStart_eq_cons_iff comma,
    Text.trimStart_eq_cons_iff letter]
  constructor
  · rintro ⟨rest, _, rfl, _, ⟨first, blank₁, rfl⟩, _, ⟨second, blank₂, rfl⟩, third, blank₃, rfl⟩
    refine ⟨first, second, third, rest, ?_, rfl⟩
    simp only [List.forall_mem_append]
    exact ⟨blank₁, blank₂, blank₃⟩
  · rintro ⟨first, second, third, rest, blank, rfl⟩
    simp only [List.forall_mem_append] at blank
    obtain ⟨blank₁, blank₂, blank₃⟩ := blank
    exact ⟨rest, _, rfl, _, ⟨first, blank₁, rfl⟩, _, ⟨second, blank₂, rfl⟩, third, blank₃, rfl⟩

theorem hasEncryptedLine_iff {atLineStart : Bool} : hasEncryptedLine atLineStart text = true ↔
    ∃ before after, (before = [] ∧ atLineStart = true ∨ before.getLast? = some '\n') ∧
      beginsEncrypted after = true ∧ text = before ++ after := by
  induction text generalizing atLineStart with
  | nil =>
      have unbegun : beginsEncrypted [] = false := by decide
      simp [hasEncryptedLine, unbegun]
  | cons c text ih =>
      rw [hasEncryptedLine, Bool.or_eq_true, Bool.and_eq_true, ih]
      constructor
      · rintro (⟨start, begins⟩ | ⟨before, after, start, begins, rfl⟩)
        · exact ⟨[], c :: text, .inl ⟨rfl, start⟩, begins, rfl⟩
        · refine ⟨c :: before, after, .inr ?_, begins, rfl⟩
          rcases start with ⟨rfl, broken⟩ | ends
          · simpa using broken
          · simp [List.getLast?_cons, ends]
      · rintro ⟨before, after, start, begins, split⟩
        cases before with
        | nil =>
            rw [List.nil_append] at split
            exact .inl ⟨by simpa using start, split ▸ begins⟩
        | cons d before =>
            obtain ⟨rfl, rfl⟩ := List.cons.inj split
            refine .inr ⟨before, after, ?_, begins, rfl⟩
            cases before with
            | nil => simpa using start
            | cons e before => simpa [List.getLast?_cons] using start

theorem isEncrypted_iff :
    isEncrypted text = true ↔ HasHeaderLine text ∨ encryptedOpening <:+: text := by
  rw [isEncrypted, Bool.or_eq_true, Text.occursIn_iff_infix]
  refine or_congr_left ?_
  simp only [hasEncryptedLine_iff, beginsEncrypted_iff, HasHeaderLine, and_true]
  constructor
  · rintro ⟨before, _, start, ⟨first, second, third, rest, blank, rfl⟩, rfl⟩
    exact ⟨before, first, second, third, rest, start, blank, rfl⟩
  · rintro ⟨before, first, second, third, rest, start, blank, rfl⟩
    exact ⟨before, _, start, ⟨first, second, third, rest, blank, rfl⟩, rfl⟩

end Lines

section Around

/-! ## Text around it

What is found stays where it is if text is put behind it, and if whole lines are put in front of it.
A part of a line in front may hide the header that begins the line.
-/

theorem HasHeaderLine.append (h : HasHeaderLine text) (more : List Char) :
    HasHeaderLine (text ++ more) := by
  obtain ⟨before, first, second, third, rest, start, blank, rfl⟩ := h
  exact ⟨before, first, second, third, rest ++ more, start, blank, by simp⟩

theorem HasHeaderLine.behind {front : List Char} (whole : front = [] ∨ front.getLast? = some '\n')
    (h : HasHeaderLine text) : HasHeaderLine (front ++ text) := by
  obtain ⟨before, first, second, third, rest, start, blank, rfl⟩ := h
  refine ⟨front ++ before, first, second, third, rest, ?_, blank, by simp⟩
  rcases start with rfl | ends
  · rwa [List.append_nil]
  · exact .inr (by simp [ends])

/-- A text counts as encrypted by its grammar: it has the opening of an encrypted key anywhere, or a
    line that begins with the header, with blanks of any sort and number at its gaps. Text behind it
    and whole lines in front of it do not change that. -/
theorem isEncrypted_grammar :
    (∀ text, isEncrypted text = true ↔ HasHeaderLine text ∨ encryptedOpening <:+: text) ∧
    (∀ text more, isEncrypted text = true → isEncrypted (text ++ more) = true) ∧
    ∀ text front, (front = [] ∨ front.getLast? = some '\n') → isEncrypted text = true →
      isEncrypted (front ++ text) = true := by
  refine ⟨fun text => isEncrypted_iff, ?_, ?_⟩
  · intro text more encrypted
    rcases isEncrypted_iff.mp encrypted with lined | opened
    · exact isEncrypted_iff.mpr (.inl (lined.append more))
    · exact isEncrypted_iff.mpr (.inr (opened.trans (List.prefix_append text more).isInfix))
  · intro text front whole encrypted
    rcases isEncrypted_iff.mp encrypted with lined | opened
    · exact isEncrypted_iff.mpr (.inl (lined.behind whole))
    · exact isEncrypted_iff.mpr (.inr (opened.trans (List.suffix_append front text).isInfix))

/-- Two beginnings that lead nowhere, and a header whose gaps go across lines. -/
example :
    isEncrypted "Proc-Type: 5,\nProc-Type: 4\nProc-Type:\n4 ,\n\tENCRYPTED".toList = true := by
  decide

/-- A blank in front is no whole line. -/
example : isEncrypted " Proc-Type: 4,ENCRYPTED".toList = false := by decide

end Around

section Pieces

/-! ## In the second piece -/

/-- The decoder finds the armour whole and its body encrypted. -/
def Decrypts (text : List Char) : Prop :=
  ∃ lines, lines? text = some lines ∧ announcesEncryption lines = true

/-- The text is a line, a gap, and something that begins with the header once the spaces are out of
    it. -/
def HasSecondHeader (text : List Char) : Prop :=
  ∃ line gap rest, Text.IsLine line ∧ Text.IsGap gap ∧
    encryptedHeader <+: rest.filter (· ≠ ' ') ∧ text = line ++ (gap ++ rest)

/-- Only then does a passphrase matter, and one is needed. -/
theorem decode?_of_decrypts (h : Decrypts text) : decode? text none = none := by
  obtain ⟨lines, found, announced⟩ := h
  simp [decode?, found, announced]

theorem decode?_of_not_decrypts (h : ¬ Decrypts text) (passphrase : Option Bytes) :
    decode? text passphrase = decode? text none := by
  cases found : lines? text with
  | none => simp only [decode?, found, Option.bind_eq_bind, Option.bind_none]
  | some lines =>
      have clear : announcesEncryption lines ≠ true := fun announced => h ⟨lines, found, announced⟩
      simp only [decode?, found, Option.bind_eq_bind, Option.bind_some, if_neg clear]

theorem eq_pieces_of_lines? {lines : List (List Char)} (h : lines? text = some lines) :
    lines = pieces text := by
  unfold lines? at h
  split at h
  · cases h
  · simp only [Option.ite_none_right_eq_some, Option.some.injEq] at h
    exact h.2.symm

theorem announcesEncryption_words (word text : List Char) :
    announcesEncryption (word :: Text.words text) = true ↔
      encryptedHeader <+: Text.trimStart text := by
  have nonblank : ∀ c ∈ encryptedHeader, Text.isBlank c = false :=
    Text.forall_mem_of_all (by decide)
  rw [← Text.begins_words_iff (by decide) nonblank text]
  cases Text.words text with
  | nil => simp [announcesEncryption]
  | cons header rest => simp [announcesEncryption]

theorem header_trimStart (h : encryptedHeader <+: text) :
    encryptedHeader <+: Text.trimStart text := by
  obtain ⟨others, begun⟩ : ∃ others, encryptedHeader = 'P' :: others :=
    List.head?_eq_some_iff.mp (by decide)
  obtain ⟨behind, rfl⟩ := h
  rw [begun, List.cons_append, Text.trimStart_of_nonblank (by decide), ← List.cons_append]
  exact List.prefix_append _ behind

/-- The first piece is the first line, so the second one begins behind the gap after it. -/
theorem announcesEncryption_iff {c : Char} (shown : Text.isBlank c = false) (text : List Char) :
    announcesEncryption (pieces (c :: text)) = true ↔ HasSecondHeader (c :: text) := by
  constructor
  · intro announced
    rcases Text.exists_line shown text with line | ⟨line, b, rest, h, blank, other, split⟩
    · rw [pieces, line.words_filter] at announced
      cases announced
    · obtain ⟨blanks, more, trimmed⟩ := Text.exists_trimStart rest
      have first : Text.IsGap [b] := ⟨by simpa using blank, b, List.mem_cons_self, other⟩
      have gap : Text.IsGap (b :: blanks) :=
        ⟨List.forall_mem_cons.mpr ⟨blank, more⟩, b, List.mem_cons_self, other⟩
      rw [pieces, split, ← List.singleton_append, h.words_append first, announcesEncryption_words,
        Text.trimStart_filter] at announced
      exact ⟨line, b :: blanks, Text.trimStart rest, h, gap, announced,
        by rw [split, List.cons_append, ← trimmed]⟩
  · rintro ⟨line, gap, rest, h, ends, header, split⟩
    rw [pieces, split, h.words_append ends, announcesEncryption_words]
    exact header_trimStart header

theorem decrypts_iff {a : Algorithm} (begun : openingLine a <+: text) :
    Decrypts text ↔ (lines? text).isSome = true ∧ HasSecondHeader text := by
  obtain ⟨others, dash⟩ : ∃ others, openingLine a = '-' :: others :=
    List.head?_eq_some_iff.mp (by cases a <;> decide)
  obtain ⟨behind, rfl⟩ := begun
  rw [dash, List.cons_append, ← announcesEncryption_iff (by decide), Option.isSome_iff_exists]
  constructor
  · rintro ⟨lines, found, announced⟩
    exact ⟨⟨lines, found⟩, eq_pieces_of_lines? found ▸ announced⟩
  · rintro ⟨⟨lines, found⟩, announced⟩
    exact ⟨lines, found, eq_pieces_of_lines? found ▸ announced⟩

end Pieces

section Agreement

/-! ## Where both agree -/

/-- Nothing in the text makes one detector find it encrypted, or there is something for each of
    them: a line that begins with the header, and armour that is whole with the header as its second
    piece. -/
inductive IsSettled (text : List Char) : Prop where
  | plain (unlined : ¬ HasHeaderLine text)
      (elsewhere : ¬ ((lines? text).isSome = true ∧ HasSecondHeader text))
  | encrypted (lined : HasHeaderLine text) (whole : (lines? text).isSome = true)
      (second : HasSecondHeader text)

theorem detection_agrees_iff {a : Algorithm} (begun : openingLine a <+: text)
    (clear : ¬ encryptedOpening <:+: text) :
    (isEncrypted text = true ↔ Decrypts text) ↔ IsSettled text := by
  rw [isEncrypted_iff, or_iff_left clear, decrypts_iff begun]
  constructor
  · intro same
    by_cases lined : HasHeaderLine text
    · obtain ⟨whole, second⟩ := same.mp lined
      exact .encrypted lined whole second
    · exact .plain lined fun both => lined (same.mpr both)
  · rintro (⟨unlined, elsewhere⟩ | ⟨lined, whole, second⟩)
    · exact iff_of_false unlined elsewhere
    · exact iff_of_true lined ⟨whole, second⟩

theorem filter_gaps {name last first second third : List Char} (spaceless : ' ' ∉ name ++ last)
    (spaces : ∀ c ∈ first ++ second ++ third, c = ' ') :
    (name ++ (first ++ '4' :: (second ++ ',' :: (third ++ last)))).filter (· ≠ ' ') =
      name ++ '4' :: ',' :: last := by
  have gone (blanks : List Char) (h : ∀ c ∈ blanks, c = ' ') :
      blanks.filter (· ≠ ' ') = [] := by
    simpa using h
  have kept (word : List Char) (h : ' ' ∉ word) : word.filter (· ≠ ' ') = word :=
    List.filter_eq_self.mpr fun c inside => decide_eq_true (ne_of_mem_of_not_mem inside h)
  obtain ⟨inName, inLast⟩ := not_or.mp (mt List.mem_append.mpr spaceless)
  simp only [List.forall_mem_append] at spaces
  obtain ⟨⟨spaces₁, spaces₂⟩, spaces₃⟩ := spaces
  rw [List.filter_append, kept name inName, List.filter_append, gone first spaces₁,
    List.nil_append, List.filter_cons_of_pos (by decide), List.filter_append,
    gone second spaces₂, List.nil_append, List.filter_cons_of_pos (by decide),
    List.filter_append, gone third spaces₃, List.nil_append, kept last inLast]

theorem filter_spacedHeader {first second third : List Char}
    (spaces : ∀ c ∈ first ++ second ++ third, c = ' ') :
    (spacedHeader first second third).filter (· ≠ ' ') = encryptedHeader := by
  unfold spacedHeader
  rw [filter_gaps (by decide) spaces]
  decide

/-- The header in its usual place, on the next line after the opening, and with no blanks but spaces
    at its gaps. -/
theorem isSettled_of_header {line blanks first second third rest : List Char}
    (h : Text.IsLine line) (blank : ∀ c ∈ blanks, Text.isBlank c = true)
    (spaces : ∀ c ∈ first ++ second ++ third, c = ' ')
    (split : text = line ++ blanks ++ '\n' :: (spacedHeader first second third ++ rest))
    (whole : (lines? text).isSome = true) : IsSettled text := by
  have newline : Text.isBlank '\n' = true := by decide
  have gap : Text.IsGap (blanks ++ ['\n']) := by
    refine ⟨?_, '\n', by simp, by decide⟩
    simp only [List.forall_mem_append, List.forall_mem_singleton]
    exact ⟨blank, newline⟩
  refine .encrypted ?_ whole ?_
  · refine ⟨line ++ blanks ++ ['\n'], first, second, third, rest, .inr (by simp), ?_,
      by simp [split]⟩
    intro c member
    rw [spaces c member]
    decide
  · refine ⟨line, blanks ++ ['\n'], spacedHeader first second third ++ rest, h, gap, ?_,
      by simp [split]⟩
    rw [List.filter_append, filter_spacedHeader spaces]
    exact List.prefix_append _ _

end Agreement

end SshKeys.Pem
