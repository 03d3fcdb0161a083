import SshKeys.Text.Blank

/-! # Words and parts of a text

A blank ends a word wherever it stands, and taking words apart loses the blanks only. Blanks in
front of a text change neither its first word nor the others, and without its spaces a line is one
word. A part that has no character of the sort that separates two texts occurs in one of them.
-/

namespace SshKeys.Text

variable {part text other ending blanks : List Char} {c : Char}

theorem forall_mem_of_all {P : Char → Prop} [DecidablePred P]
    (h : text.all (fun c => decide (P c)) = true) : ∀ c ∈ text, P c := by
  simpa using h

theorem wordsFrom_append (blank : isBlank c = true) (word text other : List Char) :
    wordsFrom word (text ++ c :: other) = wordsFrom word text ++ words other := by
  induction text generalizing word with
  | nil =>
      by_cases empty : word = []
      · simp [wordsFrom, words, blank, empty]
      · simp [wordsFrom, words, blank, empty]
  | cons d text ih =>
      rw [List.cons_append, wordsFrom, wordsFrom]
      split
      · split
        · exact ih []
        · rw [ih, List.cons_append]
      · exact ih (d :: word)

theorem words_append (blank : isBlank c = true) (text other : List Char) :
    words (text ++ c :: other) = words text ++ words other :=
  wordsFrom_append blank [] text other

theorem wordsFrom_of_nonblank (nonblank : ∀ c ∈ text, isBlank c = false) {word : List Char}
    (nonempty : word ≠ [] ∨ text ≠ []) : wordsFrom word text = [word.reverse ++ text] := by
  induction text generalizing word with
  | nil => simp_all [wordsFrom]
  | cons c text ih =>
      obtain ⟨first, others⟩ := List.forall_mem_cons.mp nonblank
      rw [wordsFrom, first, if_neg Bool.false_ne_true, ih others (.inl (List.cons_ne_nil _ _))]
      simp

theorem words_of_nonblank (nonblank : ∀ c ∈ text, isBlank c = false) (nonempty : text ≠ []) :
    words text = [text] :=
  wordsFrom_of_nonblank nonblank (.inr nonempty)

theorem flatten_wordsFrom (word text : List Char) :
    (wordsFrom word text).flatten = word.reverse ++ text.filter fun c => !isBlank c := by
  induction text generalizing word with
  | nil =>
      by_cases empty : word = []
      · simp [wordsFrom, empty]
      · simp [wordsFrom, empty]
  | cons c text ih =>
      rw [wordsFrom]
      cases blank : isBlank c with
      | true =>
          by_cases empty : word = []
          · simp [blank, empty, ih]
          · simp [blank, empty, ih]
      | false => simp [blank, ih]

theorem flatten_words (text : List Char) :
    (words text).flatten = text.filter fun c => !isBlank c :=
  flatten_wordsFrom [] text

theorem trimEnd_append (blank : ∀ c ∈ ending, isBlank c = true) (last : isBlank c = false) :
    trimEnd (text ++ [c] ++ ending) = text ++ [c] := by
  have behind : ∀ d ∈ ending.reverse, isBlank d = true := fun d member =>
    blank d (List.mem_reverse.mp member)
  rw [trimEnd, List.reverse_append, List.dropWhile_append_of_pos behind, List.reverse_append]
  simp [last]

section Start

/-! ## Blanks in front -/

theorem trimStart_append (blank : ∀ c ∈ blanks, isBlank c = true) (text : List Char) :
    trimStart (blanks ++ text) = trimStart text :=
  List.dropWhile_append_of_pos blank

theorem trimStart_of_blank (blank : isBlank c = true) (text : List Char) :
    trimStart (c :: text) = trimStart text :=
  List.dropWhile_cons_of_pos blank

theorem trimStart_of_nonblank (nonblank : isBlank c = false) (text : List Char) :
    trimStart (c :: text) = c :: text :=
  List.dropWhile_cons_of_neg (by simp [nonblank])

theorem exists_trimStart (text : List Char) :
    ∃ blanks, (∀ c ∈ blanks, isBlank c = true) ∧ text = blanks ++ trimStart text :=
  ⟨text.takeWhile isBlank, List.all_eq_true.mp List.all_takeWhile,
    List.takeWhile_append_dropWhile.symm⟩

theorem trimStart_eq_cons_iff (nonblank : isBlank c = false) {rest : List Char} :
    trimStart text = c :: rest ↔
      ∃ blanks, (∀ b ∈ blanks, isBlank b = true) ∧ text = blanks ++ c :: rest := by
  constructor
  · intro trimmed
    obtain ⟨blanks, blank, split⟩ := exists_trimStart text
    exact ⟨blanks, blank, trimmed ▸ split⟩
  · rintro ⟨blanks, blank, rfl⟩
    rw [trimStart_append blank, trimStart_of_nonblank nonblank]

theorem trimStart_filter (text : List Char) :
    trimStart (text.filter (· ≠ ' ')) = (trimStart text).filter (· ≠ ' ') := by
  induction text with
  | nil => rfl
  | cons c text ih =>
      cases blank : isBlank c with
      | true =>
          rw [trimStart_of_blank blank, ← ih, List.filter_cons]
          split
          · exact trimStart_of_blank blank _
          · rfl
      | false =>
          have kept : c ≠ ' ' := by
            rintro rfl
            cases blank
          rw [trimStart_of_nonblank blank, List.filter_cons_of_pos (by simpa using kept),
            trimStart_of_nonblank blank]

theorem words_trimStart (text : List Char) : words (trimStart text) = words text := by
  induction text with
  | nil => rfl
  | cons c text ih =>
      cases blank : isBlank c with
      | true =>
          rw [trimStart_of_blank blank, ih]
          simp [words, wordsFrom, blank]
      | false => rw [trimStart_of_nonblank blank]

theorem wordsFrom_eq_cons {word : List Char} (begun : word ≠ []) (text : List Char) :
    wordsFrom word text = (word.reverse ++ text.takeWhile fun c => !isBlank c) ::
      words (text.dropWhile fun c => !isBlank c) := by
  induction text generalizing word with
  | nil => simp [wordsFrom, words, begun]
  | cons c text ih =>
      cases blank : isBlank c with
      | true => simp [wordsFrom, words, blank, begun]
      | false => simp [wordsFrom, blank, ih (List.cons_ne_nil c word)]

theorem prefix_takeWhile_iff {p : Char → Bool} (h : ∀ c ∈ part, p c = true) :
    part <+: text.takeWhile p ↔ part <+: text := by
  constructor
  · intro begun
    exact begun.trans (List.takeWhile_prefix p)
  · rintro ⟨rest, rfl⟩
    rw [List.takeWhile_append_of_pos h]
    exact List.prefix_append part _

/-- A part without blanks begins the first word of a text exactly if it begins the text without the
    blanks in front. -/
theorem begins_words_iff (nonempty : part ≠ []) (nonblank : ∀ c ∈ part, isBlank c = false)
    (text : List Char) :
    (∃ word rest, words text = word :: rest ∧ part <+: word) ↔ part <+: trimStart text := by
  rw [← words_trimStart]
  cases trimmed : trimStart text with
  | nil => simp [words, wordsFrom, nonempty]
  | cons c rest =>
      have first : isBlank c = false := by
        have kept := List.head?_dropWhile_not isBlank text
        rw [← trimStart, trimmed] at kept
        simpa using kept
      have word : words (c :: rest) = ((c :: rest).takeWhile fun c => !isBlank c) ::
          words (rest.dropWhile fun c => !isBlank c) := by
        simp [words, wordsFrom, first, wordsFrom_eq_cons]
      have begins : part <+: (c :: rest).takeWhile (fun c => !isBlank c) ↔ part <+: c :: rest :=
        prefix_takeWhile_iff (by simpa using nonblank)
      rw [word, ← begins]
      simp

end Start

section Line

/-! ## Lines and the gaps between them -/

/-- There are no blanks but spaces in the text, and it is not blank. -/
structure IsLine (line : List Char) : Prop where
  spaced : ∀ c ∈ line, isBlank c = true → c = ' '
  shown : ∃ c ∈ line, isBlank c = false

/-- The text is blank, and not all of it is spaces. -/
structure IsGap (gap : List Char) : Prop where
  blank : ∀ c ∈ gap, isBlank c = true
  broken : ∃ c ∈ gap, c ≠ ' '

theorem IsLine.words_filter {line : List Char} (h : IsLine line) :
    words (line.filter (· ≠ ' ')) = [line.filter (· ≠ ' ')] := by
  apply words_of_nonblank
  · intro c member
    obtain ⟨inside, other⟩ := List.mem_filter.mp member
    exact Bool.eq_false_iff.mpr fun blank => of_decide_eq_true other (h.spaced c inside blank)
  · obtain ⟨c, inside, shown⟩ := h.shown
    have other : c ≠ ' ' := by
      rintro rfl
      cases shown
    exact List.ne_nil_of_mem (List.mem_filter.mpr ⟨inside, by simpa using other⟩)

theorem IsLine.words_append {line gap : List Char} (h : IsLine line) (ends : IsGap gap)
    (rest : List Char) : words ((line ++ (gap ++ rest)).filter (· ≠ ' ')) =
      line.filter (· ≠ ' ') :: words (rest.filter (· ≠ ' ')) := by
  obtain ⟨b, inside, other⟩ := ends.broken
  have kept : b ∈ gap.filter (· ≠ ' ') := List.mem_filter.mpr ⟨inside, by simpa using other⟩
  obtain ⟨d, others, split⟩ := List.exists_cons_of_ne_nil (List.ne_nil_of_mem kept)
  have blank : ∀ c ∈ d :: others, isBlank c = true := by
    intro c member
    rw [← split] at member
    exact ends.blank c (List.mem_filter.mp member).1
  obtain ⟨first, behind⟩ := List.forall_mem_cons.mp blank
  rw [List.filter_append, List.filter_append, split, List.cons_append, Text.words_append first,
    h.words_filter, List.singleton_append, ← words_trimStart (others ++ _),
    trimStart_append behind, words_trimStart]

/-- A text that begins with no blank is a line, or it is a line, a blank other than a space, and
    what comes behind it. -/
theorem exists_line (shown : isBlank c = false) (text : List Char) :
    IsLine (c :: text) ∨ ∃ line b rest, IsLine line ∧ isBlank b = true ∧ b ≠ ' ' ∧
      c :: text = line ++ b :: rest := by
  let onLine (d : Char) : Bool := d = ' ' || !isBlank d
  have split : (c :: text).takeWhile onLine ++ (c :: text).dropWhile onLine = c :: text :=
    List.takeWhile_append_dropWhile
  have line : IsLine ((c :: text).takeWhile onLine) := by
    refine ⟨?_, c, by simp [onLine, shown], shown⟩
    intro d member blank
    have kept := List.all_eq_true.mp List.all_takeWhile d member
    simpa [onLine, blank] using kept
  cases behind : (c :: text).dropWhile onLine with
  | nil =>
      rw [behind, List.append_nil] at split
      exact .inl (split ▸ line)
  | cons b rest =>
      have ends := List.head?_dropWhile_not onLine (c :: text)
      simp only [behind, List.head?_cons, onLine, Bool.or_eq_false_iff, decide_eq_false_iff_not,
        Bool.not_eq_false'] at ends
      rw [behind] at split
      exact .inr ⟨_, b, rest, line, ends.2, ends.1, split.symm⟩

end Line

section Part

/-! ## Parts -/

theorem occursIn_iff_infix : occursIn part text = true ↔ part <:+: text := by
  induction text with
  | nil => simp [occursIn]
  | cons c text ih =>
      rw [occursIn, Bool.or_eq_true, ih, List.isPrefixOf_iff_prefix, List.infix_cons_iff]

theorem isPrefixOf_append (other : c ∉ part) (text rest : List Char) :
    part.isPrefixOf (text ++ c :: rest) = part.isPrefixOf text := by
  induction part generalizing text with
  | nil => simp
  | cons d part ih =>
      obtain ⟨first, others⟩ := not_or.mp (mt List.mem_cons.mpr other)
      cases text with
      | nil =>
          rw [List.nil_append, List.isPrefixOf_cons_cons, beq_false_of_ne (Ne.symm first),
            Bool.false_and]
          rfl
      | cons e text => simp only [List.cons_append, List.isPrefixOf_cons_cons, ih others]

theorem occursIn_append (nonempty : part ≠ []) (separate : c ∉ part) (text other : List Char) :
    occursIn part (text ++ c :: other) = (occursIn part text || occursIn part other) := by
  have empty : part.isEmpty = false := by simp [nonempty]
  induction text with
  | nil =>
      have begins := isPrefixOf_append separate [] other
      rw [List.nil_append, occursIn, occursIn, ← List.nil_append (c :: other), begins]
      cases part with
      | nil => exact absurd rfl nonempty
      | cons d part => rfl
  | cons d text ih =>
      rw [List.cons_append, occursIn, occursIn, ih, ← List.cons_append,
        isPrefixOf_append separate, Bool.or_assoc]

theorem occursIn_of_not_mem (inside : c ∈ part) (missing : c ∉ text) :
    occursIn part text = false := by
  induction text with
  | nil => simp [occursIn, List.ne_nil_of_mem inside]
  | cons d text ih =>
      have begins : part.isPrefixOf (d :: text) = false := by
        rw [← Bool.not_eq_true, List.isPrefixOf_iff_prefix]
        exact fun start => missing (start.subset inside)
      rw [occursIn, begins, ih fun member => missing (List.mem_cons_of_mem d member), Bool.false_or]

end Part

end SshKeys.Text
