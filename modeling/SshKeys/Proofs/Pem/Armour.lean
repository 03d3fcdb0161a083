import SshKeys.Pem.Body
import SshKeys.Proofs.Pem.Base64
import SshKeys.Proofs.Text.Blank

/-! # Armour that was put on comes off

`armour` puts a body between the two lines of a marker, in base64 that is broken into lines of 64
characters. What is written in this way announces its type and no encryption, and the body is found
again whether there is a passphrase or not.
-/

namespace SshKeys.Pem

/-- Text with a line break in front of every character that would be too many on its line. There is
    `room` left on the first line. -/
def breakLines (width : Nat) : (room : Nat) → List Char → List Char
  | _, [] => []
  | 0, c :: rest => '\n' :: c :: breakLines width (width - 1) rest
  | room + 1, c :: rest => c :: breakLines width room rest

example : breakLines 2 2 ['a', 'b', 'c', 'd', 'e'] = ['a', 'b', '\n', 'c', 'd', '\n', 'e'] := rfl

/-- The marker of traditional private keys. -/
def marker : Algorithm → List Char
  | .rsa => "RSA PRIVATE KEY".toList
  | .dss => "DSA PRIVATE KEY".toList

/-- The type that the marker announces. -/
def markedType : Algorithm → KeyType
  | .rsa => .rsa
  | .dss => .dss

def openingLine (a : Algorithm) : List Char := "-----BEGIN ".toList ++ marker a ++ dashes

def closingLine (a : Algorithm) : List Char := "-----END ".toList ++ marker a ++ dashes

/-- What stands behind the last line: its line break or nothing. -/
def lastBreak (ended : Bool) : List Char := if ended then ['\n'] else []

/-- The lines of a body in base64. -/
def bodyLines (body : Bytes) : List Char := breakLines 64 64 (Base64.encode body)

def armour (a : Algorithm) (body : Bytes) (ended : Bool) : List Char :=
  openingLine a ++ '\n' :: (bodyLines body ++ '\n' :: (closingLine a ++ lastBreak ended))

/-- A line that is not mistaken for a header or for the opening of an encrypted key, and in which no
    blank other than a space stands. -/
structure IsMarkerLine (line : List Char) : Prop where
  plain : ∀ c ∈ line, c.toNat < 128 ∧ c ≠ ':' ∧ (Text.isBlank c = true → c = ' ')
  closed : line.getLast? = some '-'
  clear : Text.occursIn encryptedOpening line = false

variable {a : Algorithm} {body : Bytes} {ended : Bool}

theorem isMarkerLine_openingLine : IsMarkerLine (openingLine a) where
  plain := Text.forall_mem_of_all (by cases a <;> decide)
  closed := by cases a <;> decide
  clear := by cases a <;> decide

theorem isMarkerLine_closingLine : IsMarkerLine (closingLine a) where
  plain := Text.forall_mem_of_all (by cases a <;> decide)
  closed := by cases a <;> decide
  clear := by cases a <;> decide

theorem IsMarkerLine.isLine {line : List Char} (h : IsMarkerLine line) : Text.IsLine line where
  spaced c inside := (h.plain c inside).2.2
  shown := ⟨'-', List.mem_of_getLast? h.closed, by decide⟩

theorem eq_of_mem_lastBreak : ∀ c ∈ lastBreak ended, c = '\n' := by
  cases ended <;> simp [lastBreak]

theorem mem_breakLines {width room : Nat} {text : List Char} :
    ∀ c ∈ breakLines width room text, c = '\n' ∨ c ∈ text := by
  induction text generalizing room with
  | nil => cases room <;> simp [breakLines]
  | cons d text ih =>
      have others (room : Nat) (c : Char) (member : c ∈ breakLines width room text) :=
        (ih c member).imp id (List.mem_cons_of_mem d)
      cases room with
      | zero =>
          simp only [breakLines, List.forall_mem_cons, List.mem_cons_self, true_or, or_true,
            true_and]
          exact others _
      | succ room =>
          simp only [breakLines, List.forall_mem_cons, List.mem_cons_self, or_true, true_and]
          exact others _

theorem filter_breakLines {width room : Nat} {text : List Char}
    (nonblank : ∀ c ∈ text, Text.isBlank c = false) :
    (breakLines width room text).filter (fun c => !Text.isBlank c) = text := by
  have blank : Text.isBlank '\n' = true := by decide
  induction text generalizing room with
  | nil => cases room <;> rfl
  | cons c text ih =>
      obtain ⟨first, others⟩ := List.forall_mem_cons.mp nonblank
      cases room with
      | zero => simp [breakLines, blank, first, ih others]
      | succ room => simp [breakLines, first, ih others]

theorem plain_of_mem_bodyLines : ∀ c ∈ bodyLines body,
    c.toNat < 128 ∧ c ≠ ' ' ∧ c ≠ '-' ∧ c ≠ ':' := by
  intro c member
  rcases mem_breakLines c member with rfl | written
  · decide
  · obtain ⟨ascii, nonblank, dash, colon⟩ := Base64.plain_of_mem_encode c written
    refine ⟨ascii, ?_, dash, colon⟩
    rintro rfl
    cases nonblank

theorem plain_of_mem_armour : ∀ c ∈ armour a body ended, c.toNat < 128 ∧ c ≠ ':' := by
  intro c member
  simp only [armour, List.mem_append, List.mem_cons] at member
  rcases member with first | rfl | inside | rfl | last | ends
  · obtain ⟨ascii, colon, _⟩ := isMarkerLine_openingLine.plain c first
    exact ⟨ascii, colon⟩
  · decide
  · obtain ⟨ascii, _, _, colon⟩ := plain_of_mem_bodyLines c inside
    exact ⟨ascii, colon⟩
  · decide
  · obtain ⟨ascii, colon, _⟩ := isMarkerLine_closingLine.plain c last
    exact ⟨ascii, colon⟩
  · rw [eq_of_mem_lastBreak c ends]
    decide

section Announcement

/-! ## What the text announces -/

theorem keyType_of_opening {opening : List Char} {t : KeyType} (known : (opening, t) ∈ openings)
    (rest : List Char) : keyType (opening ++ rest) = t := by
  have distinct : ∀ a ∈ openings, ∀ b ∈ openings, a.1 <+: b.1 → a = b := by decide
  have begun : ∀ a ∈ openings, ∃ rest, a.1 = '-' :: rest := by
    have first : ∀ a ∈ openings, a.1.head? = some '-' := by decide
    exact fun a member => List.head?_eq_some_iff.mp (first a member)
  have untrimmed : Text.trimStart (opening ++ rest) = opening ++ rest := by
    obtain ⟨behind, same⟩ := begun _ known
    simp only at same
    rw [same]
    rfl
  unfold keyType
  rw [untrimmed]
  split
  · next other u found =>
      have start : other <+: opening ++ rest := by simpa using List.find?_some found
      have member := List.mem_of_find?_eq_some found
      rcases List.prefix_or_prefix_of_prefix start (List.prefix_append opening rest) with h | h
      · exact congrArg Prod.snd (distinct _ member _ known h)
      · exact congrArg Prod.snd (distinct _ known _ member h).symm
  · next missing =>
      have refused := List.find?_eq_none.mp missing _ known
      simp at refused

theorem keyType_armour : keyType (armour a body ended) = markedType a := by
  apply keyType_of_opening
  cases a <;> decide

theorem beginsEncrypted_of_not_mem {text : List Char} (h : ':' ∉ text) :
    beginsEncrypted text = false := by
  unfold beginsEncrypted
  cases start : Text.dropStart? "Proc-Type:".toList text with
  | none => rfl
  | some rest =>
      rw [Text.dropStart?_eq_some_iff.mp start] at h
      exact absurd (List.mem_append_left rest (by decide)) h

theorem hasEncryptedLine_of_not_mem {text : List Char} (h : ':' ∉ text) (atLineStart : Bool) :
    hasEncryptedLine atLineStart text = false := by
  induction text generalizing atLineStart with
  | nil => rfl
  | cons c text ih =>
      rw [hasEncryptedLine, beginsEncrypted_of_not_mem h, Bool.and_false, Bool.false_or,
        ih fun member => h (List.mem_cons_of_mem c member)]

theorem isEncrypted_armour : isEncrypted (armour a body ended) = false := by
  have nonempty : encryptedOpening ≠ [] := by decide
  have oneLine : '\n' ∉ encryptedOpening := by decide
  have inside : Text.occursIn encryptedOpening (bodyLines body) = false := by
    refine Text.occursIn_of_not_mem (by decide : '-' ∈ encryptedOpening) fun member => ?_
    exact (plain_of_mem_bodyLines '-' member).2.2.1 rfl
  have closing : Text.occursIn encryptedOpening (closingLine a ++ lastBreak ended) = false := by
    cases ended with
    | false =>
        rw [lastBreak, if_neg Bool.false_ne_true, List.append_nil, isMarkerLine_closingLine.clear]
    | true =>
        rw [lastBreak, if_pos rfl, Text.occursIn_append nonempty oneLine,
          isMarkerLine_closingLine.clear]
        rfl
  have headers : hasEncryptedLine true (armour a body ended) = false :=
    hasEncryptedLine_of_not_mem (fun member => (plain_of_mem_armour ':' member).2 rfl) true
  rw [isEncrypted, headers, armour, Text.occursIn_append nonempty oneLine,
    Text.occursIn_append nonempty oneLine, isMarkerLine_openingLine.clear, inside, closing]
  rfl

end Announcement

section Body

/-! ## What is inside -/

theorem longestMarker?_append {label : List Char} (oneLine : '\n' ∉ label) (rest : List Char) :
    longestMarker? (label ++ (dashes ++ '\n' :: rest)) = some label := by
  induction label with
  | nil =>
      have five : dashes = ['-', '-', '-', '-', '-'] := by decide
      simp [longestMarker?, closesMarker, Text.dropStart?, five, Text.isBlank]
  | cons c label ih =>
      obtain ⟨first, others⟩ := not_or.mp (mt List.mem_cons.mpr oneLine)
      rw [List.cons_append, longestMarker?, if_neg (Ne.symm first), ih others]

theorem marker?_armour : marker? (armour a body ended) = some (marker a) := by
  have oneLine : '\n' ∉ marker a := by
    cases a <;> decide
  obtain ⟨rest, begins⟩ : ∃ rest,
      armour a body ended = "-----BEGIN ".toList ++ (marker a ++ (dashes ++ '\n' :: rest)) := by
    unfold armour openingLine
    simp only [List.append_assoc]
    exact ⟨_, rfl⟩
  have dropped := Text.dropStart?_eq_some_iff.mpr begins
  simp only [marker?, dropped, Option.bind_some, longestMarker?_append oneLine]

theorem closed?_eq_some_iff {line label : List Char} : closed? line = some label ↔
    line = "-----END ".toList ++ label ++ dashes ∧ '\n' ∉ label := by
  unfold closed?
  split
  · next other =>
      refine ⟨nofun, fun given => ?_⟩
      rw [given.1, List.append_assoc, Text.dropStart?_eq_some_iff.mpr rfl] at other
      cases other
  · next rest begun =>
      rw [Text.dropStart?_eq_some_iff.mp begun, List.append_assoc, List.append_cancel_left_eq]
      simp only
      constructor
      · intro found
        split at found
        · next ends =>
            obtain ⟨front, rfl⟩ := List.isSuffixOf_iff_suffix.mp ends.1
            rw [List.length_append, Nat.add_sub_cancel, List.take_left] at found ends
            cases found
            exact ⟨rfl, ends.2⟩
        · cases found
      · intro given
        obtain ⟨rfl, oneLine⟩ := given
        rw [List.length_append, Nat.add_sub_cancel, List.take_left]
        exact if_pos ⟨List.isSuffixOf_iff_suffix.mpr (List.suffix_append label dashes), oneLine⟩

theorem closed?_of_newline {text : List Char} (broken : '\n' ∈ text) : closed? text = none := by
  have fixed : '\n' ∉ "-----END ".toList ∧ '\n' ∉ dashes := by decide
  refine Option.eq_none_iff_forall_ne_some.mpr fun label found => ?_
  obtain ⟨rfl, oneLine⟩ := closed?_eq_some_iff.mp found
  simp only [List.mem_append] at broken
  rcases broken with (opening | inside) | dash
  · exact fixed.1 opening
  · exact oneLine inside
  · exact fixed.2 dash

/-- The closing line is sought on the last line only. -/
theorem closing?_append_newline (before line : List Char) :
    closing? (before ++ '\n' :: line) = closing? line := by
  induction before with
  | nil => rw [List.nil_append, closing?, closed?_of_newline List.mem_cons_self, Option.none_or]
  | cons c before ih =>
      have broken : '\n' ∈ c :: (before ++ '\n' :: line) := by simp
      rw [List.cons_append, closing?, closed?_of_newline broken, Option.none_or, ih]

theorem closing?_of_closed? {line label : List Char} (found : closed? line = some label) :
    closing? line = some label := by
  cases line with
  | nil => cases found
  | cons c rest => rw [closing?, found, Option.some_or]

theorem closing?_armour : closing? (Text.trimEnd (armour a body ended)) = some (marker a) := by
  have blank : ∀ c ∈ lastBreak ended, Text.isBlank c = true := by
    intro c member
    rw [eq_of_mem_lastBreak c member]
    decide
  obtain ⟨front, last⟩ := List.getLast?_eq_some_iff.mp (isMarkerLine_closingLine (a := a)).closed
  obtain ⟨before, whole⟩ : ∃ before,
      armour a body ended = before ++ '\n' :: closingLine a ++ lastBreak ended :=
    ⟨openingLine a ++ '\n' :: bodyLines body, by simp [armour]⟩
  have trimmed : Text.trimEnd (armour a body ended) = before ++ '\n' :: closingLine a := by
    have split : before ++ '\n' :: closingLine a = before ++ '\n' :: front ++ ['-'] := by
      simp [last]
    rw [whole, split, Text.trimEnd_append blank (by decide)]
  have oneLine : '\n' ∉ marker a := by
    cases a <;> decide
  rw [trimmed, closing?_append_newline]
  exact closing?_of_closed? (closed?_eq_some_iff.mpr ⟨rfl, oneLine⟩)

theorem flatten_words_bodyLines (body : Bytes) :
    (Text.words (bodyLines body)).flatten = Base64.encode body := by
  rw [Text.flatten_words]
  exact filter_breakLines fun c member => (Base64.plain_of_mem_encode c member).2.1

/-- The pieces of the text are one for each line: the marker without its spaces in front and
    behind, and the lines of the body as they are. -/
theorem pieces_armour : pieces (armour a body ended) =
    [(openingLine a).filter (· ≠ ' ')] ++ (Text.words (bodyLines body) ++
      [(closingLine a).filter (· ≠ ' ')]) := by
  have newline : Text.isBlank '\n' = true := by decide
  have spaceless : (bodyLines body).filter (· ≠ ' ') = bodyLines body := by
    rw [List.filter_eq_self]
    exact fun c member => decide_eq_true (plain_of_mem_bodyLines c member).2.1
  have breaks : (lastBreak ended).filter (· ≠ ' ') = lastBreak ended := by
    cases ended <;> decide
  have opening := (isMarkerLine_openingLine (a := a)).isLine.words_filter
  have closing := (isMarkerLine_closingLine (a := a)).isLine.words_filter
  have last : Text.words ((closingLine a).filter (· ≠ ' ') ++ lastBreak ended) =
      [(closingLine a).filter (· ≠ ' ')] := by
    cases ended with
    | false => rw [lastBreak, if_neg Bool.false_ne_true, List.append_nil, closing]
    | true =>
        rw [lastBreak, if_pos rfl, Text.words_append newline, closing]
        rfl
  have kept : ('\n' ≠ ' ') = True := by decide
  simp only [pieces, armour, List.filter_append, List.filter_cons, kept, decide_true, if_true,
    spaceless, breaks]
  rw [Text.words_append newline, Text.words_append newline, opening, last]

theorem lines?_armour (nonempty : body ≠ []) :
    lines? (armour a body ended) = some (pieces (armour a body ended)) := by
  have some : Text.words (bodyLines body) ≠ [] := by
    intro none
    have letters := flatten_words_bodyLines body
    rw [none, List.flatten_nil] at letters
    exact Base64.encode_ne_nil nonempty letters.symm
  have count : 3 ≤ (pieces (armour a body ended)).length := by
    have := List.length_pos_iff.mpr some
    simp only [pieces_armour, List.length_append, List.length_singleton]
    omega
  simp only [lines?, marker?_armour]
  exact if_pos ⟨closing?_armour, count⟩

theorem not_encryptedHeader_of_not_mem {line : List Char} (h : ':' ∉ line) :
    encryptedHeader.isPrefixOf line = false := by
  rw [← Bool.not_eq_true, List.isPrefixOf_iff_prefix]
  exact fun start => h (start.subset (by decide))

theorem announcesEncryption_armour :
    announcesEncryption (pieces (armour a body ended)) = false := by
  have letters := flatten_words_bodyLines body
  rw [pieces_armour, List.singleton_append]
  cases lines : Text.words (bodyLines body) with
  | nil =>
      refine not_encryptedHeader_of_not_mem fun colon => ?_
      obtain ⟨inside, _⟩ := List.mem_filter.mp colon
      exact (isMarkerLine_closingLine.plain ':' inside).2.1 rfl
  | cons line others =>
      refine not_encryptedHeader_of_not_mem fun colon => ?_
      rw [lines, List.flatten_cons] at letters
      have written : ':' ∈ Base64.encode body := letters ▸ List.mem_append_left _ colon
      exact (Base64.plain_of_mem_encode ':' written).2.2.2 rfl

/-- The body is found, and no passphrase is looked at. -/
theorem decode?_armour (nonempty : body ≠ []) (passphrase : Option Bytes) :
    decode? (armour a body ended) passphrase = some body := by
  have spelled : bodyBytes? 1 (pieces (armour a body ended)) = some body := by
    rw [bodyBytes?, pieces_armour, List.singleton_append, List.drop_succ_cons, List.drop_zero,
      List.dropLast_concat, flatten_words_bodyLines, Base64.decode?_encode]
  rw [decode?, lines?_armour nonempty]
  show (if announcesEncryption (pieces (armour a body ended)) then _ else _) = _
  rw [announcesEncryption_armour, if_neg Bool.false_ne_true, spelled]

end Body

end SshKeys.Pem
