import Mathlib.Data.List.Find
import SshKeys.Proofs.PrivateKey.Reporting

/-! # What a key text can do to a log

The one part of a key text that a log shows is the beginning of a text that is no key, and it is
shown masked and quoted. So a load adds whole lines of printable ASCII to the log, each at one of
three levels, and no text makes it write a line that is not one of its own. What the log shows of a
text is decided by the forty characters behind its leading blanks.
-/

namespace SshKeys

theorem Text.trimStart_take (n : Nat) (text : List Char) :
    trimStart ((trimStart text).take n) = (trimStart text).take n := by
  cases n with
  | zero => rfl
  | succ n =>
      cases trimmed : trimStart text with
      | nil => rfl
      | cons c rest =>
          have first : isBlank c = false := by
            have head := List.head?_dropWhile_not isBlank text
            rw [← trimStart, trimmed] at head
            exact head
          rw [List.take_succ_cons, trimStart_of_nonblank first]

/-- What opens the armour is found among the first forty characters or not at all. -/
theorem Pem.keyType_take (chars : List Char) :
    keyType ((Text.trimStart chars).take 40) = keyType chars := by
  have found : ∀ opening ∈ openings,
      opening.1.isPrefixOf ((Text.trimStart chars).take 40) =
        opening.1.isPrefixOf (Text.trimStart chars) := by
    intro opening member
    have short : ∀ opening ∈ openings, opening.1.length ≤ 40 := by decide
    rw [Bool.eq_iff_iff, List.isPrefixOf_iff_prefix, List.isPrefixOf_iff_prefix,
      List.prefix_take_iff, and_iff_left (short opening member)]
  unfold keyType
  rw [Text.trimStart_take, List.find?_congr found]

namespace Loading

open Passphrase

variable {text passphrase : Value} {callback : Option Callback} {typed : String} {s : Session}
  {interactions : List Interaction} {e : Entry}

/-- A line as a load writes it: at one of three levels, and of printable ASCII only. -/
structure IsReport (line : String) : Prop where
  level : ∃ opening ∈ ["[Debug 1] ", "[Debug 2] ", "[Error] "], opening.toList <+: line.toList
  plain : ∀ c ∈ line.toList, 0x20 ≤ c.toNat ∧ c.toNat ≤ 0x7e

/-- The lines about a text that is no key. -/
def envelopeLines (lines : List String) : List String :=
  lines.filter fun line => "[Debug 1] ".toList.isPrefixOf line.toList

/-- The first forty characters of a text behind its leading blanks. A byte string that is not ASCII
    has no characters. -/
def beginning (text : Value) : Option (List Char) :=
  (characters text).toOption.map fun chars => (Text.trimStart chars).take 40

/-- What is reported about a text with the given beginning. -/
def envelopeNotices : Option (List Char) → List Entry
  | some start =>
    if Pem.keyType start = .unknown then
      [⟨.debug1, "Unrecognized private key envelope: " ++
        String.ofList (Text.quote (Text.mask start))⟩]
    else []
  | none => []

/-! ## What is reported -/

/-- An entry that is told by a load: its level, and plain words. -/
structure Entry.IsTold (e : Entry) : Prop where
  level : e.level = .debug1 ∨ e.level = .debug2 ∨ e.level = .error
  plain : ∀ c ∈ e.message.toList, Text.IsPlain c

theorem isPlain_unrecognized (chars : List Char) :
    ∀ c ∈ (unrecognizedMessage chars).toList, Text.IsPlain c := by
  have fixed : ∀ c ∈ "Unrecognized private key envelope: ".toList, Text.IsPlain c :=
    Text.forall_mem_of_all (by decide)
  intro c member
  unfold unrecognizedMessage at member
  rw [String.toList_append] at member
  rcases List.mem_append.mp member with own | shown
  · exact fixed c own
  · rw [String.toList_ofList] at shown
    exact Text.isPlain_of_mem_quote_mask shown

theorem isPlain_wording {kind : Failure.Kind} {words : String}
    (worded : wording kind = some words) :
    ∀ c ∈ words.toList, Text.IsPlain c := by
  apply Text.forall_mem_of_all
  cases kind <;> cases worded <;> decide

theorem isTold_of_notice (listed : e ∈ notices text interactions) : Entry.IsTold e := by
  unfold notices at listed
  split at listed
  · next chars _ =>
      unfold told at listed
      split at listed
      · cases List.mem_singleton.mp listed
        exact ⟨.inl rfl, isPlain_unrecognized chars⟩
      · unfold heard at listed
        split at listed
        · cases List.mem_singleton.mp listed
          exact ⟨.inr (.inl rfl), Text.forall_mem_of_all (by decide)⟩
        · cases listed
  · cases listed

theorem envelopeNotices_beginning (text : Value) (interactions : List Interaction) :
    (notices text interactions).filter (fun e => e.level = .debug1) =
      envelopeNotices (beginning text) := by
  unfold notices beginning
  cases characters text with
  | error failure => rfl
  | ok chars =>
      simp only [Except.toOption, Option.map_some, envelopeNotices, Pem.keyType_take, told]
      split
      · rfl
      · unfold heard
        split
        · rfl
        · rfl

/-! ## What the log gains -/

theorem Entry.IsTold.newline_notMem (isTold : Entry.IsTold e) : '\n' ∉ e.message.toList := by
  intro member
  exact absurd (isTold.plain _ member) (by decide)

theorem Entry.IsTold.isReport (isTold : Entry.IsTold e) : IsReport e.line := by
  constructor
  case level =>
    rw [e.toList_line]
    rcases isTold.level with level | level | level
    · exact ⟨"[Debug 1] ", by simp, by rw [level]; exact List.prefix_append _ _⟩
    · exact ⟨"[Debug 2] ", by simp, by rw [level]; exact List.prefix_append _ _⟩
    · exact ⟨"[Error] ", by simp, by rw [level]; exact List.prefix_append _ _⟩
  case plain =>
    have opening : ∀ c ∈ ("[" ++ e.level.name ++ "] ").toList, Text.IsPlain c := by
      apply Text.forall_mem_of_all
      cases e.level <;> decide
    intro c member
    rw [e.toList_line] at member
    rcases List.mem_append.mp member with begins | inside
    · exact opening c begins
    · exact isTold.plain c inside

theorem shown_envelopeNotices (text : Value) (sink : Sink) :
    (shownLines sink.level (sink.taken (envelopeNotices (beginning text)))).length ≤ 1 ∧
      (shownLines sink.level (sink.taken (envelopeNotices (beginning text))) ≠ [] →
        ∃ chars, characters text = .ok chars ∧ Pem.keyType chars = .unknown) := by
  have silent : shownLines sink.level (sink.taken []) = [] := by
    simp [shownLines, Sink.taken]
  unfold beginning
  cases characters text with
  | error failure => simp [Except.toOption, envelopeNotices, silent]
  | ok chars =>
      simp only [Except.toOption, Option.map_some, envelopeNotices, Pem.keyType_take]
      split
      · next unknown =>
          refine ⟨?_, fun _ => ⟨chars, rfl, unknown⟩⟩
          rw [shownLines, List.length_map]
          refine (List.length_filter_le _ _).trans ?_
          unfold Sink.taken
          split <;> simp
      · simp [silent]

section Engine

variable [Engine]

/-- A load reports notices and then at most one error. -/
theorem load_entries (text passphrase : Value) (callback : Option Callback) (s : Session)
    (typed : String) :
    ∃ after interactions ending,
      (load text passphrase callback (some s) typed).session = some after ∧
      after.sink = s.sink.reportAll (notices text interactions ++ ending) ∧
      ∀ e ∈ ending, e.level = .error ∧ Entry.IsTold e := by
  have ends := load_ends text passphrase callback (some s) typed
  rcases ends.cases_ownKind with ⟨_, same⟩ | ⟨kind, words, worded, _, same, _⟩
  · exact ⟨_, _, [], same, by rw [List.append_nil]; rfl, nofun⟩
  · refine ⟨_, _, [⟨.error, words⟩], same.trans (record_reportAll ..), rfl, ?_⟩
    intro e listed
    cases List.mem_singleton.mp listed
    exact ⟨rfl, .inr (.inr rfl), isPlain_wording worded⟩

theorem load_lines (text passphrase : Value) (callback : Option Callback) (s : Session)
    (typed : String) :
    ∃ after lines, (load text passphrase callback (some s) typed).session = some after ∧
      Gains s.sink.written after.sink.written lines ∧ (∀ line ∈ lines, IsReport line) ∧
      envelopeLines lines =
        shownLines s.sink.level (s.sink.taken (envelopeNotices (beginning text))) := by
  obtain ⟨after, interactions, ending, left, sink, ends⟩ :=
    load_entries text passphrase callback s typed
  have allTold : ∀ e ∈ notices text interactions ++ ending, Entry.IsTold e := by
    intro e listed
    rcases List.mem_append.mp listed with listed | listed
    · exact isTold_of_notice listed
    · exact (ends e listed).2
  refine ⟨after, shownLines s.sink.level (s.sink.taken (notices text interactions ++ ending)), left,
    ?_, ?_, ?_⟩
  · rw [sink]
    exact Sink.gains_taken fun e listed => (allTold e listed).newline_notMem
  · intro line shown
    obtain ⟨e, kept, rfl⟩ := List.mem_map.mp shown
    have listed := (List.mem_filter.mp kept).1
    unfold Sink.taken at listed
    split at listed
    · exact (allTold e listed).isReport
    · cases listed
  · have last : ending.filter (fun e => e.level = .debug1) = [] := by
      rw [List.filter_eq_nil_iff]
      intro e listed
      simp [(ends e listed).1]
    rw [show envelopeLines = linesAt .debug1 from rfl, linesAt_shownLines]
    unfold Sink.taken
    split
    · rw [List.filter_append, last, List.append_nil, envelopeNotices_beginning]
    · rfl

/-- No key text forges a line of the log: what a load adds are whole lines of its own, of printable
    ASCII. At most one of them is about the text, it is there only if the text is no key, and any
    other text with the same first forty characters behind its blanks leaves the same one. -/
theorem load_forges_no_line (text passphrase : Value) (callback : Option Callback) (s : Session)
    (typed : String) :
    ∃ after lines, (load text passphrase callback (some s) typed).session = some after ∧
      Gains s.sink.written after.sink.written lines ∧
      (∀ line ∈ lines, IsReport line) ∧
      (envelopeLines lines).length ≤ 1 ∧
      (envelopeLines lines ≠ [] →
        ∃ chars, characters text = .ok chars ∧ Pem.keyType chars = .unknown) ∧
      ∀ text' passphrase' callback' s' typed' after' lines',
        beginning text' = beginning text → s'.sink.level = s.sink.level →
        s'.sink.stream = s.sink.stream →
        (load text' passphrase' callback' (some s') typed').session = some after' →
        Gains s'.sink.written after'.sink.written lines' →
        envelopeLines lines' = envelopeLines lines := by
  obtain ⟨after, lines, left, gains, reports, about⟩ :=
    load_lines text passphrase callback s typed
  obtain ⟨once, only⟩ := shown_envelopeNotices text s.sink
  refine ⟨after, lines, left, gains, reports, about ▸ once, about ▸ only, ?_⟩
  intro text' passphrase' callback' s' typed' after' lines' same level stream left' gains'
  obtain ⟨_, others, found, othersGained, _, othersAbout⟩ :=
    load_lines text' passphrase' callback' s' typed'
  cases found.symm.trans left'
  rw [gains'.unique othersGained, othersAbout, about, same, level]
  unfold Sink.taken
  rw [stream]

end Engine

section Plain

attribute [local instance] Engine.plain

/-- A text that would pass for a line of its own is shown on one line. -/
example :
    (load (.text "x\n[Error] 'x'") .absent none (some { sink := { level := 3 } }) "").session.map
      (fun after => after.sink.written) =
    some ("[Debug 1] Unrecognized private key envelope: \"x\\n[Error] 'x'\"\n" ++
      "[Error] Unknown or invalid private key.\n") := by
  decide

end Plain

end Loading

end SshKeys
