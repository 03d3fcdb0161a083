import SshKeys.Session

/-! # What a log gains

Messages that are reported to a stream that works become lines of its log, in their order: those
that the level of the sink shows, and no others. Nothing else about the sink changes. As long as no
message breaks its line, what the log has gained says which lines they are.
-/

namespace SshKeys

/-- A message with the level that it is reported at. -/
structure Entry where
  level : Level
  message : String

/-- The line of an entry, without its end. -/
def Entry.line (e : Entry) : String := "[" ++ e.level.name ++ "] " ++ e.message

/-- The lines of those entries that a level shows. -/
def shownLines (level : Int) (entries : List Entry) : List String :=
  (entries.filter fun e => e.level.number ≤ level).map Entry.line

/-- Those lines that report an error. -/
def errorLines (lines : List String) : List String :=
  lines.filter fun line => "[Error] ".toList.isPrefixOf line.toList

/-- Those lines that begin as the lines of a level do. -/
def linesAt (level : Level) (lines : List String) : List String :=
  lines.filter fun line => ("[" ++ level.name ++ "] ").toList.isPrefixOf line.toList

theorem Entry.toList_line (e : Entry) :
    e.line.toList = ("[" ++ e.level.name ++ "] ").toList ++ e.message.toList :=
  String.toList_append

theorem Entry.isPrefixOf_line (level : Level) (e : Entry) :
    ("[" ++ level.name ++ "] ").toList.isPrefixOf e.line.toList = decide (e.level = level) := by
  rw [e.toList_line]
  cases level <;> cases e.level <;> rfl

theorem Entry.newline_notMem_line {e : Entry} (whole : '\n' ∉ e.message.toList) :
    '\n' ∉ e.line.toList := by
  rw [e.toList_line, List.mem_append, not_or]
  refine ⟨?_, whole⟩
  cases e.level <;> decide

theorem linesAt_shownLines (which : Level) (level : Int) (entries : List Entry) :
    linesAt which (shownLines level entries) =
      shownLines level (entries.filter fun e => e.level = which) := by
  have told : (fun line : String =>
      ("[" ++ which.name ++ "] ").toList.isPrefixOf line.toList) ∘ Entry.line =
      fun e => decide (e.level = which) := funext (Entry.isPrefixOf_line which)
  unfold linesAt shownLines
  rw [List.filter_map, told, List.filter_filter, List.filter_filter]
  simp only [Bool.and_comm]

theorem errorLines_shownLines (level : Int) (entries : List Entry) :
    errorLines (shownLines level entries) =
      shownLines level (entries.filter fun e => e.level = .error) :=
  linesAt_shownLines .error level entries

theorem shownLines_append (level : Int) (entries more : List Entry) :
    shownLines level (entries ++ more) = shownLines level entries ++ shownLines level more := by
  simp [shownLines]

theorem errorLines_append (lines more : List String) :
    errorLines (lines ++ more) = errorLines lines ++ errorLines more := by
  simp [errorLines]

theorem errorLines_eq_nil {level : Int} {entries : List Entry}
    (quiet : ∀ e ∈ entries, e.level ≠ .error) : errorLines (shownLines level entries) = [] := by
  have none : entries.filter (fun e => e.level = .error) = [] := by
    simpa using quiet
  rw [errorLines_shownLines, none]
  rfl

theorem errorLines_error (level : Int) (message : String) :
    errorLines (shownLines level [⟨.error, message⟩]) =
      if 0 ≤ level then ["[Error] " ++ message] else [] := by
  have spelled : (Entry.mk .error message).line = "[Error] " ++ message :=
    congrArg (· ++ message) (by decide : "[" ++ Level.error.name ++ "] " = "[Error] ")
  rw [errorLines_shownLines]
  by_cases shown : 0 ≤ level
  · simp [shownLines, Level.number, shown, spelled]
  · simp [shownLines, Level.number, shown]

/-- The log has gained these lines, and none of them is broken. -/
structure Gains (before after : String) (lines : List String) : Prop where
  text : after = before ++ String.join (lines.map (· ++ "\n"))
  whole : ∀ line ∈ lines, '\n' ∉ line.toList

namespace Gains

variable {before after : String} {lines others : List String}

theorem head_eq {line other rest rest' : List Char} (whole : '\n' ∉ line) (whole' : '\n' ∉ other)
    (same : line ++ '\n' :: rest = other ++ '\n' :: rest') : line = other ∧ rest = rest' := by
  induction line generalizing other with
  | nil =>
      cases other with
      | nil => exact ⟨rfl, (List.cons.inj same).2⟩
      | cons c other => exact absurd ((List.cons.inj same).1 ▸ List.mem_cons_self) whole'
  | cons c line ih =>
      cases other with
      | nil => exact absurd ((List.cons.inj same).1 ▸ List.mem_cons_self) whole
      | cons d other =>
          obtain ⟨rfl, tails⟩ := List.cons.inj same
          obtain ⟨rfl, behind⟩ := ih (List.not_mem_of_not_mem_cons whole)
            (List.not_mem_of_not_mem_cons whole') tails
          exact ⟨rfl, behind⟩

theorem lines_eq (whole : ∀ line ∈ lines, '\n' ∉ line.toList)
    (whole' : ∀ line ∈ others, '\n' ∉ line.toList)
    (same : (String.join (lines.map (· ++ "\n"))).toList =
      (String.join (others.map (· ++ "\n"))).toList) : lines = others := by
  have ended (line : String) (rest : List String) :
      (String.join ((line :: rest).map (· ++ "\n"))).toList =
        line.toList ++ '\n' :: (String.join (rest.map (· ++ "\n"))).toList := by
    simp
  induction lines generalizing others with
  | nil =>
      cases others with
      | nil => rfl
      | cons line others =>
          rw [ended] at same
          simp at same
  | cons line lines ih =>
      cases others with
      | nil =>
          rw [ended] at same
          simp at same
      | cons other others =>
          rw [ended, ended] at same
          obtain ⟨first, same⟩ := head_eq (whole line List.mem_cons_self)
            (whole' other List.mem_cons_self) same
          rw [String.toList_inj.mp first, ih (fun l h => whole l (List.mem_cons_of_mem _ h))
            (fun l h => whole' l (List.mem_cons_of_mem _ h)) same]

theorem unique (gains : Gains before after lines) (gains' : Gains before after others) :
    lines = others := by
  apply lines_eq gains.whole gains'.whole
  have same := congrArg String.toList (gains.text.symm.trans gains'.text)
  rw [String.toList_append, String.toList_append] at same
  exact List.append_cancel_left same

end Gains

namespace Sink

variable {sink : Sink}

/-- The sink after several messages, whether the stream breaks or not. -/
def reportAll (sink : Sink) (entries : List Entry) : Sink :=
  entries.foldl (fun sink e => (sink.report e.level e.message).1) sink

theorem report_fault (sink : Sink) (level : Level) (message : String) :
    (sink.report level message).2 =
      if level.number ≤ sink.level then sink.stream.breaks? else none := by
  unfold report put
  split
  · cases sink.stream <;> rfl
  · rfl

theorem report_level (sink : Sink) (level : Level) (message : String) :
    (sink.report level message).1.level = sink.level := by
  unfold report put
  split
  · cases sink.stream <;> rfl
  · rfl

theorem report_stream (sink : Sink) (level : Level) (message : String) :
    (sink.report level message).1.stream = sink.stream := by
  unfold report put
  split
  · cases stream : sink.stream <;> simp [stream]
  · rfl

theorem report_of_working (working : sink.stream = .working) (e : Entry) :
    (sink.report e.level e.message).1 =
      { sink with
        written := sink.written ++ String.join ((shownLines sink.level [e]).map (· ++ "\n")) } := by
  unfold report
  split
  · next shown =>
      simp [put, working, shownLines, shown, line, Entry.line]
  · next hidden =>
      simp [shownLines, hidden]

theorem reportAll_of_working (working : sink.stream = .working) (entries : List Entry) :
    sink.reportAll entries =
      { sink with
        written :=
          sink.written ++ String.join ((shownLines sink.level entries).map (· ++ "\n")) } := by
  induction entries generalizing sink with
  | nil => simp [reportAll, shownLines]
  | cons e entries ih =>
      have step : sink.reportAll (e :: entries) =
          (sink.report e.level e.message).1.reportAll entries := rfl
      have still : (sink.report e.level e.message).1.stream = .working := by
        rw [report_of_working working]
        exact working
      rw [step, ih still, report_of_working working]
      simp only [shownLines, List.filter_cons, List.filter_nil]
      split
      · simp [String.append_assoc]
      · simp

theorem reportAll_eq (working : sink.stream = .working) (entries : List Entry) :
    sink.reportAll entries = { sink with written := (sink.reportAll entries).written } := by
  rw [reportAll_of_working working]

theorem gains_reportAll (working : sink.stream = .working) {entries : List Entry}
    (whole : ∀ e ∈ entries, '\n' ∉ e.message.toList) :
    Gains sink.written (sink.reportAll entries).written (shownLines sink.level entries) := by
  constructor
  · rw [reportAll_of_working working]
  · intro line shown
    obtain ⟨e, kept, rfl⟩ := List.mem_map.mp shown
    exact e.newline_notMem_line (whole e (List.mem_filter.mp kept).1)

theorem reportAll_of_not_working (idle : sink.stream ≠ .working) (entries : List Entry) :
    sink.reportAll entries = sink := by
  have step (e : Entry) : (sink.report e.level e.message).1 = sink := by
    unfold report put
    split
    · cases stream : sink.stream with
      | working => exact absurd stream idle
      | refusing | broken => rfl
    · rfl
  induction entries with
  | nil => rfl
  | cons e entries ih => rw [reportAll, List.foldl_cons, step, ← reportAll, ih]

/-- Those entries that the stream takes: all or none of them. -/
def taken (sink : Sink) (entries : List Entry) : List Entry :=
  if sink.stream = .working then entries else []

theorem gains_taken {entries : List Entry} (whole : ∀ e ∈ entries, '\n' ∉ e.message.toList) :
    Gains sink.written (sink.reportAll entries).written
      (shownLines sink.level (sink.taken entries)) := by
  by_cases working : sink.stream = .working
  · rw [taken, if_pos working]
    exact gains_reportAll working whole
  · rw [taken, if_neg working, reportAll_of_not_working working]
    exact ⟨by simp [shownLines], by simp [shownLines]⟩

end Sink

namespace Session

/-- The stream of a session, if there is one, does not break. -/
def Unbroken (session : Option Session) : Prop :=
  ∀ s, session = some s → s.sink.stream.breaks? = none

theorem Unbroken.none : Unbroken none := nofun

theorem unbroken_of_working {s : Session} (working : s.sink.stream = .working) :
    Unbroken (some s) := by
  intro s' same
  cases same
  rw [working]
  rfl

theorem reportTo_fault (session : Option Session) (level : Level) (message : String) :
    (reportTo session level message).2 = session.bind fun s =>
      if level.number ≤ s.sink.level then s.sink.stream.breaks? else .none := by
  cases session with
  | none => rfl
  | some s => exact s.sink.report_fault level message

theorem Unbroken.reportTo_fault {session : Option Session} (unbroken : Unbroken session)
    (level : Level) (message : String) : (reportTo session level message).2 = .none := by
  rw [Session.reportTo_fault]
  cases session with
  | none => rfl
  | some s => simp [unbroken s rfl]

def reportAll (s : Session) (entries : List Entry) : Session :=
  { s with sink := s.sink.reportAll entries }

theorem recordError_eq (s : Session) (code : Int) (message : String) :
    (s.recordError code message).1 =
      { s.reportAll [⟨.error, message⟩] with errorCode := code, errorMessage := message } := rfl

theorem reportAll_append (s : Session) (entries more : List Entry) :
    (s.reportAll entries).reportAll more = s.reportAll (entries ++ more) := by
  simp [reportAll, Sink.reportAll]

end Session

end SshKeys
