import Mathlib.Data.List.Forall2
import SshKeys.Diagnostics
import SshKeys.Proofs.Outcome

/-! # Runs of a sink

Messages and changes of the level come to a sink in any order. Whether a message makes a line is
decided by the level that the sink has at that time, by the level of the message and by whether the
message can be put together, and by nothing that came before. So the log of a run is made of the
lines of its messages one by one, a message that goes wrong might as well not have been there, and a
sink that shows more has all the lines of one that shows less.
-/

namespace SshKeys.Sink

variable {filler : Template.Filler} {sink : Sink} {e : Event} {events before after : List Event}
  {fault : SinkFault}

/-- An event with the level that the sink has when it comes. -/
structure Timed where
  current : Int
  event : Event

/-- The level that a sink has after an event. -/
def Event.levelAfter (current : Int) : Event → Int
  | .write .. => current
  | .setLevel level => level

def timed (current : Int) : List Event → List Timed
  | [] => []
  | e :: events => ⟨current, e⟩ :: timed (e.levelAfter current) events

namespace Timed

/-- The line that an event makes: that of a message whose own level is one of the six and is shown,
    if the message can be put together. -/
def line? (filler : Template.Filler) (t : Timed) : Option String :=
  match t.event with
  | .write level template args =>
    if level ≤ t.current then
      match Level.ofNumber? level, Template.messageBy filler template args with
      | some named, .ok message => some ("[" ++ named.name ++ "] " ++ message ++ "\n")
      | _, _ => none
    else none
  | .setLevel _ => none

/-- How an event ends: a message that is shown may have a fault of its own, else one of its level,
    and else the stream has one. -/
def fault? (filler : Template.Filler) (stream : Stream) (t : Timed) : Option SinkFault :=
  match t.event with
  | .write level template args =>
    if level ≤ t.current then
      match Template.messageBy filler template args, Level.ofNumber? level with
      | .error fault, _ => some (.template fault)
      | .ok _, none => some (.unknownLevel level)
      | .ok _, some _ => stream.breaks?.map .stream
    else none
  | .setLevel _ => none

/-- The same message, when at least as much is shown. -/
structure ShownBy (t other : Timed) : Prop where
  current : t.current ≤ other.current
  event : t.event = other.event

end Timed

/-- The lines that events make one by one. -/
def linesOf (filler : Template.Filler) (current : Int) (events : List Event) : List String :=
  (timed current events).filterMap (Timed.line? filler)

/-- Those events that are messages. -/
def messages (current : Int) (events : List Event) : List Timed :=
  (timed current events).filter fun t => t.event matches .write ..

/-! ## One event -/

/-- What the stream has after a line, if there is one, was handed to it. -/
def take (sink : Sink) (line : Option String) : String :=
  if sink.stream = .working then sink.written ++ line.getD "" else sink.written

theorem handleBy_eq (filler : Template.Filler) (sink : Sink) (e : Event) :
    sink.handleBy filler e =
      ({ sink with
          level := e.levelAfter sink.level
          written := sink.take (Timed.line? filler ⟨sink.level, e⟩) },
        Timed.fault? filler sink.stream ⟨sink.level, e⟩) := by
  obtain ⟨current, stream, written⟩ := sink
  cases e with
  | setLevel level => simp [handleBy, Event.levelAfter, take, Timed.line?, Timed.fault?]
  | write level template args =>
      simp only [handleBy, writeBy, Event.levelAfter, Timed.line?, Timed.fault?]
      by_cases shown : level ≤ current
      · simp only [if_pos shown]
        cases Template.messageBy filler template args with
        | error fault => simp [take]
        | ok message =>
            cases Level.ofNumber? level with
            | none => simp [take]
            | some named => cases stream <;> simp [put, take, line, Stream.breaks?]
      · simp [shown, take]

theorem handleBy_of_fault (faulty : (sink.handleBy filler e).2 = some fault) :
    (sink.handleBy filler e).1 = sink := by
  unfold handleBy at faulty ⊢
  cases e with
  | setLevel level => cases faulty
  | write level template args =>
      dsimp only at faulty ⊢
      split at faulty
      · cases faulty
      · rfl

namespace Timed

variable {t other : Timed} {level : Int} {template message text : String}
  {args : Option (List Value)} {stream : Stream}

theorem fault?_of_hidden (message : t.event = .write level template args)
    (hidden : t.current < level) : t.fault? filler stream = none := by
  simp [fault?, message, Int.not_le.mpr hidden]

theorem fault?_of_filled {named : Level} (whole : stream.breaks? = none)
    (event : t.event = .write named.number template args)
    (filled : Template.messageBy filler template args = .ok message) :
    t.fault? filler stream = none := by
  simp [fault?, event, filled, Level.ofNumber?_number, whole]

theorem ShownBy.line? (shown : t.ShownBy other) (made : t.line? filler = some text) :
    other.line? filler = some text := by
  unfold Timed.line? at made ⊢
  rw [← shown.event]
  cases event : t.event with
  | setLevel level => simp [event] at made
  | write level template args =>
      simp only [event] at made ⊢
      split at made
      · next visible =>
          rw [if_pos (Int.le_trans visible shown.current)]
          exact made
      · cases made

theorem sublist_lines {messages others : List Timed}
    (shown : List.Forall₂ ShownBy messages others) :
    (messages.filterMap (line? filler)).Sublist (others.filterMap (line? filler)) := by
  induction shown with
  | nil => exact .slnil
  | @cons t other messages others related _ ih =>
      cases made : t.line? filler with
      | none =>
          rw [List.filterMap_cons_none made]
          exact ih.trans ((List.sublist_cons_self other others).filterMap _)
      | some line =>
          rw [List.filterMap_cons_some made, List.filterMap_cons_some (related.line? made)]
          exact ih.cons_cons line

end Timed

/-! ## Runs -/

theorem runBy_cons (filler : Template.Filler) (sink : Sink) (e : Event) (events : List Event) :
    sink.runBy filler (e :: events) =
      (((sink.handleBy filler e).1.runBy filler events).1,
        (sink.handleBy filler e).2 :: ((sink.handleBy filler e).1.runBy filler events).2) :=
  rfl

theorem runBy_append (filler : Template.Filler) (sink : Sink) (before after : List Event) :
    sink.runBy filler (before ++ after) =
      (((sink.runBy filler before).1.runBy filler after).1,
        (sink.runBy filler before).2 ++ ((sink.runBy filler before).1.runBy filler after).2) := by
  induction before generalizing sink with
  | nil => rfl
  | cons e before ih => rw [List.cons_append, runBy_cons, runBy_cons, ih, List.cons_append]

theorem length_faults (filler : Template.Filler) (sink : Sink) (events : List Event) :
    (sink.runBy filler events).2.length = events.length := by
  induction events generalizing sink with
  | nil => rfl
  | cons e events ih => rw [runBy_cons, List.length_cons, ih, List.length_cons]

theorem faults_runBy (filler : Template.Filler) (sink : Sink) (events : List Event) :
    (sink.runBy filler events).2 =
      (timed sink.level events).map (Timed.fault? filler sink.stream) := by
  induction events generalizing sink with
  | nil => rfl
  | cons e events ih => rw [runBy_cons, ih, handleBy_eq, timed, List.map_cons]

theorem written_runBy (working : sink.stream = .working) (filler : Template.Filler)
    (events : List Event) :
    (sink.runBy filler events).1.written =
      sink.written ++ String.join (linesOf filler sink.level events) := by
  induction events generalizing sink with
  | nil => simp [runBy, linesOf, timed]
  | cons e events ih =>
      have still : (sink.handleBy filler e).1.stream = .working := by
        rw [handleBy_eq]
        exact working
      rw [runBy_cons, ih still, handleBy_eq, linesOf, linesOf, timed, take, if_pos working]
      cases made : Timed.line? filler ⟨sink.level, e⟩ with
      | none => simp [made]
      | some line => simp [made, String.append_assoc]

/-- An event that ends with a fault can be left out: all others end as they do with it. -/
theorem runBy_of_fault
    (faulty : (sink.runBy filler (before ++ e :: after)).2[before.length]? = some (some fault)) :
    (sink.runBy filler (before ++ e :: after)).1 = (sink.runBy filler (before ++ after)).1 ∧
      (sink.runBy filler (before ++ e :: after)).2.eraseIdx before.length =
        (sink.runBy filler (before ++ after)).2 := by
  have reached := length_faults filler sink before
  rw [runBy_append, runBy_cons] at faulty ⊢
  dsimp only at faulty ⊢
  rw [List.getElem?_append_right (Nat.le_of_eq reached), reached, Nat.sub_self,
    List.getElem?_cons_zero] at faulty
  have kept := handleBy_of_fault (Option.some.inj faulty)
  rw [kept, runBy_append]
  refine ⟨rfl, ?_⟩
  rw [List.eraseIdx_append_of_length_le (Nat.le_of_eq reached), reached, Nat.sub_self,
    List.eraseIdx_cons_zero]

theorem linesOf_eq (filler : Template.Filler) (current : Int) (events : List Event) :
    linesOf filler current events =
      (messages current events).filterMap (Timed.line? filler) := by
  rw [messages, List.filterMap_filter, linesOf]
  refine List.filterMap_congr fun t _ => ?_
  obtain ⟨current, e⟩ := t
  cases e <;> simp [Timed.line?]

theorem forall_faults {P : Timed → Option SinkFault → Prop}
    (each : ∀ t ∈ timed sink.level events, P t (t.fault? filler sink.stream)) :
    List.Forall₂ P (timed sink.level events) (sink.runBy filler events).2 := by
  rw [faults_runBy, List.forall₂_map_right_iff, List.forall₂_same]
  exact each

/-- How a run of a sink goes, whatever the messages are put together with. A log that a stream takes
    is made of the lines that the messages make one by one. A message that is not shown never goes
    wrong, nor does one at a named level that can be put together if all that the stream does is to
    refuse lines. One that does go wrong leaves no trace. Of two sinks with the same messages, the
    one that shows at most as much at each of them has a part of the lines of the other. -/
theorem runBy_outcome (filler : Template.Filler) (sink : Sink) (events : List Event) :
    (sink.stream = .working → (sink.runBy filler events).1.written =
      sink.written ++ String.join (linesOf filler sink.level events)) ∧
    List.Forall₂ (fun t fault => ∀ level template args,
      t.event = .write level template args → t.current < level → fault = none)
      (timed sink.level events) (sink.runBy filler events).2 ∧
    (∀ before e after fault, events = before ++ e :: after →
      (sink.runBy filler events).2[before.length]? = some (some fault) →
      (sink.runBy filler events).1 = (sink.runBy filler (before ++ after)).1 ∧
        (sink.runBy filler events).2.eraseIdx before.length =
          (sink.runBy filler (before ++ after)).2) ∧
    (sink.stream = .refusing →
      List.Forall₂ (fun t fault => ∀ (named : Level) template args message,
        t.event = .write named.number template args → named.number ≤ t.current →
        Template.messageBy filler template args = .ok message → fault = none)
        (timed sink.level events) (sink.runBy filler events).2) ∧
    ∀ (other : Sink) others,
      List.Forall₂ Timed.ShownBy (messages sink.level events) (messages other.level others) →
      (linesOf filler sink.level events).Sublist (linesOf filler other.level others) := by
  refine ⟨fun working => written_runBy working filler events, forall_faults ?_, ?_, ?_, ?_⟩
  · intro t _ level template args message hidden
    exact Timed.fault?_of_hidden message hidden
  · rintro before e after fault rfl faulty
    exact runBy_of_fault faulty
  · intro refusing
    have whole : sink.stream.breaks? = none := by rw [refusing]; rfl
    refine forall_faults fun t _ named template args message event _ filled => ?_
    exact Timed.fault?_of_filled whole event filled
  · intro other others shown
    rw [linesOf_eq, linesOf_eq]
    exact Timed.sublist_lines shown

/-- What is hidden is not looked at, and what goes wrong leaves nothing behind. -/
example :
    ({} : Sink).runBy Template.filled
      [.write 5 "%d" (some []), .setLevel 9, .write 7 "a" none, .write 0 "%s" (some []),
        .write 2 "b" none] =
    ({ level := 9, written := "[Info] b\n" },
      [none, none, some (.unknownLevel 7), some (.template .tooFewArguments), none]) := by
  decide

end SshKeys.Sink
