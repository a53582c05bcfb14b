import RadioGateway.Proofs.ZWave.Timer

/-!
# What a reaction appends

A reaction appends events, and to the output its reply and at most one more frame. That frame is
always the one of the request which is the head when the reaction is over. Only closing a session
takes output away.
-/

namespace RadioGateway.ZWave

open RadioGateway.Link

theorem Frame.ne_nil_of_encode {frame : Frame} {bytes : Bytes}
    (encoded : frame.encode = .ok bytes) : bytes ≠ [] := by
  intro empty
  have length := Frame.length_encode encoded
  simp [empty] at length

namespace Session

variable {now : Nat} {session after : Session} {stimulus : Stimulus} {requests : List Request}
  {reported failures : List (Event Request Frame)} {copy : Bytes}

/-- From one session to another, events and a copy of a frame are appended, the copy after the
reply. -/
structure Appends (session : Session) (stimulus : Stimulus) (after : Session)
    (reported : List (Event Request Frame)) (copy : Bytes) : Prop where
  events : after.events = session.events ++ reported
  output : stimulus ≠ .close → after.output = session.output ++ (reply stimulus ++ copy)
  closed : stimulus = .close → after.output = [] ∧ copy = []

namespace Reaction

variable {reaction : Reaction} {reported : List (Event Request Frame)} {copy : Bytes}

theorem reported_eq
    (appends : Appends reaction.before reaction.stimulus reaction.after reported copy) :
    reaction.reported = reported := by
  rw [Reaction.reported, appends.events, List.drop_left]

theorem written_eq
    (appends : Appends reaction.before reaction.stimulus reaction.after reported copy) :
    reaction.written = reply reaction.stimulus ++ copy := by
  by_cases close : reaction.stimulus = .close
  · obtain ⟨empty, none⟩ := appends.closed close
    simp [written, empty, none, close, reply]
  · rw [written, appends.output close, List.drop_left]

theorem transmission_eq
    (appends : Appends reaction.before reaction.stimulus reaction.after reported copy) :
    reaction.transmission = copy := by
  rw [transmission, written_eq appends, List.drop_left]

end Reaction

theorem appends_of_passage (passage : Passage now session requests failures copy after) :
    after.events = session.events ++ failures ∧ after.output = session.output ++ copy := by
  induction passage with
  | empty => simp
  | sent stamp fits => simp [write]
  | dropped stamp unfit later ih =>
      obtain ⟨events, output⟩ := ih
      rw [events, output]
      simp [emit]

/-- The requests that are given up are those that no frame can hold. -/
theorem unfit_of_passage (passage : Passage now session requests failures copy after) :
    ∀ event ∈ failures, ∃ request payload, event = .failed request (.oversized payload) ∧
      request.frame.encode = .error payload := by
  induction passage with
  | empty => simp
  | sent stamp fits => simp
  | @dropped session after head stamped rest free payload failures copy stamp unfit later ih =>
      intro event member
      rcases List.mem_cons.mp member with rfl | earlier
      · exact ⟨stamped, payload, rfl, unfit⟩
      · exact ih event earlier

theorem sent_of_passage (passage : Passage now session requests failures copy after) :
    copy = [] ∨ ∃ head, after.backlog.head? = some head ∧ head.frame.encode = .ok copy := by
  induction passage with
  | empty => exact .inl rfl
  | sent stamp fits => exact .inr ⟨_, rfl, fits⟩
  | dropped stamp unfit later ih => exact ih

theorem Refusal.ne_close {failure : Failure} (refusal : Refusal stimulus failure) :
    stimulus ≠ .close := by
  cases refusal <;> simp

theorem Ending.ne_close {head : Request} {event : Event Request Frame}
    (ending : Ending session head stimulus event) : stimulus ≠ .close := by
  cases ending with
  | exhausted phase spent refusal => exact refusal.ne_close
  | _ => simp

theorem Idle.ne_close (idle : session.Idle stimulus) : stimulus ≠ .close := by
  rintro rfl
  exact idle

/-- Every effect appends what it reports, and its reply with its copy. -/
theorem appends_of_effect (effect : Effect now session stimulus reported copy after) :
    Appends session stimulus after reported copy := by
  cases effect with
  | ignored idle =>
      exact ⟨by simp [write], by simp [write], fun close => absurd close idle.ne_close⟩
  | unsolicited foreign => exact ⟨rfl, by simp [write, emit, reply], by simp⟩
  | queued busy => exact ⟨by simp, by simp [reply], by simp⟩
  | begun empty passage =>
      obtain ⟨events, output⟩ := appends_of_passage passage
      exact ⟨events, fun _ => output, by simp⟩
  | acknowledged phase =>
      exact ⟨by simp [awaitCompletion], by simp [awaitCompletion, reply], by simp⟩
  | answered line answers twice =>
      exact ⟨rfl, by simp [awaitCompletion, emit, write, reply], by simp⟩
  | repeated line phase spare stamped fits refusal =>
      exact ⟨by simp [write], by simp [write, refusal.reply_eq],
        fun close => absurd close refusal.ne_close⟩
  | finished line ending passage =>
      obtain ⟨events, output⟩ := appends_of_passage passage
      refine ⟨?_, fun _ => ?_, fun close => absurd close ending.ne_close⟩
      · rw [events]
        simp [emit, write]
      · rw [output]
        simp [emit, write]
  | closed => exact ⟨rfl, by simp, fun _ => ⟨rfl, rfl⟩⟩

/-- The copy that an effect transmits is one of the frame of the head that it leaves. -/
theorem sent_of_effect (effect : Effect now session stimulus reported copy after) :
    copy = [] ∨ ∃ head, after.backlog.head? = some head ∧ head.frame.encode = .ok copy := by
  cases effect with
  | begun empty passage => exact sent_of_passage passage
  | @repeated head rest copy stimulus failure line phase spare stamped fits refusal =>
      exact .inr ⟨head, by simp [Backlog.head?, Backlog.arm, line], fits⟩
  | finished line ending passage => exact sent_of_passage passage
  | _ => exact .inl rfl

/-- A reaction of a steady session has an effect, with what it reports and transmits. -/
theorem Reaction.effect (reaction : Reaction) (steady : Steady reaction.now reaction.before) :
    Effect reaction.now reaction.before reaction.stimulus reaction.reported reaction.transmission
      reaction.after := by
  obtain ⟨reported, copy, effect⟩ := Session.effect steady reaction.stimulus
  have appends := appends_of_effect effect
  rw [reported_eq appends, transmission_eq appends]
  exact effect

end Session

namespace Run

open Session

theorem events_follow (ackTimeout answerTimeout : Nat) (actions : List Action) :
    ((start ackTimeout answerTimeout).follow actions).events =
      ((start ackTimeout answerTimeout).follow actions).history.flatMap Reaction.reported := by
  refine always_effect (fun run => run.events = run.history.flatMap Reaction.reported)
    ackTimeout answerTimeout rfl ?_ ?_ ?_ ?_ ?_ actions
  · intro run stimulus reported copy steady effect same
    have appends := appends_of_effect effect
    have last : Reaction.reported ⟨run.now, run.session, stimulus⟩ = reported :=
      Reaction.reported_eq appends
    rw [show (run.react stimulus).history = run.history ++ [⟨run.now, run.session, stimulus⟩]
      from rfl, List.flatMap_append, ← same, events, appends.events]
    simp [events, react, last]
  · exact fun _ _ same => same
  · exact fun _ same => same
  · intro run same
    rw [show (run.act .takeEvents).history = run.history from rfl, ← same]
    simp [events, act, takeEvents]
  · exact fun _ _ same => same

/-- As long as a run is not closed, its output is what its reactions wrote. -/
theorem output_follow (ackTimeout answerTimeout : Nat) (actions : List Action)
    (unclosed : .operate .close ∉ actions) :
    ((start ackTimeout answerTimeout).follow actions).output =
      ((start ackTimeout answerTimeout).follow actions).history.flatMap Reaction.written := by
  refine always_effect (fun run => (∀ reaction ∈ run.history, reaction.stimulus ≠ .close) →
    run.output = run.history.flatMap Reaction.written) ackTimeout answerTimeout
    ?_ ?_ ?_ ?_ ?_ ?_ actions ?_
  · exact fun _ => rfl
  · intro run stimulus reported copy steady effect same opened
    let last : Reaction := ⟨run.now, run.session, stimulus⟩
    have appends := appends_of_effect effect
    have history : (run.react stimulus).history = run.history ++ [last] := rfl
    rw [history, List.forall_mem_append, List.forall_mem_singleton] at opened
    have written : last.written = reply stimulus ++ copy := Reaction.written_eq appends
    rw [history, List.flatMap_append, List.flatMap_singleton, ← same opened.1, written, output,
      output, appends.output opened.2, ← List.append_assoc]
    rfl
  · exact fun _ _ same => same
  · intro run same opened
    rw [show (run.act .takeOutput).history = run.history from rfl, ← same opened]
    simp [output, act, takeOutput]
  · exact fun _ same => same
  · exact fun _ _ same => same
  · exact unclosed_follow _ _ unclosed fun _ none => absurd none List.not_mem_nil

end Run

end RadioGateway.ZWave
