import RadioGateway.Proofs.ZWave.Timer

/-!
# Requests are neither lost nor invented

Every request that is put in line is, at any later time, either still in line or the subject of
exactly one event that settles it, and the order is that in which the requests came.
-/

namespace RadioGateway.ZWave

open RadioGateway.Link

/-- The request that an event settles. The answer to a delivery does not settle it. -/
def settled? : Event Request Frame → Option Request
  | .answered request _ => if request.needsConfirmation then none else some request
  | .confirmed request _ => some request
  | .unsolicited _ => none
  | .failed request _ => some request

namespace Session

variable {now : Nat} {session after : Session} {stimulus : Stimulus} {requests : List Request}
  {reported failures : List (Event Request Frame)} {copy : Bytes}

theorem settled?_of_ending {head : Request} {event : Event Request Frame}
    (ending : Ending session head stimulus event) : settled? event = some head := by
  cases ending with
  | answered answers once => simp [settled?, once]
  | confirmed confirms => rfl
  | exhausted phase spent refusal => rfl
  | unanswered phase => rfl

/-- The requests that a session has settled since its events were last fetched, and those that are
in line. Tickets are left out, for they are given on the way. -/
def account (session : Session) : List Request :=
  (session.events.filterMap settled? ++ session.backlog.requests).map Request.withoutTicket

/-- Moving the line on settles the requests that are given up and keeps the others in line. -/
theorem account_of_passage (passage : Passage now session requests failures copy after) :
    after.account = (session.events.filterMap settled? ++ requests).map Request.withoutTicket := by
  induction passage with
  | empty => rfl
  | @sent session head stamped rest free copy stamp fits =>
      simp [account, write, (Request.of_stamp stamp).1]
  | @dropped session after head stamped rest free payload failures copy stamp unfit later ih =>
      rw [ih]
      simp [emit, settled?, (Request.of_stamp stamp).1]

/-- An effect settles requests in the order of the line and adds only the one put in line. -/
theorem account_of_effect (effect : Effect now session stimulus reported copy after) :
    after.account =
      session.account ++ stimulus.submitted?.toList.map Request.withoutTicket := by
  cases effect with
  | ignored idle =>
      cases stimulus with
      | submit request => exact absurd idle id
      | hear decoding => simp [account, write, Stimulus.submitted?]
      | expire => simp [account, write, Stimulus.submitted?]
      | close => exact absurd idle id
  | unsolicited foreign => simp [account, write, emit, settled?, Stimulus.submitted?]
  | queued busy => simp [account, Stimulus.submitted?]
  | begun empty passage =>
      rw [account_of_passage passage]
      simp [account, empty, Stimulus.submitted?]
  | acknowledged phase => simp [account, awaitCompletion, Stimulus.submitted?]
  | answered line answers twice =>
      simp [account, awaitCompletion, emit, write, settled?, twice, Stimulus.submitted?]
  | repeated line phase spare stamped fits refusal =>
      cases refusal <;> simp [account, write, Stimulus.submitted?]
  | finished line ending passage =>
      have silent : stimulus.submitted? = none := by
        cases ending with
        | exhausted phase spent refusal => cases refusal <;> rfl
        | _ => rfl
      rw [account_of_passage passage]
      simp [account, emit, write, line, settled?_of_ending ending, silent]
  | closed =>
      have all : (session.backlog.requests.map (Event.failed · .closed)).filterMap settled? =
          session.backlog.requests := by
        rw [List.filterMap_map]
        exact List.filterMap_some
      rw [account, account, close, List.filterMap_append, all]
      simp [Backlog.clear, Stimulus.submitted?]

end Session

namespace Run

open Session

/-- Nothing that happens to a run loses a request or brings one up. -/
theorem line_follow (ackTimeout answerTimeout : Nat) (actions : List Action) :
    let run := (start ackTimeout answerTimeout).follow actions
    run.submitted.map Request.withoutTicket =
      (run.events.filterMap settled? ++ run.session.backlog.requests).map Request.withoutTicket := by
  intro run
  have conserved : run.submitted.map Request.withoutTicket =
      (run.eventsTaken.filterMap settled?).map Request.withoutTicket ++ run.session.account := by
    refine always_effect (fun run => run.submitted.map Request.withoutTicket =
      (run.eventsTaken.filterMap settled?).map Request.withoutTicket ++ run.session.account)
      ackTimeout answerTimeout rfl ?_ ?_ ?_ ?_ ?_ actions
    · intro run stimulus reported copy steady effect conserved
      rw [account_of_effect effect, submitted_react, List.map_append, conserved, List.append_assoc]
      rfl
    · exact fun _ _ conserved => conserved
    · exact fun _ conserved => conserved
    · intro run conserved
      rw [show (run.act .takeEvents).submitted = run.submitted from rfl, conserved]
      simp [act, takeEvents, account]
    · exact fun _ _ conserved => conserved
  rw [conserved]
  simp [account, events]

/-- The requests put in line are, in their order, those settled by the events so far and those still
in line. -/
theorem requests_conserved (ackTimeout answerTimeout : Nat) (actions : List Action) :
    let run := (start ackTimeout answerTimeout).follow actions
    (actions.filterMap Action.submitted?).map Request.withoutTicket =
      (run.events.filterMap settled?).map Request.withoutTicket ++
        run.session.backlog.requests.map Request.withoutTicket := by
  intro run
  have submitted : run.submitted = actions.filterMap Action.submitted? :=
    submitted_follow (start ackTimeout answerTimeout) actions
  rw [← submitted, ← List.map_append]
  exact line_follow ackTimeout answerTimeout actions

end Run

end RadioGateway.ZWave
