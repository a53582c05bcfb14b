import RadioGateway.Proofs.ZWave.Ledger
import RadioGateway.Proofs.ZWave.Watched

/-!
# Failures are reported once

The alarms of a network are the failures of its port and of its requests, in the order in which they
happened. So a request that was put in line is still there, or is completed without an alarm, or has
failed with one alarm of its own. Closing a network fails what is still in line and leaves nothing.
-/

namespace RadioGateway.ZWave

open RadioGateway.Link

/-- The request that an event settles, without its ticket, and the failure if it is settled by
one. -/
def outcome? (event : Event Request Frame) : Option (Request × Option Failure) :=
  (settled? event).map fun request => (request.withoutTicket, failure? event)

/-- A failure that an event tells of is that of the request which it settles. -/
theorem failure?_eq (event : Event Request Frame) :
    failure? event = (outcome? event).bind Prod.snd := by
  cases event with
  | answered request frame =>
      simp only [outcome?, settled?]
      split <;> rfl
  | confirmed request frame => rfl
  | unsolicited frame => rfl
  | failed request failure => rfl

theorem filterMap_failure? (events : List (Event Request Frame)) :
    (events.filterMap outcome?).filterMap Prod.snd = events.filterMap failure? := by
  rw [List.filterMap_filterMap]
  exact congrArg (List.filterMap · events) (funext fun event => (failure?_eq event).symm)

namespace Ledger

theorem outcomes_of_ended {entries : List (Course × Event Request Frame)}
    (ended : ∀ entry ∈ entries, ∃ request, entry.1.Ended entry.2 request) :
    ((entries.map (·.2)).filterMap outcome?).map Prod.fst =
      entries.map (·.1.request.withoutTicket) := by
  induction entries with
  | nil => rfl
  | cons entry later ih =>
      rw [List.forall_mem_cons] at ended
      obtain ⟨⟨request, this⟩, ended⟩ := ended
      have outcome : outcome? entry.2 = some (entry.1.request.withoutTicket, failure? entry.2) := by
        rw [outcome?, this.subject, Option.map_some, this.tracks.same]
      rw [List.map_cons, List.filterMap_cons_some outcome, List.map_cons, List.map_cons, ih ended]

theorem requests_of_lineup {backlog : Backlog Request} {courses : List Course}
    (lineup : Lineup backlog courses) :
    courses.map (·.request.withoutTicket) = backlog.requests.map Request.withoutTicket := by
  cases lineup with
  | empty none => rw [none, List.map_nil, List.map_nil]
  | line line tracks leads =>
      rw [line, List.map_cons, List.map_cons, tracks.same, List.map_map]
      rfl

end Ledger

namespace Run

/-- Every request that was put in line has its outcome or is still in line, in the same order. -/
theorem submitted_follow_eq (ackTimeout answerTimeout : Nat) (actions : List Action) :
    let run := (start ackTimeout answerTimeout).follow actions
    run.submitted.map Request.withoutTicket =
      (run.events.filterMap outcome?).map Prod.fst ++
        run.session.backlog.requests.map Request.withoutTicket := by
  intro run
  have booked : Booked run := booked_follow ackTimeout answerTimeout actions
  have events : run.events = run.history.flatMap (·.reported) :=
    events_follow ackTimeout answerTimeout actions
  -- The ledger keeps only events that settle a request, and the others have no outcome.
  have settling : run.events.filterMap outcome? =
      (run.events.filter settles).filterMap outcome? := by
    rw [List.filterMap_filter]
    refine List.filterMap_congr fun event _ => ?_
    unfold settles outcome?
    cases settled? event <;> rfl
  rw [← booked.requests, Ledger.courses, List.map_append, List.map_append, settling, events,
    ← booked.right.events, Ledger.outcomes_of_ended booked.right.ended,
    ← Ledger.requests_of_lineup booked.right.lineup, List.map_map, List.map_map, List.map_map]
  rfl

end Run

namespace Network

/-- Failures are reported, and lead to nothing else. -/
theorem settle_of_failures {network : Network} (only : network.session.OnlyFailures) (now : Nat) :
    network.settle now =
      { network with
        session := { network.session with events := [] }
        alarms := network.alarms ++ network.session.events.filterMap failure? } := by
  obtain ⟨silent, unmoved⟩ :=
    Directory.demands_of_failures network.controller network.directory only
  have handled : network.handleEvents now =
      { network with
        session := { network.session with events := [] }
        alarms := network.alarms ++ network.session.events.filterMap failure? } := by
    rw [handleEvents_eq, silent, unmoved]
    rfl
  rw [settle, handled, handleEvents_eq]
  simp only [List.filterMap_nil, List.append_nil]
  rfl

/-- Closing a network that has settled fails its requests, with an alarm for each, and leaves
nothing in line, to be sent or to be read. -/
theorem close_eq {network : Network} (quiet : network.session.events = []) (now : Nat) :
    network.close now =
      { network with
        session := { network.session with
          backlog := {}, received := [], output := [], events := [] }
        alarms := network.alarms ++ network.session.backlog.requests.map fun _ => .closed } := by
  have only : network.session.close.OnlyFailures := by
    intro event member
    simp only [Session.close, quiet, List.nil_append, List.mem_map] at member
    obtain ⟨request, _, rfl⟩ := member
    exact ⟨request, .closed, rfl⟩
  have alarms : network.session.close.events.filterMap failure? =
      network.session.backlog.requests.map fun _ => .closed := by
    simp only [Session.close, quiet, List.nil_append, List.filterMap_map]
    exact congrFun List.filterMap_eq_map _
  rw [close, settle_of_failures only, alarms]
  rfl

end Network

namespace Watched

theorem outages_follow (watched : Watched) (schedule : List (Nat × Network.Operation)) :
    (watched.follow schedule).log.filterMap Happening.outage? =
      watched.log.filterMap Happening.outage? ++ schedule.filterMap (·.2.outage?) := by
  induction schedule generalizing watched with
  | nil => exact (List.append_nil _).symm
  | cons timed later ih =>
      obtain ⟨wait, operation⟩ := timed
      rw [show watched.follow ((wait, operation) :: later) =
        (watched.step wait operation).follow later from rfl, ih, step]
      simp only [List.filterMap_append, Happening.filterMap_outage?_outage,
        Happening.filterMap_outage?_event, List.append_nil, List.append_assoc]
      cases outage : operation.outage? <;> simp [outage]

/-- The alarms of a network are, in their order, the failures of its port and of its requests: every
operation ends with no event left, and whatever was put in line is still there, or completed without
an alarm, or failed with one. Closing fails all that is in line, each with one alarm, and leaves
nothing. -/
theorem failures_are_reported_once (ackTimeout answerTimeout : Nat) (controller : Byte)
    (schedule : List (Nat × Network.Operation)) :
    let watched := (start ackTimeout answerTimeout controller).follow schedule
    let pending := watched.network.session.backlog.requests
    let outcomes := watched.run.events.filterMap outcome?
    watched.run.session = watched.network.session ∧
    watched.network.session.events = [] ∧
    watched.log.filterMap Happening.event? = watched.run.events ∧
    watched.log.filterMap Happening.outage? = schedule.filterMap (·.2.outage?) ∧
    watched.network.alarms = watched.log.filterMap Happening.failure? ∧
    watched.run.submitted.head? = some .listNodes ∧
    watched.run.submitted.map Request.withoutTicket =
      outcomes.map Prod.fst ++ pending.map Request.withoutTicket ∧
    outcomes.filterMap Prod.snd = watched.run.events.filterMap failure? ∧
    ∀ wait, let closed := (watched.step wait .close).network
      closed.session.backlog.requests = [] ∧ Link.Network.deadline closed = none ∧
        (Link.Network.takeOutput closed).1 = [] ∧ closed.session.events = [] ∧
        closed.alarms = watched.network.alarms ++ pending.map fun _ => .closed := by
  intro watched pending outcomes
  have faithful : watched.Faithful := faithful_follow ackTimeout answerTimeout controller schedule
  obtain ⟨actions, followed⟩ : ∃ actions, watched.run =
      (Run.start ackTimeout answerTimeout).follow (.operate (.submit .listNodes) :: actions) :=
    exists_actions_follow ackTimeout answerTimeout controller schedule
  have first : watched.run.submitted.head? = some .listNodes := by
    rw [followed, Run.submitted_follow]
    rfl
  have conserved : watched.run.submitted.map Request.withoutTicket =
      outcomes.map Prod.fst ++
        watched.run.session.backlog.requests.map Request.withoutTicket := by
    rw [show outcomes = watched.run.events.filterMap outcome? from rfl, followed]
    exact Run.submitted_follow_eq ackTimeout answerTimeout _
  rw [faithful.session] at conserved
  refine ⟨faithful.session, faithful.quiet, faithful.events, ?_, faithful.alarms, first, conserved,
    filterMap_failure? _, ?_⟩
  · exact outages_follow _ schedule
  · intro wait closed
    have eq : closed = _ := Network.close_eq faithful.quiet (watched.run.now + wait)
    rw [eq]
    exact ⟨rfl, rfl, rfl, rfl, rfl⟩

end Watched

end RadioGateway.ZWave
