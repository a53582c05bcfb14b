import RadioGateway.Proofs.ZWave.Conservation
import RadioGateway.Proofs.ZWave.Consequence

/-!
# Watched networks

A network is watched together with the run of its session, which keeps every request that was put in
line and every event that was reported. Each operation of the network is a stretch of that run, so
that whatever holds of all runs of a session holds of the session of a network at every moment. What
the network itself adds is told by the events of the stretch.
-/

namespace RadioGateway.ZWave

open RadioGateway.Link

namespace Run

theorem follow_append (run : Run) (actions later : List Action) :
    run.follow (actions ++ later) = (run.follow actions).follow later :=
  List.foldl_append

/-- To put requests in line is all that happens to a run in which they are. -/
theorem follow_submit (run : Run) (requests : List Request) :
    let after := run.follow (requests.map fun request => .operate (.submit request))
    after.session = run.session.submitAll run.now requests ∧ after.now = run.now ∧
      after.eventsTaken = run.eventsTaken := by
  induction requests generalizing run with
  | nil => exact ⟨rfl, rfl, rfl⟩
  | cons request later ih => exact ih (run.act (.operate (.submit request)))

end Run

namespace Network

/-! ## Operations as stretches of a run -/

/-- The network when an operation has reached it, before it settles. -/
def undertake (now : Nat) (network : Network) : Operation → Network
  | .set id requested =>
      (Operation.influence? network.directory (.set id requested)).toList.foldl (sway now) network
  | .get _ _ => network
  | .receive bytes => { network with session := network.session.receive now bytes }
  | .expire => { network with session := network.session.expire now }
  | .fail failure => network.alarm failure
  | .close => { network with session := network.session.close }
  | .takeOutput => { network with session := network.session.takeOutput.2 }

def raised (now : Nat) (network : Network) (operation : Operation) : List (Event Request Frame) :=
  (network.undertake now operation).handled now

def Operation.requests (directory : Directory) (operation : Operation) : List Request :=
  (operation.influence? directory).toList.flatMap fun influence =>
    influence.requests (directory.node influence.id)

def Operation.actions (directory : Directory) (operation : Operation) : List Action :=
  match operation with
  | .set _ _ => (operation.requests directory).map fun request => .operate (.submit request)
  | .get _ _ => []
  | .receive bytes => [.operate (.receive bytes)]
  | .expire => [.operate .expire]
  | .fail _ => []
  | .close => [.operate .close]
  | .takeOutput => [.takeOutput]

/-- The requests that follow from the events that an operation raises by itself. -/
def demanded (now : Nat) (network : Network) (operation : Operation) : List Request :=
  let begun := network.undertake now operation
  begun.directory.demands begun.controller begun.session.events

/-- What a network does with its session in an operation: its events are fetched before and after
the requests to which they lead. -/
def actions (now : Nat) (network : Network) (operation : Operation) : List Action :=
  operation.actions network.directory ++ .takeEvents ::
    (network.demanded now operation).map (fun request => .operate (.submit request)) ++
      [.takeEvents]

/-- A quiet network settles after every operation, if only to find nothing to do. -/
theorem perform_eq {network : Network} (addressed : network.directory.Addressed)
    (quiet : network.session.events = []) (now : Nat) (operation : Operation) :
    network.perform now operation = (network.undertake now operation).settle now := by
  cases operation with
  | set id requested =>
      rw [perform, set_eq now addressed, undertake]
      cases Operation.influence? network.directory (.set id requested) with
      | none => exact (settle_of_quiet now quiet).symm
      | some influence => rfl
  | get id attributes => exact (settle_of_quiet now quiet).symm
  | receive bytes => rfl
  | expire => rfl
  | fail failure =>
      have alarmed : (network.alarm failure).session.events = [] := quiet
      exact (settle_of_quiet now alarmed).symm
  | close => rfl
  | takeOutput =>
      have emptied : (network.undertake now .takeOutput).session.events = [] := quiet
      exact (settle_of_quiet now emptied).symm

theorem directory_undertake (now : Nat) (network : Network) (operation : Operation) :
    (network.undertake now operation).directory =
      (operation.influence? network.directory).toList.foldl Directory.heed network.directory := by
  cases operation with
  | set id requested =>
      rw [undertake]
      cases Operation.influence? network.directory (.set id requested) <;> rfl
  | _ => rfl

theorem alarms_undertake (now : Nat) (network : Network) (operation : Operation) :
    (network.undertake now operation).alarms =
      network.alarms ++ operation.outage?.toList := by
  cases operation with
  | set id requested =>
      rw [undertake]
      cases Operation.influence? network.directory (.set id requested) <;>
        exact (List.append_nil _).symm
  | fail failure => rfl
  | _ => exact (List.append_nil _).symm

/-- The nodes after an operation: what the operation itself does to them comes first. -/
theorem directory_perform {network : Network} (addressed : network.directory.Addressed)
    (quiet : network.session.events = []) (now : Nat) (operation : Operation) :
    (network.perform now operation).directory =
      ((operation.influence? network.directory).toList ++
        (network.raised now operation).filterMap Influence.ofEvent?).foldl Directory.heed
        network.directory := by
  rw [perform_eq addressed quiet, settle_eq, List.foldl_append, ← directory_undertake now]
  rfl

theorem alarms_perform {network : Network} (addressed : network.directory.Addressed)
    (quiet : network.session.events = []) (now : Nat) (operation : Operation) :
    (network.perform now operation).alarms =
      network.alarms ++ operation.outage?.toList ++
        (network.raised now operation).filterMap failure? := by
  rw [perform_eq addressed quiet, settle_eq, ← alarms_undertake now]
  rfl

theorem submitted_actions (now : Nat) (network : Network) (operation : Operation) :
    (network.actions now operation).filterMap Action.submitted? =
      operation.requests network.directory ++ network.demanded now operation := by
  have all : ∀ requests : List Request,
      (requests.map fun request => Action.operate (.submit request)).filterMap Action.submitted? =
        requests := by
    intro requests
    rw [List.filterMap_map]
    exact List.filterMap_some
  have own : (operation.actions network.directory).filterMap Action.submitted? =
      operation.requests network.directory := by
    cases operation with
    | set id requested => exact all _
    | _ => rfl
  simp only [actions, List.filterMap_append, List.filterMap_cons, Action.submitted?, own, all,
    List.filterMap_nil, List.append_nil]

variable {run : Run} {network : Network}

/-- An operation by itself is a stretch of the run. -/
theorem follow_own_actions (same : run.session = network.session) (operation : Operation) :
    let after := run.follow (operation.actions network.directory)
    after.session = (network.undertake run.now operation).session ∧ after.now = run.now ∧
      after.eventsTaken = run.eventsTaken := by
  cases operation with
  | set id requested =>
      have submitted := run.follow_submit (Operation.requests network.directory (.set id requested))
      refine ⟨submitted.1.trans ?_, submitted.2⟩
      rw [same, undertake, Operation.requests]
      cases Operation.influence? network.directory (.set id requested) with
      | none => rfl
      | some influence => simp [sway]
  | get id attributes => exact ⟨same, rfl, rfl⟩
  | receive bytes => exact ⟨congrArg (Session.receive run.now bytes) same, rfl, rfl⟩
  | expire => exact ⟨congrArg (Session.expire run.now) same, rfl, rfl⟩
  | fail failure => exact ⟨same, rfl, rfl⟩
  | close => exact ⟨congrArg Session.close same, rfl, rfl⟩
  | takeOutput => exact ⟨congrArg (fun session => session.takeOutput.2) same, rfl, rfl⟩

/-- The stretch of an operation ends with the session of the network, all of whose events have been
fetched. -/
theorem follow_actions (same : run.session = network.session)
    (addressed : network.directory.Addressed) (quiet : network.session.events = [])
    (operation : Operation) :
    let after := run.follow (network.actions run.now operation)
    after.session = (network.perform run.now operation).session ∧ after.now = run.now ∧
      after.eventsTaken = run.eventsTaken ++ network.raised run.now operation := by
  obtain ⟨begun, clock, taken⟩ := follow_own_actions same operation
  let fetched := (run.follow (operation.actions network.directory)).act .takeEvents
  have quieted : fetched.session = { (network.undertake run.now operation).session with
      events := [] } := congrArg (fun session => session.takeEvents.2) begun
  have noted : fetched.eventsTaken =
      run.eventsTaken ++ (network.undertake run.now operation).session.events := by
    rw [← taken, ← begun]
    rfl
  -- The requests may fail at once. These events are fetched last and lead to nothing more.
  obtain ⟨asked, later, still⟩ := fetched.follow_submit (network.demanded run.now operation)
  rw [quieted, show fetched.now = run.now from clock] at asked
  have answered := asked.trans
    (congrArg Network.session (handleEvents_eq run.now (network.undertake run.now operation))).symm
  have stretch : run.follow (network.actions run.now operation) =
      (fetched.follow ((network.demanded run.now operation).map fun request =>
        .operate (.submit request))).act .takeEvents := by
    rw [actions, Run.follow_append, Run.follow_append]
    rfl
  rw [perform_eq addressed quiet, settle_eq, stretch]
  refine ⟨?_, later.trans clock, ?_⟩
  · exact congrArg (fun session => session.takeEvents.2) answered
  · simp only [Run.act, Session.takeEvents, still, noted, answered, raised, handled,
      List.append_assoc]

end Network

/-! ## Watching -/

/-- What may be the cause of an alarm: an event of the session, or a failure of the port. -/
inductive Happening where
  | event (event : Event Request Frame)
  | outage (failure : Failure)
  deriving DecidableEq, Repr

namespace Happening

def event? : Happening → Option (Event Request Frame)
  | event happened => some happened
  | outage _ => none

def outage? : Happening → Option Failure
  | event _ => none
  | outage failure => some failure

def failure? : Happening → Option Failure
  | event happened => ZWave.failure? happened
  | outage failure => some failure

@[simp]
theorem filterMap_event?_event (events : List (Event Request Frame)) :
    (events.map event).filterMap event? = events := by
  rw [List.filterMap_map]
  exact List.filterMap_some

@[simp]
theorem filterMap_event?_outage (failures : List Failure) :
    (failures.map outage).filterMap event? = [] := by
  rw [List.filterMap_map]
  exact List.filterMap_eq_nil_iff.mpr fun _ _ => rfl

@[simp]
theorem filterMap_outage?_event (events : List (Event Request Frame)) :
    (events.map event).filterMap outage? = [] := by
  rw [List.filterMap_map]
  exact List.filterMap_eq_nil_iff.mpr fun _ _ => rfl

@[simp]
theorem filterMap_outage?_outage (failures : List Failure) :
    (failures.map outage).filterMap outage? = failures := by
  rw [List.filterMap_map]
  exact List.filterMap_some

@[simp]
theorem filterMap_failure?_event (events : List (Event Request Frame)) :
    (events.map event).filterMap failure? = events.filterMap ZWave.failure? := by
  rw [List.filterMap_map]
  rfl

@[simp]
theorem filterMap_failure?_outage (failures : List Failure) :
    (failures.map outage).filterMap failure? = failures := by
  rw [List.filterMap_map]
  exact List.filterMap_some

end Happening

/-- A network with the run of its session and a log of what happened to both. -/
structure Watched where
  network : Network
  run : Run
  log : List Happening := []

namespace Watched

/-- A new network, whose session has been asked for the nodes and nothing else. -/
def start (ackTimeout answerTimeout : Nat) (controller : Byte) : Watched where
  network := .start 0 { ackTimeout, answerTimeout } controller
  run := (Run.start ackTimeout answerTimeout).act (.operate (.submit .listNodes))

/-- What is seen after some time and an operation: the run has gone on by the stretch of the
operation, and the log by the failure of the port and by the events that are new in the run. -/
def step (watched : Watched) (wait : Nat) (operation : Network.Operation) : Watched :=
  let now := watched.run.now + wait
  let run := (watched.run.act (.advance wait)).follow (watched.network.actions now operation)
  { network := watched.network.perform now operation
    run
    log := watched.log ++ operation.outage?.toList.map .outage ++
      (run.events.drop watched.run.events.length).map .event }

def follow (watched : Watched) (schedule : List (Nat × Network.Operation)) : Watched :=
  schedule.foldl (fun watched (wait, operation) => watched.step wait operation) watched

/-- What is right whenever a network has been watched from its start. -/
structure Faithful (watched : Watched) : Prop where
  session : watched.run.session = watched.network.session
  quiet : watched.network.session.events = []
  addressed : watched.network.directory.Addressed
  events : watched.log.filterMap Happening.event? = watched.run.events
  alarms : watched.network.alarms = watched.log.filterMap Happening.failure?

theorem faithful_start (ackTimeout answerTimeout : Nat) (controller : Byte) :
    (start ackTimeout answerTimeout controller).Faithful :=
  ⟨rfl, rfl, Directory.addressed_empty, rfl, rfl⟩

namespace Faithful

variable {watched : Watched} (faithful : watched.Faithful) (wait : Nat)
  (operation : Network.Operation)

include faithful

theorem events_eq_taken : watched.run.events = watched.run.eventsTaken := by
  rw [Run.events, faithful.session, faithful.quiet, List.append_nil]

/-- A step goes on with the run by what the network does with its session. -/
theorem run_step :
    (watched.step wait operation).run.session = (watched.step wait operation).network.session ∧
      (watched.step wait operation).run.now = watched.run.now + wait ∧
      (watched.step wait operation).run.eventsTaken = watched.run.eventsTaken ++
        watched.network.raised (watched.run.now + wait) operation := by
  have waited : (watched.run.act (.advance wait)).session = watched.network.session :=
    faithful.session
  exact Network.follow_actions waited faithful.addressed faithful.quiet operation

theorem quiet_step : (watched.step wait operation).network.session.events = [] := by
  rw [step, Network.perform_eq faithful.addressed faithful.quiet]
  exact Network.events_settle _ _

theorem events_step :
    (watched.step wait operation).run.events =
      watched.run.events ++ watched.network.raised (watched.run.now + wait) operation := by
  obtain ⟨session, _, taken⟩ := faithful.run_step wait operation
  rw [faithful.events_eq_taken, Run.events, session, faithful.quiet_step wait operation, taken,
    List.append_nil]

theorem drop_events :
    (watched.step wait operation).run.events.drop watched.run.events.length =
      watched.network.raised (watched.run.now + wait) operation := by
  rw [faithful.events_step wait operation, List.drop_left]

theorem log_step :
    (watched.step wait operation).log =
      watched.log ++ operation.outage?.toList.map .outage ++
        (watched.network.raised (watched.run.now + wait) operation).map .event := by
  rw [← faithful.drop_events wait operation]
  rfl

protected theorem step : (watched.step wait operation).Faithful where
  session := (faithful.run_step wait operation).1
  quiet := faithful.quiet_step wait operation
  addressed := by
    rw [step, Network.directory_perform faithful.addressed faithful.quiet]
    exact faithful.addressed.foldl_heed _
  events := by
    rw [faithful.log_step, faithful.events_step, ← faithful.events]
    simp only [List.filterMap_append, Happening.filterMap_event?_outage,
      Happening.filterMap_event?_event, List.append_nil]
  alarms := by
    rw [faithful.log_step, step, Network.alarms_perform faithful.addressed faithful.quiet,
      faithful.alarms]
    simp only [List.filterMap_append, Happening.filterMap_failure?_outage,
      Happening.filterMap_failure?_event]

protected theorem follow (schedule : List (Nat × Network.Operation)) :
    (watched.follow schedule).Faithful := by
  apply List.foldlRecOn (motive := Faithful) schedule
  · exact faithful
  · rintro between faithful ⟨wait, operation⟩ _
    exact faithful.step wait operation

end Faithful

/-- A network that is watched from its start is seen as it is. -/
theorem faithful_follow (ackTimeout answerTimeout : Nat) (controller : Byte)
    (schedule : List (Nat × Network.Operation)) :
    ((start ackTimeout answerTimeout controller).follow schedule).Faithful :=
  (faithful_start ackTimeout answerTimeout controller).follow schedule

/-- The run that is watched is one of a session. -/
theorem exists_actions_follow (ackTimeout answerTimeout : Nat) (controller : Byte)
    (schedule : List (Nat × Network.Operation)) :
    ∃ actions, ((start ackTimeout answerTimeout controller).follow schedule).run =
      (Run.start ackTimeout answerTimeout).follow (.operate (.submit .listNodes) :: actions) := by
  apply List.foldlRecOn (motive := fun watched : Watched => ∃ actions, watched.run =
    (Run.start ackTimeout answerTimeout).follow (.operate (.submit .listNodes) :: actions)) schedule
  · exact ⟨[], rfl⟩
  · rintro watched ⟨earlier, followed⟩ ⟨wait, operation⟩ _
    refine ⟨earlier ++
      .advance wait :: watched.network.actions (watched.run.now + wait) operation, ?_⟩
    rw [← List.cons_append, Run.follow_append, ← followed]
    rfl

/-- The requests that a step puts in line: those that apply attributes, and those to which its
events lead. -/
theorem submitted_step (watched : Watched) (wait : Nat) (operation : Network.Operation) :
    (watched.step wait operation).run.submitted =
      watched.run.submitted ++ (operation.requests watched.network.directory ++
        watched.network.demanded (watched.run.now + wait) operation) := by
  rw [step, Run.submitted_follow, Network.submitted_actions, Run.submitted_act]
  simp [Action.submitted?]

theorem drop_submitted (watched : Watched) (wait : Nat) (operation : Network.Operation) :
    (watched.step wait operation).run.submitted.drop watched.run.submitted.length =
      operation.requests watched.network.directory ++
        watched.network.demanded (watched.run.now + wait) operation := by
  rw [submitted_step, List.drop_left]

end Watched

end RadioGateway.ZWave
