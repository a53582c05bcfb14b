import RadioGateway.EnOcean.Session

/-!
# Runs of a session

What a session does is a sequence of reactions, each to one operation or to one decoding out of a
read. A run keeps all of them in order, with the requests that were put in line and the events that
were reported, so that statements can be made about what was written and reported when.
-/

namespace RadioGateway.EnOcean

open RadioGateway.Link

namespace Session

/-- What a session reacts to at once: an operation, or one decoding out of a read. -/
inductive Stimulus where
  | submit (request : Request)
  | hear (decoding : Decoding Packet)
  | expire
  | close
  deriving DecidableEq, Repr

def react (now : Nat) (session : Session) : Stimulus → Session
  | .submit request => session.submit now request
  | .hear decoding => session.onDecoding now decoding
  | .expire => session.expire now
  | .close => session.close

def Stimulus.submitted? : Stimulus → Option Request
  | submit request => some request
  | _ => none

/-- A stimulus with the session that it meets. -/
structure Reaction where
  now : Nat
  before : Session
  stimulus : Stimulus
  deriving DecidableEq, Repr

namespace Reaction

def after (reaction : Reaction) : Session := reaction.before.react reaction.now reaction.stimulus

/-- The bytes that a reaction appends to the output. -/
def written (reaction : Reaction) : Bytes :=
  reaction.after.output.drop reaction.before.output.length

def reported (reaction : Reaction) : List (Event Request Packet) :=
  reaction.after.events.drop reaction.before.events.length

end Reaction

def reactions (now : Nat) (session : Session) : List Stimulus → List Reaction
  | [] => []
  | stimulus :: later =>
      ⟨now, session, stimulus⟩ :: reactions now (session.react now stimulus) later

theorem stimuli_reactions (now : Nat) (session : Session) (stimuli : List Stimulus) :
    (reactions now session stimuli).map (·.stimulus) = stimuli := by
  induction stimuli generalizing session with
  | nil => rfl
  | cons stimulus later ih => exact congrArg (stimulus :: ·) (ih _)

/-- The stimuli that an operation consists of. -/
def Operation.stimuli (session : Session) : Operation → List Stimulus
  | .submit request => [.submit request]
  | .receive bytes => (drain Packet.decode (session.received ++ bytes)).1.map .hear
  | .expire => [.expire]
  | .close => [.close]

def Operation.remainder (session : Session) : Operation → Bytes
  | .submit _ => session.received
  | .receive bytes => (drain Packet.decode (session.received ++ bytes)).2
  | .expire => session.received
  | .close => []

theorem received_transmitFrom (now : Nat) (session : Session) (requests : List Request) :
    (transmitFrom now session requests).received = session.received := by
  fun_induction transmitFrom now session requests with
  | case1 => rfl
  | case2 => rfl
  | case3 session head rest payload failed ih => exact ih

/-- An operation is the reactions to its stimuli, and then leaves its remainder behind. -/
theorem perform_eq (now : Nat) (session : Session) (operation : Operation) :
    session.perform now operation =
      { (operation.stimuli session).foldl (react now) session with
        received := operation.remainder session } := by
  have same : ∀ after : Session, after.received = session.received →
      after = { after with received := session.received } := by
    intro after unchanged
    rw [← unchanged]
  cases operation with
  | submit request =>
      apply same
      simp only [perform, submit]
      split
      · exact received_transmitFrom ..
      · rfl
  | receive bytes =>
      simp only [perform, receive, Operation.stimuli, Operation.remainder, List.foldl_map]
      rfl
  | expire =>
      apply same
      simp only [perform, expire]
      split
      · rfl
      · split
        · rfl
        · exact received_transmitFrom ..
        · exact received_transmitFrom ..
  | close => rfl

/-- From a first session to a last one by reactions. Besides them, bytes stay unread, and output and
events are fetched. -/
inductive Reaches (first : Session) : List Reaction → Session → Prop where
  | nil : Reaches first [] first
  | react {history : List Reaction} {session : Session} (reaches : Reaches first history session)
      (now : Nat) (stimulus : Stimulus) :
      Reaches first (history ++ [⟨now, session, stimulus⟩]) (session.react now stimulus)
  | buffer {history : List Reaction} {session : Session} (reaches : Reaches first history session)
      (bytes : Bytes) : Reaches first history { session with received := bytes }
  | takeOutput {history : List Reaction} {session : Session}
      (reaches : Reaches first history session) : Reaches first history session.takeOutput.2
  | takeEvents {history : List Reaction} {session : Session}
      (reaches : Reaches first history session) : Reaches first history session.takeEvents.2

end Session

inductive Action where
  | operate (operation : Session.Operation)
  | takeOutput
  | takeEvents
  | advance (duration : Nat)
  deriving DecidableEq, Repr

def Action.submitted? : Action → Option Request
  | operate (.submit request) => some request
  | _ => none

/-- A session with its clock, the reactions so far, and the output and events fetched so far. -/
structure Run where
  session : Session
  now : Nat := 0
  history : List Session.Reaction := []
  outputTaken : Bytes := []
  eventsTaken : List (Event Request Packet) := []
  deriving DecidableEq, Repr

namespace Run

open Session

def start (responseTimeout : Nat) : Run := { session := { responseTimeout } }

def act (run : Run) : Action → Run
  | .operate operation =>
      { run with
        session := run.session.perform run.now operation
        history := run.history ++ reactions run.now run.session (operation.stimuli run.session) }
  | .takeOutput =>
      { run with
        session := run.session.takeOutput.2
        outputTaken := run.outputTaken ++ run.session.takeOutput.1 }
  | .takeEvents =>
      { run with
        session := run.session.takeEvents.2
        eventsTaken := run.eventsTaken ++ run.session.takeEvents.1 }
  | .advance duration => { run with now := run.now + duration }

def follow (run : Run) (actions : List Action) : Run := actions.foldl act run

def react (run : Run) (stimulus : Stimulus) : Run :=
  { run with
    session := run.session.react run.now stimulus
    history := run.history ++ [⟨run.now, run.session, stimulus⟩] }

/-- All events that were reported, whether they have been fetched or not. -/
def events (run : Run) : List (Event Request Packet) := run.eventsTaken ++ run.session.events

def output (run : Run) : Bytes := run.outputTaken ++ run.session.output

def submitted (run : Run) : List Request := run.history.filterMap (·.stimulus.submitted?)

theorem foldl_react (run : Run) (stimuli : List Stimulus) :
    stimuli.foldl react run =
      { run with
        session := stimuli.foldl (Session.react run.now) run.session
        history := run.history ++ reactions run.now run.session stimuli } := by
  induction stimuli generalizing run with
  | nil => simp [reactions]
  | cons stimulus later ih =>
      rw [List.foldl_cons, ih]
      simp [react, reactions]

theorem act_operate (run : Run) (operation : Operation) :
    run.act (.operate operation) =
      let reacted := (operation.stimuli run.session).foldl react run
      { reacted with
        session := { reacted.session with received := operation.remainder run.session } } := by
  simp only [act, perform_eq, foldl_react]

/-- What holds of a new session, and is kept by every reaction, by changes of the receive buffer, by
fetching and by time, holds of every run. -/
theorem always (Holds : Run → Prop) (responseTimeout : Nat)
    (atStart : Holds (start responseTimeout))
    (reacting : ∀ run stimulus, Holds run → Holds (run.react stimulus))
    (buffering : ∀ run bytes, Holds run →
      Holds { run with session := { run.session with received := bytes } })
    (fetchingOutput : ∀ run, Holds run → Holds (run.act .takeOutput))
    (fetchingEvents : ∀ run, Holds run → Holds (run.act .takeEvents))
    (waiting : ∀ run duration, Holds run → Holds (run.act (.advance duration)))
    (actions : List Action) : Holds ((start responseTimeout).follow actions) := by
  refine List.foldlRecOn (motive := Holds) actions _ atStart fun run holds action _ => ?_
  cases action with
  | operate operation =>
      rw [act_operate]
      apply buffering
      exact List.foldlRecOn (motive := Holds) (operation.stimuli run.session) _ holds
        fun run holds stimulus _ => reacting run stimulus holds
  | takeOutput => exact fetchingOutput run holds
  | takeEvents => exact fetchingEvents run holds
  | advance duration => exact waiting run duration holds

/-- The history of a run leads from the new session to the one that is there at the end. -/
theorem reaches_follow (responseTimeout : Nat) (actions : List Action) :
    let run := (start responseTimeout).follow actions
    Reaches { responseTimeout } run.history run.session := by
  refine always (fun run => Reaches { responseTimeout } run.history run.session)
    responseTimeout .nil ?_ ?_ ?_ ?_ ?_ actions
  · exact fun run stimulus reaches => reaches.react run.now stimulus
  · exact fun _ bytes reaches => reaches.buffer bytes
  · exact fun _ reaches => reaches.takeOutput
  · exact fun _ reaches => reaches.takeEvents
  · exact fun _ _ reaches => reaches

theorem submitted_react (run : Run) (stimulus : Stimulus) :
    (run.react stimulus).submitted = run.submitted ++ stimulus.submitted?.toList := by
  cases asked : stimulus.submitted? <;> simp [submitted, react, asked]

theorem submitted_foldl_react (run : Run) (stimuli : List Stimulus) :
    (stimuli.foldl react run).submitted =
      run.submitted ++ stimuli.filterMap Stimulus.submitted? := by
  induction stimuli generalizing run with
  | nil => exact (List.append_nil _).symm
  | cons stimulus later ih =>
      rw [List.foldl_cons, ih, submitted_react]
      cases asked : stimulus.submitted? <;> simp [asked]

theorem submitted_act (run : Run) (action : Action) :
    (run.act action).submitted = run.submitted ++ action.submitted?.toList := by
  cases action with
  | operate operation =>
      have reacted : (run.act (.operate operation)).submitted =
          run.submitted ++ (operation.stimuli run.session).filterMap Stimulus.submitted? := by
        rw [act_operate]
        exact submitted_foldl_react run _
      rw [reacted]
      congr 1
      cases operation with
      | receive bytes =>
          rw [Operation.stimuli, List.filterMap_map]
          exact List.filterMap_eq_nil_iff.mpr fun _ _ => rfl
      | submit request => rfl
      | expire => rfl
      | close => rfl
  | takeOutput => exact (List.append_nil _).symm
  | takeEvents => exact (List.append_nil _).symm
  | advance duration => exact (List.append_nil _).symm

theorem submitted_follow (run : Run) (actions : List Action) :
    (run.follow actions).submitted = run.submitted ++ actions.filterMap Action.submitted? := by
  induction actions generalizing run with
  | nil => exact (List.append_nil _).symm
  | cons action later ih =>
      rw [show run.follow (action :: later) = (run.act action).follow later from rfl, ih,
        submitted_act]
      cases asked : action.submitted? <;> simp [asked]

theorem unclosed_follow (run : Run) (actions : List Action) (unclosed : .operate .close ∉ actions)
    (before : ∀ reaction ∈ run.history, reaction.stimulus ≠ .close) :
    ∀ reaction ∈ (run.follow actions).history, reaction.stimulus ≠ .close := by
  induction actions generalizing run with
  | nil => exact before
  | cons action later ih =>
      rw [List.mem_cons, not_or] at unclosed
      refine ih (run.act action) unclosed.2 ?_
      cases action with
      | operate operation =>
          intro reaction member
          rcases List.mem_append.mp member with earlier | new
          · exact before reaction earlier
          · have among := List.mem_map_of_mem (f := (·.stimulus)) new
            rw [stimuli_reactions] at among
            rintro close
            rw [close] at among
            cases operation with
            | close => exact unclosed.1 rfl
            | _ => simp [Operation.stimuli] at among
      | _ => exact before

end Run

end RadioGateway.EnOcean
