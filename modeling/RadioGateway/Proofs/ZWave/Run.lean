import RadioGateway.ZWave.Session

/-!
# Runs of a session

A run is any sequence of what the owner of a session can do: operate it, let time pass, and fetch
its output and its events. An operation breaks down into reactions, since one read may hold many
records. A run keeps all reactions in order, so that statements can be made about what was written
and reported when, and `Run.always` reduces a statement about runs to one about reactions.
-/

namespace RadioGateway.ZWave

open RadioGateway.Link

namespace Session

/-- What a session reacts to at once: an operation, or one decoding out of a read. -/
inductive Stimulus where
  | submit (request : Request)
  | hear (decoding : Decoding Frame)
  | expire
  | close
  deriving DecidableEq, Repr

def react (now : Nat) (session : Session) : Stimulus → Session
  | .submit request => session.submit now request
  | .hear decoding => session.onDecoding now decoding
  | .expire => session.expire now
  | .close => session.close

/-- The symbol that acknowledges or refuses what was heard. -/
def reply : Stimulus → Bytes
  | .hear (.corrupt _) => [Frame.symbolByte .nack]
  | .hear (.unsupported _) => [Frame.symbolByte .ack]
  | .hear (.frame _ _) => [Frame.symbolByte .ack]
  | _ => []

def Stimulus.submitted? : Stimulus → Option Request
  | submit request => some request
  | _ => none

/-- A stimulus with the session that it meets. -/
structure Reaction where
  now : Nat
  before : Session
  stimulus : Stimulus
  deriving DecidableEq, Repr

namespace Reaction

def after (reaction : Reaction) : Session := reaction.before.react reaction.now reaction.stimulus

/-- The bytes that a reaction appends to the output. -/
def written (reaction : Reaction) : Bytes :=
  reaction.after.output.drop reaction.before.output.length

def reported (reaction : Reaction) : List (Event Request Frame) :=
  reaction.after.events.drop reaction.before.events.length

/-- What a reaction writes besides its reply. -/
def transmission (reaction : Reaction) : Bytes :=
  reaction.written.drop (reply reaction.stimulus).length

end Reaction

def reactions (now : Nat) (session : Session) : List Stimulus → List Reaction
  | [] => []
  | stimulus :: later =>
      ⟨now, session, stimulus⟩ :: reactions now (session.react now stimulus) later

theorem stimuli_reactions (now : Nat) (session : Session) (stimuli : List Stimulus) :
    (reactions now session stimuli).map (·.stimulus) = stimuli := by
  induction stimuli generalizing session with
  | nil => rfl
  | cons stimulus later ih => exact congrArg (stimulus :: ·) (ih _)

theorem filterMap_reactions {β : Type} (view : Stimulus → Option β) (now : Nat) (session : Session)
    (stimuli : List Stimulus) :
    (reactions now session stimuli).filterMap (fun reaction => view reaction.stimulus) =
      stimuli.filterMap view := by
  conv => rhs; rw [← stimuli_reactions now session stimuli, List.filterMap_map]
  rfl

/-- The stimuli that an operation consists of. -/
def Operation.stimuli (session : Session) : Operation → List Stimulus
  | .submit request => [.submit request]
  | .receive bytes => (drain Frame.decode (session.received ++ bytes)).1.map .hear
  | .expire => [.expire]
  | .close => [.close]

def Operation.remainder (session : Session) : Operation → Bytes
  | .submit _ => session.received
  | .receive bytes => (drain Frame.decode (session.received ++ bytes)).2
  | .expire => session.received
  | .close => []

theorem received_transmitFrom (now : Nat) (session : Session) (requests : List Request) :
    (transmitFrom now session requests).received = session.received := by
  fun_induction transmitFrom now session requests with
  | case1 => rfl
  | case2 => rfl
  | case3 session head rest stamped free stamp payload failed ih => exact ih

theorem received_retransmit (now : Nat) (failure : Failure) (session : Session) :
    (session.retransmit now failure).received = session.received := by
  unfold retransmit
  split
  · rfl
  · exact received_transmitFrom ..
  · exact received_transmitFrom ..

/-- An operation is the reactions to its stimuli, and then leaves its remainder behind. -/
theorem perform_eq (now : Nat) (session : Session) (operation : Operation) :
    session.perform now operation =
      { (operation.stimuli session).foldl (react now) session with
        received := operation.remainder session } := by
  have same : ∀ after : Session, after.received = session.received →
      after = { after with received := session.received } := by
    intro after unchanged
    rw [← unchanged]
  cases operation with
  | submit request =>
      apply same
      simp only [perform, submit]
      split
      · exact received_transmitFrom ..
      · rfl
  | receive bytes =>
      simp only [perform, receive, Operation.stimuli, Operation.remainder, List.foldl_map]
      rfl
  | expire =>
      apply same
      simp only [perform, expire]
      split
      · exact received_retransmit ..
      · exact received_transmitFrom ..
      · rfl
  | close => rfl

/-- From a first session to a last one by reactions. Besides them, bytes stay unread, and output and
events are fetched. -/
inductive Reaches (first : Session) : List Reaction → Session → Prop where
  | nil : Reaches first [] first
  | react {history : List Reaction} {session : Session} (reaches : Reaches first history session)
      (now : Nat) (stimulus : Stimulus) :
      Reaches first (history ++ [⟨now, session, stimulus⟩]) (session.react now stimulus)
  | buffer {history : List Reaction} {session : Session} (reaches : Reaches first history session)
      (bytes : Bytes) : Reaches first history { session with received := bytes }
  | takeOutput {history : List Reaction} {session : Session}
      (reaches : Reaches first history session) : Reaches first history session.takeOutput.2
  | takeEvents {history : List Reaction} {session : Session}
      (reaches : Reaches first history session) : Reaches first history session.takeEvents.2

end Session

/-! ## Runs -/

inductive Action where
  | operate (operation : Session.Operation)
  | takeOutput
  | takeEvents
  | advance (duration : Nat)
  deriving DecidableEq, Repr

def Action.submitted? : Action → Option Request
  | operate (.submit request) => some request
  | _ => none

/-- A session with its clock, the reactions so far, and the output and events fetched so far. -/
structure Run where
  session : Session
  now : Nat := 0
  history : List Session.Reaction := []
  outputTaken : Bytes := []
  eventsTaken : List (Event Request Frame) := []
  deriving DecidableEq, Repr

namespace Run

open Session

def start (ackTimeout answerTimeout : Nat) : Run := { session := { ackTimeout, answerTimeout } }

def act (run : Run) : Action → Run
  | .operate operation =>
      { run with
        session := run.session.perform run.now operation
        history := run.history ++ reactions run.now run.session (operation.stimuli run.session) }
  | .takeOutput =>
      { run with
        session := run.session.takeOutput.2
        outputTaken := run.outputTaken ++ run.session.takeOutput.1 }
  | .takeEvents =>
      { run with
        session := run.session.takeEvents.2
        eventsTaken := run.eventsTaken ++ run.session.takeEvents.1 }
  | .advance duration => { run with now := run.now + duration }

def follow (run : Run) (actions : List Action) : Run := actions.foldl act run

def react (run : Run) (stimulus : Stimulus) : Run :=
  { run with
    session := run.session.react run.now stimulus
    history := run.history ++ [⟨run.now, run.session, stimulus⟩] }

/-- All events that were reported, whether they have been fetched or not. -/
def events (run : Run) : List (Event Request Frame) := run.eventsTaken ++ run.session.events

def output (run : Run) : Bytes := run.outputTaken ++ run.session.output

def submitted (run : Run) : List Request := run.history.filterMap (·.stimulus.submitted?)

theorem foldl_react (run : Run) (stimuli : List Stimulus) :
    stimuli.foldl react run =
      { run with
        session := stimuli.foldl (Session.react run.now) run.session
        history := run.history ++ reactions run.now run.session stimuli } := by
  induction stimuli generalizing run with
  | nil => simp [reactions]
  | cons stimulus later ih =>
      rw [List.foldl_cons, ih]
      simp [react, reactions]

theorem act_operate (run : Run) (operation : Operation) :
    run.act (.operate operation) =
      let reacted := (operation.stimuli run.session).foldl react run
      { reacted with
        session := { reacted.session with received := operation.remainder run.session } } := by
  simp only [act, perform_eq, foldl_react]

/-- What holds of a new session, and is kept by every reaction, by changes of the receive buffer, by
fetching and by time, holds of every run. -/
theorem always (Holds : Run → Prop) (ackTimeout answerTimeout : Nat)
    (atStart : Holds (start ackTimeout answerTimeout))
    (reacting : ∀ run stimulus, Holds run → Holds (run.react stimulus))
    (buffering : ∀ run bytes, Holds run →
      Holds { run with session := { run.session with received := bytes } })
    (fetchingOutput : ∀ run, Holds run → Holds (run.act .takeOutput))
    (fetchingEvents : ∀ run, Holds run → Holds (run.act .takeEvents))
    (waiting : ∀ run duration, Holds run → Holds (run.act (.advance duration)))
    (actions : List Action) : Holds ((start ackTimeout answerTimeout).follow actions) := by
  have reactingAll : ∀ (stimuli : List Stimulus) (run : Run), Holds run →
      Holds (stimuli.foldl react run) := by
    intro stimuli
    induction stimuli with
    | nil => exact fun _ holds => holds
    | cons stimulus later ih => exact fun run holds => ih _ (reacting run stimulus holds)
  have acting : ∀ run action, Holds run → Holds (run.act action) := by
    intro run action holds
    cases action with
    | operate operation =>
        rw [act_operate]
        exact buffering _ _ (reactingAll _ run holds)
    | takeOutput => exact fetchingOutput run holds
    | takeEvents => exact fetchingEvents run holds
    | advance duration => exact waiting run duration holds
  generalize start ackTimeout answerTimeout = run at atStart
  induction actions generalizing run with
  | nil => exact atStart
  | cons action later ih => exact ih _ (acting run action atStart)

/-- What a new session has, and keeps whatever happens to it, it has before every reaction of a run
and at the end. -/
theorem always_session (Holds : Nat → Session → Prop) (ackTimeout answerTimeout : Nat)
    (atStart : Holds 0 { ackTimeout, answerTimeout })
    (reacting : ∀ now session stimulus, Holds now session → Holds now (session.react now stimulus))
    (buffering : ∀ now session received output events, Holds now session →
      Holds now { session with received, output, events })
    (waiting : ∀ now duration session, Holds now session → Holds (now + duration) session)
    (actions : List Action) :
    let run := (start ackTimeout answerTimeout).follow actions
    Holds run.now run.session ∧ ∀ reaction ∈ run.history, Holds reaction.now reaction.before := by
  refine always (fun run => Holds run.now run.session ∧
    ∀ reaction ∈ run.history, Holds reaction.now reaction.before) ackTimeout answerTimeout
    ?_ ?_ ?_ ?_ ?_ ?_ actions
  · exact ⟨atStart, fun reaction none => absurd none List.not_mem_nil⟩
  · rintro run stimulus ⟨holds, before⟩
    refine ⟨reacting _ _ stimulus holds, fun reaction member => ?_⟩
    rcases List.mem_append.mp member with earlier | last
    · exact before reaction earlier
    · rw [List.mem_singleton.mp last]
      exact holds
  · exact fun run bytes ⟨holds, before⟩ => ⟨buffering _ _ bytes _ _ holds, before⟩
  · exact fun run ⟨holds, before⟩ => ⟨buffering _ _ _ [] _ holds, before⟩
  · exact fun run ⟨holds, before⟩ => ⟨buffering _ _ _ _ [] holds, before⟩
  · exact fun run duration ⟨holds, before⟩ => ⟨waiting _ duration _ holds, before⟩

/-- The history of a run leads from the new session to the one that is there at the end. -/
theorem reaches_follow (ackTimeout answerTimeout : Nat) (actions : List Action) :
    let run := (start ackTimeout answerTimeout).follow actions
    Reaches { ackTimeout, answerTimeout } run.history run.session := by
  refine always (fun run => Reaches { ackTimeout, answerTimeout } run.history run.session)
    ackTimeout answerTimeout .nil ?_ ?_ ?_ ?_ ?_ actions
  · exact fun run stimulus reaches => reaches.react run.now stimulus
  · exact fun _ bytes reaches => reaches.buffer bytes
  · exact fun _ reaches => reaches.takeOutput
  · exact fun _ reaches => reaches.takeEvents
  · exact fun _ _ reaches => reaches

/-- A session that a run went through, with the time and with the reactions before it: it is what met
one of the reactions, or what is there at the end. -/
inductive Passes (run : Run) : List Reaction → Nat → Session → Prop where
  | met {earlier later : List Reaction} {reaction : Reaction}
      (split : run.history = earlier ++ reaction :: later) :
      Passes run earlier reaction.now reaction.before
  | last : Passes run run.history run.now run.session

/-- A reaction out of a longer history is the last one or one of those before it. -/
theorem split_concat {history earlier later : List Reaction} {last reaction : Reaction}
    (split : history ++ [last] = earlier ++ reaction :: later) :
    (∃ between, history = earlier ++ reaction :: between) ∨ earlier = history ∧ reaction = last := by
  rcases List.eq_nil_or_concat later with rfl | ⟨between, final, rfl⟩
  · obtain ⟨rfl, same⟩ := List.append_inj' split rfl
    cases same
    exact .inr ⟨rfl, rfl⟩
  · rw [List.concat_eq_append, ← List.cons_append, ← List.append_assoc] at split
    exact .inl ⟨between, (List.append_inj' split rfl).1⟩

theorem passes_react {run : Run} {stimulus : Stimulus} {earlier : List Reaction} {now : Nat}
    {session : Session} (passes : (run.react stimulus).Passes earlier now session) :
    run.Passes earlier now session ∨
      (earlier = run.history ++ [⟨run.now, run.session, stimulus⟩] ∧ now = run.now ∧
        session = run.session.react run.now stimulus) := by
  cases passes with
  | last => exact .inr ⟨rfl, rfl, rfl⟩
  | met split =>
      rcases split_concat split with ⟨between, before⟩ | ⟨rfl, rfl⟩
      · exact .inl (.met before)
      · exact .inl .last

theorem submitted_react (run : Run) (stimulus : Stimulus) :
    (run.react stimulus).submitted = run.submitted ++ stimulus.submitted?.toList := by
  cases asked : stimulus.submitted? <;> simp [submitted, react, asked]

theorem submitted_reactions_hear (now : Nat) (session : Session)
    (decodings : List (Decoding Frame)) :
    (reactions now session (decodings.map .hear)).filterMap (·.stimulus.submitted?) = [] := by
  rw [filterMap_reactions, List.filterMap_map]
  exact List.filterMap_eq_nil_iff.mpr fun _ _ => rfl

theorem submitted_act (run : Run) (action : Action) :
    (run.act action).submitted = run.submitted ++ action.submitted?.toList := by
  cases action with
  | operate operation =>
      cases operation with
      | receive bytes =>
          simp only [submitted, act, Operation.stimuli, List.filterMap_append,
            submitted_reactions_hear, Action.submitted?, Option.toList_none]
      | submit request =>
          simp [submitted, act, Operation.stimuli, reactions, Stimulus.submitted?,
            Action.submitted?]
      | expire =>
          simp [submitted, act, Operation.stimuli, reactions, Stimulus.submitted?,
            Action.submitted?]
      | close =>
          simp [submitted, act, Operation.stimuli, reactions, Stimulus.submitted?,
            Action.submitted?]
  | takeOutput => simp [submitted, act, Action.submitted?]
  | takeEvents => simp [submitted, act, Action.submitted?]
  | advance duration => simp [submitted, act, Action.submitted?]

theorem submitted_follow (run : Run) (actions : List Action) :
    (run.follow actions).submitted = run.submitted ++ actions.filterMap Action.submitted? := by
  induction actions generalizing run with
  | nil => simp [follow]
  | cons action later ih =>
      rw [show run.follow (action :: later) = (run.act action).follow later from rfl, ih,
        submitted_act]
      cases asked : action.submitted? <;> simp [asked]

theorem unclosed_follow (run : Run) (actions : List Action) (unclosed : .operate .close ∉ actions)
    (before : ∀ reaction ∈ run.history, reaction.stimulus ≠ .close) :
    ∀ reaction ∈ (run.follow actions).history, reaction.stimulus ≠ .close := by
  induction actions generalizing run with
  | nil => exact before
  | cons action later ih =>
      rw [List.mem_cons, not_or] at unclosed
      refine ih (run.act action) unclosed.2 ?_
      cases action with
      | operate operation =>
          intro reaction member
          rcases List.mem_append.mp member with earlier | new
          · exact before reaction earlier
          · have among := List.mem_map_of_mem (f := (·.stimulus)) new
            rw [stimuli_reactions] at among
            rintro close
            rw [close] at among
            cases operation with
            | close => exact unclosed.1 rfl
            | _ => simp [Operation.stimuli] at among
      | _ => exact before

end Run

end RadioGateway.ZWave
