import RadioGateway.Proofs.ZWave.Run

/-!
# What a reaction does

Between two reactions a session is steady: it is at rest, or its head is under way and a timer runs
for it. From a steady session a reaction has one of nine effects, each with the events that it
reports and the copy of a frame that it transmits. What is proved of runs is proved once for each
effect.
-/

namespace RadioGateway.ZWave

open RadioGateway.Link

namespace Request

/-- Whether a request has the ticket that it needs. -/
def Stamped (request : Request) : Prop :=
  request.needsConfirmation = true → request.ticket?.isSome = true

theorem stamped_stamp (free : Byte) (request : Request) : (request.stamp free).1.Stamped := by
  intro needs
  cases request with
  | deliver delivery => cases given : delivery.ticket <;> simp [stamp, given, ticket?]
  | listNodes => cases needs
  | describeNode node => cases needs
  | askNode node => cases needs

theorem stamp_of_stamped (free : Byte) {request : Request} (stamped : request.Stamped) :
    request.stamp free = (request, free) := by
  cases request with
  | deliver delivery =>
      obtain ⟨ticket, given⟩ := Option.isSome_iff_exists.mp (stamped rfl)
      simp only [ticket?] at given
      simp [stamp, given]
  | listNodes => rfl
  | describeNode node => rfl
  | askNode node => rfl

theorem of_stamp {free next : Byte} {request stamped : Request}
    (stamp : request.stamp free = (stamped, next)) :
    stamped.withoutTicket = request.withoutTicket ∧ stamped.Stamped := by
  have same := withoutTicket_stamp free request
  have isStamped := stamped_stamp free request
  rw [stamp] at same isStamped
  exact ⟨same, isStamped⟩

/-- Tickets are no part of what is asked for. -/
theorem function_eq {request other : Request}
    (same : request.withoutTicket = other.withoutTicket) :
    request.function = other.function ∧ request.needsConfirmation = other.needsConfirmation := by
  have kept : ∀ request : Request, request.withoutTicket.function = request.function ∧
      request.withoutTicket.needsConfirmation = request.needsConfirmation := by
    intro request
    cases request <;> exact ⟨rfl, rfl⟩
  rw [← (kept request).1, ← (kept request).2, same]
  exact kept other

end Request

namespace Session

@[simp]
theorem write_nil (session : Session) : session.write [] = session := by simp [write]

/-! ## Relations -/

theorem relation_eq_answer_iff (request : Request) (frame : Frame) :
    relation request frame = .answer ↔
      frame.function = request.function ∧ frame.kind = .response := by
  unfold relation
  by_cases same : frame.function = request.function
  · cases kind : frame.kind with
    | response => simp [same]
    | request =>
        cases request.ticket? with
        | none => simp
        | some ticket =>
            by_cases first : frame.payload.head? = some ticket <;> simp [same, first]
  · simp [same]

theorem relation_eq_confirmation_iff (request : Request) (frame : Frame) :
    relation request frame = .confirmation ↔
      frame.function = request.function ∧ frame.kind = .request ∧
        ∃ ticket, request.ticket? = some ticket ∧ frame.payload.head? = some ticket := by
  unfold relation
  by_cases same : frame.function = request.function
  · cases kind : frame.kind with
    | response => simp [same]
    | request =>
        cases given : request.ticket? with
        | none => simp [same]
        | some ticket =>
            by_cases first : frame.payload.head? = some ticket <;> simp [same, first]
  · simp [same]

/-! ## Steady sessions -/

/-- At rest, or with the head under way and a timer that ends before long. -/
inductive Steady (now : Nat) (session : Session) : Prop where
  | atRest (empty : session.backlog = {})
  | underWay {head : Request} {rest : List Request} {deadline : Nat} {copy : Bytes}
      (line : session.backlog.requests = head :: rest)
      (phase : session.backlog.phase = .transmission ∧
          session.backlog.failures < maxTransmissions ∨
        session.backlog.phase = .completion ∧ session.backlog.failures = 0)
      (timer : session.backlog.deadline = some deadline)
      (soon : deadline ≤ now + max session.ackTimeout session.answerTimeout)
      (stamped : head.Stamped)
      (fits : head.frame.encode = .ok copy)

namespace Steady

variable {now : Nat} {session : Session}

/-- Steadiness says nothing about buffers and tickets. -/
theorem congr {other : Session} (steady : Steady now session)
    (backlog : other.backlog = session.backlog)
    (ackTimeout : other.ackTimeout = session.ackTimeout)
    (answerTimeout : other.answerTimeout = session.answerTimeout) : Steady now other := by
  cases steady with
  | atRest empty => exact .atRest (backlog.trans empty)
  | underWay line phase timer soon stamped fits =>
      refine .underWay (backlog ▸ line) ?_ (backlog ▸ timer) ?_ stamped fits
      · rw [backlog]
        exact phase
      · rw [ackTimeout, answerTimeout]
        exact soon

theorem later (steady : Steady now session) (duration : Nat) : Steady (now + duration) session := by
  cases steady with
  | atRest empty => exact .atRest empty
  | underWay line phase timer soon stamped fits =>
      exact .underWay line phase timer (by omega) stamped fits

theorem empty_of_idle (steady : Steady now session) (idle : session.backlog.phase = .idle) :
    session.backlog = {} := by
  cases steady with
  | atRest empty => exact empty
  | underWay line phase timer soon stamped fits =>
      rw [idle] at phase
      rcases phase with ⟨impossible, _⟩ | ⟨impossible, _⟩ <;> cases impossible

theorem empty_of_requests (steady : Steady now session) (none : session.backlog.requests = []) :
    session.backlog = {} := by
  cases steady with
  | atRest empty => exact empty
  | underWay line phase timer soon stamped fits =>
      rw [none] at line
      cases line

/-- A session that waits has a head that is stamped and fits into a frame. -/
theorem head (steady : Steady now session) (busy : session.backlog.phase ≠ .idle) :
    ∃ head rest copy, session.backlog.requests = head :: rest ∧ head.Stamped ∧
      head.frame.encode = .ok copy := by
  cases steady with
  | atRest empty =>
      rw [empty] at busy
      exact absurd rfl busy
  | underWay line phase timer soon stamped fits => exact ⟨_, _, _, line, stamped, fits⟩

end Steady

/-! ## Effects -/

/-- How the line moves on when nothing is under way: requests that no frame can hold are given up,
and the first of the others is transmitted. The parts are the events reported, the copy of a frame
that is transmitted, and the session afterwards. -/
inductive Passage (now : Nat) :
    Session → List Request → List (Event Request Frame) → Bytes → Session → Prop where
  | empty {session : Session} : Passage now session [] [] [] { session with backlog := {} }
  | sent {session : Session} {head stamped : Request} {rest : List Request} {free : Byte}
      {copy : Bytes} (stamp : head.stamp session.freeTicket = (stamped, free))
      (fits : stamped.frame.encode = .ok copy) :
      Passage now session (head :: rest) [] copy
        { session.write copy with
          freeTicket := free
          backlog :=
            { requests := stamped :: rest
              phase := .transmission
              deadline := some (now + session.ackTimeout) } }
  | dropped {session after : Session} {head stamped : Request} {rest : List Request} {free : Byte}
      {payload : Oversized} {failures : List (Event Request Frame)} {copy : Bytes}
      (stamp : head.stamp session.freeTicket = (stamped, free))
      (unfit : stamped.frame.encode = .error payload)
      (later : Passage now
        (({ session with freeTicket := free } : Session).emit
          (.failed stamped (.oversized payload))) rest failures copy after) :
      Passage now session (head :: rest) (.failed stamped (.oversized payload) :: failures) copy
        after

/-- Transmission moves the line on, from whatever line. -/
theorem passage_transmitFrom (now : Nat) (session : Session) (line requests : List Request) :
    ∃ failures copy, Passage now session requests failures copy
      (transmitFrom now { session with backlog := { requests := line } } requests) := by
  -- The line in the session is overwritten by every case, so that it may be any.
  induction requests generalizing session line with
  | nil => exact ⟨[], [], .empty⟩
  | cons head rest ih =>
      cases stamp : head.stamp session.freeTicket with
      | mk stamped free =>
          rw [transmitFrom]
          simp only [stamp]
          cases fits : stamped.frame.encode with
          | ok copy => exact ⟨[], copy, .sent stamp fits⟩
          | error payload =>
              obtain ⟨failures, copy, later⟩ := ih
                (({ session with freeTicket := free } : Session).emit
                  (.failed stamped (.oversized payload))) []
              exact ⟨_, copy, .dropped stamp fits later⟩

/-- A stimulus that speaks against the transmission of the head, with the failure that it means. -/
inductive Refusal : Stimulus → Failure → Prop where
  | nack : Refusal (.hear (.symbol .nack)) .rejected
  | cancel : Refusal (.hear (.symbol .cancel)) .rejected
  | expiry : Refusal .expire .expired

theorem Refusal.reply_eq {stimulus : Stimulus} {failure : Failure}
    (refusal : Refusal stimulus failure) : reply stimulus = [] := by
  cases refusal <;> rfl

/-- How the head of a session ends, with the event that tells of it. -/
inductive Ending (session : Session) (head : Request) :
    Stimulus → Event Request Frame → Prop where
  | answered {frame : Frame} {length : Nat} (answers : relation head frame = .answer)
      (once : head.needsConfirmation = false) :
      Ending session head (.hear (.frame frame length)) (.answered head frame)
  | confirmed {frame : Frame} {length : Nat} (confirms : relation head frame = .confirmation) :
      Ending session head (.hear (.frame frame length)) (.confirmed head frame)
  | exhausted {stimulus : Stimulus} {failure : Failure}
      (phase : session.backlog.phase = .transmission)
      (spent : maxTransmissions ≤ session.backlog.failures + 1)
      (refusal : Refusal stimulus failure) :
      Ending session head stimulus (.failed head failure)
  | unanswered (phase : session.backlog.phase = .completion) :
      Ending session head .expire (.failed head .expired)

/-- The stimuli that concern no request, frames and operations left aside. -/
def Idle (session : Session) : Stimulus → Prop
  | .hear .needMore => True
  | .hear (.discard _) => True
  | .hear (.corrupt _) => True
  | .hear (.unsupported _) => True
  | .hear (.symbol _) => session.backlog.phase ≠ .transmission
  | .expire => session.backlog = {}
  | _ => False

/-- What becomes of a session in one reaction, with the events that it reports and the copy of a
frame that it transmits after its reply. -/
inductive Effect (now : Nat) (session : Session) :
    Stimulus → List (Event Request Frame) → Bytes → Session → Prop where
  | ignored {stimulus : Stimulus} (idle : session.Idle stimulus) :
      Effect now session stimulus [] [] (session.write (reply stimulus))
  | unsolicited {frame : Frame} {length : Nat}
      (foreign : ∀ head ∈ session.backlog.head?, relation head frame = .foreign) :
      Effect now session (.hear (.frame frame length)) [.unsolicited frame] []
        ((session.write [Frame.symbolByte .ack]).emit (.unsolicited frame))
  | queued {request : Request} (busy : session.backlog.requests ≠ []) :
      Effect now session (.submit request) [] []
        { session with backlog := session.backlog.enqueue request }
  | begun {request : Request} {failures : List (Event Request Frame)} {copy : Bytes}
      {after : Session} (empty : session.backlog = {})
      (passage : Passage now session [request] failures copy after) :
      Effect now session (.submit request) failures copy after
  | acknowledged (phase : session.backlog.phase = .transmission) :
      Effect now session (.hear (.symbol .ack)) [] [] (session.awaitCompletion now)
  /-- The controller says that it took a delivery. -/
  | answered {head : Request} {rest : List Request} {frame : Frame} {length : Nat}
      (line : session.backlog.requests = head :: rest) (answers : relation head frame = .answer)
      (twice : head.needsConfirmation = true) :
      Effect now session (.hear (.frame frame length)) [.answered head frame] []
        (((session.write [Frame.symbolByte .ack]).awaitCompletion now).emit
          (.answered head frame))
  | repeated {head : Request} {rest : List Request} {copy : Bytes} {stimulus : Stimulus}
      {failure : Failure} (line : session.backlog.requests = head :: rest)
      (phase : session.backlog.phase = .transmission)
      (spare : session.backlog.failures + 1 < maxTransmissions)
      (stamped : head.Stamped) (fits : head.frame.encode = .ok copy)
      (refusal : Refusal stimulus failure) :
      Effect now session stimulus [] copy
        { session.write copy with
          backlog := { session.backlog with failures := session.backlog.failures + 1 }.arm
            .transmission (now + session.ackTimeout) }
  | finished {head : Request} {rest : List Request} {stimulus : Stimulus}
      {event : Event Request Frame} {failures : List (Event Request Frame)} {copy : Bytes}
      {after : Session} (line : session.backlog.requests = head :: rest)
      (ending : Ending session head stimulus event)
      (passage : Passage now ((session.write (reply stimulus)).emit event) rest failures copy
        after) :
      Effect now session stimulus (event :: failures) copy after
  | closed :
      Effect now session .close (session.backlog.requests.map (.failed · .closed)) []
        session.close

/-- That a reaction has an effect, whatever it reports and transmits. -/
def HasEffect (now : Nat) (session : Session) (stimulus : Stimulus) (after : Session) : Prop :=
  ∃ reported copy, Effect now session stimulus reported copy after

/-- A head that has its ticket and fits into a frame is transmitted as it stands. -/
theorem transmitFrom_stamped (now : Nat) (session : Session) {head : Request}
    (rest : List Request) {copy : Bytes} (stamped : head.Stamped)
    (fits : head.frame.encode = .ok copy) :
    transmitFrom now session (head :: rest) =
      { session.write copy with
        backlog := { session.backlog with requests := head :: rest }.arm .transmission
          (now + session.ackTimeout) } := by
  rw [transmitFrom, Request.stamp_of_stamped _ stamped]
  simp only [fits, write]

theorem effect_complete {now : Nat} {session : Session} {stimulus : Stimulus}
    {event : Event Request Frame} {head : Request} {rest : List Request}
    (line : session.backlog.requests = head :: rest)
    (ending : Ending session head stimulus event) :
    HasEffect now session stimulus ((session.write (reply stimulus)).complete now event) := by
  have tail : (session.write (reply stimulus)).backlog.dequeue.requests = rest := by
    simp [write, line]
  rw [complete, transmit, emit, tail]
  obtain ⟨failures, copy, passage⟩ :=
    passage_transmitFrom now ((session.write (reply stimulus)).emit event)
      session.backlog.requests.tail rest
  exact ⟨event :: failures, copy, .finished line ending passage⟩

theorem effect_retransmit {now : Nat} {session : Session} {stimulus : Stimulus} {failure : Failure}
    (steady : Steady now session) (phase : session.backlog.phase = .transmission)
    (refusal : Refusal stimulus failure) :
    HasEffect now session stimulus (session.retransmit now failure) := by
  obtain ⟨head, rest, copy, line, stamped, fits⟩ := steady.head (by rw [phase]; simp)
  by_cases spare : session.backlog.failures + 1 < maxTransmissions
  · have repeated : session.retransmit now failure =
        { session.write copy with
          backlog := { session.backlog with failures := session.backlog.failures + 1 }.arm
            .transmission (now + session.ackTimeout) } := by
      simp only [retransmit, Backlog.recordFailure, Backlog.disarm, line, spare, if_true, transmit]
      rw [transmitFrom_stamped now _ rest stamped fits]
      simp [write, Backlog.arm]
    rw [repeated]
    exact ⟨[], copy, .repeated line phase spare stamped fits refusal⟩
  · have finished : session.retransmit now failure =
        (session.write (reply stimulus)).complete now (.failed head failure) := by
      rw [refusal.reply_eq, write_nil]
      simp only [retransmit, Backlog.recordFailure, Backlog.disarm, line, spare, if_false, complete,
        Backlog.dequeue]
    rw [finished]
    exact effect_complete line (.exhausted phase (Nat.le_of_not_lt spare) refusal)

theorem effect_ignored {now : Nat} {session : Session} {stimulus : Stimulus}
    (idle : session.Idle stimulus) (silent : reply stimulus = []) :
    HasEffect now session stimulus session := by
  have ignored : Effect now session stimulus [] [] _ := .ignored idle
  rw [silent, write_nil] at ignored
  exact ⟨[], [], ignored⟩

theorem effect_onSymbol {now : Nat} {session : Session} (steady : Steady now session)
    (symbol : Symbol) :
    HasEffect now session (.hear (.symbol symbol)) (session.onSymbol now symbol) := by
  unfold onSymbol
  by_cases phase : session.backlog.phase = .transmission
  · rw [if_pos phase]
    cases symbol with
    | ack => exact ⟨[], [], .acknowledged phase⟩
    | nack => exact effect_retransmit steady phase .nack
    | cancel => exact effect_retransmit steady phase .cancel
  · rw [if_neg phase]
    exact effect_ignored phase rfl

theorem effect_onFrame (now : Nat) (session : Session) (frame : Frame) (length : Nat) :
    HasEffect now session (.hear (.frame frame length))
      ((session.write [Frame.symbolByte .ack]).onFrame now frame) := by
  have same : (session.write [Frame.symbolByte .ack]).backlog = session.backlog := rfl
  unfold onFrame
  rw [same]
  cases line : session.backlog.requests with
  | nil =>
      simp only [Backlog.head?, line, List.head?_nil]
      exact ⟨_, _, .unsolicited (by simp [Backlog.head?, line])⟩
  | cons head rest =>
      simp only [Backlog.head?, line, List.head?_cons]
      cases related : relation head frame with
      | answer =>
          cases needs : head.needsConfirmation with
          | true => exact ⟨_, _, .answered line related needs⟩
          | false => exact effect_complete line (.answered related needs)
      | confirmation => exact effect_complete line (.confirmed related)
      | foreign => exact ⟨_, _, .unsolicited (by simp [Backlog.head?, line, related])⟩

theorem effect_expire {now : Nat} {session : Session} (steady : Steady now session) :
    HasEffect now session .expire (session.expire now) := by
  unfold expire
  cases phase : session.backlog.phase with
  | transmission => exact effect_retransmit steady phase .expiry
  | completion =>
      obtain ⟨head, rest, copy, line, stamped, fits⟩ := steady.head (by rw [phase]; simp)
      have finished : HasEffect now session .expire _ := effect_complete line (.unanswered phase)
      rw [show reply .expire = [] from rfl, write_nil] at finished
      simpa only [line] using finished
  | idle => exact effect_ignored (steady.empty_of_idle phase) rfl

theorem effect_submit {now : Nat} {session : Session} (steady : Steady now session)
    (request : Request) :
    HasEffect now session (.submit request) (session.submit now request) := by
  unfold submit
  cases line : session.backlog.requests with
  | nil =>
      have empty := steady.empty_of_requests line
      obtain ⟨failures, copy, passage⟩ := passage_transmitFrom now session [request] [request]
      refine ⟨failures, copy, .begun empty ?_⟩
      simpa [Backlog.isEmpty, Backlog.enqueue, empty, transmit] using passage
  | cons head rest =>
      have queued : Effect now session (.submit request) [] [] _ := .queued (by rw [line]; simp)
      refine ⟨[], [], ?_⟩
      simpa [Backlog.isEmpty, line] using queued

/-- Every reaction of a steady session has one of the effects. -/
theorem effect {now : Nat} {session : Session} (steady : Steady now session) (stimulus : Stimulus) :
    HasEffect now session stimulus (session.react now stimulus) := by
  cases stimulus with
  | submit request => exact effect_submit steady request
  | expire => exact effect_expire steady
  | close => exact ⟨_, _, .closed⟩
  | hear decoding =>
      cases decoding with
      | needMore => exact effect_ignored trivial rfl
      | discard length => exact effect_ignored trivial rfl
      | corrupt length => exact ⟨_, _, .ignored trivial⟩
      | unsupported length => exact ⟨_, _, .ignored trivial⟩
      | symbol symbol => exact effect_onSymbol steady symbol
      | frame frame length => exact effect_onFrame now session frame length

end Session

end RadioGateway.ZWave
