import RadioGateway.Proofs.ZWave.Appending
import RadioGateway.Proofs.ZWave.Conservation

/-!
# Deliveries complete in two phases

The controller answers a delivery when it takes the command, and reports the ticket when the node
has it. Only that report, or a failure, ends a delivery; the answer leaves it at the head and starts
its timer anew. As long as a request is the head, nothing behind it is transmitted.
-/

namespace RadioGateway.ZWave

open RadioGateway.Link

namespace Session

variable {now : Nat} {session after : Session} {stimulus : Stimulus} {requests : List Request}
  {reported failures : List (Event Request Frame)} {copy : Bytes}

/-- How a delivery leaves the line, with the event that tells of it. -/
inductive Release (session : Session) (delivery : Delivery) :
    Stimulus → Event Request Frame → Prop where
  | confirmed {frame : Frame} {length : Nat} {ticket : Byte}
      (first : session.backlog.head? = some (.deliver delivery))
      (given : delivery.ticket = some ticket) (kind : frame.kind = .request)
      (function : frame.function = Function.deliver) (reports : frame.payload.head? = some ticket) :
      Release session delivery (.hear (.frame frame length)) (.confirmed (.deliver delivery) frame)
  | refused {stimulus : Stimulus} {failure : Failure}
      (first : session.backlog.head? = some (.deliver delivery))
      (refusal : Refusal stimulus failure) :
      Release session delivery stimulus (.failed (.deliver delivery) failure)
  | oversized {stimulus : Stimulus} {payload : Oversized}
      (unfit : (Request.deliver delivery).frame.encode = .error payload) :
      Release session delivery stimulus (.failed (.deliver delivery) (.oversized payload))
  | closed : Release session delivery .close (.failed (.deliver delivery) .closed)

theorem release_of_passage (passage : Passage now session requests failures copy after)
    (before : Session) {delivery : Delivery} {event : Event Request Frame}
    (member : event ∈ failures) (settles : settled? event = some (.deliver delivery)) :
    Release before delivery stimulus event := by
  obtain ⟨request, payload, rfl, unfit⟩ := unfit_of_passage passage event member
  obtain rfl : request = .deliver delivery := Option.some.inj settles
  exact .oversized unfit

theorem release_of_ending {head : Request} {event : Event Request Frame} {delivery : Delivery}
    (first : session.backlog.head? = some head)
    (ending : Ending session head stimulus event)
    (settles : settled? event = some (.deliver delivery)) :
    Release session delivery stimulus event := by
  obtain rfl : head = .deliver delivery :=
    Option.some.inj ((settled?_of_ending ending).symm.trans settles)
  cases ending with
  | answered answers once => cases once
  | confirmed confirms =>
      obtain ⟨function, kind, ticket, given, reports⟩ :=
        (relation_eq_confirmation_iff _ _).mp confirms
      exact .confirmed first given kind function reports
  | exhausted phase spent refusal => exact .refused first refusal
  | unanswered phase => exact .refused first .expiry

/-- An effect releases a delivery only in one of these ways. -/
theorem release_of_effect (effect : Effect now session stimulus reported copy after)
    {delivery : Delivery} {event : Event Request Frame} (member : event ∈ reported)
    (settles : settled? event = some (.deliver delivery)) :
    Release session delivery stimulus event := by
  cases effect with
  | begun empty passage => exact release_of_passage passage session member settles
  | unsolicited foreign =>
      rw [List.mem_singleton.mp member] at settles
      cases settles
  | answered line answers twice =>
      rw [List.mem_singleton.mp member] at settles
      simp [settled?, twice] at settles
  | finished line ending passage =>
      rcases List.mem_cons.mp member with rfl | later
      · exact release_of_ending (by rw [Backlog.head?, line]; rfl) ending settles
      · exact release_of_passage passage session later settles
  | closed =>
      obtain ⟨request, _, rfl⟩ := List.mem_map.mp member
      obtain rfl : request = .deliver delivery := Option.some.inj settles
      exact .closed
  | _ => cases member

/-! ## The head blocks the line -/

/-- A head that no event settles stays the head. -/
theorem head_of_effect (effect : Effect now session stimulus reported copy after) {head : Request}
    (first : session.backlog.head? = some head) :
    (∃ event ∈ reported, settled? event = some head) ∨ after.backlog.head? = some head := by
  cases effect with
  | queued busy =>
      obtain ⟨other, rest, line⟩ := List.exists_cons_of_ne_nil busy
      right
      simpa [Backlog.head?, line] using first
  | begun empty passage =>
      rw [empty] at first
      cases first
  | @finished other rest stimulus event failures copy after line ending passage =>
      obtain rfl : other = head := by simpa [Backlog.head?, line] using first
      exact .inl ⟨event, List.mem_cons_self .., settled?_of_ending ending⟩
  | closed =>
      left
      refine ⟨.failed head .closed, List.mem_map.mpr ⟨head, ?_, rfl⟩, rfl⟩
      exact List.mem_of_mem_head? first
  | _ => exact .inr first

/-- As long as nothing settles the head, at most a copy of its own frame is transmitted. -/
theorem blocked_of_effect (effect : Effect now session stimulus reported copy after)
    {head : Request} (first : session.backlog.head? = some head)
    (unsettled : ∀ event ∈ reported, settled? event ≠ some head) :
    after.backlog.head? = some head ∧ (copy = [] ∨ head.frame.encode = .ok copy) := by
  rcases head_of_effect effect first with ⟨event, member, settles⟩ | stays
  · exact absurd settles (unsettled event member)
  · refine ⟨stays, ?_⟩
    rcases sent_of_effect effect with silent | ⟨leader, leads, fits⟩
    · exact .inl silent
    · rw [stays] at leads
      obtain rfl : head = leader := Option.some.inj leads
      exact .inr fits

/-- What a response does to a session whose head is a delivery: it leaves the line as it is and
transmits nothing. If it answers the delivery, then that is reported and the timer starts anew. -/
structure Response (now : Nat) (session : Session) (delivery : Delivery) (frame : Frame)
    (reported : List (Event Request Frame)) (after : Session) : Prop where
  line : after.backlog.requests = session.backlog.requests
  answers : frame.function = Function.deliver →
    reported = [.answered (.deliver delivery) frame] ∧
      after.backlog.head? = some (.deliver delivery) ∧
      after.backlog.phase = .completion ∧
      after.backlog.deadline = some (now + session.answerTimeout)
  foreign : frame.function ≠ Function.deliver →
    reported = [.unsolicited frame] ∧ after.backlog = session.backlog

/-- A response never ends a delivery at the head. -/
theorem response_of_effect {frame : Frame} {length : Nat} {delivery : Delivery}
    (effect : Effect now session (.hear (.frame frame length)) reported copy after)
    (kind : frame.kind = .response) (first : session.backlog.head? = some (.deliver delivery)) :
    copy = [] ∧ Response now session delivery frame reported after := by
  have concerns : relation (.deliver delivery) frame = .answer ↔
      frame.function = Function.deliver := by
    rw [relation_eq_answer_iff]
    exact ⟨fun ⟨same, _⟩ => same, fun same => ⟨same, kind⟩⟩
  cases effect with
  | ignored idle => exact absurd idle id
  | unsolicited foreign =>
      have unrelated := foreign (.deliver delivery) first
      refine ⟨rfl, rfl, fun same => ?_, fun _ => ⟨rfl, rfl⟩⟩
      rw [concerns.mpr same] at unrelated
      cases unrelated
  | @answered head rest frame length line answers twice =>
      obtain rfl : head = .deliver delivery := by simpa [Backlog.head?, line] using first
      exact ⟨rfl, rfl, fun _ => ⟨rfl, first, rfl, rfl⟩,
        fun other => absurd (concerns.mp answers) other⟩
  | repeated line phase spare stamped fits refusal => cases refusal
  | @finished head rest _ event failures copy after line ending passage =>
      obtain rfl : head = .deliver delivery := by simpa [Backlog.head?, line] using first
      cases ending with
      | answered answers once => cases once
      | confirmed confirms =>
          obtain ⟨_, other, _⟩ := (relation_eq_confirmation_iff _ _).mp confirms
          rw [kind] at other
          cases other
      | exhausted phase spent refusal => cases refusal

/-- The requests in line and the one put in line are those that are settled, in their order, and
those that stay in line. -/
theorem line_of_effect (effect : Effect now session stimulus reported copy after) :
    (session.backlog.requests ++ stimulus.submitted?.toList).map Request.withoutTicket =
      (reported.filterMap settled? ++ after.backlog.requests).map Request.withoutTicket := by
  have accounts := account_of_effect effect
  rw [account, (appends_of_effect effect).events] at accounts
  simpa [account] using accounts.symm

end Session

namespace Run

open Session

/-- A delivery leaves the line only when a later request of the controller reports its ticket, or
when it fails. A response, whatever it holds and however often it comes, only tells that the
controller took the delivery, which stays the head and is waited for anew. What is transmitted is
always a copy of the frame of the head, and a head stays the head until an event settles it. This is
so for every reaction on the way to the session that there is at the end, and nothing else settles a
request or, until the session is closed, writes anything. -/
theorem deliveries_complete_in_two_phases (ackTimeout answerTimeout : Nat)
    (actions : List Action) :
    let run := (start ackTimeout answerTimeout).follow actions
    Reaches { ackTimeout, answerTimeout } run.history run.session ∧
    run.events = run.history.flatMap Reaction.reported ∧
    (.operate .close ∉ actions → run.output = run.history.flatMap Reaction.written) ∧
    run.submitted.map Request.withoutTicket =
      (run.events.filterMap settled? ++ run.session.backlog.requests).map Request.withoutTicket ∧
    ∀ reaction ∈ run.history,
      let before := reaction.before.backlog
      let after := reaction.after.backlog
      (before.requests ++ reaction.stimulus.submitted?.toList).map Request.withoutTicket =
          (reaction.reported.filterMap settled? ++ after.requests).map Request.withoutTicket ∧
      (∀ event ∈ reaction.reported, ∀ delivery, settled? event = some (.deliver delivery) →
        Release reaction.before delivery reaction.stimulus event) ∧
      (∀ frame length delivery, reaction.stimulus = .hear (.frame frame length) →
        frame.kind = .response → before.head? = some (.deliver delivery) →
        reaction.transmission = [] ∧ reaction.before.answerTimeout = answerTimeout ∧
          Response reaction.now reaction.before delivery frame reaction.reported reaction.after) ∧
      Appends reaction.before reaction.stimulus reaction.after reaction.reported
        reaction.transmission ∧
      (reaction.transmission = [] ∨
        ∃ head, after.head? = some head ∧ head.frame.encode = .ok reaction.transmission) ∧
      ∀ head, before.head? = some head →
        (∀ event ∈ reaction.reported, settled? event ≠ some head) →
        after.head? = some head ∧
          (reaction.transmission = [] ∨ head.frame.encode = .ok reaction.transmission) := by
  intro run
  refine ⟨reaches_follow ackTimeout answerTimeout actions,
    events_follow ackTimeout answerTimeout actions, output_follow ackTimeout answerTimeout actions,
    line_follow ackTimeout answerTimeout actions, ?_⟩
  intro reaction member before after
  have timed := (timed_follow ackTimeout answerTimeout actions).2 reaction member
  have effect := reaction.effect timed.steady
  refine ⟨line_of_effect effect, ?_, ?_, appends_of_effect effect, sent_of_effect effect, ?_⟩
  · exact fun event reported delivery settles => release_of_effect effect reported settles
  · intro frame length delivery heard kind first
    rw [heard] at effect
    obtain ⟨silent, response⟩ := response_of_effect effect kind first
    exact ⟨silent, timed.answerTimeout, response⟩
  · exact fun head first unsettled => blocked_of_effect effect first unsettled

/-- A delivery that was answered is still the head, and the report of its ticket settles it. -/
example :
    let delivery : Delivery := { node := 7, command := [0x25, 0x01, 0xff], ticket := some 1 }
    let sent := (start 1500 5000).follow [.operate (.submit (.command 7 [0x25, 0x01, 0xff]))]
    let answered := sent.follow [.operate (.receive [0x01, 0x04, 0x01, 0x13, 0x01, 0xe8])]
    let confirmed :=
      answered.follow [.operate (.receive [0x01, 0x05, 0x00, 0x13, 0x01, 0x00, 0xe8])]
    answered.session.backlog.requests = [.deliver delivery] ∧
      confirmed.session.backlog.requests = [] ∧
      confirmed.events.filterMap settled? = [.deliver delivery] := by
  decide +kernel

end Run

end RadioGateway.ZWave
