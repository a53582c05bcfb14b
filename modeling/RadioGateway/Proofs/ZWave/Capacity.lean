import RadioGateway.Proofs.ZWave.Ledger
import RadioGateway.Proofs.ZWave.Recognition

/-!
# Commands that a frame can hold

The length of a command has one byte in the frame of its delivery, however long the command is. In
every frame that is transmitted this byte is right, because a frame holds less than one byte can
count. A delivery that no frame can hold is given up when its turn comes. Nothing is transmitted of
it, and the line moves on in the same reaction.
-/

namespace RadioGateway.ZWave

open RadioGateway.Link

namespace Frame

/-- The delivery that a frame asks for, with its ticket. -/
def delivery? (frame : Frame) : Option Delivery :=
  if frame.kind = .request ∧ frame.function = Function.deliver then
    match frame.payload with
    | node :: length :: rest =>
        match rest.drop length.toNat with
        | [options, ticket] =>
            some { node, command := rest.take length.toNat, options, ticket := some ticket }
        | _ => none
    | _ => none
  else none

theorem delivery?_eq {node length options ticket : Byte} {command : Bytes}
    (counted : length.toNat = command.length) :
    delivery? ⟨.request, Function.deliver, node :: length :: (command ++ [options, ticket])⟩ =
      some { node, command, options, ticket := some ticket } := by
  simp [delivery?, counted]

end Frame

namespace Request

def commandLength : Request → Nat
  | deliver delivery => delivery.command.length
  | _ => 0

theorem commandLength_eq {request other : Request}
    (same : request.withoutTicket = other.withoutTicket) :
    request.commandLength = other.commandLength := by
  have kept : ∀ request : Request, request.withoutTicket.commandLength = request.commandLength := by
    intro request
    cases request <;> rfl
  rw [← kept request, same, kept other]

/-- Whether a request delivers a command that no frame can hold. -/
def isOversized (request : Request) : Bool := 248 < request.commandLength

theorem isOversized_iff (request : Request) :
    request.isOversized = true ↔ 248 < request.commandLength := decide_eq_true_iff

theorem isOversized_eq_false_iff (request : Request) :
    request.isOversized = false ↔ request.commandLength ≤ 248 := by
  rw [← Bool.not_eq_true, isOversized_iff, Nat.not_lt]

theorem isOversized_eq {request other : Request}
    (same : request.withoutTicket = other.withoutTicket) :
    request.isOversized = other.isOversized := by
  rw [isOversized, isOversized, commandLength_eq same]

theorem exists_of_isOversized {request : Request} (oversized : request.isOversized = true) :
    ∃ delivery, request = .deliver delivery ∧ 248 < delivery.command.length := by
  rw [isOversized_iff] at oversized
  cases request with
  | deliver delivery => exact ⟨delivery, rfl, oversized⟩
  | listNodes => cases oversized
  | describeNode node => cases oversized
  | askNode node => cases oversized

theorem length_payload (delivery : Delivery) :
    (deliver delivery).frame.payload.length =
      delivery.command.length + 3 + delivery.ticket.toList.length := by
  simp only [frame, arguments, ticket?, List.length_append, List.length_cons, List.length_nil]

/-- A frame can hold every request but the oversized ones. -/
theorem exists_encode_of_fits {request : Request} (small : request.isOversized = false) :
    ∃ copy, request.frame.encode = .ok copy := by
  rw [isOversized_eq_false_iff] at small
  rw [Frame.encode_eq_ok_iff]
  cases request with
  | deliver delivery =>
      have few : delivery.ticket.toList.length ≤ 1 := by cases delivery.ticket <;> simp
      rw [length_payload, Frame.maxPayload]
      simp only [commandLength] at small
      omega
  | listNodes => exact Nat.zero_le _
  | describeNode node => exact Nat.le_add_left ..
  | askNode node => exact Nat.le_add_left ..

theorem encode_of_oversized {delivery : Delivery} (oversized : 248 < delivery.command.length)
    (ticket : Byte) :
    (deliver { delivery with ticket := some ticket }).frame.encode =
      .error ⟨delivery.command.length + 4, 252⟩ := by
  have length : (deliver { delivery with ticket := some ticket }).frame.payload.length =
      delivery.command.length + 4 := length_payload { delivery with ticket := some ticket }
  rw [Frame.encode, length, Frame.maxPayload, if_pos (by omega)]

theorem stamp_deliver (free : Byte) (delivery : Delivery) :
    ∃ ticket, ((deliver delivery).stamp free).1 =
      .deliver { delivery with ticket := some ticket } := by
  obtain ⟨node, command, options, given⟩ := delivery
  cases given with
  | none => exact ⟨free, rfl⟩
  | some ticket => exact ⟨ticket, rfl⟩

/-- A request that has its ticket and fits into a frame is not oversized. -/
theorem fits_of_encode {request : Request} {copy : Bytes} (stamped : request.Stamped)
    (fits : request.frame.encode = .ok copy) : request.isOversized = false := by
  rw [← Bool.not_eq_true]
  intro large
  obtain ⟨delivery, rfl, oversized⟩ := exists_of_isOversized large
  obtain ⟨ticket, given⟩ := stamp_deliver 0 delivery
  rw [stamp_of_stamped 0 stamped] at given
  rw [show deliver delivery = _ from given, encode_of_oversized oversized ticket] at fits
  cases fits

end Request

inductive GivenUp : Request → Event Request Frame → Prop where
  | intro (delivery : Delivery) (ticket : Byte) (oversized : 248 < delivery.command.length) :
      GivenUp (.deliver delivery)
        (.failed (.deliver { delivery with ticket := some ticket })
          (.oversized ⟨delivery.command.length + 4, 252⟩))

/-- What no frame can hold is oversized, and fails for this. -/
theorem GivenUp.of_unfit {head stamped : Request} {free next : Byte} {payload : Oversized}
    (stamp : head.stamp free = (stamped, next)) (unfit : stamped.frame.encode = .error payload) :
    head.isOversized = true ∧ GivenUp head (.failed stamped (.oversized payload)) := by
  have large : head.isOversized = true := by
    rw [← Bool.not_eq_false, ← Request.isOversized_eq (Request.of_stamp stamp).1]
    intro small
    obtain ⟨copy, fits⟩ := Request.exists_encode_of_fits small
    rw [unfit] at fits
    cases fits
  refine ⟨large, ?_⟩
  obtain ⟨delivery, rfl, oversized⟩ := Request.exists_of_isOversized large
  obtain ⟨ticket, given⟩ := Request.stamp_deliver free delivery
  rw [stamp] at given
  subst given
  rw [Request.encode_of_oversized oversized ticket, Except.error.injEq] at unfit
  rw [← unfit]
  exact .intro delivery ticket oversized

theorem GivenUp.congr {request other : Request} {event : Event Request Frame}
    (givenUp : GivenUp request event) (same : other.withoutTicket = request.withoutTicket) :
    GivenUp other event := by
  obtain ⟨⟨node, command, options, given⟩, ticket, oversized⟩ := givenUp
  cases other with
  | deliver delivery =>
      obtain ⟨_, _, _, earlier⟩ := delivery
      cases same
      exact .intro ⟨node, command, options, earlier⟩ ticket oversized
  | listNodes => cases same
  | describeNode node => cases same
  | askNode node => cases same

theorem GivenUp.exists_of_mem {requests : List Request} {failures : List (Event Request Frame)}
    (failed : List.Forall₂ GivenUp requests failures) {event : Event Request Frame}
    (member : event ∈ failures) : ∃ request, GivenUp request event := by
  induction failed with
  | nil => cases member
  | cons givenUp later ih =>
      rcases List.mem_cons.mp member with rfl | among
      · exact ⟨_, givenUp⟩
      · exact ih among

theorem GivenUp.subject {request : Request} {event : Event Request Frame}
    (givenUp : GivenUp request event) :
    ∃ stamped, settled? event = some stamped ∧ stamped.withoutTicket = request.withoutTicket := by
  cases givenUp with
  | intro delivery ticket oversized => exact ⟨_, rfl, rfl⟩

namespace Session

variable {now : Nat} {session after : Session} {stimulus : Stimulus} {requests : List Request}
  {reported failures : List (Event Request Frame)} {copy : Bytes}

/-! ## How the line moves on -/

/-- What comes of the first of some requests at its turn: it is transmitted and a timer runs for
it. -/
def LeadsWith (now : Nat) (copy : Bytes) (session : Session) : List Request → Prop
  | [] => copy = [] ∧ session.backlog = {}
  | next :: later => ∃ stamped : Request, stamped.withoutTicket = next.withoutTicket ∧
      stamped.frame.encode = .ok copy ∧
      session.backlog =
        { requests := stamped :: later
          phase := .transmission
          deadline := some (now + session.ackTimeout) }

/-- The oversized requests at the front of a line are given up, and the line moves on to the first
of the others. -/
structure MovesOn (now : Nat) (requests : List Request) (failures : List (Event Request Frame))
    (copy : Bytes) (after : Session) : Prop where
  failed : List.Forall₂ GivenUp (requests.takeWhile Request.isOversized) failures
  leads : after.LeadsWith now copy (requests.dropWhile Request.isOversized)

theorem movesOn_of_passage (passage : Passage now session requests failures copy after) :
    MovesOn now requests failures copy after := by
  induction passage with
  | empty => exact ⟨.nil, rfl, rfl⟩
  | @sent session head stamped rest free copy stamp fits =>
      obtain ⟨same, isStamped⟩ := Request.of_stamp stamp
      have small : ¬ head.isOversized = true := by
        rw [← Request.isOversized_eq same, Request.fits_of_encode isStamped fits]
        exact Bool.false_ne_true
      constructor
      · rw [List.takeWhile_cons_of_neg small]
        exact .nil
      · rw [List.dropWhile_cons_of_neg small]
        exact ⟨stamped, same, fits, rfl⟩
  | dropped stamp unfit later ih =>
      obtain ⟨large, givenUp⟩ := GivenUp.of_unfit stamp unfit
      constructor
      · rw [List.takeWhile_cons_of_pos large]
        exact .cons givenUp ih.failed
      · rw [List.dropWhile_cons_of_pos large]
        exact ih.leads

/-- What becomes of the line in a reaction: it stays, or its head ends and it moves on. -/
inductive Advance (now : Nat) (before : Session) (requests : List Request)
    (reported : List (Event Request Frame)) (copy : Bytes) (after : Session) : Prop where
  | stays (line : after.backlog.requests = before.backlog.requests ++ requests)
      (silent : reported.filterMap settled? = [])
  | moves (endings failures : List (Event Request Frame)) (told : reported = endings ++ failures)
      (ended : endings.filterMap settled? = before.backlog.head?.toList)
      (onward : MovesOn now (before.backlog.requests.tail ++ requests) failures copy after)

theorem advance_of_effect (effect : Effect now session stimulus reported copy after)
    (going : stimulus ≠ .close) :
    Advance now session stimulus.submitted?.toList reported copy after := by
  cases effect with
  | ignored idle =>
      refine .stays ?_ rfl
      cases stimulus with
      | submit request => exact absurd idle id
      | close => exact absurd rfl going
      | hear decoding => exact (List.append_nil _).symm
      | expire => exact (List.append_nil _).symm
  | unsolicited foreign => exact .stays (List.append_nil _).symm rfl
  | queued busy => exact .stays rfl rfl
  | @begun request failures copy after empty passage =>
      refine .moves [] reported rfl ?_ ?_
      · rw [empty]
        rfl
      · rw [empty]
        exact movesOn_of_passage passage
  | acknowledged phase => exact .stays (List.append_nil _).symm rfl
  | answered line answers twice =>
      exact .stays (List.append_nil _).symm (by simp [settled?, twice])
  | repeated line phase spare stamped fits refusal =>
      cases refusal <;> exact .stays (List.append_nil _).symm rfl
  | @finished head rest stimulus event failures copy after line ending passage =>
      have none : stimulus.submitted? = none := by
        cases ending with
        | exhausted phase spent refusal => cases refusal <;> rfl
        | _ => rfl
      refine .moves [event] failures rfl ?_ ?_
      · simp [settled?_of_ending ending, Backlog.head?, line]
      · rw [none, line, List.tail_cons, Option.toList_none, List.append_nil]
        exact movesOn_of_passage passage
  | closed => exact absurd rfl going

/-- No oversized request is under way. -/
theorem Steady.fits_of_head (steady : Steady now session) {head : Request}
    (first : session.backlog.head? = some head) : head.isOversized = false := by
  cases steady with
  | atRest empty =>
      rw [empty] at first
      cases first
  | underWay line phase timer soon stamped fits =>
      simp only [Backlog.head?, line, List.head?_cons, Option.some.injEq] at first
      exact first ▸ Request.fits_of_encode stamped fits

theorem givenUp_of_passage (passage : Passage now session requests failures copy after)
    {event : Event Request Frame} {request : Request} (member : event ∈ failures)
    (subject : settled? event = some request) : GivenUp request event := by
  obtain ⟨source, givenUp⟩ := GivenUp.exists_of_mem (movesOn_of_passage passage).failed member
  obtain ⟨stamped, settles, same⟩ := givenUp.subject
  rw [subject, Option.some.injEq] at settles
  exact givenUp.congr (settles ▸ same)

/-- An oversized request is settled by being given up, unless the session is closed before. -/
theorem givenUp_of_effect (steady : Steady now session)
    (effect : Effect now session stimulus reported copy after) {event : Event Request Frame}
    {request : Request} (member : event ∈ reported) (subject : settled? event = some request)
    (oversized : request.isOversized = true) :
    GivenUp request event ∨ event = .failed request .closed := by
  cases effect with
  | ignored idle => cases member
  | unsolicited foreign =>
      rw [List.mem_singleton.mp member] at subject
      cases subject
  | queued busy => cases member
  | begun empty passage => exact .inl (givenUp_of_passage passage member subject)
  | acknowledged phase => cases member
  | answered line answers twice =>
      rw [List.mem_singleton.mp member, settled?, if_pos twice] at subject
      cases subject
  | repeated line phase spare stamped fits refusal => cases member
  | finished line ending passage =>
      rcases List.mem_cons.mp member with rfl | later
      · rw [settled?_of_ending ending, Option.some.injEq] at subject
        rw [← subject, steady.fits_of_head (by simp [Backlog.head?, line])] at oversized
        cases oversized
      · exact .inl (givenUp_of_passage passage later subject)
  | closed =>
      obtain ⟨closed, _, rfl⟩ := List.mem_map.mp member
      cases subject
      exact .inr rfl

end Session

/-! ## What is transmitted of a delivery -/

/-- Whether the delivery can be read back from a copy of its frame, with the ticket that it was
given. -/
def Delivery.ReadsFrom (copy : Bytes) (delivery : Delivery) : Prop :=
  ∃ length ticket : Byte, length.toNat = delivery.command.length ∧
    let frame : Frame := ⟨.request, Function.deliver,
      delivery.node :: length :: (delivery.command ++ [delivery.options, ticket])⟩
    Frame.decode copy = .frame frame copy.length ∧
      frame.delivery? = some { delivery with ticket := some ticket }

namespace Request

/-- The length byte tells a delivery with its ticket from one without, whose command is longer by
one byte. -/
theorem ticket_of_frame_eq {delivery other : Delivery} {ticket : Byte}
    (given : delivery.ticket = some ticket)
    (same : (deliver other).frame = (deliver delivery).frame) : other.ticket.isSome = true := by
  have payload := congrArg Frame.payload same
  have lengths := congrArg List.length payload
  rw [length_payload, length_payload, given, Option.toList_some, List.length_singleton] at lengths
  cases taken : other.ticket with
  | some _ => rfl
  | none =>
      rw [taken, Option.toList_none, List.length_nil] at lengths
      have counted : UInt8.ofNat other.command.length = UInt8.ofNat delivery.command.length := by
        simp only [frame, arguments, List.cons_append, List.cons.injEq] at payload
        exact payload.2.1
      have equal := congrArg UInt8.toNat counted
      rw [UInt8.toNat_ofNat', UInt8.toNat_ofNat'] at equal
      omega

theorem readsFrom_of_encode {delivery : Delivery} {ticket : Byte} {copy : Bytes}
    (given : delivery.ticket = some ticket) (fits : delivery.command.length ≤ 248)
    (encoded : (deliver delivery).frame.encode = .ok copy) : delivery.ReadsFrom copy := by
  have counted : (UInt8.ofNat delivery.command.length).toNat = delivery.command.length := by
    rw [UInt8.toNat_ofNat']
    omega
  have frame : (deliver delivery).frame = ⟨.request, Function.deliver,
      delivery.node :: .ofNat delivery.command.length ::
        (delivery.command ++ [delivery.options, ticket])⟩ := by
    simp [Request.frame, function, arguments, ticket?, given]
  refine ⟨.ofNat delivery.command.length, ticket, counted, ?_, Frame.delivery?_eq counted⟩
  have decoded := Frame.decode_encode encoded []
  rwa [List.append_nil, frame] at decoded

end Request

namespace Course

/-- What the books on a delivery say, if every copy was transmitted of a request with its ticket. -/
theorem Tracks.readsFrom {course : Course} {request head : Request} {delivery : Delivery}
    {copy : Bytes} (tracks : course.Tracks request) (same : course.request = .deliver delivery)
    (booked : copy ∈ course.copies) (stamped : head.Stamped)
    (sent : head.frame.encode = .ok copy) :
    delivery.command.length ≤ 248 ∧ delivery.ReadsFrom copy := by
  have encoded := tracks.copies copy booked
  have alike : request.frame = head.frame := Frame.encode_injective encoded sent
  have content := tracks.same
  rw [same] at content
  have function : Function.deliver = head.function := by
    have kept := (Request.function_eq content).1
    rw [← show request.function = head.function from congrArg Frame.function alike, kept]
    rfl
  obtain ⟨source, rfl⟩ : ∃ source, head = .deliver source := by
    cases head with
    | deliver source => exact ⟨source, rfl⟩
    | listNodes => cases function
    | describeNode node => cases function
    | askNode node => cases function
  cases request with
  | deliver ticketed =>
      obtain ⟨ticket, given⟩ := Option.isSome_iff_exists.mp (stamped rfl)
      have hasTicket := Request.ticket_of_frame_eq given alike
      obtain ⟨kept, taken⟩ := Option.isSome_iff_exists.mp hasTicket
      have complete : (Request.deliver ticketed).Stamped := fun _ => hasTicket
      have small : ticketed.command.length ≤ 248 :=
        (Request.isOversized_eq_false_iff _).mp (Request.fits_of_encode complete encoded)
      have reads := Request.readsFrom_of_encode taken small encoded
      -- Up to its ticket the request is the delivery, and what is read back says nothing of that.
      obtain ⟨node, command, options, _⟩ := ticketed
      obtain ⟨_, _, _, earlier⟩ := delivery
      cases content
      exact ⟨small, reads⟩
  | listNodes => cases content
  | describeNode node => cases content
  | askNode node => cases content

end Course

namespace Ledger

/-- The books on every request are right about it, as it is with its ticket. -/
theorem Right.exists_tracks {ledger : Ledger} {session : Session}
    {events : List (Event Request Frame)} (right : ledger.Right session events) {course : Course}
    (member : course ∈ ledger.courses) : ∃ request, course.Tracks request := by
  rcases List.mem_append.mp member with settled | unsettled
  · obtain ⟨entry, booked, rfl⟩ := List.mem_map.mp settled
    obtain ⟨request, ended⟩ := right.ended entry booked
    exact ⟨request, ended.tracks⟩
  · have lineup := right.lineup
    generalize ledger.unsettled = courses at lineup unsettled
    cases lineup with
    | empty none => cases unsettled
    | line line tracks leads =>
        rcases List.mem_cons.mp unsettled with rfl | later
        · exact ⟨_, tracks⟩
        · obtain ⟨request, _, rfl⟩ := List.mem_map.mp later
          exact ⟨request, Course.tracks_fresh request⟩

end Ledger

namespace Run

open Session

variable (ackTimeout answerTimeout : Nat) (actions : List Action)

theorem stamped_of_transmission {copy : Bytes}
    (sent : copy ∈ transmissions ((start ackTimeout answerTimeout).follow actions).history) :
    ∃ head : Request, head.Stamped ∧ head.frame.encode = .ok copy := by
  obtain ⟨written, some⟩ := List.mem_filter.mp sent
  obtain ⟨reaction, member, rfl⟩ := List.mem_map.mp written
  have steady := ((timed_follow ackTimeout answerTimeout actions).2 reaction member).steady
  have effect := reaction.effect steady
  rcases sent_of_effect effect with none | ⟨head, first, fits⟩
  · exact absurd none (of_decide_eq_true some)
  · exact ⟨head, (steady_of_effect steady effect).stamped_head first, fits⟩

/-- Every copy that was transmitted of a delivery can be read back, and there is none of an
oversized one. -/
theorem readsFrom_of_copies {course : Course} {delivery : Delivery} {copy : Bytes}
    (booked : course ∈
      (Ledger.ofHistory ((start ackTimeout answerTimeout).follow actions).history).courses)
    (same : course.request = .deliver delivery) (member : copy ∈ course.copies) :
    delivery.command.length ≤ 248 ∧ delivery.ReadsFrom copy := by
  have books := booked_follow ackTimeout answerTimeout actions
  obtain ⟨request, tracks⟩ := books.right.exists_tracks booked
  have sent := List.mem_flatMap_of_mem booked member
  rw [books.copies] at sent
  obtain ⟨head, stamped, fits⟩ := stamped_of_transmission ackTimeout answerTimeout actions sent
  exact tracks.readsFrom same member stamped fits

theorem givenUp_of_settled {course : Course} {event : Event Request Frame}
    (booked : (course, event) ∈
      (Ledger.ofHistory ((start ackTimeout answerTimeout).follow actions).history).settled)
    (oversized : course.request.isOversized = true) :
    GivenUp course.request event ∨ ∃ request, event = .failed request .closed := by
  have right := (booked_follow ackTimeout answerTimeout actions).right
  obtain ⟨request, ended⟩ := right.ended _ booked
  have large : request.isOversized = true :=
    (Request.isOversized_eq ended.tracks.same).trans oversized
  have told := List.mem_map_of_mem (f := Prod.snd) booked
  rw [right.events] at told
  obtain ⟨reaction, member, reported⟩ := List.mem_flatMap.mp (List.mem_filter.mp told).1
  have steady := ((timed_follow ackTimeout answerTimeout actions).2 reaction member).steady
  rcases givenUp_of_effect steady (reaction.effect steady) reported ended.subject large with
    givenUp | closed
  · exact .inl (givenUp.congr ended.tracks.same.symm)
  · exact .inr ⟨request, closed⟩

/-- In every reaction but closing, the line stays or moves on past the oversized requests, and none
of these is left at its head. -/
theorem advance_follow {reaction : Reaction}
    (member : reaction ∈ ((start ackTimeout answerTimeout).follow actions).history)
    (going : reaction.stimulus ≠ .close) :
    Advance reaction.now reaction.before reaction.stimulus.submitted?.toList reaction.reported
        reaction.transmission reaction.after ∧
      ∀ head ∈ reaction.after.backlog.head?, head.isOversized = false := by
  have steady := ((timed_follow ackTimeout answerTimeout actions).2 reaction member).steady
  have effect := reaction.effect steady
  exact ⟨advance_of_effect effect going, fun _ first =>
    (steady_of_effect steady effect).fits_of_head first⟩

end Run

end RadioGateway.ZWave
