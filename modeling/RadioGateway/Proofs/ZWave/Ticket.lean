import Mathlib.Data.List.DropRight
import RadioGateway.Proofs.ZWave.Appending
import RadioGateway.Proofs.ZWave.Conservation

/-!
# Tickets come around late

Tickets are given in a cycle of 255, one after the other and to every delivery that is tried, whether
a frame can hold it or not. So the ticket of a head differs from the 254 tickets given before it, and
a report that comes too late for one of those confirms nothing.
-/

namespace RadioGateway.ZWave

open RadioGateway.Link

namespace Request

/-- The ticket that is given after `count` others. -/
def nthTicket : Nat → Byte
  | 0 => 1
  | count + 1 => nextTicket (nthTicket count)

theorem toNat_nextTicket {ticket : Byte} (positive : 0 < ticket.toNat) :
    (nextTicket ticket).toNat = ticket.toNat % 255 + 1 := by
  have bound := ticket.toNat_lt
  unfold nextTicket
  split
  · rename_i last
    rw [last]
    rfl
  · rename_i notLast
    have below : ticket.toNat ≠ 255 := fun same => notLast (UInt8.toNat_inj.mp same)
    rw [UInt8.toNat_add, UInt8.toNat_one]
    omega

theorem toNat_nthTicket (count : Nat) : (nthTicket count).toNat = count % 255 + 1 := by
  induction count with
  | zero => rfl
  | succ count ih =>
      rw [nthTicket, toNat_nextTicket (by omega), ih]
      omega

/-- No ticket comes twice within 255. -/
theorem nthTicket_ne {first second : Nat} (before : first < second) (near : second < first + 255) :
    nthTicket first ≠ nthTicket second := by
  intro same
  have equal := congrArg UInt8.toNat same
  rw [toNat_nthTicket, toNat_nthTicket] at equal
  omega

end Request

namespace Session

variable {now : Nat} {session after : Session} {stimulus : Stimulus} {requests : List Request}
  {reported failures : List (Event Request Frame)} {copy : Bytes}

/-- Tickets were given in their cycle, and the free one is the next. -/
structure Issued (tickets : List Byte) (free : Byte) : Prop where
  cycle : tickets = (List.range tickets.length).map Request.nthTicket
  free : free = Request.nthTicket tickets.length

theorem issued_nil : Issued [] 1 := ⟨rfl, rfl⟩

theorem Issued.give {tickets : List Byte} {free : Byte} (issued : Issued tickets free) :
    Issued (tickets ++ [free]) (Request.nextTicket free) := by
  obtain ⟨cycle, rfl⟩ := issued
  refine ⟨?_, ?_⟩
  · rw [List.length_append, List.length_singleton, List.range_succ, List.map_append, ← cycle]
    rfl
  · rw [List.length_append, List.length_singleton]
    rfl

theorem Issued.stamp {tickets : List Byte} {free next : Byte} (issued : Issued tickets free)
    {request stamped : Request} (bare : request.ticket? = none)
    (stamp : request.stamp free = (stamped, next)) :
    Issued (tickets ++ stamped.ticket?.toList) next := by
  have unchanged : Issued (tickets ++ []) free := by
    rw [List.append_nil]
    exact issued
  cases request with
  | deliver delivery =>
      simp only [Request.ticket?] at bare
      simp only [Request.stamp, bare, Prod.mk.injEq] at stamp
      obtain ⟨rfl, rfl⟩ := stamp
      exact issued.give
  | listNodes =>
      cases stamp
      exact unchanged
  | describeNode node =>
      cases stamp
      exact unchanged
  | askNode node =>
      cases stamp
      exact unchanged

def spentTickets (history : List Reaction) : List Byte :=
  ((history.flatMap Reaction.reported).filterMap settled?).filterMap Request.ticket?

/-- The tickets given so far: those of settled requests, then those of requests in line. -/
def givenTickets (history : List Reaction) (session : Session) : List Byte :=
  spentTickets history ++ session.backlog.requests.filterMap Request.ticket?

/-- What a reaction reports and leaves in line holds the tickets that it gave. -/
theorem givenTickets_react {history : List Reaction}
    (effect : Effect now session stimulus reported copy (session.react now stimulus)) :
    givenTickets (history ++ [⟨now, session, stimulus⟩]) (session.react now stimulus) =
      spentTickets history ++ (reported.filterMap settled? ++
        (session.react now stimulus).backlog.requests).filterMap Request.ticket? := by
  have same : Reaction.reported ⟨now, session, stimulus⟩ = reported :=
    Reaction.reported_eq (appends_of_effect effect)
  rw [givenTickets, spentTickets, spentTickets, List.flatMap_append, List.flatMap_singleton, same]
  simp only [List.filterMap_append, List.append_assoc]

theorem filterMap_ticket_eq_nil (bare : ∀ request ∈ requests, request.ticket? = none) :
    requests.filterMap Request.ticket? = [] :=
  List.filterMap_eq_nil_iff.mpr bare

/-- Moving the line on gives tickets in their cycle, also to the requests that it gives up. -/
theorem issued_of_passage (passage : Passage now session requests failures copy after)
    {tickets : List Byte} (issued : Issued tickets session.freeTicket)
    (bare : ∀ request ∈ requests, request.ticket? = none) :
    Issued (tickets ++
        (failures.filterMap settled? ++ after.backlog.requests).filterMap Request.ticket?)
      after.freeTicket := by
  induction passage generalizing tickets with
  | empty => simpa using issued
  | @sent session head stamped rest free copy stamp fits =>
      have given := issued.stamp (bare head (List.mem_cons_self ..)) stamp
      have untouched : rest.filterMap Request.ticket? = [] :=
        filterMap_ticket_eq_nil fun request member => bare request (List.mem_cons_of_mem _ member)
      cases ticket : stamped.ticket? <;> simpa [ticket, untouched] using given
  | @dropped session after head stamped rest free payload failures copy stamp unfit later ih =>
      have given := issued.stamp (bare head (List.mem_cons_self ..)) stamp
      have all := ih given fun request member => bare request (List.mem_cons_of_mem _ member)
      cases ticket : stamped.ticket? <;> simpa [settled?, ticket] using all

/-- Every effect gives tickets in their cycle, if requests are put in line without one. -/
theorem issued_of_effect {history : List Reaction} (numbered : Numbered session)
    (issued : Issued (givenTickets history session) session.freeTicket)
    (bare : ∀ request ∈ stimulus.submitted?, request.ticket? = none)
    (effect : Effect now session stimulus reported copy after) :
    Issued (spentTickets history ++
        (reported.filterMap settled? ++ after.backlog.requests).filterMap Request.ticket?)
      after.freeTicket := by
  unfold givenTickets at issued
  cases effect with
  | ignored idle => simpa [write] using issued
  | unsolicited foreign => simpa [settled?, write, emit, List.filterMap_cons] using issued
  | @queued request busy => simpa [bare request rfl] using issued
  | @begun request failures copy after empty passage =>
      refine issued_of_passage passage ?_ ?_
      · simpa [empty] using issued
      · intro only member
        rw [List.mem_singleton.mp member]
        exact bare request rfl
  | acknowledged phase => simpa [awaitCompletion] using issued
  | answered line answers twice =>
      simpa [awaitCompletion, emit, write, settled?, twice] using issued
  | repeated line phase spare stamped fits refusal => simpa [write] using issued
  | @finished head rest stimulus event failures copy after line ending passage =>
      have waiting := numbered.waiting
      rw [line] at waiting issued
      have untouched := filterMap_ticket_eq_nil waiting
      rw [List.tail_cons] at untouched
      have before : Issued (spentTickets history ++ head.ticket?.toList) session.freeTicket := by
        cases ticket : head.ticket? <;> simpa [ticket, untouched] using issued
      have all := issued_of_passage passage before waiting
      rw [List.filterMap_cons, settled?_of_ending ending]
      cases ticket : head.ticket? <;> simpa [ticket] using all
  | closed =>
      have settled : (session.backlog.requests.map (Event.failed · .closed)).filterMap settled? =
          session.backlog.requests := by
        rw [List.filterMap_map]
        exact List.filterMap_some
      simpa [settled, close, Backlog.clear] using issued

/-- In its cycle a ticket differs from the 254 before it. -/
theorem Issued.notMem_rtake {tickets : List Byte} {ticket free : Byte}
    (issued : Issued (tickets ++ [ticket]) free) : ticket ∉ tickets.rtake 254 := by
  have cycle := issued.cycle
  rw [List.length_append, List.length_singleton, List.range_succ, List.map_append] at cycle
  obtain ⟨earlier, last⟩ := List.append_inj' cycle rfl
  rw [List.map_singleton, List.singleton_inj] at last
  intro member
  rw [List.rtake] at member
  obtain ⟨index, short, found⟩ := List.mem_iff_getElem.mp member
  rw [List.length_drop] at short
  rw [List.getElem_drop, List.getElem_of_eq earlier, List.getElem_map, List.getElem_range,
    last] at found
  exact Request.nthTicket_ne (by omega) (by omega) found

/-! ## Late reports -/

/-- A report of another ticket than that of the head concerns no request. -/
theorem relation_report {delivery : Delivery} {ticket late : Byte} {frame : Frame}
    (given : delivery.ticket = some ticket) (request : frame.kind = .request)
    (reports : frame.payload.head? = some late) (other : late ≠ ticket) :
    relation (.deliver delivery) frame = .foreign := by
  have different : some late ≠ some ticket := fun same => other (Option.some.inj same)
  simp [relation, Request.ticket?, given, request, reports, different]

/-- A foreign frame is acknowledged and handed on, and changes nothing else. -/
theorem react_foreign {head : Request} {frame : Frame} {length : Nat}
    (first : session.backlog.head? = some head) (foreign : relation head frame = .foreign) :
    session.react now (.hear (.frame frame length)) =
      (session.write [Frame.symbolByte .ack]).emit (.unsolicited frame) := by
  have same : (session.write [Frame.symbolByte .ack]).backlog.head? = some head := first
  simp only [react, onDecoding, onFrame, same, foreign]

end Session

namespace Run

open Session

theorem issued_passes (ackTimeout answerTimeout : Nat) (actions : List Action)
    (bare : ∀ request ∈ actions.filterMap Action.submitted?, request.ticket? = none)
    {earlier : List Reaction} {now : Nat} {session : Session}
    (passes : ((start ackTimeout answerTimeout).follow actions).Passes earlier now session) :
    Numbered session ∧ Issued (givenTickets earlier session) session.freeTicket := by
  have all := always_passes (fun history _ session =>
    (∀ request ∈ history.filterMap (·.stimulus.submitted?), request.ticket? = none) →
      Numbered session ∧ Issued (givenTickets history session) session.freeTicket)
    ackTimeout answerTimeout ?_ ?_ ?_ ?_ actions passes
  · refine all fun request member => bare request ?_
    have whole := submitted_follow (start ackTimeout answerTimeout) actions
    rw [show (start ackTimeout answerTimeout).submitted = [] from rfl, List.nil_append] at whole
    rw [← whole, submitted]
    cases passes with
    | met split =>
        rw [split, List.filterMap_append]
        exact List.mem_append_left _ member
    | last => exact member
  · exact fun _ => ⟨⟨by simp, by simp, by simp⟩, issued_nil⟩
  · intro history now session stimulus reported copy steady effect holds bare
    rw [List.filterMap_append] at bare
    obtain ⟨numbered, issued⟩ := holds fun request member =>
      bare request (List.mem_append_left _ member)
    have fresh : ∀ request ∈ stimulus.submitted?, request.ticket? = none := by
      intro request asked
      refine bare request (List.mem_append_right _ ?_)
      rw [Option.mem_def] at asked
      simp [asked]
    rw [givenTickets_react effect]
    exact ⟨numbered_of_effect numbered fresh effect, issued_of_effect numbered issued fresh effect⟩
  · intro history now session received output events holds bare
    obtain ⟨numbered, issued⟩ := holds bare
    exact ⟨numbered.congr rfl rfl, issued⟩
  · exact fun _ _ _ _ holds => holds

/-- If requests are put in line without tickets, then tickets are given in their cycle, and the
ticket of a delivery at the head is none of the 254 given before it. A report of one of those belongs
to no request: it is handed on as it is, and changes neither the line nor its timer. -/
theorem late_report_is_unsolicited (ackTimeout answerTimeout : Nat) (actions : List Action)
    (bare : ∀ request ∈ actions.filterMap Action.submitted?, request.ticket? = none) :
    let run := (start ackTimeout answerTimeout).follow actions
    ∀ earlier now session delivery, run.Passes earlier now session →
      session.backlog.head? = some (.deliver delivery) →
      ∃ ticket, delivery.ticket = some ticket ∧ ticket ≠ 0 ∧
        Issued (spentTickets earlier ++ [ticket]) session.freeTicket ∧
        ticket ∉ (spentTickets earlier).rtake 254 ∧
        ∀ frame length late, frame.kind = .request → frame.function = Function.deliver →
          frame.payload.head? = some late → late ∈ (spentTickets earlier).rtake 254 →
          let reaction : Reaction := ⟨now, session, .hear (.frame frame length)⟩
          reaction.reported = [.unsolicited frame] ∧ reaction.after.backlog = session.backlog := by
  intro run earlier now session delivery passes first
  obtain ⟨numbered, issued⟩ := issued_passes ackTimeout answerTimeout actions bare passes
  have steady := (timed_passes ackTimeout answerTimeout actions passes).steady
  obtain ⟨ticket, given⟩ := Option.isSome_iff_exists.mp (steady.stamped_head first rfl)
  simp only [Request.ticket?] at given
  obtain ⟨rest, line⟩ := List.head?_eq_some_iff.mp first
  have waiting := numbered.waiting
  rw [line, List.tail_cons] at waiting
  rw [givenTickets, line, List.filterMap_cons, Request.ticket?, given,
    filterMap_ticket_eq_nil waiting] at issued
  have recent := issued.notMem_rtake
  refine ⟨ticket, given, ?_, issued, recent, ?_⟩
  · rintro rfl
    exact numbered.head _ first given
  · intro frame length late request function reports spent
    have other : late ≠ ticket := fun same => recent (same ▸ spent)
    have handedOn : session.react now (.hear (.frame frame length)) = _ :=
      react_foreign first (relation_report given request reports other)
    refine ⟨?_, ?_⟩
    · rw [Reaction.reported, Reaction.after, handedOn]
      exact List.drop_left
    · rw [Reaction.after, handedOn]
      rfl

/-- When the second delivery is under way, another report on the first one confirms nothing. -/
theorem repeated_report_is_unsolicited :
    let actions : List Action := [.operate (.submit (.command 7 [0x25, 0x01, 0xff])),
      .operate (.submit (.command 8 [0x25, 0x01, 0x00])),
      .operate (.receive [0x01, 0x05, 0x00, 0x13, 0x01, 0x00, 0xe8])]
    let run := (start 1500 5000).follow actions
    let report : Frame := ⟨.request, Function.deliver, [0x01, 0x00]⟩
    let reaction : Reaction := ⟨run.now, run.session, .hear (.frame report 7)⟩
    (∀ request ∈ actions.filterMap Action.submitted?, request.ticket? = none) ∧
      reaction.reported = [.unsolicited report] ∧
      reaction.after.backlog = run.session.backlog := by
  intro actions run report reaction
  have bare : ∀ request ∈ actions.filterMap Action.submitted?, request.ticket? = none := by decide
  have first : run.session.backlog.head? =
      some (.deliver { node := 8, command := [0x25, 0x01, 0x00], ticket := some 2 }) := by
    decide +kernel
  have spent : 1 ∈ (spentTickets run.history).rtake 254 := by decide +kernel
  obtain ⟨ticket, given, nonzero, issued, recent, late⟩ :=
    late_report_is_unsolicited 1500 5000 actions bare _ _ _ _ .last first
  exact ⟨bare, late report 7 1 rfl rfl rfl spent⟩

end Run

end RadioGateway.ZWave
