import RadioGateway.Proofs.ZWave.Capacity
import RadioGateway.Proofs.ZWave.Reporting

/-!
# The commands of a network are short

No feature has a command of more than eight bytes, so that a network never asks for more than a
frame can hold. Together with what becomes of an oversized delivery this says that the length of a
command is never cut short on the wire.
-/

namespace RadioGateway.ZWave

open RadioGateway.Link

namespace RegisterValue

theorem length_bytes_le (value : RegisterValue) : value.bytes.length ≤ 4 := by
  cases value <;> exact Nat.le_of_ble_eq_true rfl

end RegisterValue

namespace Register

theorem length_setCommand (index : Byte) (value : RegisterValue) :
    (setCommand index value).length ≤ 8 := Nat.add_le_add_right value.length_bytes_le 4

end Register

namespace Feature

variable {command : Bytes}

/-- The commands that apply attributes are short. -/
theorem length_of_set {feature : Feature} {attributes : Attributes}
    (sent : command ∈ (feature.set attributes).2) : command.length ≤ 8 := by
  cases feature with
  | level state =>
      simp only [set] at sent
      obtain ⟨value, _, rfl⟩ := Option.map_eq_some_iff.mp (Option.mem_toList.mp sent)
      exact Nat.le_of_ble_eq_true rfl
  | registers state =>
      obtain ⟨⟨index, value⟩, _, written⟩ := List.mem_flatMap.mp sent
      simp only at written
      split at written
      · rcases List.mem_pair.mp written with rfl | rfl
        · exact Register.length_setCommand ..
        · exact Nat.le_of_ble_eq_true rfl
      · cases written
  | identification state => cases sent
  | shutter state =>
      simp only [set, Shutter.setCommands, List.mem_ite_nil_left, List.mem_singleton] at sent
      obtain ⟨_, rfl⟩ := sent
      exact Nat.le_refl 8
  | shutterTuning state =>
      simp only [set, ShutterTuning.set] at sent
      split at sent
      · rw [List.mem_singleton.mp sent]
        exact Register.length_setCommand ..
      · split at sent
        · rw [List.mem_singleton.mp sent]
          exact Register.length_setCommand ..
        · cases sent

theorem length_of_getCommands {feature : Feature} (sent : command ∈ feature.getCommands) :
    command.length ≤ 8 := by
  cases feature with
  | registers state =>
      obtain ⟨index, _, rfl⟩ := List.mem_map.mp sent
      exact Nat.le_of_ble_eq_true rfl
  | _ =>
      rw [List.mem_singleton.mp sent]
      exact Nat.le_of_ble_eq_true rfl

end Feature

/-- The commands that answer one from the device are short: they ask for the state of a product. -/
theorem Node.length_of_dispatch {node after : Node} {received command : Bytes}
    {commands : List Bytes} (dispatched : node.dispatch? received = some (after, commands))
    (sent : command ∈ commands) : command.length ≤ 8 := by
  unfold dispatch? at dispatched
  obtain ⟨commandClass, _, routed⟩ := Option.bind_eq_some_iff.mp dispatched
  obtain ⟨feature, _, outcome⟩ := Option.map_eq_some_iff.mp routed
  cases identified : feature.product? received with
  | none =>
      simp only [follow, identified, Prod.mk.injEq] at outcome
      rw [← outcome.2] at sent
      cases sent
  | some product =>
      simp only [follow, identified, Prod.mk.injEq] at outcome
      rw [← outcome.2] at sent
      obtain ⟨entry, _, asked⟩ := List.mem_flatMap.mp sent
      exact Feature.length_of_getCommands asked

/-- Whatever happens to a node, the commands that it is sent in return are short. -/
theorem Influence.length_of_commands {node : Node} {influence : Influence} {command : Bytes}
    (sent : command ∈ influence.commands node) : command.length ≤ 8 := by
  cases influence with
  | introduction id classes =>
      obtain ⟨feature, _, asked⟩ := List.mem_flatMap.mp sent
      exact Feature.length_of_getCommands asked
  | command id bytes =>
      simp only [commands] at sent
      split at sent
      · rename_i after commands dispatched
        exact Node.length_of_dispatch dispatched sent
      · cases sent
  | attributes id requested =>
      obtain ⟨feature, _, applied⟩ := List.mem_flatMap.mp sent
      exact Feature.length_of_set applied

/-- Inquiries are about nodes, and no commands. -/
theorem brief_of_inquiries {controller : Byte} {event : Event Request Frame} {request : Request}
    (inquired : request ∈ inquiries controller event) : request.commandLength ≤ 8 := by
  unfold inquiries at inquired
  split at inquired
  · obtain ⟨node, _, rfl⟩ := List.mem_map.mp inquired
    exact Nat.zero_le 8
  · split at inquired
    · split at inquired
      · cases inquired
      · rw [List.mem_singleton.mp inquired]
        exact Nat.zero_le 8
    · cases inquired
  · cases inquired

theorem Influence.brief_of_requests {node : Node} {influence : Influence} {request : Request}
    (asked : request ∈ influence.requests node) : request.commandLength ≤ 8 := by
  obtain ⟨command, sent, rfl⟩ := List.mem_map.mp asked
  exact Influence.length_of_commands sent

namespace Directory

theorem brief_of_demand {controller : Byte} {directory : Directory} {event : Event Request Frame}
    {request : Request} (demanded : request ∈ directory.demand controller event) :
    request.commandLength ≤ 8 := by
  rcases List.mem_append.mp demanded with sent | inquired
  · obtain ⟨influence, _, asked⟩ := List.mem_flatMap.mp sent
    exact Influence.brief_of_requests asked
  · exact brief_of_inquiries inquired

theorem brief_of_demands {controller : Byte} {directory : Directory}
    {events : List (Event Request Frame)} {request : Request}
    (demanded : request ∈ directory.demands controller events) : request.commandLength ≤ 8 := by
  induction events generalizing directory with
  | nil => cases demanded
  | cons event later ih =>
      rcases List.mem_append.mp demanded with first | rest
      · exact brief_of_demand first
      · exact ih rest

end Directory

theorem Network.Operation.brief_of_requests {directory : Directory} {operation : Operation}
    {request : Request} (asked : request ∈ operation.requests directory) :
    request.commandLength ≤ 8 := by
  obtain ⟨influence, _, asked⟩ := List.mem_flatMap.mp asked
  exact Influence.brief_of_requests asked

/-- What is in line has been put there. -/
theorem Run.exists_submitted_of_pending {ackTimeout answerTimeout : Nat} {actions : List Action}
    {request : Request}
    (pending : request ∈
      ((start ackTimeout answerTimeout).follow actions).session.backlog.requests) :
    ∃ source ∈ ((start ackTimeout answerTimeout).follow actions).submitted,
      source.withoutTicket = request.withoutTicket := by
  have conserved : ((start ackTimeout answerTimeout).follow actions).submitted.map _ = _ ++ _ :=
    submitted_follow_eq ackTimeout answerTimeout actions
  apply List.mem_map.mp
  rw [conserved]
  exact List.mem_append_right _ (List.mem_map_of_mem pending)

namespace Watched

variable {ackTimeout answerTimeout : Nat} {controller : Byte}
  {schedule : List (Nat × Network.Operation)} {request : Request}

theorem brief_of_submitted
    (asked : request ∈
      ((start ackTimeout answerTimeout controller).follow schedule).run.submitted) :
    request.commandLength ≤ 8 := by
  revert request
  apply List.foldlRecOn (motive := fun watched : Watched => ∀ {request},
    request ∈ watched.run.submitted → request.commandLength ≤ 8) schedule
  · intro request asked
    rw [start, Run.submitted_act] at asked
    rw [List.mem_singleton.mp asked]
    exact Nat.zero_le 8
  · rintro watched brief ⟨wait, operation⟩ _ request asked
    rw [submitted_step] at asked
    rcases List.mem_append.mp asked with earlier | new
    · exact brief earlier
    · rcases List.mem_append.mp new with own | demanded
      · exact Network.Operation.brief_of_requests own
      · exact Directory.brief_of_demands demanded

theorem brief_of_pending
    (pending : request ∈ ((start ackTimeout answerTimeout controller).follow
      schedule).network.session.backlog.requests) :
    request.commandLength ≤ 8 := by
  have faithful := faithful_follow ackTimeout answerTimeout controller schedule
  obtain ⟨actions, followed⟩ :=
    exists_actions_follow ackTimeout answerTimeout controller schedule
  rw [← faithful.session, followed] at pending
  obtain ⟨source, asked, same⟩ := Run.exists_submitted_of_pending pending
  rw [← followed] at asked
  rw [← Request.commandLength_eq same]
  exact brief_of_submitted asked

end Watched

/-- Every copy that a session transmits is booked on one request. If that delivers a command of at
most 248 bytes, then the length byte in the copy is that of the command, so that the delivery can be
read back. Of a longer command no copy is transmitted. It fails when its turn comes, with the length
of its payload, and the next request that a frame can hold is transmitted in the same reaction. A
network never puts such a request in line, as no feature has commands of more than eight bytes. -/
theorem commands_are_never_truncated (ackTimeout answerTimeout : Nat) :
    (∀ actions : List Action,
      let run := (Run.start ackTimeout answerTimeout).follow actions
      let ledger := Ledger.ofHistory run.history
      ledger.courses.map (·.request) = actions.filterMap Action.submitted? ∧
      ledger.courses.flatMap (·.copies) = transmissions run.history ∧
      (∀ course ∈ ledger.courses, ∀ delivery, course.request = .deliver delivery →
        (delivery.command.length ≤ 248 → ∀ copy ∈ course.copies, delivery.ReadsFrom copy) ∧
        (248 < delivery.command.length → course.copies = [])) ∧
      (∀ course event, (course, event) ∈ ledger.settled → course.request.isOversized = true →
        GivenUp course.request event ∨ ∃ request, event = .failed request .closed) ∧
      ∀ reaction ∈ run.history,
        Session.Appends reaction.before reaction.stimulus reaction.after reaction.reported
          reaction.transmission ∧
        (reaction.stimulus ≠ .close →
          Session.Advance reaction.now reaction.before reaction.stimulus.submitted?.toList
              reaction.reported reaction.transmission reaction.after ∧
            ∀ head ∈ reaction.after.backlog.head?, head.isOversized = false)) ∧
    (∀ controller schedule,
      let watched := (Watched.start ackTimeout answerTimeout controller).follow schedule
      ∀ request ∈ watched.run.submitted ++ watched.network.session.backlog.requests,
        request.commandLength ≤ 8 ∧ ∃ copy, request.frame.encode = .ok copy) ∧
    ∀ (feature : Feature) (attributes : Attributes),
      ∀ command ∈ (feature.set attributes).2 ++ feature.getCommands, command.length ≤ 8 := by
  refine ⟨?_, ?_, ?_⟩
  · intro actions run ledger
    have books := Run.booked_follow ackTimeout answerTimeout actions
    refine ⟨?_, books.copies, ?_, ?_, ?_⟩
    · rw [books.requests, Run.submitted_follow]
      rfl
    · intro course booked delivery same
      have reads : ∀ copy ∈ course.copies, _ := fun copy member =>
        Run.readsFrom_of_copies ackTimeout answerTimeout actions booked same member
      refine ⟨fun _ copy member => (reads copy member).2, fun oversized => ?_⟩
      exact List.eq_nil_iff_forall_not_mem.mpr fun copy member =>
        Nat.not_lt.mpr (reads copy member).1 oversized
    · intro course event booked oversized
      exact Run.givenUp_of_settled ackTimeout answerTimeout actions booked oversized
    · intro reaction member
      have timed := (Run.timed_follow ackTimeout answerTimeout actions).2 reaction member
      exact ⟨Session.appends_of_effect (reaction.effect timed.steady),
        Run.advance_follow ackTimeout answerTimeout actions member⟩
  · intro controller schedule watched request member
    have brief : request.commandLength ≤ 8 := by
      rcases List.mem_append.mp member with asked | pending
      · exact Watched.brief_of_submitted asked
      · exact Watched.brief_of_pending pending
    have small : request.isOversized = false :=
      (Request.isOversized_eq_false_iff request).mpr (by omega)
    exact ⟨brief, Request.exists_encode_of_fits small⟩
  · intro feature attributes command sent
    rcases List.mem_append.mp sent with applied | asked
    · exact Feature.length_of_set applied
    · exact Feature.length_of_getCommands asked

/-- A command of 249 bytes and a short one wait for the node list. Its arrival ends the first
request, the long command fails, and the short one is transmitted at once. -/
example :
    let long : Delivery := { node := 2, command := List.replicate 249 0 }
    let session := (((Session.submit 0 .listNodes {}).submit 0 (.deliver long)).submit 0
      (.command 2 [0x20, 0x02])).receive 10 [0x01, 0x03, 0x01, 0x02, 0xff]
    session.events = [.answered .listNodes ⟨.response, 0x02, []⟩,
        .failed (.deliver { long with ticket := some 1 }) (.oversized ⟨253, 252⟩)] ∧
      session.output = [0x01, 0x03, 0x00, 0x02, 0xfe, 0x06,
        0x01, 0x09, 0x00, 0x13, 0x02, 0x02, 0x20, 0x02, 0x05, 0x02, 0xc0] := by
  decide +kernel

end RadioGateway.ZWave
