import Mathlib.Data.List.Sort
import RadioGateway.Proofs.ZWave.Brevity
import RadioGateway.Proofs.ZWave.Reception

/-!
# Node lists

The controller lists its nodes in a bitmap with one bit for each. A network asks for the kind of
every node in it but the controller itself, in the order of their numbers and behind all requests
that are in line, and changes no node.
-/

namespace RadioGateway.ZWave

open RadioGateway.Link

/-- Whether the bit of a number is set in a bitmap whose first bit stands for node `first`. -/
def marks (first : Nat) (bitmap : Bytes) (number : Nat) : Bool :=
  bitmap[(number - first) / 8]?.any fun bits => bits.toNat.testBit ((number - first) % 8)

theorem lt_of_marks {first number : Nat} {bitmap : Bytes}
    (marked : marks first bitmap number = true) : (number - first) / 8 < bitmap.length := by
  obtain ⟨bits, there, _⟩ := (Option.any_eq_true _ _).mp marked
  exact (List.getElem?_eq_some_iff.mp there).1

theorem marks_first (first : Nat) (bits : Byte) (rest : Bytes) {place : Nat} (small : place < 8) :
    marks first (bits :: rest) (first + place) = bits.toNat.testBit place := by
  have index : (first + place - first) / 8 = 0 := by omega
  have offset : (first + place - first) % 8 = place := by omega
  simp only [marks, index, offset, List.getElem?_cons_zero, Option.any_some]

theorem marks_rest {first number : Nat} (bits : Byte) (rest : Bytes) (behind : first + 8 ≤ number) :
    marks first (bits :: rest) number = marks (first + 8) rest number := by
  have index : (number - first) / 8 = (number - (first + 8)) / 8 + 1 := by omega
  have offset : (number - first) % 8 = (number - (first + 8)) % 8 := by omega
  simp only [marks, index, offset, List.getElem?_cons_succ]

/-- Of the first bytes of a bitmap, the bits are those of the whole. -/
theorem marks_take (first limit number : Nat) (bitmap : Bytes) :
    marks first (bitmap.take limit) number = true ↔
      (number - first) / 8 < min limit bitmap.length ∧ marks first bitmap number = true := by
  constructor
  · intro marked
    have inside := lt_of_marks marked
    rw [List.length_take] at inside
    rw [marks, List.getElem?_take_of_lt (Nat.lt_min.mp inside).1] at marked
    exact ⟨inside, marked⟩
  · rintro ⟨inside, marked⟩
    rw [marks, List.getElem?_take_of_lt (Nat.lt_min.mp inside).1]
    exact marked

/-- The nodes of a bitmap are the numbers whose bit is set and that make one byte. -/
theorem nodeIdsFrom_eq (first : Nat) (bitmap : Bytes) :
    nodeIdsFrom first bitmap =
      ((List.range' first (8 * bitmap.length)).filter fun number =>
        marks first bitmap number && decide (number < 256)).map .ofNat := by
  induction bitmap generalizing first with
  | nil => rfl
  | cons bits rest ih =>
      have split : List.range' first (8 * (bits :: rest).length) =
          (List.range 8).map (first + ·) ++ List.range' (first + 8) (8 * rest.length) := by
        rw [← List.range'_eq_map_range, List.length_cons, Nat.mul_succ, Nat.add_comm,
          ← List.range'_append, Nat.one_mul]
      have here : ((List.range 8).map (first + ·)).filter (fun number =>
            marks first (bits :: rest) number && decide (number < 256)) =
          ((List.range 8).filter fun place =>
            bits.toNat.testBit place && decide (first + place < 256)).map (first + ·) := by
        rw [List.filter_map]
        refine congrArg (List.map _) (List.filter_congr fun place member => ?_)
        simp only [Function.comp, marks_first first bits rest (List.mem_range.mp member)]
      have later : (List.range' (first + 8) (8 * rest.length)).filter (fun number =>
            marks first (bits :: rest) number && decide (number < 256)) =
          (List.range' (first + 8) (8 * rest.length)).filter fun number =>
            marks (first + 8) rest number && decide (number < 256) :=
        List.filter_congr fun number member => by
          rw [marks_rest bits rest (List.mem_range'_1.mp member).1]
      rw [nodeIdsFrom, ih, split, List.filter_append, here, later, List.map_append, List.map_map]
      rfl

theorem pairwise_numbers (first count : Nat) (keeps : Nat → Bool) :
    ((List.range' first count).filter keeps).Pairwise (· < ·) :=
  List.Pairwise.filter keeps List.pairwise_lt_range'

theorem nodeIds_eq (bitmap : Bytes) :
    nodeIds bitmap = ((List.range' 1 255).filter (marks 1 bitmap)).map .ofNat := by
  rw [nodeIds, nodeIdsFrom_eq]
  refine congrArg (List.map _) ?_
  -- Both are increasing, so that only their members have to be compared.
  refine List.Pairwise.eq_of_mem_iff (pairwise_numbers ..) (pairwise_numbers ..) fun number => ?_
  simp only [List.mem_filter, List.mem_range'_1, Bool.and_eq_true, decide_eq_true_eq]
  constructor
  · rintro ⟨⟨positive, _⟩, marked, small⟩
    exact ⟨⟨positive, by omega⟩, marked⟩
  · rintro ⟨⟨positive, small⟩, marked⟩
    have inside := lt_of_marks marked
    exact ⟨⟨positive, by omega⟩, marked, by omega⟩

theorem toNat_ofNat_of_mem {number : Nat} (member : number ∈ List.range' 1 255) :
    (UInt8.ofNat number).toNat = number := by
  have small := (List.mem_range'_1.mp member).2
  rw [UInt8.toNat_ofNat']
  omega

theorem pairwise_nodeIds (bitmap : Bytes) : (nodeIds bitmap).Pairwise (· < ·) := by
  rw [nodeIds_eq, List.pairwise_map]
  refine (pairwise_numbers 1 255 (marks 1 bitmap)).imp_of_mem fun {number} {next} => ?_
  intro first second less
  rw [UInt8.lt_iff_toNat_lt, toNat_ofNat_of_mem (List.mem_filter.mp first).1,
    toNat_ofNat_of_mem (List.mem_filter.mp second).1]
  exact less

/-- The nodes that a list names besides the controller, in the order of their numbers: those whose
bit is set in one of the bytes that the list counts. A list of fewer than three bytes names none. -/
def namedNodes (controller : Byte) : Bytes → List Byte
  | _ :: _ :: count :: bitmap =>
      ((List.range' 1 255).filter fun number =>
        number ≠ controller.toNat ∧ (number - 1) / 8 < min count.toNat bitmap.length ∧
          marks 1 bitmap number).map .ofNat
  | _ => []

theorem filter_listedNodes (controller : Byte) (payload : Bytes) :
    (listedNodes payload).filter (· ≠ controller) = namedNodes controller payload := by
  match payload with
  | [] | [_] | [_, _] => rfl
  | _ :: _ :: count :: bitmap =>
      rw [listedNodes, nodeIds_eq, List.filter_map, List.filter_filter]
      refine congrArg (List.map _) (List.filter_congr fun number member => ?_)
      have other : UInt8.ofNat number ≠ controller ↔ number ≠ controller.toNat := by
        rw [Ne, ← UInt8.toNat_inj, toNat_ofNat_of_mem member]
      rw [Bool.eq_iff_iff, Bool.and_eq_true, marks_take]
      simp only [Function.comp, decide_eq_true_eq, other]

theorem inquiries_nodeList (controller : Byte) (frame : Frame) :
    inquiries controller (.answered .listNodes frame) =
      (namedNodes controller frame.payload).map .describeNode := by
  rw [← filter_listedNodes]
  rfl

/-! ## Requests for descriptions -/

namespace Session

variable {now : Nat} {session : Session}

/-- A line whose first request a frame can hold moves on with nothing but its ticket. -/
theorem transmitFrom_of_fits {requests : List Request}
    (fits : ∀ request ∈ requests, request.isOversized = false) :
    (session.transmitFrom now requests).events = session.events ∧
      (session.transmitFrom now requests).backlog.requests =
        requests.modifyHead fun head => (head.stamp session.freeTicket).1 := by
  cases requests with
  | nil => exact ⟨rfl, rfl⟩
  | cons head rest =>
      have small : (head.stamp session.freeTicket).1.isOversized = false := by
        rw [Request.isOversized_eq (Request.withoutTicket_stamp ..)]
        exact fits head (List.mem_cons_self ..)
      obtain ⟨copy, encoded⟩ := Request.exists_encode_of_fits small
      constructor
      · simp only [transmitFrom, encoded]
      · simp only [transmitFrom, encoded, Backlog.requests_arm, List.modifyHead_cons]

/-- Questions about nodes go behind what is in line, and lead to no event. -/
theorem submitAll_describeNode (nodes : List Byte) :
    (session.submitAll now (nodes.map .describeNode)).events = session.events ∧
      (session.submitAll now (nodes.map .describeNode)).backlog.requests =
        session.backlog.requests ++ nodes.map .describeNode := by
  induction nodes generalizing session with
  | nil => exact ⟨rfl, (List.append_nil _).symm⟩
  | cons node later ih =>
      have asked : (session.submit now (.describeNode node)).events = session.events ∧
          (session.submit now (.describeNode node)).backlog.requests =
            session.backlog.requests ++ [.describeNode node] := by
        unfold submit
        split
        · rename_i empty
          have none : session.backlog.requests = [] := List.isEmpty_iff.mp empty
          rw [transmit, Backlog.requests_enqueue, none]
          exact ⟨rfl, rfl⟩
        · exact ⟨rfl, rfl⟩
      obtain ⟨events, line⟩ := @ih (session.submit now (.describeNode node))
      rw [asked.1] at events
      rw [asked.2, List.append_assoc] at line
      exact ⟨events, line⟩

/-- The answer to the question for the nodes ends it, and the line moves on. -/
theorem receive_nodeList {frame : Frame} {bytes : Bytes}
    (asked : session.backlog.head? = some .listNodes) (kind : frame.kind = .response)
    (function : frame.function = Function.listNodes)
    (fits : ∀ request ∈ session.backlog.requests, request.isOversized = false)
    (encoded : frame.encode = .ok (session.received ++ bytes)) :
    (session.receive now bytes).events = session.events ++ [.answered .listNodes frame] ∧
      (session.receive now bytes).backlog.requests =
        session.backlog.requests.tail.modifyHead fun next =>
          (next.stamp session.freeTicket).1 := by
  have related : relation .listNodes frame = .answer :=
    (relation_eq_answer_iff _ _).mpr ⟨function, kind⟩
  have same : (session.write [Frame.symbolByte .ack]).backlog = session.backlog := rfl
  obtain ⟨rest, line⟩ : ∃ rest, session.backlog.requests = .listNodes :: rest :=
    List.head?_eq_some_iff.mp asked
  rw [line] at fits
  let ended := { session.write [Frame.symbolByte .ack] with backlog := session.backlog.dequeue }
  obtain ⟨events, requests⟩ :=
    @transmitFrom_of_fits now (ended.emit (.answered .listNodes frame)) rest
      fun request member => fits request (List.mem_cons_of_mem _ member)
  have completed : (session.write [Frame.symbolByte .ack]).onFrame now frame =
      (ended.emit (.answered .listNodes frame)).transmitFrom now rest := by
    rw [onFrame, same, asked]
    simp only [related, Request.needsConfirmation, complete, transmit, emit, ended,
      Backlog.requests_dequeue, same, line]
    rfl
  rw [receive_of_encode encoded now, completed, line]
  exact ⟨events, requests⟩

end Session

namespace Network

variable {now : Nat} {network : Network} {frame : Frame}

/-- Whenever a node list is handled, its nodes are asked about behind all requests in line, and no
node changes. -/
theorem onEvent_nodeList :
    (network.onEvent now (.answered .listNodes frame)).directory = network.directory ∧
      (network.onEvent now (.answered .listNodes frame)).session.backlog.requests =
        network.session.backlog.requests ++
          (namedNodes network.controller frame.payload).map .describeNode := by
  have demand : network.directory.demand network.controller (.answered .listNodes frame) =
      (namedNodes network.controller frame.payload).map .describeNode := inquiries_nodeList ..
  rw [onEvent_eq, demand]
  exact ⟨rfl, (Session.submitAll_describeNode _).2⟩

theorem receive_nodeList {bytes : Bytes} (quiet : network.session.events = [])
    (asked : network.session.backlog.head? = some .listNodes) (kind : frame.kind = .response)
    (function : frame.function = Function.listNodes)
    (fits : ∀ request ∈ network.session.backlog.requests, request.isOversized = false)
    (encoded : frame.encode = .ok (network.session.received ++ bytes)) :
    (network.receive now bytes).directory = network.directory ∧
      (network.receive now bytes).session.backlog.requests =
        (network.session.backlog.requests.tail.modifyHead fun next =>
            (next.stamp network.session.freeTicket).1) ++
          (namedNodes network.controller frame.payload).map .describeNode ∧
      network.demanded now (.receive bytes) =
        (namedNodes network.controller frame.payload).map .describeNode := by
  obtain ⟨events, line⟩ := @Session.receive_nodeList now _ _ _ asked kind function fits encoded
  rw [quiet, List.nil_append] at events
  let heard : Network := { network with session := network.session.receive now bytes }
  have demands : network.directory.demands network.controller [.answered .listNodes frame] =
      (namedNodes network.controller frame.payload).map .describeNode :=
    (List.append_nil _).trans (inquiries_nodeList ..)
  have handled : (heard.handleEvents now).session =
      Session.submitAll now { network.session.receive now bytes with events := [] }
        ((namedNodes network.controller frame.payload).map .describeNode) := by
    rw [handleEvents_eq, ← demands, ← events]
  obtain ⟨silent, longer⟩ := @Session.submitAll_describeNode now
    { network.session.receive now bytes with events := [] }
    (namedNodes network.controller frame.payload)
  rw [← handled] at silent longer
  have told : (heard.handled now).filterMap Influence.ofEvent? = [] := by
    rw [Network.handled, silent, List.append_nil, events]
    rfl
  refine ⟨?_, ?_, ?_⟩
  · rw [receive, settle_eq, told]
    rfl
  · rw [receive, settle_eq, ← line]
    exact longer
  · rw [demanded, ← demands, ← events]
    rfl

theorem controller_undertake (operation : Operation) :
    (network.undertake now operation).controller = network.controller := by
  cases operation with
  | set id requested =>
      rw [undertake]
      cases Operation.influence? network.directory (.set id requested) <;> rfl
  | _ => rfl

end Network

namespace Watched

theorem Faithful.controller_follow {watched : Watched} (faithful : watched.Faithful)
    (schedule : List (Nat × Network.Operation)) :
    (watched.follow schedule).network.controller = watched.network.controller := by
  induction schedule generalizing watched with
  | nil => rfl
  | cons timed later ih =>
      obtain ⟨wait, operation⟩ := timed
      have stepped : (watched.step wait operation).network.controller =
          watched.network.controller := by
        rw [step, Network.perform_eq faithful.addressed faithful.quiet, Network.settle_eq]
        exact Network.controller_undertake operation
      exact (ih (faithful.step wait operation)).trans stepped

/-- A network that awaits the node list receives it. It asks for the kind of each node that is
named, once and in the order of the numbers, behind the requests in line, the first of which is
transmitted now. No node changes. What else is handled before the list makes no difference. A bitmap
names the numbers up to 255 whose bits are set. -/
theorem listed_nodes_are_asked_about (ackTimeout answerTimeout : Nat) (controller : Byte)
    (schedule : List (Nat × Network.Operation)) (payload bytes : Bytes) (wait : Nat)
    (asked : ((start ackTimeout answerTimeout controller).follow
      schedule).network.session.backlog.head? = some .listNodes)
    (encoded : Frame.encode ⟨.response, Function.listNodes, payload⟩ =
      .ok (((start ackTimeout answerTimeout controller).follow
        schedule).network.session.received ++ bytes)) :
    let watched := (start ackTimeout answerTimeout controller).follow schedule
    let before := watched.network
    let after := watched.step wait (.receive bytes)
    let questions := (namedNodes controller payload).map Request.describeNode
    after.network.directory = before.directory ∧
    after.network.session.backlog.requests =
      (before.session.backlog.requests.tail.modifyHead fun next =>
        (next.stamp before.session.freeTicket).1) ++ questions ∧
    after.run.submitted = watched.run.submitted ++ questions ∧
    (∀ (now : Nat) (network : Network) (frame : Frame),
      (network.onEvent now (.answered .listNodes frame)).directory = network.directory ∧
        (network.onEvent now (.answered .listNodes frame)).session.backlog.requests =
          network.session.backlog.requests ++
            (namedNodes network.controller frame.payload).map .describeNode) ∧
    ∀ bitmap, (nodeIds bitmap).Pairwise (· < ·) ∧
      nodeIds bitmap = ((List.range' 1 255).filter (marks 1 bitmap)).map .ofNat := by
  intro watched before after questions
  have faithful : watched.Faithful := faithful_follow ackTimeout answerTimeout controller schedule
  have address : before.controller = controller :=
    (faithful_start ackTimeout answerTimeout controller).controller_follow schedule
  have fits : ∀ request ∈ before.session.backlog.requests, request.isOversized = false := by
    intro request pending
    have brief := brief_of_pending pending
    exact (Request.isOversized_eq_false_iff request).mpr (by omega)
  obtain ⟨nodes, line, demanded⟩ := @Network.receive_nodeList (watched.run.now + wait) before
    ⟨.response, Function.listNodes, payload⟩ bytes faithful.quiet asked rfl rfl fits encoded
  rw [address] at line demanded
  refine ⟨nodes, line, ?_, fun now network frame => Network.onEvent_nodeList,
    fun bitmap => ⟨pairwise_nodeIds bitmap, nodeIds_eq bitmap⟩⟩
  rw [submitted_step, demanded]
  rfl

/-- The controller lists nodes in three bytes but counts only two of them. The nodes 3 and 9 are
asked about, but neither the controller, which is node 1, nor any node of the last byte. -/
theorem two_listed_nodes_are_asked_about :
    let watched := start 1500 5000 1
    let bytes : Bytes := [0x01, 0x09, 0x01, 0x02, 0x05, 0x00, 0x02, 0x05, 0x01, 0xff, 0x09]
    watched.network.session.backlog.head? = some .listNodes ∧
      Frame.encode ⟨.response, Function.listNodes, [0x05, 0x00, 0x02, 0x05, 0x01, 0xff]⟩ =
        .ok bytes ∧
      (watched.step 10 (.receive bytes)).network.session.backlog.requests =
        [.describeNode 3, .describeNode 9] := by
  intro watched bytes
  have asked : watched.network.session.backlog.head? = some .listNodes := by decide +kernel
  have encoded : Frame.encode
      ⟨.response, Function.listNodes, [0x05, 0x00, 0x02, 0x05, 0x01, 0xff]⟩ = .ok bytes := by
    decide +kernel
  obtain ⟨_, line, _⟩ :=
    listed_nodes_are_asked_about 1500 5000 1 [] _ bytes 10 asked encoded
  refine ⟨asked, encoded, line.trans ?_⟩
  decide +kernel

end Watched

end RadioGateway.ZWave
