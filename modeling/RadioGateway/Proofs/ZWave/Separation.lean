import RadioGateway.Proofs.ZWave.Reception
import RadioGateway.Proofs.ZWave.Watched

/-!
# Nodes do not interfere

An operation that sets nothing on a node, and in which nothing is heard of it, leaves the node as it
is and asks it for nothing, unless a node list names it. So what is heard of two nodes may come in
either order.
-/

namespace RadioGateway.ZWave

open RadioGateway.Link

/-- The node of which something is heard in an event: the sender of a frame, or the node whose kind
was asked for. -/
def subject? : Event Request Frame → Option Byte
  | .unsolicited frame => frame.sender?
  | .answered (.describeNode id) _ => some id
  | _ => none

theorem subject?_of_influence {event : Event Request Frame} {influence : Influence}
    (told : Influence.ofEvent? event = some influence) : subject? event = some influence.id := by
  cases event with
  | answered request frame =>
      cases request with
      | describeNode node =>
          obtain ⟨deviceClass, _, rfl⟩ := Option.map_eq_some_iff.mp told
          rfl
      | _ => cases told
  | confirmed request frame => cases told
  | unsolicited frame => exact Frame.sender?_of_influence told
  | failed request failure => cases told

namespace Directory

theorem ext_node {directory other : Directory}
    (same : ∀ id, directory.node id = other.node id) : directory = other := by
  obtain ⟨nodes⟩ := directory
  obtain ⟨others⟩ := other
  congr 1
  apply Vector.ext
  intro index bound
  have byte : (UInt8.ofNat index).toNat = index := UInt8.toNat_ofNat_of_lt bound
  have this := congrArg some (same (.ofNat index))
  rw [← find?_toNat, ← find?_toNat, byte, find?, find?] at this
  exact (Vector.getElem_eq_iff.mpr ((Vector.getElem?_eq_getElem bound).symm.trans this).symm).symm

theorem Addressed.id_of_find? {directory : Directory} (addressed : directory.Addressed)
    {number : Nat} {node : Node} (found : directory.find? number = some node) :
    node.id.toNat = number := by
  have bound : number < 256 := (Vector.getElem?_eq_some_iff.mp found).1
  have byte : (UInt8.ofNat number).toNat = number := UInt8.toNat_ofNat_of_lt bound
  have here := directory.find?_toNat (.ofNat number)
  rw [byte, found] at here
  rw [Option.some.inj here, addressed, byte]

/-- Influences on other nodes leave a node as it is. -/
theorem node_foldl_heed_of_ne {influences : List Influence} {id : Byte}
    (apart : ∀ influence ∈ influences, influence.id ≠ id) (directory : Directory) :
    (influences.foldl heed directory).node id = directory.node id := by
  have none : influences.filter (·.id = id) = [] := by
    simpa [List.filter_eq_nil_iff] using apart
  rw [node_foldl_heed, none, List.foldl_nil]

/-- Influences on two nodes commute. -/
theorem heed_comm {first second : Influence} (apart : first.id ≠ second.id)
    (directory : Directory) :
    (directory.heed first).heed second = (directory.heed second).heed first := by
  apply ext_node
  intro id
  simp only [node_heed]
  by_cases here : first.id = id
  · have away : second.id ≠ id := fun there => apart (here.trans there.symm)
    simp only [here, away, if_true, if_false]
  · simp only [here, if_false]

theorem heed_frames_comm {first second : Frame} (apart : first.sender? ≠ second.sender?)
    (directory : Directory) :
    (Influence.ofFrame? second).toList.foldl heed
        ((Influence.ofFrame? first).toList.foldl heed directory) =
      (Influence.ofFrame? first).toList.foldl heed
        ((Influence.ofFrame? second).toList.foldl heed directory) := by
  cases told : Influence.ofFrame? first with
  | none => rfl
  | some influence =>
      cases also : Influence.ofFrame? second with
      | none => rfl
      | some other =>
          rw [Frame.sender?_of_influence told, Frame.sender?_of_influence also] at apart
          exact heed_comm (fun same => apart (congrArg some same)) directory

end Directory

/-- What is asked of a node follows from something heard of it, or from a node list. -/
theorem demand_of_node {controller id : Byte} {directory : Directory}
    {event : Event Request Frame} {request : Request}
    (demanded : request ∈ directory.demand controller event) (asked : request.node? = some id) :
    subject? event = some id ∨ request = .describeNode id ∧
      ∃ frame, event = .answered .listNodes frame ∧ id ∈ listedNodes frame.payload := by
  rcases List.mem_append.mp demanded with sent | inquired
  · obtain ⟨influence, told, sent⟩ := List.mem_flatMap.mp sent
    obtain ⟨command, _, rfl⟩ := List.mem_map.mp sent
    cases asked
    exact .inl (subject?_of_influence (Option.mem_toList.mp told))
  · cases event with
    | answered question frame =>
        cases question with
        | listNodes =>
            obtain ⟨node, listed, rfl⟩ := List.mem_map.mp inquired
            cases asked
            exact .inr ⟨rfl, frame, rfl, (List.mem_filter.mp listed).1⟩
        | describeNode node =>
            simp only [inquiries] at inquired
            split at inquired
            · split at inquired
              · cases inquired
              · cases List.mem_singleton.mp inquired
                cases asked
                exact .inl rfl
            · cases inquired
        | askNode node => cases inquired
        | deliver delivery => cases inquired
    | confirmed question frame => cases inquired
    | unsolicited frame => cases inquired
    | failed question failure => cases inquired

theorem demands_of_node {controller id : Byte} {request : Request}
    {events : List (Event Request Frame)} (directory : Directory)
    (demanded : request ∈ directory.demands controller events) (asked : request.node? = some id)
    (silent : ∀ event ∈ events, subject? event ≠ some id) :
    request = .describeNode id ∧
      ∃ frame, .answered .listNodes frame ∈ events ∧ id ∈ listedNodes frame.payload := by
  induction events generalizing directory with
  | nil => cases demanded
  | cons event later ih =>
      rw [List.forall_mem_cons] at silent
      rcases List.mem_append.mp demanded with first | rest
      · rcases demand_of_node first asked with heard | ⟨same, frame, rfl, listed⟩
        · exact absurd heard silent.1
        · exact ⟨same, frame, List.mem_cons_self, listed⟩
      · obtain ⟨same, frame, member, listed⟩ := ih _ rest silent.2
        exact ⟨same, frame, List.mem_cons_of_mem _ member, listed⟩

namespace Network

theorem Operation.set_of_influence {directory : Directory} (addressed : directory.Addressed)
    {operation : Operation} {influence : Influence}
    (meant : operation.influence? directory = some influence) :
    ∃ attributes, operation = .set influence.id.toUInt32 attributes := by
  cases operation with
  | set id requested =>
      obtain ⟨node, found, rfl⟩ := Option.map_eq_some_iff.mp meant
      have number := addressed.id_of_find? (Option.filter_eq_some_iff.mp found).1
      have same : node.id.toUInt32 = id := UInt32.toNat_inj.mp (UInt8.toNat_toUInt32 _ ▸ number)
      exact ⟨requested, congrArg (Operation.set · requested) same.symm⟩
  | _ => cases meant

theorem describe_eq (network : Network) (id : Byte) (attributes : Attributes) :
    network.describe id.toUInt32 attributes =
      ((network.directory.node id).isDiscovered,
        (network.directory.node id).describe attributes) := by
  rw [describe, UInt8.toNat_toUInt32, Directory.find?_toNat]

variable {network : Network} (addressed : network.directory.Addressed)
  (quiet : network.session.events = []) {id : Byte} (now : Nat) {operation : Operation}
  (apart : ∀ attributes, operation ≠ .set id.toUInt32 attributes)
  (silent : ∀ event ∈ network.raised now operation, subject? event ≠ some id)

include addressed apart in
theorem id_of_influence_ne {influence : Influence}
    (meant : influence ∈ (operation.influence? network.directory).toList) : influence.id ≠ id := by
  rintro rfl
  obtain ⟨attributes, same⟩ :=
    Operation.set_of_influence addressed (Option.mem_toList.mp meant)
  exact apart attributes same

include addressed quiet apart silent in
/-- An operation that does not concern a node leaves it as it is. -/
theorem node_perform : (network.perform now operation).directory.node id =
    network.directory.node id := by
  rw [directory_perform addressed quiet]
  apply Directory.node_foldl_heed_of_ne
  intro influence member
  rcases List.mem_append.mp member with meant | told
  · exact id_of_influence_ne addressed apart meant
  · rintro rfl
    obtain ⟨event, raised, told⟩ := List.mem_filterMap.mp told
    exact silent event raised (subject?_of_influence told)

include addressed apart silent in
/-- An operation that does not concern a node asks it for nothing, unless a node list names it. -/
theorem requests_perform {request : Request} (asked : request.node? = some id)
    (member : request ∈ operation.requests network.directory ++ network.demanded now operation) :
    request = .describeNode id ∧ ∃ frame,
      .answered .listNodes frame ∈ network.raised now operation ∧
        id ∈ listedNodes frame.payload := by
  rcases List.mem_append.mp member with own | demanded
  · obtain ⟨influence, meant, own⟩ := List.mem_flatMap.mp own
    obtain ⟨command, _, rfl⟩ := List.mem_map.mp own
    cases asked
    exact absurd rfl (id_of_influence_ne addressed apart meant)
  · obtain ⟨same, frame, told, listed⟩ := demands_of_node _ demanded asked
      fun event told => silent event (List.mem_append_left _ told)
    exact ⟨same, frame, List.mem_append_left _ told, listed⟩

theorem directory_onFrame (network : Network) (now : Nat) (frame : Frame) :
    (network.onEvent now (.unsolicited frame)).directory =
      (Influence.ofFrame? frame).toList.foldl Directory.heed network.directory := by
  rw [onEvent_eq]
  rfl

include quiet in
/-- Frames of two nodes may be read in either order. -/
theorem receive_comm (clean : network.session.received = []) {first second : Frame}
    {one other : Byte} (sent : first.sender? = some one) (also : second.sender? = some other)
    (apart : one ≠ other) {bytes others : Bytes} (encoded : first.encode = .ok bytes)
    (followed : second.encode = .ok others) (now later early late : Nat) :
    ((network.receive now bytes).receive later others).directory =
      ((network.receive early others).receive late bytes).directory := by
  have still : ∀ now bytes, (network.receive now bytes).session.events = [] :=
    fun now bytes => events_settle now _
  have senders : first.sender? ≠ second.sender? := by
    rw [sent, also]
    exact fun same => apart (Option.some.inj same)
  obtain ⟨firstTold, firstClean⟩ := receive_of_sender quiet clean sent encoded now
  obtain ⟨secondTold, secondClean⟩ := receive_of_sender quiet clean also followed early
  rw [(receive_of_sender (still _ _) firstClean also followed later).1, firstTold,
    (receive_of_sender (still _ _) secondClean sent encoded late).1, secondTold]
  exact Directory.heed_frames_comm senders network.directory

end Network

namespace Watched

/-- Whether operations set nothing on a node, and nothing is heard of it in their course. -/
def Unconcerned (id : Byte) (watched : Watched) : List (Nat × Network.Operation) → Prop
  | [] => True
  | (wait, operation) :: later =>
      (∀ attributes, operation ≠ .set id.toUInt32 attributes) ∧
        (∀ event ∈ (watched.step wait operation).run.events.drop watched.run.events.length,
          subject? event ≠ some id) ∧
        Unconcerned id (watched.step wait operation) later

namespace Faithful

variable {watched : Watched} {id : Byte}

theorem node_follow (faithful : watched.Faithful) {schedule : List (Nat × Network.Operation)}
    (unconcerned : watched.Unconcerned id schedule) :
    (watched.follow schedule).network.directory.node id = watched.network.directory.node id := by
  induction schedule generalizing watched with
  | nil => rfl
  | cons timed later ih =>
      obtain ⟨wait, operation⟩ := timed
      obtain ⟨apart, silent, unconcerned⟩ := unconcerned
      rw [faithful.drop_events] at silent
      exact (ih (faithful.step wait operation) unconcerned).trans
        (Network.node_perform faithful.addressed faithful.quiet _ apart silent)

end Faithful

/-- An operation that sets nothing on a node and in which nothing is heard of it leaves the node as
it is, and asks nothing of it but its kind when a node list names it. So what is heard of two nodes
commutes as far as the nodes are concerned, whether it is handled at once or read one after the
other. -/
theorem nodes_do_not_interfere (ackTimeout answerTimeout : Nat) (controller : Byte)
    (schedule : List (Nat × Network.Operation)) :
    let watched := (start ackTimeout answerTimeout controller).follow schedule
    (∀ wait operation id,
      let after := watched.step wait operation
      let events := after.run.events.drop watched.run.events.length
      let requests := after.run.submitted.drop watched.run.submitted.length
      (∀ attributes, operation ≠ .set id.toUInt32 attributes) →
      (∀ event ∈ events, subject? event ≠ some id) →
      after.run.session = after.network.session ∧
      after.network.directory.node id = watched.network.directory.node id ∧
      (∀ attributes, after.network.describe id.toUInt32 attributes =
        watched.network.describe id.toUInt32 attributes) ∧
      ∀ request ∈ requests, request.node? = some id → request = .describeNode id ∧
        ∃ frame, .answered .listNodes frame ∈ events ∧ id ∈ listedNodes frame.payload) ∧
    ∀ first second one other, first.sender? = some one → second.sender? = some other →
      one ≠ other →
      (∀ (network : Network) now later,
        ((network.onEvent now (.unsolicited first)).onEvent later (.unsolicited second)).directory =
          ((network.onEvent now (.unsolicited second)).onEvent later
            (.unsolicited first)).directory) ∧
      (watched.network.session.received = [] → ∀ bytes others, first.encode = .ok bytes →
        second.encode = .ok others → ∀ wait later early late,
        ((watched.step wait (.receive bytes)).step later (.receive others)).network.directory =
          ((watched.step early (.receive others)).step late
            (.receive bytes)).network.directory) := by
  intro watched
  have faithful : watched.Faithful := faithful_follow ackTimeout answerTimeout controller schedule
  constructor
  · intro wait operation id after events requests apart silent
    have raised : events = watched.network.raised (watched.run.now + wait) operation :=
      faithful.drop_events wait operation
    have asked : requests = operation.requests watched.network.directory ++
        watched.network.demanded (watched.run.now + wait) operation :=
      watched.drop_submitted wait operation
    rw [raised] at silent ⊢
    rw [asked]
    have unchanged := Network.node_perform faithful.addressed faithful.quiet _ apart silent
    refine ⟨(faithful.step wait operation).session, unchanged, ?_, ?_⟩
    · intro attributes
      rw [Network.describe_eq, Network.describe_eq, ← unchanged]
      rfl
    · intro request member addressed
      exact Network.requests_perform faithful.addressed _ apart silent addressed member
  · intro first second one other sent also apart
    constructor
    · intro network now later
      simp only [Network.directory_onFrame]
      apply Directory.heed_frames_comm
      rw [sent, also]
      exact fun same => apart (Option.some.inj same)
    · intro clean bytes others encoded followed wait later early late
      exact Network.receive_comm faithful.quiet clean sent also apart encoded followed ..

/-- Two nodes announce themselves; then the first tells which product it is, and the second that it
is on. -/
theorem reports_of_two_nodes_commute :
    let announcements : Bytes := [1, 11, 0, 73, 132, 5, 5, 4, 17, 6, 114, 112, 40,
      1, 10, 0, 73, 132, 6, 4, 4, 16, 1, 32, 15]
    let identity : Frame :=
      ⟨.request, Function.commandReceived, [0, 5, 8, 114, 5, 1, 15, 3, 2, 16, 0]⟩
    let level : Frame := ⟨.request, Function.commandReceived, [0, 6, 3, 32, 3, 255]⟩
    let identityBytes : Bytes := [1, 14, 0, 4, 0, 5, 8, 114, 5, 1, 15, 3, 2, 16, 0, 144]
    let levelBytes : Bytes := [1, 9, 0, 4, 0, 6, 3, 32, 3, 255, 43]
    let watched := (start 1500 5000 1).follow [(0, .receive announcements)]
    let identified := watched.step 10 (.receive identityBytes)
    let switched := watched.step 20 (.receive levelBytes)
    ((identified.network.directory.node 5).model = some "Fibaro FGR-222" ∧
      identified.network.directory.node 6 = watched.network.directory.node 6) ∧
    identity.encode = .ok identityBytes ∧ level.encode = .ok levelBytes ∧
    (identified.step 10 (.receive levelBytes)).network.directory =
      (switched.step 30 (.receive identityBytes)).network.directory := by
  intro announcements identity level identityBytes levelBytes watched identified switched
  obtain ⟨apart, commute⟩ := nodes_do_not_interfere 1500 5000 1 [(0, .receive announcements)]
  have unheard : ∀ event ∈ identified.run.events.drop watched.run.events.length,
      subject? event ≠ some 6 := by
    decide +kernel
  have untouched := (apart 10 (.receive identityBytes) 6 nofun unheard).2.1
  have clean : watched.network.session.received = [] := by decide +kernel
  have encoded : identity.encode = .ok identityBytes := by cbv
  have followed : level.encode = .ok levelBytes := by cbv
  have swapped := (commute identity level 5 6 rfl rfl (by decide)).2 clean identityBytes levelBytes
    encoded followed 10 10 20 30
  exact ⟨⟨by decide +kernel, untouched⟩, encoded, followed, swapped⟩

end Watched

end RadioGateway.ZWave
