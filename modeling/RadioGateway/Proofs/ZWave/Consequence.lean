import RadioGateway.Proofs.ZWave.Influence

/-!
# What follows from events

An event that a network handles has up to three consequences: one node changes, requests are put in
line, and a failure is reported. What is asked for depends on the nodes alone, so the three can be
told apart, for one event as for many. Requests lead to failures at most, and those to reports only,
so that a network which has settled has no event left to handle.
-/

namespace RadioGateway.ZWave

open RadioGateway.Link

namespace Session

def submitAll (now : Nat) (session : Session) (requests : List Request) : Session :=
  requests.foldl (fun session request => session.submit now request) session

theorem submitAll_append (now : Nat) (session : Session) (requests later : List Request) :
    session.submitAll now (requests ++ later) =
      (session.submitAll now requests).submitAll now later :=
  List.foldl_append

/-- Whether every event of a session tells that a request failed. -/
def OnlyFailures (session : Session) : Prop :=
  ∀ event ∈ session.events, ∃ request failure, event = .failed request failure

namespace OnlyFailures

variable {session : Session}

theorem emit (only : session.OnlyFailures) (request : Request) (failure : Failure) :
    (session.emit (.failed request failure)).OnlyFailures := by
  intro event member
  rcases List.mem_append.mp member with earlier | last
  · exact only event earlier
  · exact ⟨request, failure, List.mem_singleton.mp last⟩

theorem transmitFrom (only : session.OnlyFailures) (now : Nat) (requests : List Request) :
    (session.transmitFrom now requests).OnlyFailures := by
  induction requests generalizing session with
  | nil => exact only
  | cons head rest ih =>
      unfold Session.transmitFrom
      dsimp only
      split
      · exact only
      · exact ih (emit only _ _)

theorem submit (only : session.OnlyFailures) (now : Nat) (request : Request) :
    (session.submit now request).OnlyFailures := by
  unfold Session.submit
  dsimp only
  split
  · apply transmitFrom
    exact only
  · exact only

theorem submitAll (only : session.OnlyFailures) (now : Nat) (requests : List Request) :
    (session.submitAll now requests).OnlyFailures := by
  apply List.foldlRecOn (motive := OnlyFailures) requests
  · exact only
  · exact fun _ only request _ => only.submit now request

theorem of_quiet (quiet : session.events = []) : session.OnlyFailures := by
  intro event member
  rw [quiet] at member
  cases member

end OnlyFailures

end Session

namespace Influence

/-- The commands that are sent to the node in return. -/
def commands (node : Node) : Influence → List Bytes
  | introduction id classes => ((introduction id classes).change node).getCommands
  | command _ bytes =>
      match node.dispatch? bytes with
      | some (_, commands) => commands
      | none => []
  | attributes _ requested => (node.set requested).2

def requests (node : Node) (influence : Influence) : List Request :=
  (influence.commands node).map (.command influence.id)

end Influence

def listedNodes : Bytes → List Byte
  | _ :: _ :: count :: bitmap => nodeIds (bitmap.take count.toNat)
  | _ => []

/-- What a network asks for to learn more: the kind of every listed node, and the announcement of a
node that is no controller. -/
def inquiries (controller : Byte) : Event Request Frame → List Request
  | .answered .listNodes frame =>
      ((listedNodes frame.payload).filter (· ≠ controller)).map .describeNode
  | .answered (.describeNode id) frame =>
      match frame.payload[4]? with
      | some deviceClass => if DeviceClass.isController deviceClass then [] else [.askNode id]
      | none => []
  | _ => []

def failure? : Event Request Frame → Option Failure
  | .failed _ failure => some failure
  | _ => none

namespace Directory

def demand (controller : Byte) (directory : Directory) (event : Event Request Frame) :
    List Request :=
  ((Influence.ofEvent? event).toList.flatMap fun influence =>
    influence.requests (directory.node influence.id)) ++ inquiries controller event

def demands (controller : Byte) (directory : Directory) : List (Event Request Frame) → List Request
  | [] => []
  | event :: later =>
      directory.demand controller event ++
        demands controller ((Influence.ofEvent? event).toList.foldl heed directory) later

theorem demands_of_failures (controller : Byte) (directory : Directory)
    {events : List (Event Request Frame)}
    (only : ∀ event ∈ events, ∃ request failure, event = .failed request failure) :
    directory.demands controller events = [] ∧ events.filterMap Influence.ofEvent? = [] := by
  induction events with
  | nil => exact ⟨rfl, rfl⟩
  | cons event later ih =>
      rw [List.forall_mem_cons] at only
      obtain ⟨⟨request, failure, rfl⟩, only⟩ := only
      exact ih only

end Directory

namespace Network

/-! ## One event -/

variable (now : Nat) (network : Network)

theorem foldl_submit {α : Type} (request : α → Request) (subjects : List α) :
    subjects.foldl (fun network subject => network.submit now (request subject)) network =
      { network with session := network.session.submitAll now (subjects.map request) } := by
  induction subjects generalizing network with
  | nil => rfl
  | cons subject later ih => exact ih (network.submit now (request subject))

/-- The network after an influence: the node has changed and is sent commands. -/
def sway (influence : Influence) : Network :=
  { network with
    directory := network.directory.heed influence
    session := network.session.submitAll now
      (influence.requests (network.directory.node influence.id)) }

theorem introduce_eq (id : Byte) (classes : List Byte) :
    network.introduce now id classes = network.sway now (.introduction id classes) :=
  foldl_submit now _ (.command id) _

theorem onCommandReceived_eq (payload : Bytes) :
    network.onCommandReceived now payload =
      (Influence.ofCommand? payload).toList.foldl (sway now) network := by
  match payload with
  | [] | [_] | [_, _] => rfl
  | _ :: source :: length :: rest =>
      by_cases enough : length.toNat ≤ rest.length
      · simp only [onCommandReceived, Influence.ofCommand?, enough, if_true, Option.toList_some,
          List.foldl_cons, List.foldl_nil]
        cases dispatched : (network.directory.node source).dispatch? (rest.take length.toNat) with
        | none =>
            have unchanged : network.directory.heed (.command source (rest.take length.toNat)) =
                network.directory := by
              apply Directory.modify_eq_self
              simp only [Influence.change, Influence.id, dispatched]
            simp only [sway, unchanged, Influence.requests, Influence.commands, Influence.id,
              dispatched]
            rfl
        | some outcome =>
            simp only [send, foldl_submit, sway, Directory.heed, Directory.modify,
              Influence.requests, Influence.commands, Influence.change, Influence.id, dispatched]
      · simp only [onCommandReceived, Influence.ofCommand?, enough, if_false, Option.toList_none,
          List.foldl_nil]

theorem onAnnouncement_eq (payload : Bytes) :
    network.onAnnouncement now payload =
      (Influence.ofAnnouncement? payload).toList.foldl (sway now) network := by
  match payload with
  | [] | [_] | [_, _] | [_, _, _] | [_, _, _, _] | [_, _, _, _, _] => rfl
  | status :: id :: length :: _ :: _ :: _ :: classes =>
      simp only [onAnnouncement, Influence.ofAnnouncement?]
      split
      · exact introduce_eq now network id _
      · rfl

theorem onFrame_eq (frame : Frame) :
    network.onEvent now (.unsolicited frame) =
      (Influence.ofFrame? frame).toList.foldl (sway now) network := by
  simp only [onEvent, Influence.ofFrame?]
  split
  · split
    · exact onCommandReceived_eq now network frame.payload
    · split
      · exact onAnnouncement_eq now network frame.payload
      · rfl
  · rfl

theorem onEvent_eq (event : Event Request Frame) :
    network.onEvent now event =
      { network with
        directory := (Influence.ofEvent? event).toList.foldl Directory.heed network.directory
        session := network.session.submitAll now
          (network.directory.demand network.controller event)
        alarms := network.alarms ++ (failure? event).toList } := by
  cases event with
  | answered request frame =>
      cases request with
      | listNodes =>
          simp only [onEvent, Influence.ofEvent?, Option.toList_none, List.foldl_nil, failure?,
            List.append_nil, Directory.demand, List.flatMap_nil, List.nil_append, inquiries]
          match frame.payload with
          | [] | [_] | [_, _] => rfl
          | _ :: _ :: count :: bitmap => exact foldl_submit now network .describeNode _
      | describeNode node =>
          simp only [onEvent, onNodeDescription, Influence.ofEvent?, failure?, Option.toList_none,
            List.append_nil, Directory.demand, inquiries]
          cases frame.payload[4]? with
          | none => rfl
          | some deviceClass =>
              simp only [introduce_eq, Option.map_some, Option.toList_some, List.foldl_cons,
                List.foldl_nil, List.flatMap_cons, List.flatMap_nil, List.append_nil]
              split
              · rw [List.append_nil]
                rfl
              · rw [Session.submitAll_append]
                rfl
      | askNode node =>
          simp only [failure?, Option.toList_none, List.append_nil]
          rfl
      | deliver delivery =>
          simp only [failure?, Option.toList_none, List.append_nil]
          rfl
  | confirmed request frame =>
      simp only [failure?, Option.toList_none, List.append_nil]
      rfl
  | unsolicited frame =>
      rw [onFrame_eq]
      simp only [Influence.ofEvent?, failure?, Option.toList_none, List.append_nil,
        Directory.demand, inquiries]
      cases Influence.ofFrame? frame with
      | none => rfl
      | some influence => simp [sway]
  | failed request failure => rfl

/-! ## Many events -/

theorem foldl_onEvent_eq (events : List (Event Request Frame)) :
    events.foldl (onEvent now) network =
      { network with
        directory := (events.filterMap Influence.ofEvent?).foldl Directory.heed network.directory
        session := network.session.submitAll now
          (network.directory.demands network.controller events)
        alarms := network.alarms ++ events.filterMap failure? } := by
  induction events generalizing network with
  | nil =>
      simp only [List.filterMap_nil, List.append_nil]
      rfl
  | cons event later ih =>
      rw [List.foldl_cons, ih, onEvent_eq, Directory.demands, Session.submitAll_append]
      cases told : Influence.ofEvent? event <;> cases failed : failure? event <;>
        simp [told, failed]

theorem handleEvents_eq :
    network.handleEvents now =
      { network with
        directory := (network.session.events.filterMap Influence.ofEvent?).foldl Directory.heed
          network.directory
        session := Session.submitAll now { network.session with events := [] }
          (network.directory.demands network.controller network.session.events)
        alarms := network.alarms ++ network.session.events.filterMap failure? } :=
  foldl_onEvent_eq now _ network.session.events

/-- Handling events leads to failures only. -/
theorem failures_handleEvents : (network.handleEvents now).session.OnlyFailures := by
  rw [handleEvents_eq]
  exact (Session.OnlyFailures.of_quiet rfl).submitAll now _

/-- The consequences of all events that a network handles when it settles. -/
theorem settle_eq :
    network.settle now =
      { network with
        directory := ((network.handled now).filterMap Influence.ofEvent?).foldl Directory.heed
          network.directory
        session :=
          { (network.handleEvents now).session with events := [] }
        alarms := network.alarms ++ (network.handled now).filterMap failure? } := by
  obtain ⟨silent, unmoved⟩ := Directory.demands_of_failures network.controller
    (network.handleEvents now).directory (failures_handleEvents now network)
  have steered : (network.handleEvents now).controller = network.controller := by
    rw [handleEvents_eq]
  rw [settle, handleEvents_eq now (network.handleEvents now), steered, silent, unmoved]
  simp only [handled, List.filterMap_append, List.foldl_append, unmoved]
  rw [handleEvents_eq]
  simp [Session.submitAll]

theorem events_settle : (network.settle now).session.events = [] := by
  rw [settle_eq]

theorem settle_of_quiet {network : Network} (quiet : network.session.events = []) :
    network.settle now = network := by
  have unchanged : network.handleEvents now = network := by
    have session : { network.session with events := [] } = network.session := by rw [← quiet]
    rw [handleEvents, Session.takeEvents, quiet, session]
    rfl
  rw [settle, unchanged, unchanged]

/-- What an operation of the owner itself does to a node: it applies attributes to a discovered
one. -/
def Operation.influence? (directory : Directory) : Operation → Option Influence
  | .set id requested =>
      ((directory.find? id.toNat).filter Node.isDiscovered).map fun node =>
        .attributes node.id requested
  | _ => none

def Operation.outage? : Operation → Option Failure
  | .fail failure => some failure
  | _ => none

theorem set_eq {network : Network} (addressed : network.directory.Addressed) (id : UInt32)
    (requested : Attributes) :
    network.set now id requested =
      match Operation.influence? network.directory (.set id requested) with
      | none => (false, network)
      | some influence => (true, (network.sway now influence).settle now) := by
  simp only [set, Operation.influence?]
  cases found : (network.directory.find? id.toNat).filter Node.isDiscovered with
  | none => rfl
  | some node =>
      obtain ⟨there, _⟩ := Option.filter_eq_some_iff.mp found
      have placed := addressed.node_of_find? there
      simp only [Option.map_some, send, foldl_submit, sway, Directory.heed, Directory.modify,
        Influence.change, Influence.requests, Influence.commands, Influence.id, placed]

theorem directory_start (now : Nat) (session : Session) (controller : Byte) :
    (start now session controller).directory = {} := rfl

/-- What an operation does to the nodes. -/
theorem exists_influences_perform {network : Network} (addressed : network.directory.Addressed)
    (now : Nat) (operation : Operation) :
    ∃ influences : List Influence,
      (network.perform now operation).directory =
        influences.foldl Directory.heed network.directory := by
  have settled : ∀ begun : Network, (begun.settle now).directory =
      ((begun.handled now).filterMap Influence.ofEvent?).foldl Directory.heed begun.directory := by
    intro begun
    rw [settle_eq]
  cases operation with
  | get id attributes => exact ⟨[], rfl⟩
  | fail failure => exact ⟨[], rfl⟩
  | takeOutput => exact ⟨[], rfl⟩
  | receive bytes => exact ⟨_, settled _⟩
  | expire => exact ⟨_, settled _⟩
  | close => exact ⟨_, settled _⟩
  | set id requested =>
      rw [perform, set_eq now addressed]
      split
      · exact ⟨[], rfl⟩
      · rename_i influence _
        exact ⟨influence :: _, settled _⟩

theorem exists_influences_follow {network : Network} (addressed : network.directory.Addressed)
    (operations : List (Nat × Operation)) :
    ∃ influences : List Influence,
      (network.follow operations).directory =
        influences.foldl Directory.heed network.directory := by
  induction operations generalizing network with
  | nil => exact ⟨[], rfl⟩
  | cons timed later ih =>
      obtain ⟨now, operation⟩ := timed
      obtain ⟨first, performed⟩ := exists_influences_perform addressed now operation
      have still : (network.perform now operation).directory.Addressed := by
        rw [performed]
        exact addressed.foldl_heed first
      obtain ⟨second, followed⟩ := ih still
      exact ⟨first ++ second, by rw [follow_cons, followed, performed, List.foldl_append]⟩

end Network

end RadioGateway.ZWave
