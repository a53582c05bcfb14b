import RadioGateway.Proofs.ZWave.Heard
import RadioGateway.Proofs.ZWave.Separation
import RadioGateway.Proofs.ZWave.Specialisation

/-!
# Which nodes there are

There are 256 addresses, and a node is there as soon as it has a feature, from then on for good. To
set attributes and to ask for the state agree on that. What is set on a node that is not there has no
effect; on one that is there it leads to commands for this node alone, and to none if the attributes
name nothing that its features heed.
-/

namespace RadioGateway.ZWave

open RadioGateway.Link

def Feature.settings : Feature → List String
  | level _ => ["dim", "state"]
  | registers state => state.known.keys.map Register.name
  | identification _ => []
  | shutter _ => ["position.blinds", "position.slat"]
  | shutterTuning _ => ["config.slatTime", "config.calibrate"]

def LeavesOut (attributes : Attributes) (names : List String) : Prop :=
  ∀ name ∈ names, ¬ attributes.contains name

namespace LeavesOut

variable {attributes : Attributes} {names : List String} {name : String}

theorem find?_eq_none (leavesOut : LeavesOut attributes names) (member : name ∈ names) :
    attributes.find? name = none :=
  Option.not_isSome_iff_eq_none.mp (leavesOut name member)

theorem number?_eq_none (leavesOut : LeavesOut attributes names) (member : name ∈ names)
    (width bound : Nat) : attributes.number? width bound name = none := by
  rw [Attributes.number?, leavesOut.find?_eq_none member]
  rfl

theorem percentage?_eq_none (leavesOut : LeavesOut attributes names) (member : name ∈ names) :
    attributes.percentage? name = none := by
  rw [Attributes.percentage?, leavesOut.number?_eq_none member, Option.map_none]

theorem requested?_eq_none (leavesOut : LeavesOut attributes names) (member : name ∈ names)
    (value : RegisterValue) : value.requested? attributes name = none := by
  have unnamed := leavesOut.number?_eq_none member
  cases value <;>
    simp only [RegisterValue.requested?, Attributes.byte?, Attributes.word?, Attributes.long?,
      unnamed, Option.map_none]

end LeavesOut

/-- Attributes that name nothing which a feature heeds leave it as it is and ask for no command. -/
theorem Feature.set_of_leavesOut {feature : Feature} {attributes : Attributes}
    (leavesOut : LeavesOut attributes feature.settings) :
    feature.set attributes = (feature, []) := by
  cases feature with
  | level state =>
      have dim : attributes.percentage? "dim" = none :=
        leavesOut.percentage?_eq_none (by simp [settings])
      have switch : attributes.state? "state" = none := by
        rw [Attributes.state?, leavesOut.find?_eq_none (by simp [settings])]
      simp only [set, Level.requested?, dim, switch, Option.map_none, Option.toList_none]
  | registers state =>
      have silent : state.setCommands attributes = [] := by
        rw [Registers.setCommands, List.flatMap_eq_nil_iff]
        rintro ⟨index, value⟩ known
        have member : Register.name index ∈ (registers state).settings :=
          List.mem_map_of_mem (List.mem_map_of_mem known)
        simp only [leavesOut.requested?_eq_none member value]
      rw [set, silent]
  | identification state => rfl
  | shutter state =>
      have blinds : attributes.percentage? "position.blinds" = none :=
        leavesOut.percentage?_eq_none (by simp [settings])
      have slat : attributes.percentage? "position.slat" = none :=
        leavesOut.percentage?_eq_none (by simp [settings])
      simp [set, Shutter.setCommands, Shutter.nudge, blinds, slat]
  | shutterTuning state =>
      have time : attributes.word? "config.slatTime" = none := by
        rw [Attributes.word?, leavesOut.number?_eq_none (by simp [settings]), Option.map_none]
      have calibrate : ¬ attributes.contains "config.calibrate" := leavesOut _ (by simp [settings])
      simp [set, ShutterTuning.set, time, calibrate]

theorem Node.set_of_leavesOut {node : Node} {attributes : Attributes}
    (leavesOut : ∀ feature ∈ node.features.values, LeavesOut attributes feature.settings) :
    (node.set attributes).2 = [] := by
  rw [Node.set, List.flatMap_eq_nil_iff]
  intro feature member
  rw [Feature.set_of_leavesOut (leavesOut feature member)]

namespace Directory

theorem find?_toUInt8 (directory : Directory) (id : UInt32) :
    directory.find? id.toNat =
      if id.toNat < 256 then some (directory.node id.toUInt8) else none := by
  by_cases bound : id.toNat < 256
  · have same : id.toUInt8.toNat = id.toNat := by
      rw [UInt32.toNat_toUInt8, Nat.mod_eq_of_lt bound]
    rw [if_pos bound, ← same, find?_toNat]
  · rw [if_neg bound, find?, Vector.getElem?_eq_none (Nat.le_of_not_lt bound)]

/-- There are 256 nodes, each at the place that its number tells. -/
theorem Addressed.numbers {directory : Directory} (addressed : directory.Addressed) :
    directory.nodes.toList.map (fun node => node.id.toNat) = List.range 256 := by
  apply List.ext_getElem?
  intro number
  rw [List.getElem?_map, Vector.getElem?_toList]
  by_cases bound : number < 256
  · have found : directory.nodes[number]? = some directory.nodes[number] :=
      Vector.getElem?_eq_getElem bound
    rw [List.getElem?_range bound, found, Option.map_some, addressed.id_of_find? found]
  · rw [Vector.getElem?_eq_none (Nat.le_of_not_lt bound), List.getElem?_eq_none]
    · rfl
    · rw [List.length_range]
      exact Nat.le_of_not_lt bound

end Directory

/-! ## Nodes that are there -/

/-- A node counts as discovered as soon as it has a feature. -/
theorem Node.isDiscovered_iff_ne (node : Node) :
    node.isDiscovered = true ↔ node.features ≠ .empty := by
  obtain ⟨id, name, model, entries, ascending⟩ := node
  cases entries <;> simp [isDiscovered, SortedMap.isEmpty, SortedMap.empty]

namespace Network

/-- Whether a number is the address of a node that has a feature. -/
def Has (network : Network) (id : UInt32) : Prop :=
  id.toNat < 256 ∧ (network.directory.node id.toUInt8).features ≠ .empty

variable {network : Network} {id : UInt32}

theorem has_iff (network : Network) (id : UInt32) :
    network.Has id ↔
      id.toNat < 256 ∧ (network.directory.node id.toUInt8).isDiscovered = true := by
  rw [Has, Node.isDiscovered_iff_ne]

/-- To ask for the state tells whether the node is there. -/
theorem describe_iff (network : Network) (id : UInt32) (attributes : Attributes) :
    (network.describe id attributes).1 = true ↔ network.Has id := by
  rw [describe, Directory.find?_toUInt8, has_iff]
  by_cases bound : id.toNat < 256 <;> simp [bound]

/-- Attributes are for a node that is there, or for none. -/
theorem influence?_set (addressed : network.directory.Addressed) (id : UInt32)
    (attributes : Attributes) :
    network.Has id ∧ Operation.influence? network.directory (.set id attributes) =
        some (.attributes id.toUInt8 attributes) ∨
      ¬ network.Has id ∧ Operation.influence? network.directory (.set id attributes) = none := by
  rw [Operation.influence?, Directory.find?_toUInt8, has_iff]
  by_cases bound : id.toNat < 256
  · cases discovered : (network.directory.node id.toUInt8).isDiscovered <;>
      simp [bound, discovered, Option.filter, addressed id.toUInt8]
  · simp [bound]

/-- To set attributes tells whether the node is there. -/
theorem set_iff (addressed : network.directory.Addressed) (now : Nat) (attributes : Attributes) :
    (network.set now id attributes).1 = true ↔ network.Has id := by
  rw [set_eq now addressed]
  rcases influence?_set addressed id attributes with ⟨there, meant⟩ | ⟨missing, none⟩
  · simp [there, meant]
  · simp [missing, none]

theorem set_of_not_has (addressed : network.directory.Addressed) (missing : ¬ network.Has id)
    (now : Nat) (attributes : Attributes) : network.set now id attributes = (false, network) := by
  rw [set_eq now addressed]
  rcases influence?_set addressed id attributes with ⟨there, _⟩ | ⟨_, none⟩
  · exact absurd there missing
  · rw [none]

/-- Attributes lead to no request but the commands that apply them. -/
theorem demanded_set (quiet : network.session.events = []) (now : Nat) (attributes : Attributes) :
    network.demanded now (.set id attributes) = [] := by
  have only : (network.undertake now (.set id attributes)).session.OnlyFailures := by
    rw [undertake]
    cases Operation.influence? network.directory (.set id attributes) with
    | none => exact .of_quiet quiet
    | some influence => exact (Session.OnlyFailures.of_quiet quiet).submitAll now _
  exact (Directory.demands_of_failures _ _ only).1

end Network

namespace Watched

namespace Faithful

variable {watched : Watched} (faithful : watched.Faithful) {id : UInt32}

include faithful

/-- The requests to which attributes lead: none if the node is not there, and else what its features
ask for. -/
theorem requests_set (wait : Nat) (id : UInt32) (attributes : Attributes) :
    let after := watched.step wait (.set id attributes)
    let node := watched.network.directory.node id.toUInt8
    (¬ watched.network.Has id →
      after.run.submitted.drop watched.run.submitted.length = []) ∧
    (watched.network.Has id →
      after.run.submitted.drop watched.run.submitted.length =
        (node.set attributes).2.map (.command id.toUInt8)) := by
  intro after node
  rw [watched.drop_submitted, Network.demanded_set faithful.quiet, List.append_nil,
    Network.Operation.requests]
  rcases Network.influence?_set faithful.addressed id attributes with
    ⟨there, meant⟩ | ⟨missing, none⟩
  · refine ⟨fun missing => absurd there missing, fun _ => ?_⟩
    rw [meant, Option.toList_some, List.flatMap_singleton]
    rfl
  · refine ⟨fun _ => ?_, fun there => absurd there missing⟩
    rw [none]
    rfl

theorem has_follow (there : watched.network.Has id) (schedule : List (Nat × Network.Operation)) :
    (watched.follow schedule).network.Has id := by
  obtain ⟨influences, nodes, _⟩ := faithful.exists_influences schedule
  rw [Network.has_iff] at there ⊢
  refine ⟨there.1, ?_⟩
  rw [nodes, Directory.node_foldl_heed]
  exact (Node.GrowsInto.foldl_change _ _).isDiscovered there.2

end Faithful

/-- There are always 256 nodes, each under its own number. To set attributes and to ask for the state
agree on which of them are there, and a node that is there stays there. What is set on a node that is
not there has no effect. On one that is there it leads to commands for this node only, and to none if
the attributes name nothing that its features heed. -/
theorem set_and_describe_agree (ackTimeout answerTimeout : Nat) (controller : Byte)
    (schedule : List (Nat × Network.Operation)) :
    let watched := (start ackTimeout answerTimeout controller).follow schedule
    let network := watched.network
    network.directory.nodes.toList.map (fun node => node.id.toNat) = List.range 256 ∧
    ∀ id,
      (∀ attributes, (network.describe id attributes).1 = true ↔ network.Has id) ∧
      (∀ wait attributes,
        let outcome := network.set (watched.run.now + wait) id attributes
        let after := watched.step wait (.set id attributes)
        let requests := after.run.submitted.drop watched.run.submitted.length
        after.network = outcome.2 ∧ after.run.session = after.network.session ∧
        (outcome.1 = true ↔ network.Has id) ∧
        (outcome.1 = false → outcome.2 = network ∧ requests = []) ∧
        (outcome.1 = true →
          (∀ request ∈ requests, ∃ command, request = .command id.toUInt8 command) ∧
          ((∀ feature ∈ (network.directory.node id.toUInt8).features.values,
            LeavesOut attributes feature.settings) → requests = []))) ∧
      (network.Has id → ∀ later, (watched.follow later).network.Has id) := by
  intro watched network
  have faithful : watched.Faithful := faithful_follow ackTimeout answerTimeout controller schedule
  refine ⟨faithful.addressed.numbers, fun id => ⟨network.describe_iff id, ?_, ?_⟩⟩
  · intro wait attributes outcome after requests
    have agreed : outcome.1 = true ↔ network.Has id :=
      Network.set_iff faithful.addressed _ attributes
    obtain ⟨none, asked⟩ := faithful.requests_set wait id attributes
    have session : after.run.session = after.network.session :=
      (faithful.step wait (.set id attributes)).session
    refine ⟨rfl, session, agreed, fun refused => ?_, fun accepted => ?_⟩
    · have missing : ¬ network.Has id := fun there => by
        rw [agreed.mpr there] at refused
        cases refused
      refine ⟨?_, none missing⟩
      rw [show outcome = (false, network) from
        Network.set_of_not_has faithful.addressed missing _ attributes]
    · rw [show requests = _ from asked (agreed.mp accepted)]
      constructor
      · intro request member
        obtain ⟨command, _, rfl⟩ := List.mem_map.mp member
        exact ⟨command, rfl⟩
      · intro unheeded
        rw [Node.set_of_leavesOut unheeded, List.map_nil]
  · exact fun there later => faithful.has_follow there later

/-- A node announces itself with an identification and registers. It is there and heeds nothing that
is set yet, while nothing is beyond the addresses. -/
theorem announced_node_is_there :
    let announcement : Bytes := [1, 11, 0, 73, 132, 5, 5, 4, 17, 6, 114, 112, 40]
    let watched := (start 1500 5000 1).follow [(0, .receive announcement)]
    let attributes : Attributes := .ofList [("state", "on")]
    let set (id : UInt32) := watched.network.set (watched.run.now + 10) id attributes
    let requests (id : UInt32) := (watched.step 10 (.set id attributes)).run.submitted.drop
      watched.run.submitted.length
    ((set 5).1 = true ∧ requests 5 = []) ∧ (set 300).2 = watched.network ∧
      (watched.follow [(10, .close)]).network.Has 5 := by
  intro announcement watched attributes set requests
  obtain ⟨_, agree⟩ := set_and_describe_agree 1500 5000 1 [(0, .receive announcement)]
  have accepted : (set 5).1 = true := by decide +kernel
  have refused : (set 300).1 = false := by decide +kernel
  obtain ⟨_, here, stays⟩ := agree 5
  obtain ⟨_, _, there, _, asked⟩ := here 10 attributes
  obtain ⟨_, beyond, _⟩ := agree 300
  obtain ⟨_, _, _, unchanged, _⟩ := beyond 10 attributes
  have unheeded : ∀ feature ∈ (watched.network.directory.node 5).features.values,
      LeavesOut attributes feature.settings := by
    unfold LeavesOut
    decide +kernel
  exact ⟨⟨accepted, (asked accepted).2 unheeded⟩, (unchanged refused).1,
    stays (there.mp accepted) [(10, .close)]⟩

end Watched

end RadioGateway.ZWave
