import RadioGateway.Proofs.ZWave.Operation

/-!
# What changes the nodes of a network

An event of the session tells at most one thing about one node. The directory changes only by what
events tell and by attributes that are set, each of which concerns one node and leaves the others
alone. So a node is the fold of what concerned it.
-/

namespace RadioGateway.ZWave

open RadioGateway.Link

/-- What may change a node. -/
inductive Influence where
  /-- The node is there and can be expected to have the given classes. -/
  | introduction (id : Byte) (classes : List Byte)
  | command (id : Byte) (command : Bytes)
  | attributes (id : Byte) (attributes : Attributes)
  deriving DecidableEq, Repr

namespace Influence

def id : Influence → Byte
  | introduction id _ => id
  | command id _ => id
  | attributes id _ => id

def change (node : Node) : Influence → Node
  | introduction id classes =>
      classes.foldl Node.installGeneric { node with name := Numeral.decimal id.toNat }
  | command _ bytes =>
      match node.dispatch? bytes with
      | some (after, _) => after
      | none => node
  | attributes _ requested => (node.set requested).1

def ofCommand? : Bytes → Option Influence
  | _ :: source :: length :: rest =>
      if length.toNat ≤ rest.length then some (.command source (rest.take length.toNat)) else none
  | _ => none

def ofAnnouncement? : Bytes → Option Influence
  | status :: id :: length :: _ :: _ :: _ :: classes =>
      if status = announcementReceived then
        some (.introduction id ((classes.take (length.toNat - 3)).takeWhile (· ≠ CommandClass.mark)))
      else none
  | _ => none

/-- What a frame that answers no request tells about a node. -/
def ofFrame? (frame : Frame) : Option Influence :=
  if frame.kind = .request then
    if frame.function = Function.commandReceived then ofCommand? frame.payload
    else if frame.function = Function.nodeAnnounced then ofAnnouncement? frame.payload
    else none
  else none

def ofEvent? : Event Request Frame → Option Influence
  | .answered (.describeNode node) frame =>
      frame.payload[4]?.map fun deviceClass =>
        .introduction node (DeviceClass.expectedClasses deviceClass)
  | .unsolicited frame => ofFrame? frame
  | _ => none

end Influence

namespace Directory

def heed (directory : Directory) (influence : Influence) : Directory :=
  directory.modify influence.id fun node => influence.change node

theorem find?_toNat (directory : Directory) (id : Byte) :
    directory.find? id.toNat = some (directory.node id) :=
  Vector.getElem?_eq_getElem id.toNat_lt

theorem node_modify (directory : Directory) (id other : Byte) (change : Node → Node) :
    (directory.modify id change).node other =
      if id = other then change (directory.node other) else directory.node other := by
  apply Option.some.inj
  rw [← find?_toNat]
  by_cases same : id = other
  · subst same
    simp [find?, modify, id.toNat_lt]
  · have apart : id.toNat ≠ other.toNat := fun equal => same (UInt8.toNat.inj equal)
    rw [if_neg same, ← find?_toNat]
    simp [find?, modify, apart]

/-- A change that leaves the node as it is leaves the directory as it is. -/
theorem modify_eq_self {directory : Directory} {id : Byte} {change : Node → Node}
    (unchanged : change (directory.node id) = directory.node id) :
    directory.modify id change = directory := by
  unfold modify
  rw [unchanged]
  exact congrArg Directory.mk (Vector.set_getElem_self id.toNat_lt)

end Directory

namespace Node

theorem id_installGeneric (node : Node) (commandClass : Byte) :
    (node.installGeneric commandClass).id = node.id := by
  unfold installGeneric
  split <;> rfl

theorem specialise_eq (node : Node) (product : Product) :
    node.specialise product =
      { node with
        features := product.features.foldl (fun features entry => features.insert entry.1 entry.2)
          node.features } := by
  unfold specialise
  induction product.features generalizing node with
  | nil => rfl
  | cons entry later ih => exact ih (node.install entry.1 entry.2)

/-- What a command that a feature handles makes of its node: the feature follows the command, and if
that identifies a product, the node gets its name and its features first. -/
theorem dispatch?_cases {node after : Node} {command : Bytes} {commands : List Bytes}
    (dispatched : node.dispatch? command = some (after, commands)) :
    ∃ commandClass feature, command.head? = some commandClass ∧
      node.features.find? commandClass = some feature ∧
      (feature.product? command = none ∧
          after = node.install commandClass (feature.onCommand command) ∨
        ∃ product, feature.product? command = some product ∧
          after = ({ node with
              model := some product.name
              features := node.features.erase commandClass }.specialise product).installDefault
            commandClass (feature.onCommand command)) := by
  unfold dispatch? at dispatched
  obtain ⟨commandClass, addressed, routed⟩ := Option.bind_eq_some_iff.mp dispatched
  obtain ⟨feature, found, outcome⟩ := Option.map_eq_some_iff.mp routed
  refine ⟨commandClass, feature, addressed, found, ?_⟩
  cases identified : feature.product? command with
  | none =>
      left
      simp only [follow, identified, Prod.mk.injEq] at outcome
      refine ⟨rfl, outcome.1.symm.trans ?_⟩
      simp only [installDefault, install, SortedMap.insertNew_erase]
  | some product =>
      right
      simp only [follow, identified, Prod.mk.injEq] at outcome
      exact ⟨product, rfl, outcome.1.symm⟩

end Node

theorem Influence.id_change (node : Node) (influence : Influence) :
    (influence.change node).id = node.id := by
  cases influence with
  | introduction id classes =>
      apply List.foldlRecOn (motive := fun after : Node => after.id = node.id) classes
      · rfl
      · intro between same commandClass _
        exact (between.id_installGeneric commandClass).trans same
  | command id bytes =>
      simp only [change]
      split
      · rename_i after commands dispatched
        obtain ⟨commandClass, feature, _, _, ⟨_, rfl⟩ | ⟨product, _, rfl⟩⟩ :=
          Node.dispatch?_cases dispatched
        · rfl
        · simp only [Node.specialise_eq, Node.installDefault]
      · rfl
  | attributes id requested => rfl

namespace Directory

/-- Whether every node stands under its own address. -/
def Addressed (directory : Directory) : Prop := ∀ id, (directory.node id).id = id

theorem node_empty (id : Byte) : ({} : Directory).node id = { id } := by
  apply Option.some.inj
  rw [← find?_toNat, find?, Vector.getElem?_ofFn, dif_pos id.toNat_lt, UInt8.ofNat_toNat]

theorem addressed_empty : Addressed {} := by
  intro id
  rw [node_empty]

theorem node_heed (directory : Directory) (influence : Influence) (id : Byte) :
    (directory.heed influence).node id =
      if influence.id = id then influence.change (directory.node id) else directory.node id :=
  node_modify ..

theorem Addressed.node_of_find? {directory : Directory} (addressed : directory.Addressed)
    {number : Nat} {node : Node} (found : directory.find? number = some node) :
    directory.node node.id = node := by
  obtain ⟨bound, same⟩ := Vector.getElem?_eq_some_iff.mp found
  have byte : (UInt8.ofNat number).toNat = number := UInt8.toNat_ofNat_of_lt bound
  have here := directory.find?_toNat (.ofNat number)
  rw [byte, found] at here
  have there := addressed (.ofNat number)
  rw [← Option.some.inj here] at there
  rw [there, ← Option.some.inj here]

theorem Addressed.heed {directory : Directory} (addressed : directory.Addressed)
    (influence : Influence) : (directory.heed influence).Addressed := by
  intro id
  rw [node_heed]
  split
  · rw [Influence.id_change]
    exact addressed id
  · exact addressed id

theorem Addressed.foldl_heed {directory : Directory} (addressed : directory.Addressed)
    (influences : List Influence) : (influences.foldl Directory.heed directory).Addressed := by
  apply List.foldlRecOn (motive := Addressed) influences
  · exact addressed
  · intro directory addressed influence _
    exact addressed.heed influence

/-- A node is the fold of what concerned it. -/
theorem node_foldl_heed (directory : Directory) (influences : List Influence) (id : Byte) :
    (influences.foldl Directory.heed directory).node id =
      (influences.filter (·.id = id)).foldl Influence.change (directory.node id) := by
  induction influences generalizing directory with
  | nil => rfl
  | cons influence later ih =>
      rw [List.foldl_cons, ih, node_heed]
      by_cases concerned : influence.id = id <;> simp [concerned]

end Directory

end RadioGateway.ZWave
