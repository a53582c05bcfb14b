import RadioGateway.ZWave.Feature

/-!
# Nodes

A node of the network with the features that are known of it, and the directory of all nodes.
-/

namespace RadioGateway.ZWave

structure Node where
  id : Byte
  name : String := ""
  model : Option String := none
  features : SortedMap Byte Feature := .empty
  deriving DecidableEq, Repr

namespace Node

/-- A node counts as discovered when it has a feature. -/
def isDiscovered (node : Node) : Bool := !node.features.isEmpty

/-- Puts a feature in the place of one that the node may have for the class. -/
def install (node : Node) (commandClass : Byte) (feature : Feature) : Node :=
  { node with features := node.features.insert commandClass feature }

/-- Adds a feature unless the node has one for the class. -/
def installDefault (node : Node) (commandClass : Byte) (feature : Feature) : Node :=
  { node with features := node.features.insertNew commandClass feature }

def installGeneric (node : Node) (commandClass : Byte) : Node :=
  match Feature.generic? commandClass with
  | some feature => node.installDefault commandClass feature
  | none => node

def specialise (node : Node) (product : Product) : Node :=
  product.features.foldl (fun node (commandClass, feature) => node.install commandClass feature) node

/-- Applies attributes to every feature in the order of the classes. -/
def set (node : Node) (attributes : Attributes) : Node × List Bytes :=
  ({ node with features := node.features.mapValues fun feature => (feature.set attributes).1 },
    node.features.values.flatMap fun feature => (feature.set attributes).2)

def getCommands (node : Node) : List Bytes := node.features.values.flatMap Feature.getCommands

def describe (node : Node) (attributes : Attributes) : Attributes :=
  let named := attributes.insert "node.name" node.name
  let identified :=
    match node.model with
    | some model => named.insert "device.name" model
    | none => named
  node.features.values.foldl (fun attributes feature => feature.describe attributes) identified

/-- Lets a feature follow a command of its node. A command that identifies a known product names the
node after it, gives it the features of the product and asks for their state. -/
def follow (node : Node) (feature : Feature) (command : Bytes) : Feature × Node × List Bytes :=
  match feature.product? command with
  | some product =>
      (feature.onCommand command, { node with model := some product.name }.specialise product,
        product.features.flatMap fun entry => entry.2.getCommands)
  | none => (feature.onCommand command, node, [])

/-- Routes a command to the feature of its class; `none` if there is no such feature. The feature
stays on the node unless the command has put another one in its place. -/
def dispatch? (node : Node) (command : Bytes) : Option (Node × List Bytes) :=
  command.head?.bind fun commandClass =>
    (node.features.find? commandClass).map fun feature =>
      let rest := { node with features := node.features.erase commandClass }
      let (feature, node, commands) := rest.follow feature command
      (node.installDefault commandClass feature, commands)

end Node

/-- One node for each address. -/
structure Directory where
  nodes : Vector Node 256 := .ofFn fun address => { id := .ofNat address.val }

namespace Directory

instance : Inhabited Directory := ⟨{}⟩

def node (directory : Directory) (id : Byte) : Node := directory.nodes.get id.toFin

/-- The node with a number, if it is an address at all. -/
def find? (directory : Directory) (number : Nat) : Option Node := directory.nodes[number]?

def modify (directory : Directory) (id : Byte) (change : Node → Node) : Directory :=
  { nodes := directory.nodes.set id.toNat (change (directory.node id)) id.toNat_lt }

def discovered (directory : Directory) : List Node :=
  directory.nodes.toList.filter Node.isDiscovered

end Directory

end RadioGateway.ZWave
