import RadioGateway.Link.Network
import RadioGateway.ZWave.Node
import RadioGateway.ZWave.Session

/-!
# The Z-Wave network

The network asks the controller for its nodes and every node for its kind and its classes, gives the
nodes their features and routes commands to them. An event of the session may lead to further
requests, but such a request can at most fail at once, and a failure leads to nothing more than a
report. So two rounds over the events leave none behind.
-/

namespace RadioGateway.ZWave

open RadioGateway.Link

/-- The nodes of a bitmap whose first bit stands for node `first`; each byte stands for eight nodes,
its lowest bit for the first of them. Numbers beyond one byte are no nodes. -/
def nodeIdsFrom (first : Nat) : Bytes → List Byte
  | [] => []
  | bits :: rest =>
      ((List.range 8).filter fun place => bits.toNat.testBit place && first + place < 256).map
        (fun place => .ofNat (first + place)) ++ nodeIdsFrom (first + 8) rest

def nodeIds (bitmap : Bytes) : List Byte := nodeIdsFrom 1 bitmap

namespace DeviceClass

def controller : Byte := 0x01
def staticController : Byte := 0x02
def binarySwitch : Byte := 0x10
def multilevelSwitch : Byte := 0x11

def isController (deviceClass : Byte) : Bool :=
  deviceClass = controller || deviceClass = staticController

/-- The command classes that every device of a class can be expected to have. -/
def expectedClasses (deviceClass : Byte) : List Byte :=
  if deviceClass = multilevelSwitch then
    [CommandClass.configuration, CommandClass.manufacturerSpecific]
  else if deviceClass = binarySwitch then [CommandClass.basic]
  else []

end DeviceClass

/-- The status of an announcement that carries the classes of a node. -/
def announcementReceived : Byte := 0x84

structure Network where
  session : Session
  directory : Directory := {}
  /-- The address of the controller itself. -/
  controller : Byte := 1
  alarms : List Failure := []

namespace Network

def alarm (failure : Failure) (network : Network) : Network :=
  { network with alarms := network.alarms ++ [failure] }

def submit (now : Nat) (request : Request) (network : Network) : Network :=
  { network with session := network.session.submit now request }

def send (now : Nat) (node : Byte) (commands : List Bytes) (network : Network) : Network :=
  commands.foldl (fun network command => network.submit now (.command node command)) network

def start (now : Nat) (session : Session) (controller : Byte := 1) : Network :=
  ({ session, controller } : Network).submit now .listNodes

/-- The node list: version, capabilities, the length of the bitmap and the bitmap. -/
def onNodeList (now : Nat) (payload : Bytes) (network : Network) : Network :=
  match payload with
  | _ :: _ :: count :: bitmap =>
      ((nodeIds (bitmap.take count.toNat)).filter (· ≠ network.controller)).foldl
        (fun network node => network.submit now (.describeNode node)) network
  | _ => network

/-- Names a node after its number, gives it generic features and asks it for all its state. -/
def introduce (now : Nat) (id : Byte) (classes : List Byte) (network : Network) : Network :=
  let named := { network.directory.node id with name := Numeral.decimal id.toNat }
  let node := classes.foldl Node.installGeneric named
  ({ network with directory := network.directory.modify id fun _ => node }).send now id
    node.getCommands

/-- The kind of a node: the fifth byte is its generic device class. A node that is no controller is
asked to announce itself. -/
def onNodeDescription (now : Nat) (id : Byte) (payload : Bytes) (network : Network) : Network :=
  match payload[4]? with
  | none => network
  | some deviceClass =>
      let introduced := network.introduce now id (DeviceClass.expectedClasses deviceClass)
      if DeviceClass.isController deviceClass then introduced
      else introduced.submit now (.askNode id)

/-- A command from a node: status, node, the length of the command and the command. -/
def onCommandReceived (now : Nat) (payload : Bytes) (network : Network) : Network :=
  match payload with
  | _ :: source :: length :: rest =>
      if length.toNat ≤ rest.length then
        match (network.directory.node source).dispatch? (rest.take length.toNat) with
        | some (node, commands) =>
            ({ network with directory := network.directory.modify source fun _ => node }).send now
              source commands
        | none => network
      else network
  | _ => network

/-- An announcement: status, node, a length that counts three device classes and the supported
command classes, then those, up to the mark. -/
def onAnnouncement (now : Nat) (payload : Bytes) (network : Network) : Network :=
  match payload with
  | status :: id :: length :: _ :: _ :: _ :: classes =>
      if status = announcementReceived then
        network.introduce now id
          ((classes.take (length.toNat - 3)).takeWhile (· ≠ CommandClass.mark))
      else network
  | _ => network

def onEvent (now : Nat) (network : Network) : Event Request Frame → Network
  | .answered .listNodes frame => network.onNodeList now frame.payload
  | .answered (.describeNode node) frame => network.onNodeDescription now node frame.payload
  | .answered _ _ => network
  | .confirmed _ _ => network
  | .unsolicited frame =>
      if frame.kind = .request then
        if frame.function = Function.commandReceived then
          network.onCommandReceived now frame.payload
        else if frame.function = Function.nodeAnnounced then
          network.onAnnouncement now frame.payload
        else network
      else network
  | .failed _ failure => network.alarm failure

/-- Handles the events that the session holds now. -/
def handleEvents (now : Nat) (network : Network) : Network :=
  let (events, session) := network.session.takeEvents
  events.foldl (onEvent now) { network with session }

/-- Handles all events of the session and those that follow from them. -/
def settle (now : Nat) (network : Network) : Network :=
  (network.handleEvents now).handleEvents now

def set (now : Nat) (id : UInt32) (attributes : Attributes) (network : Network) : Bool × Network :=
  match (network.directory.find? id.toNat).filter Node.isDiscovered with
  | none => (false, network)
  | some node =>
      let (changed, commands) := node.set attributes
      (true, (({ network with directory := network.directory.modify node.id fun _ => changed }).send
        now node.id commands).settle now)

/-- Writes the state of a node into attributes, also of one that is not discovered, and says whether
it is. -/
def describe (network : Network) (id : UInt32) (attributes : Attributes) : Bool × Attributes :=
  match network.directory.find? id.toNat with
  | none => (false, attributes)
  | some node => (node.isDiscovered, node.describe attributes)

def receive (now : Nat) (bytes : Bytes) (network : Network) : Network :=
  { network with session := network.session.receive now bytes }.settle now

def expire (now : Nat) (network : Network) : Network :=
  { network with session := network.session.expire now }.settle now

def close (now : Nat) (network : Network) : Network :=
  { network with session := network.session.close }.settle now

instance : Link.Network Network where
  transport _ := "zwave"
  set := set
  describe := describe
  receive := receive
  expire := expire
  deadline network := network.session.backlog.deadline
  takeOutput network :=
    let (output, session) := network.session.takeOutput
    (output, { network with session })
  takeAlarms network := (network.alarms, { network with alarms := [] })
  alarm := alarm
  close := close

end Network

end RadioGateway.ZWave
