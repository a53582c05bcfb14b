import RadioGateway.EnOcean.Session
import RadioGateway.Link.Network

/-!
# The EnOcean network

The network follows rocker switches by the address of their sender and remembers the last telegram
of each. There is nothing that it could send to a switch, so attributes can be read only.
-/

namespace RadioGateway.EnOcean

open RadioGateway.Link

structure Rocker where
  data : Byte
  status : Byte
  destination : Option UInt32 := none
  /-- The signal strength without its minus sign, if the transceiver tells. -/
  attenuation : Option Byte := none
  deriving DecidableEq, Repr

namespace Rocker

/-- Whether the energy bow is pressed. -/
def isPressed (rocker : Rocker) : Bool := rocker.data &&& 0x10 ≠ 0

/-- The first rocker action, from 0 to 7. -/
def button (rocker : Rocker) : Byte := rocker.data >>> 5

def dbm (rocker : Rocker) : Option Int := rocker.attenuation.map fun value => -(value.toNat : Int)

/-- The choice byte of telegrams of rocker switches. -/
def choice : Byte := 0xf6

/-- The destination and the attenuation in the optional data of a radio packet: the number of
subtelegrams, the destination, the attenuation. -/
def reception : Bytes → Option UInt32 × Option Byte
  | _ :: first :: second :: third :: fourth :: attenuation :: _ =>
      (some (Bytes.long first second third fourth), some attenuation)
  | _ => (none, none)

/-- Reads a radio packet of a rocker switch: choice, data, sender, status. -/
def ofPacket? (packet : Packet) : Option (UInt32 × Rocker) :=
  if packet.kind = PacketKind.radio then
    match packet.data with
    | lead :: data :: first :: second :: third :: fourth :: status :: _ =>
        if lead = choice then
          let (destination, attenuation) := reception packet.extra
          some (Bytes.long first second third fourth, { data, status, destination, attenuation })
        else none
    | _ => none
  else none

def describe (rocker : Rocker) (sender : UInt32) (attributes : Attributes) : Attributes :=
  let named : Attributes := attributes.insert "node.name" (Numeral.hex 8 sender.toNat)
  (named.setState "state" rocker.isPressed).setByte "button" rocker.button

end Rocker

structure Network where
  session : Session
  rockers : SortedMap UInt32 Rocker := .empty
  /-- The first of the sender addresses that the transceiver may use, once it is known. -/
  baseId : Option UInt32 := none
  alarms : List Failure := []

namespace Network

def alarm (failure : Failure) (network : Network) : Network :=
  { network with alarms := network.alarms ++ [failure] }

def start (now : Nat) (session : Session) : Network :=
  { session := session.submit now .readBaseId }

/-- A response begins with a return code; zero means success. The base address follows it. -/
def baseIdIn? : Bytes → Option UInt32
  | code :: first :: second :: third :: fourth :: _ =>
      if code = 0 then some (Bytes.long first second third fourth) else none
  | _ => none

def onEvent (network : Network) : Event Request Packet → Network
  | .answered request packet =>
      if request = .readBaseId then
        { network with baseId := (baseIdIn? packet.data).or network.baseId }
      else network
  | .confirmed _ _ => network
  | .unsolicited packet =>
      match Rocker.ofPacket? packet with
      | some (sender, rocker) => { network with rockers := network.rockers.insert sender rocker }
      | none => network
  | .failed _ failure => network.alarm failure

def settle (network : Network) : Network :=
  let (events, session) := network.session.takeEvents
  events.foldl onEvent { network with session }

def describe (network : Network) (sender : UInt32) (attributes : Attributes) : Bool × Attributes :=
  match network.rockers.find? sender with
  | none => (false, attributes)
  | some rocker => (true, rocker.describe sender attributes)

def receive (now : Nat) (bytes : Bytes) (network : Network) : Network :=
  { network with session := network.session.receive now bytes }.settle

def expire (now : Nat) (network : Network) : Network :=
  { network with session := network.session.expire now }.settle

def close (network : Network) : Network :=
  { network with session := network.session.close }.settle

instance : Link.Network Network where
  transport _ := "enocean"
  set _ _ _ network := (false, network)
  describe := describe
  receive := receive
  expire := expire
  deadline network := network.session.backlog.deadline
  takeOutput network :=
    let (output, session) := network.session.takeOutput
    (output, { network with session })
  takeAlarms network := (network.alarms, { network with alarms := [] })
  alarm := alarm
  close _ := close

end Network

end RadioGateway.EnOcean
