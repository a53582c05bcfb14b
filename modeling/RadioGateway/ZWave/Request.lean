import RadioGateway.ZWave.Frame

/-!
# Requests to a Z-Wave controller

A request becomes one frame to the controller. A command for a node carries a ticket, the number
under which the controller later reports whether the node received it.
-/

namespace RadioGateway.ZWave

namespace Function

def listNodes : Byte := 0x02
def commandReceived : Byte := 0x04
def deliver : Byte := 0x13
def describeNode : Byte := 0x41
def nodeAnnounced : Byte := 0x49
def askNode : Byte := 0x60

end Function

/-- Deliveries ask for an acknowledgement by the node and may be routed over other nodes. -/
def defaultOptions : Byte := 0x05

structure Delivery where
  node : Byte
  command : Bytes
  options : Byte := defaultOptions
  /-- Given at the first transmission and kept for the following ones. -/
  ticket : Option Byte := none
  deriving DecidableEq, Repr

inductive Request where
  | listNodes
  | describeNode (node : Byte)
  /-- Make the node announce its command classes. -/
  | askNode (node : Byte)
  | deliver (delivery : Delivery)
  deriving DecidableEq, Repr

namespace Request

def command (node : Byte) (command : Bytes) : Request := .deliver { node, command }

def function : Request → Byte
  | listNodes => Function.listNodes
  | describeNode _ => Function.describeNode
  | askNode _ => Function.askNode
  | deliver _ => Function.deliver

/-- The payload of a request without its ticket. -/
def arguments : Request → Bytes
  | listNodes => []
  | describeNode node => [node]
  | askNode node => [node]
  | deliver delivery =>
      delivery.node :: .ofNat delivery.command.length :: delivery.command ++ [delivery.options]

def ticket? : Request → Option Byte
  | deliver delivery => delivery.ticket
  | _ => none

/-- Whether a request stays at the head after its answer, until it is confirmed. -/
def needsConfirmation : Request → Bool
  | deliver _ => true
  | _ => false

def node? : Request → Option Byte
  | listNodes => none
  | describeNode node => some node
  | askNode node => some node
  | deliver delivery => some delivery.node

def withoutTicket : Request → Request
  | deliver delivery => .deliver { delivery with ticket := none }
  | request => request

/-- The frame of a request, with its ticket at the end. -/
def frame (request : Request) : Frame :=
  ⟨.request, request.function, request.arguments ++ request.ticket?.toList⟩

/-- The ticket after `ticket`; zero is never one. -/
def nextTicket (ticket : Byte) : Byte := if ticket = 0xff then 1 else ticket + 1

/-- Gives a delivery without a ticket the next free one. -/
def stamp (free : Byte) : Request → Request × Byte
  | deliver delivery =>
      match delivery.ticket with
      | some _ => (.deliver delivery, free)
      | none => (.deliver { delivery with ticket := some free }, nextTicket free)
  | request => (request, free)

@[simp]
theorem withoutTicket_stamp (free : Byte) (request : Request) :
    (request.stamp free).1.withoutTicket = request.withoutTicket := by
  cases request with
  | deliver delivery => cases ticket : delivery.ticket <;> simp [stamp, ticket, withoutTicket]
  | _ => rfl

end Request

end RadioGateway.ZWave
