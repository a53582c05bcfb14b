import RadioGateway.EnOcean.Packet
import RadioGateway.Link.Backlog
import RadioGateway.Link.Event

/-!
# Sessions with an EnOcean transceiver

There is no acknowledgement: the next response packet completes the request at the head, and the
head is transmitted again when none comes in time, up to a fixed number of transmissions.
-/

namespace RadioGateway.EnOcean

open RadioGateway.Link

namespace PacketKind

def radio : Byte := 0x01
def response : Byte := 0x02
def commonCommand : Byte := 0x05

end PacketKind

/-- A command of one byte to the transceiver itself. -/
structure Request where
  code : Byte
  deriving DecidableEq, Repr

namespace Request

/-- Asks for the first of the sender addresses that the transceiver may use. -/
def readBaseId : Request := ⟨0x08⟩

def packet (request : Request) : Packet := ⟨PacketKind.commonCommand, [request.code], []⟩

end Request

structure Session where
  backlog : Backlog Request := {}
  /-- Received bytes that do not yet make a packet. -/
  received : Bytes := []
  output : Bytes := []
  events : List (Event Request Packet) := []
  responseTimeout : Nat := 1500
  deriving DecidableEq, Repr

namespace Session

def emit (session : Session) (event : Event Request Packet) : Session :=
  { session with events := session.events ++ [event] }

/-- Transmits the first of the given requests that a packet can hold, fails those before it and keeps
those after it in line. -/
def transmitFrom (now : Nat) (session : Session) : List Request → Session
  | [] => { session with backlog.requests := [] }
  | head :: rest =>
      match head.packet.encode with
      | .ok bytes =>
          { session with
            output := session.output ++ bytes
            backlog := { session.backlog with requests := head :: rest }.arm .transmission
              (now + session.responseTimeout) }
      | .error payload =>
          transmitFrom now ({ session with backlog := {} }.emit (.failed head (.oversized payload)))
            rest

def transmit (now : Nat) (session : Session) : Session :=
  transmitFrom now session session.backlog.requests

/-- Puts a request in line, and transmits it if no other is under way. -/
def submit (now : Nat) (request : Request) (session : Session) : Session :=
  let queued := { session with backlog := session.backlog.enqueue request }
  if session.backlog.isEmpty then queued.transmit now else queued

/-- A response completes the head; every other packet concerns no request. -/
def onPacket (now : Nat) (session : Session) (packet : Packet) : Session :=
  match session.backlog.requests with
  | head :: _ =>
      if packet.kind = PacketKind.response then
        ({ session with backlog := session.backlog.dequeue }.emit (.answered head packet)).transmit now
      else session.emit (.unsolicited packet)
  | [] => session.emit (.unsolicited packet)

def onDecoding (now : Nat) (session : Session) : Decoding Packet → Session
  | .frame packet _ => session.onPacket now packet
  | _ => session

def receive (now : Nat) (bytes : Bytes) (session : Session) : Session :=
  let (decodings, rest) := drain Packet.decode (session.received ++ bytes)
  { decodings.foldl (onDecoding now) session with received := rest }

def expire (now : Nat) (session : Session) : Session :=
  if session.backlog.phase = .idle then session
  else
    match session.backlog.disarm.recordFailure with
    | (.none, backlog) => { session with backlog }
    | (.again, backlog) => { session with backlog }.transmit now
    | (.exhausted request, backlog) =>
        ({ session with backlog }.emit (.failed request .expired)).transmit now

/-- Fails every request and forgets all bytes in both directions. -/
def close (session : Session) : Session :=
  { session with
    events := session.events ++ session.backlog.requests.map (.failed · .closed)
    backlog := session.backlog.clear
    received := []
    output := [] }

def takeOutput (session : Session) : Bytes × Session :=
  (session.output, { session with output := [] })

def takeEvents (session : Session) : List (Event Request Packet) × Session :=
  (session.events, { session with events := [] })

inductive Operation where
  | submit (request : Request)
  | receive (bytes : Bytes)
  | expire
  | close
  deriving DecidableEq, Repr

def perform (now : Nat) (session : Session) : Operation → Session
  | .submit request => session.submit now request
  | .receive bytes => session.receive now bytes
  | .expire => session.expire now
  | .close => session.close

end Session

end RadioGateway.EnOcean
