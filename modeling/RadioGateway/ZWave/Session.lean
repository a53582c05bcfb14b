import RadioGateway.Link.Backlog
import RadioGateway.Link.Event
import RadioGateway.ZWave.Request

/-!
# Sessions with a Z-Wave controller

Requests are sent one at a time. The head is transmitted again when it is refused or not
acknowledged in time, up to a fixed number of transmissions. A delivery is complete only when a
later frame reports its ticket; the answer before it merely says that the controller took the
command. Every valid frame is acknowledged and every spoiled one refused.
-/

namespace RadioGateway.ZWave

open RadioGateway.Link

structure Session where
  backlog : Backlog Request := {}
  received : Bytes := []
  output : Bytes := []
  events : List (Event Request Frame) := []
  /-- The ticket of the next delivery. -/
  freeTicket : Byte := 1
  /-- How long a transmission may stay unacknowledged, in milliseconds. -/
  ackTimeout : Nat := 1500
  /-- How long the answer or confirmation may take after that, in milliseconds. -/
  answerTimeout : Nat := 5000
  deriving DecidableEq, Repr

namespace Session

def emit (session : Session) (event : Event Request Frame) : Session :=
  { session with events := session.events ++ [event] }

def write (session : Session) (bytes : Bytes) : Session :=
  { session with output := session.output ++ bytes }

/-- Transmits the first of the given requests that a frame can hold, fails those before it and keeps
those after it in line. -/
def transmitFrom (now : Nat) (session : Session) : List Request → Session
  | [] => { session with backlog.requests := [] }
  | head :: rest =>
      let (head, freeTicket) := head.stamp session.freeTicket
      match head.frame.encode with
      | .ok bytes =>
          { session with
            freeTicket
            output := session.output ++ bytes
            backlog := { session.backlog with requests := head :: rest }.arm .transmission
              (now + session.ackTimeout) }
      | .error payload =>
          transmitFrom now
            ({ session with freeTicket, backlog := {} }.emit (.failed head (.oversized payload))) rest

def transmit (now : Nat) (session : Session) : Session :=
  transmitFrom now session session.backlog.requests

/-- Puts a request in line, and transmits it if no other is under way. -/
def submit (now : Nat) (request : Request) (session : Session) : Session :=
  let queued := { session with backlog := session.backlog.enqueue request }
  if session.backlog.isEmpty then queued.transmit now else queued

/-- Transmits the head again, or fails it when its transmissions are used up. -/
def retransmit (now : Nat) (failure : Failure) (session : Session) : Session :=
  match session.backlog.disarm.recordFailure with
  | (.none, backlog) => { session with backlog }
  | (.again, backlog) => { session with backlog }.transmit now
  | (.exhausted request, backlog) =>
      ({ session with backlog }.emit (.failed request failure)).transmit now

/-- The head has been taken by the controller. -/
def awaitCompletion (now : Nat) (session : Session) : Session :=
  { session with
    backlog := session.backlog.forgive.arm .completion (now + session.answerTimeout) }

/-- Symbols count only while a transmission is unacknowledged. -/
def onSymbol (now : Nat) (session : Session) (symbol : Symbol) : Session :=
  if session.backlog.phase = .transmission then
    match symbol with
    | .ack => session.awaitCompletion now
    | .nack => session.retransmit now .rejected
    | .cancel => session.retransmit now .rejected
  else session

inductive Relation where
  | answer
  | confirmation
  | foreign
  deriving DecidableEq, Repr

/-- A frame concerns a request of the same function: a response answers it, and a request that
begins with its ticket confirms it. -/
def relation (request : Request) (frame : Frame) : Relation :=
  if frame.function = request.function then
    match frame.kind, request.ticket? with
    | .response, _ => .answer
    | .request, some ticket =>
        if frame.payload.head? = some ticket then .confirmation else .foreign
    | .request, none => .foreign
  else .foreign

def complete (now : Nat) (event : Event Request Frame) (session : Session) : Session :=
  ({ session with backlog := session.backlog.dequeue }.emit event).transmit now

def onFrame (now : Nat) (session : Session) (frame : Frame) : Session :=
  match session.backlog.head? with
  | none => session.emit (.unsolicited frame)
  | some head =>
      match relation head frame with
      | .answer =>
          if head.needsConfirmation then
            (session.awaitCompletion now).emit (.answered head frame)
          else session.complete now (.answered head frame)
      | .confirmation => session.complete now (.confirmed head frame)
      | .foreign => session.emit (.unsolicited frame)

def onDecoding (now : Nat) (session : Session) : Decoding Frame → Session
  | .needMore => session
  | .discard _ => session
  | .corrupt _ => session.write [Frame.symbolByte .nack]
  | .unsupported _ => session.write [Frame.symbolByte .ack]
  | .symbol symbol => session.onSymbol now symbol
  | .frame frame _ => (session.write [Frame.symbolByte .ack]).onFrame now frame

def receive (now : Nat) (bytes : Bytes) (session : Session) : Session :=
  let (decodings, rest) := drain Frame.decode (session.received ++ bytes)
  { decodings.foldl (onDecoding now) session with received := rest }

def expire (now : Nat) (session : Session) : Session :=
  match session.backlog.phase, session.backlog.requests with
  | .transmission, _ => session.retransmit now .expired
  | .completion, head :: _ => session.complete now (.failed head .expired)
  | _, _ => session

/-- Fails every request and forgets all bytes in both directions. -/
def close (session : Session) : Session :=
  { session with
    events := session.events ++ session.backlog.requests.map (.failed · .closed)
    backlog := session.backlog.clear
    received := []
    output := [] }

def takeOutput (session : Session) : Bytes × Session :=
  (session.output, { session with output := [] })

def takeEvents (session : Session) : List (Event Request Frame) × Session :=
  (session.events, { session with events := [] })

inductive Operation where
  | submit (request : Request)
  | receive (bytes : Bytes)
  | expire
  | close
  deriving DecidableEq, Repr

def perform (now : Nat) (session : Session) : Operation → Session
  | .submit request => session.submit now request
  | .receive bytes => session.receive now bytes
  | .expire => session.expire now
  | .close => session.close

end Session

end RadioGateway.ZWave
