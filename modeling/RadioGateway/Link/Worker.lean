import RadioGateway.Link.Network

/-!
# Workers

A worker owns a network and its port. It is woken by one thing at a time, lets the network act on it
and writes what the network has to send before it is woken again. It stops when the port fails, when
the port comes to its end or when nobody is left who could put queries to it. An outage is reported
once, and stopping fails every pending request.
-/

namespace RadioGateway.Link

inductive Wake where
  | bytes (bytes : Bytes)
  /-- The port came to its end. -/
  | ended
  | readFault (fault : OsFault)
  | timer
  | query (query : Query)
  /-- Nobody is left who could put queries. -/
  | abandoned
  deriving DecidableEq, Repr

/-- The most bytes that one read takes from a port. -/
def readSize : Nat := 256

inductive Port where
  | working
  /-- It takes some bytes and then fails. -/
  | writeFault (fault : OsFault) (count : Nat := 0)
  | flushFault (fault : OsFault)
  deriving DecidableEq, Repr

def Port.taken (port : Port) (bytes : Bytes) : Bytes :=
  match port with
  | working => bytes
  | writeFault _ count => bytes.take count
  | flushFault _ => bytes

def Port.fault? : Port → Option OsFault
  | working => none
  | writeFault fault _ => some fault
  | flushFault fault => some fault

inductive Status where
  | running
  | finished
  | failed (outage : Outage)
  deriving DecidableEq, Repr

structure Worker (σ : Type) where
  network : σ
  /-- When the worker is to be woken by its timer, if it is. -/
  timer : Option Nat := none
  status : Status := .running

structure Turn (σ : Type) where
  worker : Worker σ
  /-- The bytes that the port took. -/
  written : Bytes := []
  /-- What the query of this turn came to, if there was one. -/
  answer : Option (Except Stopped Answer) := none

def Turn.answering {σ : Type} (turn : Turn σ) (answer : Answer) : Turn σ :=
  { turn with answer := some (.ok answer) }

namespace Worker

variable {σ : Type} [Network σ]

def finish (now : Nat) (network : σ) : Worker σ :=
  { network := Network.close now network, status := .finished }

def fail (now : Nat) (outage : Outage) (network : σ) : Worker σ :=
  { network := Network.close now (Network.alarm outage.failure network), status := .failed outage }

/-- Waits to be woken, by the timer of the network if by nothing else. -/
def rest (network : σ) : Worker σ := { network, timer := Network.deadline network }

def flush (now : Nat) (port : Port) (network : σ) : Turn σ :=
  let (output, network) := Network.takeOutput network
  if output = [] then { worker := rest network }
  else
    match port.fault? with
    | none => { worker := rest network, written := port.taken output }
    | some fault => { worker := fail now (.fault fault) network, written := port.taken output }

def isDue (now : Nat) (worker : Worker σ) : Bool := worker.timer.any (· ≤ now)

/-- The first turn, in which nothing but the initial output of the network is written. -/
def start (now : Nat) (port : Port) (network : σ) : Turn σ := flush now port network

/-- The turn of a worker that is woken. A timer that fires early does nothing, and a stopped worker
only turns queries down. -/
def turn (now : Nat) (port : Port) (worker : Worker σ) (wake : Wake) : Turn σ :=
  match worker.status with
  | .running =>
      match wake with
      | .bytes bytes => flush now port (Network.receive now bytes worker.network)
      | .ended => { worker := fail now .ended worker.network }
      | .readFault fault => { worker := fail now (.fault fault) worker.network }
      | .timer =>
          if worker.isDue now then flush now port (Network.expire now worker.network)
          else { worker }
      | .query query =>
          let (answer, network) := query.apply now worker.network
          (flush now port network).answering answer
      | .abandoned => { worker := finish now worker.network }
  | _ =>
      match wake with
      | .query _ => { worker, answer := some (.error {}) }
      | _ => { worker }

end Worker

end RadioGateway.Link
