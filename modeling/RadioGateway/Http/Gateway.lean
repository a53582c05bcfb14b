import RadioGateway.EnOcean.Network
import RadioGateway.Http.Message
import RadioGateway.ZWave.Network

/-!
# The web interface

`/node/` followed by a decimal number is a node of the Z-Wave network, `/enocean/` followed by a
hexadecimal address a device of the EnOcean network. Getting a resource reads the attributes of the
node, posting to it applies the attributes in the query.
-/

namespace RadioGateway.Http

open RadioGateway.Link

/-- A network with whether queries still reach it. -/
structure Endpoint (σ : Type) where
  network : σ
  reachable : Bool := true

structure Gateway where
  zwave : Option (Endpoint ZWave.Network) := none
  enocean : Option (Endpoint EnOcean.Network) := none

inductive Resource where
  /-- A node of the Z-Wave network, by its percent-encoded number. -/
  | zwave (segment : String)
  /-- A device of the EnOcean network, by its percent-encoded address. -/
  | enocean (segment : String)
  deriving DecidableEq, Repr

/-- The resource at a path, which has exactly two segments and none that is empty. -/
def Resource.find? (target : Target) : Option Resource :=
  match target.segments with
  | [place, segment] =>
      if segment = "" then none
      else if place = "node" then some (.zwave segment)
      else if place = "enocean" then some (.enocean segment)
      else none
  | _ => none

def nodeNumber? (radix : Nat) (segment : String) : Option UInt32 :=
  ((Target.decodeSegment? segment).bind (Numeral.readUnsigned? radix 4294967296)).map UInt32.ofNat

def ask {σ : Type} [Network σ] (now : Nat) (query : Query) (endpoint : Option (Endpoint σ)) :
    Option Answer × Option (Endpoint σ) :=
  match endpoint with
  | some ⟨network, true⟩ =>
      let (answer, network) := query.apply now network
      (some answer, some { network })
  | unreachable => (none, unreachable)

/-- The reply that tells the answer of a network; without one the network is out of reach. -/
def replyOf : Option Answer → Reply
  | none => .refused .unavailable
  | some (.applied true) => .applied
  | some (.applied false) => .refused .notFound
  | some (.state (some attributes)) => .state attributes
  | some (.state none) => .refused .notFound

def query? (method : Method) (node : UInt32) (attributes : Attributes) : Option Query :=
  match method with
  | .get => some (.get node)
  | .head => some (.get node)
  | .post => some (.set node attributes)
  | .other => none

/-- Serves a request about one node of a network, whose number in the path is already read. -/
def serve {σ : Type} [Network σ] (now : Nat) (request : Request) (number : Option UInt32)
    (endpoint : Option (Endpoint σ)) : Reply × Option (Endpoint σ) :=
  if request.method = .other then (.refused .methodNotAllowed, endpoint)
  else
    match number.bind (query? request.method · request.target.attributes) with
    | none => (.refused .malformed, endpoint)
    | some query =>
        let (answer, endpoint) := ask now query endpoint
        (replyOf answer, endpoint)

def Gateway.reply (now : Nat) (request : Request) (gateway : Gateway) : Reply × Gateway :=
  match Resource.find? request.target with
  | none => (.refused .notFound, gateway)
  | some (.zwave segment) =>
      let (reply, zwave) := serve now request (nodeNumber? 10 segment) gateway.zwave
      (reply, { gateway with zwave })
  | some (.enocean segment) =>
      let (reply, enocean) := serve now request (nodeNumber? 16 segment) gateway.enocean
      (reply, { gateway with enocean })

end RadioGateway.Http
