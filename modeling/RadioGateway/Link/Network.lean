import RadioGateway.Attributes
import RadioGateway.Bytes
import RadioGateway.Link.Failure

/-!
# Networks behind a link

What the owner of a link may ask of the network behind it, whatever its technology. Every operation
that may start a timer is given the current time in milliseconds.
-/

namespace RadioGateway.Link

class Network (σ : Type) where
  /-- The name under which failures are reported. -/
  transport : σ → String
  /-- Applies attributes to a node, and says whether there is one. -/
  set : (now : Nat) → (node : UInt32) → Attributes → σ → Bool × σ
  /-- Writes the state of a node into attributes, and says whether there is one. -/
  describe : σ → (node : UInt32) → Attributes → Bool × Attributes
  receive : (now : Nat) → Bytes → σ → σ
  expire : (now : Nat) → σ → σ
  /-- The time at which the timer runs out, if it runs. -/
  deadline : σ → Option Nat
  takeOutput : σ → Bytes × σ
  /-- Hands over the failures reported since the last time. -/
  takeAlarms : σ → List Failure × σ
  alarm : Failure → σ → σ
  close : (now : Nat) → σ → σ

inductive Query where
  | set (node : UInt32) (attributes : Attributes)
  | get (node : UInt32)
  deriving DecidableEq, Repr

inductive Answer where
  /-- Whether there is a node to which the attributes were applied. -/
  | applied (found : Bool)
  | state (attributes : Option Attributes)
  deriving DecidableEq, Repr

/-- Why a query has no answer: the worker of the network has stopped. -/
structure Stopped where
  deriving DecidableEq, Repr

def Stopped.message (_ : Stopped) : String := "network task is not running"

namespace Query

def apply {σ : Type} [Network σ] (now : Nat) (network : σ) : Query → Answer × σ
  | set node attributes =>
      let (found, network) := Network.set now node attributes network
      (.applied found, network)
  | get node =>
      let (found, attributes) := Network.describe network node .empty
      (.state (if found then some attributes else none), network)

end Query

end RadioGateway.Link
