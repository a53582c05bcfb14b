import RadioGateway.ZWave.Network

/-!
# Runs of a network

A run of a network is any sequence of what its owner can do with it, each operation at its own time.
-/

namespace RadioGateway.ZWave

open RadioGateway.Link

namespace Network

/-- The events that a network handles when it settles: those that its session holds, and those that
handling them leads to. -/
def handled (now : Nat) (network : Network) : List (Event Request Frame) :=
  network.session.events ++ (network.handleEvents now).session.events

inductive Operation where
  | set (id : UInt32) (attributes : Attributes)
  | get (id : UInt32) (attributes : Attributes)
  | receive (bytes : Bytes)
  | expire
  /-- The port has failed, which is reported. -/
  | fail (failure : Failure)
  | close
  | takeOutput
  deriving DecidableEq, Repr

/-- The network after an operation; reading leaves it as it is. -/
def perform (now : Nat) (network : Network) : Operation → Network
  | .set id attributes => (network.set now id attributes).2
  | .get _ _ => network
  | .receive bytes => network.receive now bytes
  | .expire => network.expire now
  | .fail failure => network.alarm failure
  | .close => network.close now
  | .takeOutput => { network with session := network.session.takeOutput.2 }

def follow (network : Network) (operations : List (Nat × Operation)) : Network :=
  operations.foldl (fun network (now, operation) => network.perform now operation) network

theorem follow_cons (network : Network) (now : Nat) (operation : Operation)
    (later : List (Nat × Operation)) :
    network.follow ((now, operation) :: later) = (network.perform now operation).follow later := rfl

end Network

end RadioGateway.ZWave
