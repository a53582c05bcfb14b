import RadioGateway.Link.Failure

/-!
# Events of a link

What a link reports to the network above it: what became of its requests, and the frames that
belong to none of them.
-/

namespace RadioGateway.Link

inductive Event (ρ φ : Type) where
  /-- A frame answers the request at the head. A request that still waits for its confirmation stays
  there. -/
  | answered (request : ρ) (frame : φ)
  /-- A later frame with the number of the request completes it. -/
  | confirmed (request : ρ) (frame : φ)
  | unsolicited (frame : φ)
  | failed (request : ρ) (failure : Failure)
  deriving DecidableEq, Repr

end RadioGateway.Link
