import RadioGateway.Link.OsFault

/-!
# Failures of requests and links

A request that leaves its queue without success does so for one of five causes. A link that stops
by itself does so because the port failed or came to its end.
-/

namespace RadioGateway.Link

structure Oversized where
  length : Nat
  limit : Nat
  deriving DecidableEq, Repr

def Oversized.message (oversized : Oversized) : String :=
  "payload of " ++ toString oversized.length ++ " bytes exceeds maximum of " ++
    toString oversized.limit

inductive Failure where
  /-- The other side refused every transmission. -/
  | rejected
  | expired
  | closed
  | oversized (payload : Oversized)
  | portFailed (fault : OsFault)
  deriving DecidableEq, Repr

namespace Failure

def code : Failure → Nat
  | rejected => 1
  | expired => 2
  | closed => 3
  | oversized _ => 4
  | portFailed _ => 5

def message : Failure → String
  | rejected => "request rejected by NACK"
  | expired => "request timed out"
  | closed => "link closed"
  | oversized payload => "cannot encode request: " ++ payload.message
  | portFailed fault => "serial I/O failure (" ++ fault.kind ++ ")"

end Failure

/-- Why a link stopped by itself. -/
inductive Outage where
  | fault (fault : OsFault)
  | ended
  deriving DecidableEq, Repr

namespace Outage

def failure : Outage → Failure
  | fault cause => .portFailed cause
  | ended => .closed

def message : Outage → String
  | fault cause => "serial I/O error: " ++ cause.message
  | ended => "serial link closed"

end Outage

end RadioGateway.Link
