/-!
# Backlogs

Requests wait in line and only the one at the head is under way. The backlog also holds what
belongs to the head alone: how often its transmission has failed, and the timer that runs for it.
-/

namespace RadioGateway.Link

/-- What the head of a backlog is waiting for. -/
inductive Phase where
  | idle
  /-- For a sign that its transmission arrived. -/
  | transmission
  /-- For its completion, after the other side took it. -/
  | completion
  deriving DecidableEq, Repr

/-- The number of transmissions after which a request is given up. -/
def maxTransmissions : Nat := 3

structure Backlog (ρ : Type) where
  requests : List ρ := []
  failures : Nat := 0
  phase : Phase := .idle
  deadline : Option Nat := none
  deriving DecidableEq, Repr

namespace Backlog

variable {ρ : Type}

def isEmpty (backlog : Backlog ρ) : Bool := backlog.requests.isEmpty

def length (backlog : Backlog ρ) : Nat := backlog.requests.length

def head? (backlog : Backlog ρ) : Option ρ := backlog.requests.head?

def enqueue (backlog : Backlog ρ) (request : ρ) : Backlog ρ :=
  { backlog with requests := backlog.requests ++ [request] }

def modifyHead (backlog : Backlog ρ) (change : ρ → ρ) : Backlog ρ :=
  { backlog with requests := backlog.requests.modifyHead change }

def arm (backlog : Backlog ρ) (phase : Phase) (deadline : Nat) : Backlog ρ :=
  { backlog with phase, deadline := some deadline }

def disarm (backlog : Backlog ρ) : Backlog ρ :=
  { backlog with phase := .idle, deadline := none }

def forgive (backlog : Backlog ρ) : Backlog ρ := { backlog with failures := 0 }

def dequeue (backlog : Backlog ρ) : Backlog ρ :=
  { requests := backlog.requests.tail }

def clear (_ : Backlog ρ) : Backlog ρ := {}

inductive Verdict (ρ : Type) where
  | none
  | again
  | exhausted (request : ρ)
  deriving DecidableEq, Repr

/-- Counts a failed transmission of the head, and removes the head when its transmissions are used
up. -/
def recordFailure (backlog : Backlog ρ) : Verdict ρ × Backlog ρ :=
  match backlog.requests with
  | [] => (.none, backlog)
  | head :: _ =>
      if backlog.failures + 1 < maxTransmissions then
        (.again, { backlog with failures := backlog.failures + 1 })
      else (.exhausted head, backlog.dequeue)

@[simp]
theorem requests_enqueue (backlog : Backlog ρ) (request : ρ) :
    (backlog.enqueue request).requests = backlog.requests ++ [request] := rfl

@[simp]
theorem requests_arm (backlog : Backlog ρ) (phase : Phase) (deadline : Nat) :
    (backlog.arm phase deadline).requests = backlog.requests := rfl

@[simp]
theorem requests_disarm (backlog : Backlog ρ) : backlog.disarm.requests = backlog.requests := rfl

@[simp]
theorem requests_forgive (backlog : Backlog ρ) : backlog.forgive.requests = backlog.requests := rfl

@[simp]
theorem requests_dequeue (backlog : Backlog ρ) :
    backlog.dequeue.requests = backlog.requests.tail := rfl

end Backlog

end RadioGateway.Link
