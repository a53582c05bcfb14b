import RadioGateway.Proofs.Checked.ZWaveFrame
import RadioGateway.ZWave.Session

/-!
# Checked sessions with a Z-Wave controller

A session counts in two words: the failed transmissions of the head, and the ticket of the next
delivery. The count never exceeds the number of transmissions, and after the last ticket comes the
first.
-/

namespace RadioGateway.ZWave

open RadioGateway.Link Checked

namespace Request

def checkedStamp (free : Byte) : Request → Checked (Request × Byte)
  | deliver delivery =>
      match delivery.ticket with
      | some _ => .ok (.deliver delivery, free)
      | none =>
          if free = 0xff then .ok (.deliver { delivery with ticket := some free }, 1)
          else do
            let next ← add 8 free.toNat 1
            .ok (.deliver { delivery with ticket := some free }, .ofNat next)
  | request => .ok (request, free)

theorem checkedStamp_eq (free : Byte) (request : Request) :
    request.checkedStamp free = .ok (request.stamp free) := by
  cases request with
  | deliver delivery =>
      simp only [checkedStamp, stamp, nextTicket]
      cases delivery.ticket with
      | some ticket => rfl
      | none =>
          by_cases last : free = 0xff
          · simp only [if_pos last]
          · have bound := free.toNat_lt
            have below : free.toNat ≠ 255 := fun same => last (UInt8.toNat.inj same)
            simp only [if_neg last, add_eq (show free.toNat + 1 < 2 ^ 8 by omega), ok_bind,
              UInt8.ofNat_add, UInt8.ofNat_toNat]
            rfl
  | _ => rfl

end Request

namespace Session

variable {session : Session} (now : Nat)

/-- Transmits the first of the given requests that a frame can hold. The number of the transmission
is logged. -/
def checkedTransmitFrom (now : Nat) (session : Session) : List Request → Checked Session
  | [] => .ok { session with backlog.requests := [] }
  | head :: rest => do
      let (head, freeTicket) ← head.checkedStamp session.freeTicket
      match ← head.frame.checkedEncode with
      | .ok bytes =>
          let _ ← add 32 session.backlog.failures 1
          .ok { session with
            freeTicket
            output := session.output ++ bytes
            backlog := { session.backlog with requests := head :: rest }.arm .transmission
              (now + session.ackTimeout) }
      | .error payload =>
          let failed := { session with freeTicket, backlog := {} }
          checkedTransmitFrom now (failed.emit (.failed head (.oversized payload))) rest

def checkedTransmit (now : Nat) (session : Session) : Checked Session :=
  checkedTransmitFrom now session session.backlog.requests

def checkedSubmit (now : Nat) (request : Request) (session : Session) : Checked Session :=
  let queued := { session with backlog := session.backlog.enqueue request }
  if session.backlog.isEmpty then queued.checkedTransmit now else .ok queued

/-- Transmits the head again, which is logged, or fails it. -/
def checkedRetransmit (now : Nat) (failure : Failure) (session : Session) : Checked Session := do
  match ← session.backlog.disarm.checkedRecordFailure with
  | (.none, backlog) => .ok { session with backlog }
  | (.again, backlog) =>
      let _ ← add 32 backlog.failures 1
      { session with backlog }.checkedTransmit now
  | (.exhausted request, backlog) =>
      ({ session with backlog }.emit (.failed request failure)).checkedTransmit now

theorem checkedTransmitFrom_eq (spare : session.backlog.Spare) (requests : List Request) :
    checkedTransmitFrom now session requests = .ok (transmitFrom now session requests) ∧
      (transmitFrom now session requests).backlog.Spare := by
  induction requests generalizing session with
  | nil => exact ⟨rfl, spare⟩
  | cons head rest ih =>
      rw [checkedTransmitFrom, transmitFrom, Request.checkedStamp_eq, ok_bind]
      dsimp only
      rw [Frame.checkedEncode_eq, ok_bind, spare.counts]
      cases (head.stamp session.freeTicket).1.frame.encode with
      | ok bytes => exact ⟨rfl, spare⟩
      | error payload => exact ih Backlog.spare_empty

theorem checkedTransmit_eq (spare : session.backlog.Spare) :
    session.checkedTransmit now = .ok (session.transmit now) ∧
      (session.transmit now).backlog.Spare :=
  checkedTransmitFrom_eq now spare session.backlog.requests

theorem checkedSubmit_eq (spare : session.backlog.Spare) (request : Request) :
    session.checkedSubmit now request = .ok (session.submit now request) ∧
      (session.submit now request).backlog.Spare := by
  unfold checkedSubmit submit
  dsimp only
  split
  · exact checkedTransmit_eq now (spare.enqueue request)
  · exact ⟨rfl, spare.enqueue request⟩

theorem checkedRetransmit_eq (spare : session.backlog.Spare) (failure : Failure) :
    session.checkedRetransmit now failure = .ok (session.retransmit now failure) ∧
      (session.retransmit now failure).backlog.Spare := by
  have disarmed : session.backlog.disarm.Spare := spare
  obtain ⟨counts, left⟩ := Backlog.checkedRecordFailure_eq disarmed
  rw [checkedRetransmit, retransmit, counts, ok_bind]
  match session.backlog.disarm.recordFailure, left with
  | (.none, backlog), left => exact ⟨rfl, left⟩
  | (.again, backlog), left =>
      dsimp only
      rw [Backlog.Spare.counts left, ok_bind]
      exact checkedTransmit_eq now left
  | (.exhausted request, backlog), left => exact checkedTransmit_eq now left

def checkedOnSymbol (now : Nat) (session : Session) (symbol : Symbol) : Checked Session :=
  if session.backlog.phase = .transmission then
    match symbol with
    | .ack => .ok (session.awaitCompletion now)
    | .nack => session.checkedRetransmit now .rejected
    | .cancel => session.checkedRetransmit now .rejected
  else .ok session

def checkedComplete (now : Nat) (event : Event Request Frame) (session : Session) :
    Checked Session :=
  ({ session with backlog := session.backlog.dequeue }.emit event).checkedTransmit now

def checkedOnFrame (now : Nat) (session : Session) (frame : Frame) : Checked Session :=
  match session.backlog.head? with
  | none => .ok (session.emit (.unsolicited frame))
  | some head =>
      match relation head frame with
      | .answer =>
          if head.needsConfirmation then
            .ok ((session.awaitCompletion now).emit (.answered head frame))
          else session.checkedComplete now (.answered head frame)
      | .confirmation => session.checkedComplete now (.confirmed head frame)
      | .foreign => .ok (session.emit (.unsolicited frame))

def checkedOnDecoding (now : Nat) (session : Session) : Decoding Frame → Checked Session
  | .needMore => .ok session
  | .discard _ => .ok session
  | .corrupt _ => .ok (session.write [Frame.symbolByte .nack])
  | .unsupported _ => .ok (session.write [Frame.symbolByte .ack])
  | .symbol symbol => session.checkedOnSymbol now symbol
  | .frame frame _ => (session.write [Frame.symbolByte .ack]).checkedOnFrame now frame

def checkedReceive (now : Nat) (bytes : Bytes) (session : Session) : Checked Session := do
  let (session, rest) ← consume Frame.checkedDecode (checkedOnDecoding now) session
    (session.received ++ bytes)
  .ok { session with received := rest }

def checkedExpire (now : Nat) (session : Session) : Checked Session :=
  match session.backlog.phase, session.backlog.requests with
  | .transmission, _ => session.checkedRetransmit now .expired
  | .completion, head :: _ => session.checkedComplete now (.failed head .expired)
  | _, _ => .ok session

theorem checkedOnSymbol_eq (spare : session.backlog.Spare) (symbol : Symbol) :
    session.checkedOnSymbol now symbol = .ok (session.onSymbol now symbol) ∧
      (session.onSymbol now symbol).backlog.Spare := by
  unfold checkedOnSymbol onSymbol
  split
  · cases symbol with
    | ack => exact ⟨rfl, Backlog.spare_forgive session.backlog⟩
    | nack => exact checkedRetransmit_eq now spare .rejected
    | cancel => exact checkedRetransmit_eq now spare .rejected
  · exact ⟨rfl, spare⟩

theorem checkedComplete_eq (session : Session) (event : Event Request Frame) :
    session.checkedComplete now event = .ok (session.complete now event) ∧
      (session.complete now event).backlog.Spare :=
  checkedTransmit_eq now (Backlog.spare_dequeue session.backlog)

theorem checkedOnFrame_eq (spare : session.backlog.Spare) (frame : Frame) :
    session.checkedOnFrame now frame = .ok (session.onFrame now frame) ∧
      (session.onFrame now frame).backlog.Spare := by
  unfold checkedOnFrame onFrame
  cases session.backlog.head? with
  | none => exact ⟨rfl, spare⟩
  | some head =>
      dsimp only
      cases relation head frame with
      | answer =>
          dsimp only
          split
          · exact ⟨rfl, Backlog.spare_forgive session.backlog⟩
          · exact checkedComplete_eq now session _
      | confirmation => exact checkedComplete_eq now session _
      | foreign => exact ⟨rfl, spare⟩

theorem checkedOnDecoding_eq (spare : session.backlog.Spare) (decoding : Decoding Frame) :
    session.checkedOnDecoding now decoding = .ok (session.onDecoding now decoding) ∧
      (session.onDecoding now decoding).backlog.Spare := by
  cases decoding with
  | symbol symbol => exact checkedOnSymbol_eq now spare symbol
  | frame frame length =>
      have written : (session.write [Frame.symbolByte .ack]).backlog.Spare := spare
      exact checkedOnFrame_eq now written frame
  | _ => exact ⟨rfl, spare⟩

theorem checkedReceive_eq (spare : session.backlog.Spare) (bytes : Bytes) :
    session.checkedReceive now bytes = .ok (session.receive now bytes) ∧
      (session.receive now bytes).backlog.Spare := by
  obtain ⟨consumed, left⟩ := consume_eq Frame.checkedDecode_eq Frame.incremental_decode.bounded
    (fun session : Session => session.backlog.Spare)
    (fun _ decoding spare => checkedOnDecoding_eq now spare decoding) spare
    (session.received ++ bytes)
  rw [checkedReceive, consumed, ok_bind]
  exact ⟨rfl, left⟩

theorem checkedExpire_eq (spare : session.backlog.Spare) :
    session.checkedExpire now = .ok (session.expire now) ∧
      (session.expire now).backlog.Spare := by
  unfold checkedExpire expire
  cases session.backlog.phase with
  | idle => exact ⟨rfl, spare⟩
  | transmission => exact checkedRetransmit_eq now spare .expired
  | completion =>
      cases session.backlog.requests with
      | nil => exact ⟨rfl, spare⟩
      | cons head rest => exact checkedComplete_eq now session _

end Session

end RadioGateway.ZWave
