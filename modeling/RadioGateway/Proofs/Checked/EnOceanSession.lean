import RadioGateway.EnOcean.Session
import RadioGateway.Proofs.Checked.EnOceanPacket

/-!
# Checked sessions with an EnOcean transceiver

All that a session counts are the failed transmissions of the head, and there are never more of them
than transmissions.
-/

namespace RadioGateway.EnOcean.Session

open RadioGateway.Link Checked

variable {session : Session} (now : Nat)

def checkedTransmitFrom (now : Nat) (session : Session) : List Request → Checked Session
  | [] => .ok { session with backlog.requests := [] }
  | head :: rest => do
      match ← head.packet.checkedEncode with
      | .ok bytes =>
          .ok { session with
            output := session.output ++ bytes
            backlog := { session.backlog with requests := head :: rest }.arm .transmission
              (now + session.responseTimeout) }
      | .error payload =>
          checkedTransmitFrom now
            ({ session with backlog := {} }.emit (.failed head (.oversized payload))) rest

def checkedTransmit (now : Nat) (session : Session) : Checked Session :=
  checkedTransmitFrom now session session.backlog.requests

def checkedSubmit (now : Nat) (request : Request) (session : Session) : Checked Session :=
  let queued := { session with backlog := session.backlog.enqueue request }
  if session.backlog.isEmpty then queued.checkedTransmit now else .ok queued

theorem checkedTransmitFrom_eq (spare : session.backlog.Spare) (requests : List Request) :
    checkedTransmitFrom now session requests = .ok (transmitFrom now session requests) ∧
      (transmitFrom now session requests).backlog.Spare := by
  induction requests generalizing session with
  | nil => exact ⟨rfl, spare⟩
  | cons head rest ih =>
      rw [checkedTransmitFrom, transmitFrom, Packet.checkedEncode_eq, ok_bind]
      cases head.packet.encode with
      | ok bytes => exact ⟨rfl, spare⟩
      | error payload => exact ih Backlog.spare_empty

theorem checkedTransmit_eq (spare : session.backlog.Spare) :
    session.checkedTransmit now = .ok (session.transmit now) ∧
      (session.transmit now).backlog.Spare :=
  checkedTransmitFrom_eq now spare session.backlog.requests

theorem checkedSubmit_eq (spare : session.backlog.Spare) (request : Request) :
    session.checkedSubmit now request = .ok (session.submit now request) ∧
      (session.submit now request).backlog.Spare := by
  unfold checkedSubmit submit
  dsimp only
  split
  · exact checkedTransmit_eq now (spare.enqueue request)
  · exact ⟨rfl, spare.enqueue request⟩

def checkedOnPacket (now : Nat) (session : Session) (packet : Packet) : Checked Session :=
  match session.backlog.requests with
  | head :: _ =>
      if packet.kind = PacketKind.response then
        ({ session with backlog := session.backlog.dequeue }.emit
          (.answered head packet)).checkedTransmit now
      else .ok (session.emit (.unsolicited packet))
  | [] => .ok (session.emit (.unsolicited packet))

def checkedOnDecoding (now : Nat) (session : Session) : Decoding Packet → Checked Session
  | .frame packet _ => session.checkedOnPacket now packet
  | _ => .ok session

def checkedReceive (now : Nat) (bytes : Bytes) (session : Session) : Checked Session := do
  let (session, rest) ← consume Packet.checkedDecode (checkedOnDecoding now) session
    (session.received ++ bytes)
  .ok { session with received := rest }

theorem checkedOnPacket_eq (spare : session.backlog.Spare) (packet : Packet) :
    session.checkedOnPacket now packet = .ok (session.onPacket now packet) ∧
      (session.onPacket now packet).backlog.Spare := by
  unfold checkedOnPacket onPacket
  cases session.backlog.requests with
  | nil => exact ⟨rfl, spare⟩
  | cons head rest =>
      dsimp only
      split
      · exact checkedTransmit_eq now (Backlog.spare_dequeue session.backlog)
      · exact ⟨rfl, spare⟩

theorem checkedOnDecoding_eq (spare : session.backlog.Spare) (decoding : Decoding Packet) :
    session.checkedOnDecoding now decoding = .ok (session.onDecoding now decoding) ∧
      (session.onDecoding now decoding).backlog.Spare := by
  cases decoding with
  | frame packet length => exact checkedOnPacket_eq now spare packet
  | _ => exact ⟨rfl, spare⟩

theorem checkedReceive_eq (spare : session.backlog.Spare) (bytes : Bytes) :
    session.checkedReceive now bytes = .ok (session.receive now bytes) ∧
      (session.receive now bytes).backlog.Spare := by
  obtain ⟨consumed, left⟩ := consume_eq Packet.checkedDecode_eq Packet.incremental_decode.bounded
    (fun session : Session => session.backlog.Spare)
    (fun _ decoding spare => checkedOnDecoding_eq now spare decoding) spare
    (session.received ++ bytes)
  rw [checkedReceive, consumed, ok_bind]
  exact ⟨rfl, left⟩

/-- Transmits the head again, and logs the number of the transmission, or fails it. -/
def checkedExpire (now : Nat) (session : Session) : Checked Session :=
  if session.backlog.phase = .idle then .ok session
  else do
    match ← session.backlog.disarm.checkedRecordFailure with
    | (.none, backlog) => .ok { session with backlog }
    | (.again, backlog) =>
        let _ ← add 32 backlog.failures 1
        { session with backlog }.checkedTransmit now
    | (.exhausted request, backlog) =>
        ({ session with backlog }.emit (.failed request .expired)).checkedTransmit now

theorem checkedExpire_eq (spare : session.backlog.Spare) :
    session.checkedExpire now = .ok (session.expire now) ∧
      (session.expire now).backlog.Spare := by
  have disarmed : session.backlog.disarm.Spare := spare
  obtain ⟨counts, left⟩ := Backlog.checkedRecordFailure_eq disarmed
  unfold checkedExpire expire
  split
  · exact ⟨rfl, spare⟩
  · rw [counts, ok_bind]
    match session.backlog.disarm.recordFailure, left with
    | (.none, backlog), left => exact ⟨rfl, left⟩
    | (.again, backlog), left =>
        dsimp only
        rw [Backlog.Spare.counts left, ok_bind]
        exact checkedTransmit_eq now left
    | (.exhausted request, backlog), left => exact checkedTransmit_eq now left

end RadioGateway.EnOcean.Session
