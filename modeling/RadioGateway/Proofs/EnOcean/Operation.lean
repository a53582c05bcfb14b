import RadioGateway.EnOcean.Network
import RadioGateway.Proofs.EnOcean.Effect
import RadioGateway.Proofs.EnOcean.Framing

/-!
# Runs of a network

A run of a network is any sequence of what its owner does with it while it is open. What reaches it
from outside in the course of a run are the packets that it decodes and the ends of its timer. The
packets are those of the stream, however it was cut.
-/

namespace RadioGateway.EnOcean

open RadioGateway.Link

namespace Network

inductive Operation where
  | set (id : UInt32) (attributes : Attributes)
  | get (id : UInt32) (attributes : Attributes)
  | receive (bytes : Bytes)
  | expire
  /-- The port has failed, which is reported. -/
  | fail (failure : Failure)
  | takeOutput
  deriving DecidableEq, Repr

/-- The network after an operation; reading leaves it as it is. -/
def perform (now : Nat) (network : Network) : Operation → Network
  | .set id attributes => (Link.Network.set now id attributes network).2
  | .get _ _ => network
  | .receive bytes => network.receive now bytes
  | .expire => network.expire now
  | .fail failure => network.alarm failure
  | .takeOutput => (Link.Network.takeOutput network).2

def follow (network : Network) (schedule : List (Nat × Operation)) : Network :=
  schedule.foldl (fun network (now, operation) => network.perform now operation) network

def Operation.received : Operation → Bytes
  | receive bytes => bytes
  | _ => []

inductive Incident where
  | heard (packet : Packet)
  | expired
  deriving DecidableEq, Repr

def Incident.packet? : Incident → Option Packet
  | heard packet => some packet
  | expired => none

def packetOf? : Decoding Packet → Option Packet
  | .frame packet _ => some packet
  | _ => none

/-- What reaches a network in an operation. -/
def incidents (network : Network) : Operation → List Incident
  | .receive bytes =>
      ((drain Packet.decode (network.session.received ++ bytes)).1.filterMap packetOf?).map .heard
  | .expire => [.expired]
  | _ => []

def log (network : Network) : List (Nat × Operation) → List Incident
  | [] => []
  | (now, operation) :: later =>
      network.incidents operation ++ (network.perform now operation).log later

theorem log_append (network : Network) (schedule later : List (Nat × Operation)) :
    network.log (schedule ++ later) = network.log schedule ++ (network.follow schedule).log later := by
  induction schedule generalizing network with
  | nil => rfl
  | cons timed rest ih =>
      obtain ⟨now, operation⟩ := timed
      rw [List.cons_append, log, ih, ← List.append_assoc]
      rfl

/-- Handling an event leaves the session alone. -/
theorem onEvent_session (network : Network) (session : Session) (event : Event Request Packet) :
    onEvent { network with session } event = { onEvent network event with session } := by
  cases event with
  | answered request packet =>
      simp only [onEvent]
      split <;> rfl
  | confirmed request packet => rfl
  | unsolicited packet =>
      simp only [onEvent]
      split <;> rfl
  | failed request failure => rfl

theorem foldl_onEvent_session (events : List (Event Request Packet)) (network : Network)
    (session : Session) :
    events.foldl onEvent { network with session } =
      { events.foldl onEvent network with session } := by
  induction events generalizing network with
  | nil => rfl
  | cons event later ih => rw [List.foldl_cons, onEvent_session, ih, List.foldl_cons]

/-- A network as it will be when its events have been handled. -/
def handled (network : Network) : Network := network.session.events.foldl onEvent network

theorem settle_eq (network : Network) :
    network.settle = { network.handled with session := { network.session with events := [] } } :=
  foldl_onEvent_session ..

section Stream

variable {network : Network} (waiting : Packet.decode network.session.received = .needMore)

include waiting

theorem received_perform (now : Nat) (operation : Operation) :
    (network.perform now operation).session.received =
      (drain Packet.decode (network.session.received ++ operation.received)).2 := by
  have still : network.session.received =
      (drain Packet.decode (network.session.received ++ [])).2 := by
    rw [List.append_nil, Incremental.drain_of_needMore waiting]
  cases operation with
  | receive bytes =>
      rw [perform, receive, settle_eq]
      rfl
  | expire =>
      have kept : (network.session.expire now).received = network.session.received := by
        have reacted := Session.perform_eq now network.session .expire
        rw [Session.perform] at reacted
        rw [reacted]
        rfl
      rw [perform, expire, settle_eq]
      exact kept.trans still
  | set id attributes => exact still
  | get id attributes => exact still
  | fail failure => exact still
  | takeOutput => exact still

/-- The packets that reach a network in an operation are those that it decodes. -/
theorem packets_incidents (operation : Operation) :
    (network.incidents operation).filterMap Incident.packet? =
      (drain Packet.decode (network.session.received ++ operation.received)).1.filterMap
        packetOf? := by
  have none : [] = (drain Packet.decode (network.session.received ++ [])).1.filterMap packetOf? := by
    rw [List.append_nil, Incremental.drain_of_needMore waiting]
    rfl
  cases operation with
  | receive bytes =>
      rw [incidents, List.filterMap_map]
      exact List.filterMap_some
  | set id attributes => exact none
  | get id attributes => exact none
  | expire => exact none
  | fail failure => exact none
  | takeOutput => exact none

/-- The packets of a stream are read from it, into whatever pieces it is cut and whatever is done
between them. -/
theorem packets_log {decodings : List (Decoding Packet)} {stream : Bytes}
    (spells : Spells Packet.decode decodings stream) {schedule : List (Nat × Operation)}
    (cut : network.session.received ++ schedule.flatMap (·.2.received) = stream) :
    (network.log schedule).filterMap Incident.packet? = decodings.filterMap packetOf? := by
  induction schedule generalizing network decodings stream with
  | nil =>
      rw [List.flatMap_nil, List.append_nil] at cut
      subst cut
      cases decodings with
      | nil => rfl
      | cons decoding later =>
          obtain ⟨first, complete, _⟩ := spells.of_cons Packet.incremental_decode
          rw [← first, waiting] at complete
          exact complete.elim
  | cons timed later ih =>
      obtain ⟨now, operation⟩ := timed
      rw [List.flatMap_cons, ← List.append_assoc] at cut
      obtain ⟨rest, split, spelled, stuck⟩ := spells.drain_prefix Packet.incremental_decode cut
      rw [← received_perform waiting now operation] at spelled stuck
      rw [log, List.filterMap_append, packets_incidents waiting, ih stuck spelled rfl, split,
        List.filterMap_append]

end Stream

theorem mapM_encode_cons {packet : Packet} {later : List Packet} {records : List Bytes}
    (encoded : (packet :: later).mapM Packet.encode = .ok records) :
    ∃ record rest, packet.encode = .ok record ∧ later.mapM Packet.encode = .ok rest ∧
      records = record :: rest := by
  rw [List.mapM_cons] at encoded
  cases first : packet.encode with
  | error payload =>
      rw [first] at encoded
      cases encoded
  | ok record =>
      cases others : later.mapM Packet.encode with
      | error payload =>
          rw [first, others] at encoded
          cases encoded
      | ok rest =>
          rw [first, others] at encoded
          cases encoded
          exact ⟨record, rest, rfl, rfl, rfl⟩

/-- The encodings of packets spell them. -/
theorem spells_packets {packets : List Packet} {records : List Bytes}
    (encoded : packets.mapM Packet.encode = .ok records) :
    ∃ decodings, Spells Packet.decode decodings records.flatten ∧
      decodings.filterMap packetOf? = packets := by
  induction packets generalizing records with
  | nil =>
      cases encoded
      exact ⟨[], .nil, rfl⟩
  | cons packet later ih =>
      obtain ⟨record, rest, first, others, rfl⟩ := mapM_encode_cons encoded
      obtain ⟨decodings, spells, same⟩ := ih others
      have decoded := Packet.decode_encode first []
      rw [List.append_nil] at decoded
      have complete : (Packet.decode record).Complete := by
        rw [decoded]
        trivial
      have whole : (Packet.decode record).consumed = record.length := by
        rw [decoded]
        rfl
      refine ⟨_, .cons complete whole spells, ?_⟩
      rw [decoded, ← same]
      rfl

end Network

end RadioGateway.EnOcean
