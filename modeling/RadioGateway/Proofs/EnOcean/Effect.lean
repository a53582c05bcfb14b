import RadioGateway.Proofs.EnOcean.Run

/-!
# What a reaction does

Every request fits into a packet. So between two reactions a session is at rest, with nothing in
line, or its head is under way and a timer runs for it. From there a reaction has one of nine
effects, each with the events that it reports and the bytes that it writes.
-/

namespace RadioGateway.EnOcean

open RadioGateway.Link

namespace Request

def wire (request : Request) : Bytes :=
  Packet.sync :: request.packet.header ++ Crc8.checksum request.packet.header ::
    request.packet.body ++ [Crc8.checksum request.packet.body]

/-- Every request fits into a packet. -/
theorem encode_packet (request : Request) : request.packet.encode = .ok request.wire := rfl

theorem wire_ne_nil (request : Request) : request.wire ≠ [] := List.cons_ne_nil _ _

end Request

namespace Session

def underWay (head : Request) (rest : List Request) (failures deadline : Nat) : Backlog Request where
  requests := head :: rest
  failures := failures
  phase := .transmission
  deadline := some deadline

/-- A backlog whose head, if there is one, has just been transmitted for the first time. -/
def lineUp (deadline : Nat) : List Request → Backlog Request
  | [] => {}
  | head :: rest => underWay head rest 0 deadline

def firstWire : List Request → Bytes
  | [] => []
  | head :: _ => head.wire

/-- At rest, or with a head that is under way and has not failed too often. -/
inductive Steady : Backlog Request → Prop where
  | atRest : Steady {}
  | underWay {head : Request} {rest : List Request} {failures deadline : Nat}
      (few : failures < maxTransmissions) : Steady (underWay head rest failures deadline)

theorem requests_lineUp (deadline : Nat) (requests : List Request) :
    (lineUp deadline requests).requests = requests := by
  cases requests <;> rfl

theorem steady_lineUp (deadline : Nat) (requests : List Request) :
    Steady (lineUp deadline requests) := by
  cases requests with
  | nil => exact .atRest
  | cons head rest => exact .underWay (by decide)

variable {now : Nat} {session : Session} {head request : Request} {rest : List Request}
  {failures deadline : Nat}

theorem transmit_rest (fresh : session.backlog = { requests := rest }) :
    session.transmit now =
      { session with
        output := session.output ++ firstWire rest
        backlog := lineUp (now + session.responseTimeout) rest } := by
  obtain ⟨backlog, received, output, events, responseTimeout⟩ := session
  cases fresh
  cases rest with
  | nil => simp [transmit, transmitFrom, firstWire, lineUp]
  | cons head rest => rfl

theorem transmit_again
    (line : session.backlog = { requests := head :: rest, failures := failures }) :
    session.transmit now =
      { session with
        output := session.output ++ head.wire
        backlog := underWay head rest failures (now + session.responseTimeout) } := by
  obtain ⟨backlog, received, output, events, responseTimeout⟩ := session
  cases line
  rfl

theorem submit_atRest (empty : session.backlog = {}) :
    session.submit now request =
      { session with
        output := session.output ++ request.wire
        backlog := underWay request [] 0 (now + session.responseTimeout) } := by
  obtain ⟨backlog, received, output, events, responseTimeout⟩ := session
  cases empty
  rfl

theorem submit_underWay (line : session.backlog = underWay head rest failures deadline) :
    session.submit now request =
      { session with backlog := underWay head (rest ++ [request]) failures deadline } := by
  obtain ⟨backlog, received, output, events, responseTimeout⟩ := session
  cases line
  rfl

theorem onPacket_response {packet : Packet}
    (line : session.backlog = underWay head rest failures deadline)
    (response : packet.kind = PacketKind.response) :
    session.onPacket now packet =
      { session with
        events := session.events ++ [.answered head packet]
        output := session.output ++ firstWire rest
        backlog := lineUp (now + session.responseTimeout) rest } := by
  rw [onPacket, line]
  simp only [underWay, response, if_true]
  rw [transmit_rest rfl]
  rfl

theorem onPacket_other {packet : Packet}
    (alone : session.backlog.requests = [] ∨ packet.kind ≠ PacketKind.response) :
    session.onPacket now packet =
      { session with events := session.events ++ [.unsolicited packet] } := by
  rw [onPacket]
  split
  · rename_i line
    rcases alone with none | other
    · rw [none] at line
      cases line
    · rw [if_neg other]
      rfl
  · rfl

theorem expire_atRest (empty : session.backlog = {}) : session.expire now = session := by
  rw [expire, empty]
  rfl

theorem expire_again (line : session.backlog = underWay head rest failures deadline)
    (few : failures + 1 < maxTransmissions) :
    session.expire now =
      { session with
        output := session.output ++ head.wire
        backlog := underWay head rest (failures + 1) (now + session.responseTimeout) } := by
  have recorded : (underWay head rest failures deadline).disarm.recordFailure =
      (.again, { requests := head :: rest, failures := failures + 1 }) := if_pos few
  rw [expire, line, recorded]
  exact transmit_again rfl

theorem expire_exhausted (line : session.backlog = underWay head rest failures deadline)
    (spent : ¬ failures + 1 < maxTransmissions) :
    session.expire now =
      { session with
        events := session.events ++ [.failed head .expired]
        output := session.output ++ firstWire rest
        backlog := lineUp (now + session.responseTimeout) rest } := by
  have recorded : (underWay head rest failures deadline).disarm.recordFailure =
      (.exhausted head, { requests := rest }) := if_neg spent
  rw [expire, line, recorded]
  exact transmit_rest rfl

/-- What a reaction of a steady session does to its backlog, which events it reports and which bytes
it writes. -/
inductive Effect : Backlog Request → Stimulus → List (Event Request Packet) → Bytes →
    Backlog Request → Prop where
  | begun (request : Request) (deadline : Nat) :
      Effect {} (.submit request) [] request.wire (underWay request [] 0 deadline)
  | queued (head : Request) (rest : List Request) (failures deadline : Nat) (request : Request) :
      Effect (underWay head rest failures deadline) (.submit request) [] []
        (underWay head (rest ++ [request]) failures deadline)
  | answered (head : Request) (rest : List Request) (failures deadline later length : Nat)
      {packet : Packet} (response : packet.kind = PacketKind.response) :
      Effect (underWay head rest failures deadline) (.hear (.frame packet length))
        [.answered head packet] (firstWire rest) (lineUp later rest)
  | unsolicited {backlog : Backlog Request} {packet : Packet} (length : Nat)
      (alone : backlog = {} ∨ packet.kind ≠ PacketKind.response) :
      Effect backlog (.hear (.frame packet length)) [.unsolicited packet] [] backlog
  | ignored (backlog : Backlog Request) {decoding : Decoding Packet}
      (void : ∀ packet length, decoding ≠ .frame packet length) :
      Effect backlog (.hear decoding) [] [] backlog
  | unneeded : Effect {} .expire [] [] {}
  | repeated (head : Request) (rest : List Request) (deadline later : Nat) {failures : Nat}
      (few : failures + 1 < maxTransmissions) :
      Effect (underWay head rest failures deadline) .expire [] head.wire
        (underWay head rest (failures + 1) later)
  | exhausted (head : Request) (rest : List Request) (deadline later : Nat) {failures : Nat}
      (last : failures + 1 = maxTransmissions) :
      Effect (underWay head rest failures deadline) .expire [.failed head .expired]
        (firstWire rest) (lineUp later rest)
  | closed (backlog : Backlog Request) :
      Effect backlog .close (backlog.requests.map (.failed · .closed)) [] {}

theorem Effect.steady {backlog after : Backlog Request} {stimulus : Stimulus}
    {reported : List (Event Request Packet)} {written : Bytes}
    (effect : Effect backlog stimulus reported written after) (steady : Steady backlog) :
    Steady after := by
  cases effect with
  | begun request deadline => exact .underWay (by decide)
  | queued head rest failures deadline request =>
      cases steady with
      | underWay few => exact .underWay few
  | answered head rest failures deadline later length response => exact steady_lineUp later rest
  | unsolicited length alone => exact steady
  | ignored backlog void => exact steady
  | unneeded => exact steady
  | repeated head rest deadline later few => exact .underWay few
  | exhausted head rest deadline later last => exact steady_lineUp later rest
  | closed backlog => exact .atRest

namespace Reaction

/-- Whether a reaction has one of the effects, and appends its events and, unless it closes the
session, what it writes. -/
structure Regular (reaction : Reaction) : Prop where
  effect : Effect reaction.before.backlog reaction.stimulus reaction.reported reaction.written
    reaction.after.backlog
  events : reaction.after.events = reaction.before.events ++ reaction.reported
  output : reaction.stimulus ≠ .close →
    reaction.after.output = reaction.before.output ++ reaction.written

/-- A reaction is regular if it appends what its effect says. -/
theorem regular_of_eq {stimulus : Stimulus} {reported : List (Event Request Packet)}
    {written : Bytes} {backlog later : Backlog Request}
    (effect : Effect backlog stimulus reported written later) (line : session.backlog = backlog)
    (same : session.react now stimulus =
      { session with
        events := session.events ++ reported
        output := session.output ++ written
        backlog := later }) :
    Regular ⟨now, session, stimulus⟩ := by
  have told : Reaction.reported ⟨now, session, stimulus⟩ = reported := by
    rw [Reaction.reported, after, same, List.drop_left]
  have sent : Reaction.written ⟨now, session, stimulus⟩ = written := by
    rw [Reaction.written, after, same, List.drop_left]
  constructor
  · rw [told, sent, after, same, line]
    exact effect
  · rw [told, after, same]
  · intro _
    rw [sent, after, same]

/-- Closing is regular, although it takes output away. -/
theorem regular_close (now : Nat) (session : Session) : Regular ⟨now, session, .close⟩ := by
  have told : Reaction.reported ⟨now, session, .close⟩ =
      session.backlog.requests.map (.failed · .closed) := List.drop_left
  have sent : Reaction.written ⟨now, session, .close⟩ = [] := List.drop_nil
  constructor
  · rw [told, sent]
    exact .closed session.backlog
  · rw [told]
    rfl
  · exact fun opened => absurd rfl opened

section Steady

variable {session : Session} (steady : Steady session.backlog) (now : Nat)

include steady

theorem regular_submit (request : Request) : Regular ⟨now, session, .submit request⟩ := by
  generalize line : session.backlog = backlog at steady
  cases steady with
  | atRest =>
      refine regular_of_eq (.begun request (now + session.responseTimeout)) line ?_
      rw [List.append_nil]
      exact submit_atRest line
  | @underWay head rest failures deadline few =>
      refine regular_of_eq (.queued head rest failures deadline request) line ?_
      rw [List.append_nil, List.append_nil]
      exact submit_underWay line

theorem regular_hear (packet : Packet) (length : Nat) :
    Regular ⟨now, session, .hear (.frame packet length)⟩ := by
  have unsolicited : session.backlog = {} ∨ packet.kind ≠ PacketKind.response →
      Regular ⟨now, session, .hear (.frame packet length)⟩ := by
    intro alone
    refine regular_of_eq (.unsolicited length alone) rfl ?_
    rw [List.append_nil]
    exact onPacket_other (alone.imp_left fun empty => by rw [empty])
  generalize line : session.backlog = backlog at steady
  by_cases response : packet.kind = PacketKind.response
  · cases steady with
    | atRest => exact unsolicited (.inl line)
    | @underWay head rest failures deadline few =>
        exact regular_of_eq (.answered head rest failures deadline
          (now + session.responseTimeout) length response) line (onPacket_response line response)
  · exact unsolicited (.inr response)

theorem regular_expire : Regular ⟨now, session, .expire⟩ := by
  generalize line : session.backlog = backlog at steady
  cases steady with
  | atRest =>
      refine regular_of_eq .unneeded line ?_
      rw [List.append_nil, List.append_nil, ← line]
      exact expire_atRest line
  | @underWay head rest failures deadline few =>
      by_cases again : failures + 1 < maxTransmissions
      · refine regular_of_eq (.repeated head rest deadline (now + session.responseTimeout) again)
          line ?_
        rw [List.append_nil]
        exact expire_again line again
      · have last : failures + 1 = maxTransmissions :=
          Nat.le_antisymm few (Nat.le_of_not_lt again)
        exact regular_of_eq (.exhausted head rest deadline (now + session.responseTimeout) last)
          line (expire_exhausted line again)

end Steady

theorem regular_ignored (now : Nat) (session : Session) {decoding : Decoding Packet}
    (void : ∀ packet length, decoding ≠ .frame packet length)
    (same : session.react now (.hear decoding) = session) :
    Regular ⟨now, session, .hear decoding⟩ := by
  refine regular_of_eq (.ignored session.backlog void) rfl ?_
  rw [List.append_nil, List.append_nil]
  exact same

theorem regular (reaction : Reaction) (steady : Steady reaction.before.backlog) :
    reaction.Regular := by
  obtain ⟨now, session, stimulus⟩ := reaction
  cases stimulus with
  | submit request => exact regular_submit steady now request
  | hear decoding =>
      cases decoding with
      | frame packet length => exact regular_hear steady now packet length
      | _ => exact regular_ignored now session (fun _ _ impossible => by cases impossible) rfl
  | expire => exact regular_expire steady now
  | close => exact regular_close now session

end Reaction

end Session

end RadioGateway.EnOcean
