import RadioGateway.Proofs.EnOcean.Operation
import RadioGateway.Proofs.Http.Address

/-!
# Switches follow their telegrams

The state of a switch is what the last telegram of its sender told, and nothing else that happens to
a network has an effect on it. The base address is told once at most, by the first response, if that
comes before the initial request for it is given up.
-/

namespace RadioGateway.EnOcean

open RadioGateway.Link

/-! ## Telegrams -/

/-- A packet that a rocker switch has sent, with its sender and what it tells. The destination and the
attenuation are known if the optional data are long enough for both. -/
inductive Telegram : Packet → UInt32 → Rocker → Prop where
  | bare (data : Byte) (sender : UInt32) (status : Byte) (tail : Bytes) {extra : Bytes}
      (short : extra.length < 6) :
      Telegram ⟨0x01, 0xf6 :: data :: (Bytes.ofLong sender ++ status :: tail), extra⟩ sender
        { data, status }
  | located (data : Byte) (sender : UInt32) (status : Byte) (tail : Bytes) (count : Byte)
      (destination : UInt32) (attenuation : Byte) (more : Bytes) :
      Telegram ⟨0x01, 0xf6 :: data :: (Bytes.ofLong sender ++ status :: tail),
        count :: (Bytes.ofLong destination ++ attenuation :: more)⟩ sender
        { data, status, destination := some destination, attenuation := some attenuation }

theorem Rocker.reception_of_short {extra : Bytes} (short : extra.length < 6) :
    reception extra = (none, none) := by
  match extra, short with
  | [], _ | [_], _ | [_, _], _ | [_, _, _], _ | [_, _, _, _], _ | [_, _, _, _, _], _ => rfl

/-- Optional data that are long enough begin with a count, a destination and an attenuation. -/
theorem Rocker.exists_reception {extra : Bytes} (long : 6 ≤ extra.length) :
    ∃ count destination attenuation more,
      extra = count :: (Bytes.ofLong destination ++ attenuation :: more) ∧
        reception extra = (some destination, some attenuation) := by
  match extra, long with
  | count :: first :: second :: third :: fourth :: attenuation :: more, _ =>
      refine ⟨count, Bytes.long first second third fourth, attenuation, more, ?_, rfl⟩
      rw [Bytes.ofLong_long]
      rfl

theorem telegram_of_ofPacket? {packet : Packet} {sender : UInt32} {rocker : Rocker}
    (read : Rocker.ofPacket? packet = some (sender, rocker)) : Telegram packet sender rocker := by
  obtain ⟨kind, content, extra⟩ := packet
  unfold Rocker.ofPacket? at read
  split at read
  · rename_i radio
    split at read
    · rename_i lead data first second third fourth status tail same
      split at read
      · rename_i choice
        simp only at radio same read
        have spelled : content = 0xf6 :: data ::
            (Bytes.ofLong (Bytes.long first second third fourth) ++ status :: tail) := by
          rw [Bytes.ofLong_long, same, choice]
          rfl
        rw [radio, spelled]
        by_cases short : extra.length < 6
        · rw [Rocker.reception_of_short short] at read
          cases read
          exact .bare data _ status tail short
        · obtain ⟨count, destination, attenuation, more, whole, told⟩ :=
            Rocker.exists_reception (Nat.le_of_not_lt short)
          rw [told] at read
          cases read
          rw [whole]
          exact .located data _ status tail count destination attenuation more
      · cases read
    · cases read
  · cases read

/-- The rule of telegrams is what is read from packets. -/
theorem ofPacket?_eq_some_iff (packet : Packet) (sender : UInt32) (rocker : Rocker) :
    Rocker.ofPacket? packet = some (sender, rocker) ↔ Telegram packet sender rocker := by
  refine ⟨telegram_of_ofPacket?, fun telegram => ?_⟩
  cases telegram with
  | bare data sender status tail short =>
      simp only [Rocker.ofPacket?, Rocker.reception_of_short short, PacketKind.radio,
        Rocker.choice, Bytes.ofLong, List.cons_append, List.nil_append, if_true,
        Bytes.long_ofLong]
  | located data sender status tail count destination attenuation more =>
      simp only [Rocker.ofPacket?, Rocker.reception, PacketKind.radio, Rocker.choice,
        Bytes.ofLong, List.cons_append, List.nil_append, if_true, Bytes.long_ofLong]

theorem Telegram.not_response {packet : Packet} {sender : UInt32} {rocker : Rocker}
    (telegram : Telegram packet sender rocker) : packet.kind ≠ PacketKind.response := by
  cases telegram <;> exact (by decide : (0x01 : Byte) ≠ PacketKind.response)

/-- The destination and the signal strength are known if there are at least six optional bytes. -/
theorem Telegram.located_iff {packet : Packet} {sender : UInt32} {rocker : Rocker}
    (telegram : Telegram packet sender rocker) :
    (rocker.destination.isSome = true ↔ 6 ≤ packet.extra.length) ∧
      (rocker.dbm.isSome = true ↔ 6 ≤ packet.extra.length) := by
  cases telegram with
  | bare data sender status tail short => simp [Rocker.dbm, Nat.not_le.mpr short]
  | located data sender status tail count destination attenuation more =>
      simp [Rocker.dbm, Bytes.ofLong]

def toldOf? (sender : UInt32) (packet : Packet) : Option Rocker :=
  match Rocker.ofPacket? packet with
  | some (source, rocker) => if source = sender then some rocker else none
  | none => none

theorem toldOf?_eq_some_iff (sender : UInt32) (packet : Packet) (rocker : Rocker) :
    toldOf? sender packet = some rocker ↔ Telegram packet sender rocker := by
  rw [← ofPacket?_eq_some_iff, toldOf?]
  split
  · rename_i source told read
    rw [read]
    by_cases same : source = sender <;> simp [same]
  · rename_i none
    simp [none]

def lastTold? (sender : UInt32) (packets : List Packet) : Option Rocker :=
  (packets.filterMap (toldOf? sender)).getLast?

theorem lastTold?_concat (sender : UInt32) (packets : List Packet) (packet : Packet) :
    lastTold? sender (packets ++ [packet]) =
      (toldOf? sender packet).or (lastTold? sender packets) := by
  rw [lastTold?, lastTold?, List.filterMap_append]
  cases told : toldOf? sender packet with
  | none => simp [told]
  | some rocker => simp [told]

/-- The last that is told is told by a telegram, and no other of its sender comes later. -/
theorem lastTold?_eq_some_iff (sender : UInt32) (packets : List Packet) (rocker : Rocker) :
    lastTold? sender packets = some rocker ↔ ∃ before packet after,
      packets = before ++ packet :: after ∧ Telegram packet sender rocker ∧
        ∀ later ∈ after, ∀ other, ¬ Telegram later sender other := by
  constructor
  · intro last
    obtain ⟨earlier, all⟩ := List.getLast?_eq_some_iff.mp last
    obtain ⟨before, rest, rfl, _, told⟩ := List.filterMap_eq_append_iff.mp all
    obtain ⟨between, packet, after, rfl, _, telegram, none⟩ := List.filterMap_eq_cons_iff.mp told
    refine ⟨before ++ between, packet, after, (List.append_assoc ..).symm,
      (toldOf?_eq_some_iff ..).mp telegram, ?_⟩
    intro later member other also
    have silent := List.filterMap_eq_nil_iff.mp none later member
    rw [(toldOf?_eq_some_iff ..).mpr also] at silent
    cases silent
  · rintro ⟨before, packet, after, rfl, telegram, none⟩
    have silent : after.filterMap (toldOf? sender) = [] := by
      rw [List.filterMap_eq_nil_iff]
      intro later member
      apply Option.eq_none_iff_forall_ne_some.mpr
      intro other told
      exact none later member other ((toldOf?_eq_some_iff ..).mp told)
    rw [lastTold?, List.filterMap_append,
      List.filterMap_cons_some ((toldOf?_eq_some_iff ..).mpr telegram), silent,
      List.getLast?_concat]

theorem lastTold?_eq_none_iff (sender : UInt32) (packets : List Packet) :
    lastTold? sender packets = none ↔
      ∀ packet ∈ packets, ∀ rocker, ¬ Telegram packet sender rocker := by
  rw [lastTold?, List.getLast?_eq_none_iff, List.filterMap_eq_nil_iff]
  simp only [Option.eq_none_iff_forall_ne_some, ne_eq, toldOf?_eq_some_iff]

open Network (Incident)

/-- Whether the initial request for the base address is still pending: no response has come, and its
timer has not run out too often. -/
def Unanswered (log : List Incident) : Prop :=
  (∀ packet, .heard packet ∈ log → packet.kind ≠ PacketKind.response) ∧
    log.count .expired < maxTransmissions

/-- Whether a base address was told by the first response, which came in time and reported success. -/
def BaseIdTold (log : List Incident) (baseId : UInt32) : Prop :=
  ∃ before packet after tail, log = before ++ .heard packet :: after ∧ Unanswered before ∧
    packet.kind = PacketKind.response ∧ packet.data = 0 :: (Bytes.ofLong baseId ++ tail)

theorem baseIdIn?_eq_some_iff (data : Bytes) (baseId : UInt32) :
    Network.baseIdIn? data = some baseId ↔
      ∃ tail, data = 0 :: (Bytes.ofLong baseId ++ tail) := by
  constructor
  · intro read
    unfold Network.baseIdIn? at read
    split at read
    · rename_i code first second third fourth tail
      split at read
      · rename_i success
        cases read
        rw [success, Bytes.ofLong_long]
        exact ⟨tail, rfl⟩
      · cases read
    · cases read
  · rintro ⟨tail, rfl⟩
    simp only [Network.baseIdIn?, Bytes.ofLong, List.cons_append, List.nil_append, if_true,
      Bytes.long_ofLong]

theorem unanswered_heard (log : List Incident) (packet : Packet) :
    Unanswered (log ++ [.heard packet]) ↔
      Unanswered log ∧ packet.kind ≠ PacketKind.response := by
  simp only [Unanswered, List.mem_append, List.mem_singleton, Incident.heard.injEq,
    List.count_append]
  constructor
  · rintro ⟨none, few⟩
    exact ⟨⟨fun other member => none other (.inl member), by simpa using few⟩,
      none packet (.inr rfl)⟩
  · rintro ⟨⟨none, few⟩, other⟩
    refine ⟨?_, by simpa using few⟩
    rintro packet (earlier | rfl)
    · exact none packet earlier
    · exact other

theorem unanswered_expired (log : List Incident) :
    Unanswered (log ++ [.expired]) ↔
      Unanswered log ∧ log.count .expired + 1 < maxTransmissions := by
  simp only [Unanswered, List.mem_append, List.mem_singleton, reduceCtorEq, or_false,
    List.count_append, List.count_singleton_self]
  constructor
  · rintro ⟨none, few⟩
    exact ⟨⟨none, Nat.lt_of_succ_lt few⟩, few⟩
  · rintro ⟨⟨none, _⟩, few⟩
    exact ⟨none, few⟩

theorem BaseIdTold.not_unanswered {log : List Incident} {baseId : UInt32}
    (told : BaseIdTold log baseId) : ¬ Unanswered log := by
  rintro ⟨none, _⟩
  obtain ⟨before, packet, after, tail, rfl, _, response, _⟩ := told
  exact none packet (List.mem_append_right _ List.mem_cons_self) response

theorem BaseIdTold.append {log : List Incident} {baseId : UInt32} (told : BaseIdTold log baseId)
    (later : List Incident) : BaseIdTold (log ++ later) baseId := by
  obtain ⟨before, packet, after, tail, rfl, unanswered, response, data⟩ := told
  exact ⟨before, packet, after ++ later, tail, by simp, unanswered, response, data⟩

theorem baseIdTold_concat (log : List Incident) (incident : Incident) (baseId : UInt32) :
    BaseIdTold (log ++ [incident]) baseId ↔ BaseIdTold log baseId ∨
      Unanswered log ∧ ∃ packet, incident = .heard packet ∧
        packet.kind = PacketKind.response ∧ Network.baseIdIn? packet.data = some baseId := by
  constructor
  · rintro ⟨before, packet, after, tail, split, unanswered, response, data⟩
    rcases List.eq_nil_or_concat after with rfl | ⟨between, last, rfl⟩
    · obtain ⟨rfl, same⟩ := List.append_inj' split rfl
      refine .inr ⟨unanswered, packet, List.singleton_inj.mp same, response, ?_⟩
      exact (baseIdIn?_eq_some_iff ..).mpr ⟨tail, data⟩
    · rw [List.concat_eq_append, ← List.cons_append, ← List.append_assoc] at split
      exact .inl ⟨before, packet, between, tail, (List.append_inj' split rfl).1, unanswered,
        response, data⟩
  · rintro (told | ⟨unanswered, packet, rfl, response, read⟩)
    · exact told.append [incident]
    · obtain ⟨tail, data⟩ := (baseIdIn?_eq_some_iff ..).mp read
      exact ⟨log, packet, [], tail, rfl, unanswered, response, data⟩

/-! ## What a network knows -/

namespace Network

open Session

theorem toldOf?_of_response {packet : Packet} (response : packet.kind = PacketKind.response)
    (sender : UInt32) : toldOf? sender packet = none := by
  apply Option.eq_none_iff_forall_ne_some.mpr
  intro rocker told
  exact ((toldOf?_eq_some_iff ..).mp told).not_response response

/-- A packet that answers no request changes the switch of which it tells, and nothing else. -/
theorem onEvent_unsolicited (network : Network) (packet : Packet) :
    (∀ sender, (network.onEvent (.unsolicited packet)).rockers.find? sender =
      (toldOf? sender packet).or (network.rockers.find? sender)) ∧
    (network.onEvent (.unsolicited packet)).baseId = network.baseId := by
  cases read : Rocker.ofPacket? packet with
  | none => simp [onEvent, toldOf?, read]
  | some told =>
      obtain ⟨source, rocker⟩ := told
      simp only [onEvent, toldOf?, read]
      refine ⟨fun sender => ?_, trivial⟩
      rw [SortedMap.find?_insert]
      by_cases same : source = sender
      · simp [same]
      · simp [same, Ne.symm same]

/-- Whether a network knows what has reached it told, once its events are handled: of each switch what
its last telegram told, and the base address if it was told. Its session waits for nothing but the
answer to the initial request. -/
structure Informed (log : List Incident) (network : Network) : Prop where
  rockers : ∀ sender, network.handled.rockers.find? sender =
    lastTold? sender (log.filterMap Incident.packet?)
  baseId : ∀ baseId, network.handled.baseId = some baseId ↔ BaseIdTold log baseId
  pending : Unanswered log → ∃ deadline,
    network.session.backlog = underWay .readBaseId [] (log.count .expired) deadline
  idle : ¬ Unanswered log → network.session.backlog = {}

theorem handled_append (network : Network) {session : Session}
    (reported : List (Event Request Packet))
    (events : session.events = network.session.events ++ reported) :
    handled { network with session } =
      { reported.foldl onEvent network.handled with session } := by
  rw [handled, foldl_onEvent_session,
    show ({ network with session } : Network).session.events =
      network.session.events ++ reported from events, List.foldl_append]
  rfl

/-- The session may do something that leaves its events and its backlog alone. -/
theorem Informed.still {log : List Incident} {network : Network} (informed : Informed log network)
    {session : Session} (events : session.events = network.session.events)
    (backlog : session.backlog = network.session.backlog) :
    Informed log { network with session } := by
  have after := handled_append network [] (events.trans (List.append_nil _).symm)
  constructor
  · intro sender
    rw [after]
    exact informed.rockers sender
  · intro baseId
    rw [after]
    exact informed.baseId baseId
  · intro unanswered
    rw [backlog]
    exact informed.pending unanswered
  · intro answered
    rw [backlog]
    exact informed.idle answered

namespace Informed

variable {log : List Incident} {network : Network} (informed : Informed log network) (now : Nat)

include informed

theorem answer {packet : Packet} (unanswered : Unanswered log)
    (response : packet.kind = PacketKind.response) :
    Informed (log ++ [.heard packet])
      { network with session := network.session.onPacket now packet } := by
  obtain ⟨deadline, line⟩ := informed.pending unanswered
  have same : network.session.onPacket now packet = _ := onPacket_response line response
  have after := handled_append network _ (congrArg Session.events same)
  have unknown : network.handled.baseId = none := by
    apply Option.eq_none_iff_forall_ne_some.mpr
    intro baseId known
    exact ((informed.baseId baseId).mp known).not_unanswered unanswered
  constructor
  · intro sender
    rw [after, List.filterMap_append,
      show [Incident.heard packet].filterMap Incident.packet? = [packet] from rfl,
      lastTold?_concat, toldOf?_of_response response, Option.none_or]
    exact informed.rockers sender
  · intro baseId
    rw [after, baseIdTold_concat]
    simp only [List.foldl_cons, List.foldl_nil, onEvent, if_true, unknown, Option.or_none]
    constructor
    · exact fun told => .inr ⟨unanswered, packet, rfl, response, told⟩
    · rintro (told | ⟨_, other, equal, _, told⟩)
      · exact absurd unanswered told.not_unanswered
      · cases equal
        exact told
  · intro still
    exact absurd response ((unanswered_heard ..).mp still).2
  · intro _
    exact congrArg Session.backlog same

theorem hear {packet : Packet}
    (other : ¬ (Unanswered log ∧ packet.kind = PacketKind.response)) :
    Informed (log ++ [.heard packet])
      { network with session := network.session.onPacket now packet } := by
  have alone : network.session.backlog.requests = [] ∨ packet.kind ≠ PacketKind.response := by
    by_cases unanswered : Unanswered log
    · exact .inr fun response => other ⟨unanswered, response⟩
    · rw [informed.idle unanswered]
      exact .inl rfl
  have same : network.session.onPacket now packet = _ := onPacket_other alone
  have after := handled_append network _ (congrArg Session.events same)
  obtain ⟨rockers, base⟩ := network.handled.onEvent_unsolicited packet
  have line : (network.session.onPacket now packet).backlog = network.session.backlog := by
    rw [same]
  constructor
  · intro sender
    rw [after, List.filterMap_append,
      show [Incident.heard packet].filterMap Incident.packet? = [packet] from rfl,
      lastTold?_concat, ← informed.rockers sender]
    exact rockers sender
  · intro baseId
    rw [after, baseIdTold_concat, ← informed.baseId baseId]
    refine (iff_of_eq (congrArg (· = some baseId) base)).trans ⟨.inl, ?_⟩
    rintro (told | ⟨unanswered, _, equal, response, _⟩)
    · exact told
    · cases equal
      exact absurd ⟨unanswered, response⟩ other
  · intro still
    rw [line]
    simpa using informed.pending ((unanswered_heard ..).mp still).1
  · intro answered
    rw [line]
    refine informed.idle fun unanswered => answered ((unanswered_heard ..).mpr ⟨unanswered, ?_⟩)
    exact fun response => other ⟨unanswered, response⟩

theorem decode (decoding : Decoding Packet) :
    Informed (log ++ (packetOf? decoding).toList.map .heard)
      { network with session := network.session.onDecoding now decoding } := by
  cases decoding with
  | frame packet length =>
      by_cases answers : Unanswered log ∧ packet.kind = PacketKind.response
      · exact informed.answer now answers.1 answers.2
      · exact informed.hear now answers
  | _ =>
      change Informed (log ++ []) network
      rw [List.append_nil]
      exact informed

/-- The end of a timer tells nothing itself, so that only the backlog remains to be seen. -/
theorem lapse {session : Session} (reported : List (Event Request Packet))
    (events : session.events = network.session.events ++ reported)
    (silent : ∀ handled : Network, (reported.foldl onEvent handled).rockers = handled.rockers ∧
      (reported.foldl onEvent handled).baseId = handled.baseId)
    (pending : Unanswered (log ++ [.expired]) → ∃ deadline,
      session.backlog = underWay .readBaseId [] (log.count .expired + 1) deadline)
    (idle : ¬ Unanswered (log ++ [.expired]) → session.backlog = {}) :
    Informed (log ++ [.expired]) { network with session } := by
  have after := handled_append network reported events
  constructor
  · intro sender
    rw [after, List.filterMap_append,
      show [Incident.expired].filterMap Incident.packet? = [] from rfl, List.append_nil,
      ← informed.rockers sender]
    exact congrArg (SortedMap.find? · sender) (silent network.handled).1
  · intro baseId
    rw [after, baseIdTold_concat, ← informed.baseId baseId]
    refine (iff_of_eq (congrArg (· = some baseId) (silent network.handled).2)).trans ⟨.inl, ?_⟩
    rintro (known | ⟨_, _, equal, _⟩)
    · exact known
    · cases equal
  · rw [List.count_append, List.count_singleton_self]
    exact pending
  · exact idle

theorem expire : Informed (log ++ [.expired])
    { network with session := network.session.expire now } := by
  by_cases unanswered : Unanswered log
  · obtain ⟨deadline, line⟩ := informed.pending unanswered
    by_cases again : log.count .expired + 1 < maxTransmissions
    · rw [expire_again line again]
      refine informed.lapse [] (List.append_nil _).symm (fun _ => ⟨rfl, rfl⟩) ?_ ?_
      · exact fun _ => ⟨_, rfl⟩
      · exact fun answered => absurd ((unanswered_expired ..).mpr ⟨unanswered, again⟩) answered
    · rw [expire_exhausted line again]
      refine informed.lapse [_] rfl (fun _ => ⟨rfl, rfl⟩) ?_ (fun _ => rfl)
      exact fun still => absurd ((unanswered_expired ..).mp still).2 again
  · have line := informed.idle unanswered
    rw [expire_atRest line]
    refine informed.lapse [] (List.append_nil _).symm (fun _ => ⟨rfl, rfl⟩) ?_ (fun _ => line)
    exact fun still => absurd ((unanswered_expired ..).mp still).1 unanswered

/-- Handling its events, a network learns nothing but what they tell. -/
theorem settle : Informed log network.settle := by
  rw [settle_eq]
  exact ⟨informed.rockers, informed.baseId, informed.pending, informed.idle⟩

end Informed

theorem Informed.foldl_decode {log : List Incident} {network : Network}
    (informed : Informed log network) (now : Nat) (decodings : List (Decoding Packet)) :
    Informed (log ++ (decodings.filterMap packetOf?).map .heard)
      { network with session := decodings.foldl (Session.onDecoding now) network.session } := by
  induction decodings generalizing log network with
  | nil => simpa using informed
  | cons decoding later ih =>
      have continued := ih (informed.decode now decoding)
      rw [List.append_assoc, ← List.map_append] at continued
      cases found : packetOf? decoding <;> simpa [found] using continued

theorem handled_of_quiet {network : Network} (quiet : network.session.events = []) :
    network.handled = network := by
  rw [handled, quiet, List.foldl_nil]

theorem Informed.perform {log : List Incident} {network : Network} (informed : Informed log network)
    (quiet : network.session.events = []) (now : Nat) (operation : Operation) :
    Informed (log ++ network.incidents operation) (network.perform now operation) ∧
      (network.perform now operation).session.events = [] := by
  have settled : ∀ network : Network, network.settle.session.events = [] := by
    intro network
    rw [settle_eq]
  have same : log ++ [] = log := List.append_nil log
  cases operation with
  | set id attributes => exact ⟨same.symm ▸ informed, quiet⟩
  | get id attributes => exact ⟨same.symm ▸ informed, quiet⟩
  | receive bytes =>
      refine ⟨?_, settled _⟩
      have decoded := informed.foldl_decode now
        (drain Packet.decode (network.session.received ++ bytes)).1
      exact Informed.settle (decoded.still rfl rfl)
  | expire => exact ⟨(informed.expire now).settle, settled _⟩
  | fail failure =>
      have before : network.handled = network := handled_of_quiet quiet
      have after : (network.alarm failure).handled = network.alarm failure := handled_of_quiet quiet
      refine ⟨?_, quiet⟩
      change Informed (log ++ []) (network.alarm failure)
      rw [same]
      refine ⟨fun sender => ?_, fun baseId => ?_, informed.pending, informed.idle⟩
      · rw [after, ← informed.rockers sender, before]
        rfl
      · rw [after, ← informed.baseId baseId, before]
        rfl
  | takeOutput =>
      refine ⟨?_, quiet⟩
      change Informed (log ++ []) _
      rw [same]
      exact informed.still rfl rfl

/-- A network follows all that is done with it. -/
theorem Informed.follow {log : List Incident} {network : Network} (informed : Informed log network)
    (quiet : network.session.events = []) (schedule : List (Nat × Operation)) :
    Informed (log ++ network.log schedule) (network.follow schedule) ∧
      (network.follow schedule).session.events = [] := by
  induction schedule generalizing log network with
  | nil => exact ⟨(List.append_nil log).symm ▸ informed, quiet⟩
  | cons timed later ih =>
      obtain ⟨now, operation⟩ := timed
      obtain ⟨performed, silent⟩ := informed.perform quiet now operation
      obtain ⟨followed, still⟩ := ih performed silent
      rw [List.append_assoc] at followed
      exact ⟨followed, still⟩

section Start

variable (now responseTimeout : Nat)

theorem informed_start : Informed [] (start now { responseTimeout }) where
  rockers _ := rfl
  baseId baseId := by
    constructor
    · intro known
      cases known
    · rintro ⟨before, packet, after, _, split, _⟩
      simp at split
  pending _ := ⟨now + responseTimeout, rfl⟩
  idle answered := absurd (by simp [Unanswered, maxTransmissions]) answered

theorem waiting_start : Packet.decode (start now { responseTimeout }).session.received = .needMore :=
  Packet.incremental_decode.decode_nil

variable (schedule : List (Nat × Operation))

/-- What has reached a network since it began is what it knows. -/
theorem informed_follow :
    Informed ((start now { responseTimeout }).log schedule)
      ((start now { responseTimeout }).follow schedule) :=
  ((informed_start now responseTimeout).follow rfl schedule).1

theorem handled_follow :
    ((start now { responseTimeout }).follow schedule).handled =
      (start now { responseTimeout }).follow schedule :=
  handled_of_quiet ((informed_start now responseTimeout).follow rfl schedule).2

theorem baseId_follow (baseId : UInt32) :
    ((start now { responseTimeout }).follow schedule).baseId = some baseId ↔
      BaseIdTold ((start now { responseTimeout }).log schedule) baseId := by
  rw [← (informed_follow now responseTimeout schedule).baseId, handled_follow]

theorem requests_follow :
    ((start now { responseTimeout }).follow schedule).session.backlog.requests = [.readBaseId] ↔
      Unanswered ((start now { responseTimeout }).log schedule) := by
  have informed := informed_follow now responseTimeout schedule
  constructor
  · intro pending
    refine Classical.byContradiction fun answered => ?_
    rw [informed.idle answered] at pending
    cases pending
  · intro unanswered
    obtain ⟨deadline, line⟩ := informed.pending unanswered
    rw [line]
    rfl

/-- A base address that is known does not change any more. -/
theorem baseId_follow_append (later : List (Nat × Operation)) {baseId : UInt32}
    (known : ((start now { responseTimeout }).follow schedule).baseId = some baseId) :
    ((start now { responseTimeout }).follow (schedule ++ later)).baseId = some baseId := by
  rw [baseId_follow] at known ⊢
  rw [log_append]
  exact known.append _

end Start

theorem name_of_describe {network : Network} {sender : UInt32} {rocker : Rocker}
    (tracked : network.rockers.find? sender = some rocker) (attributes : Attributes) :
    (network.describe sender attributes).2.find? "node.name" =
      some (Numeral.hex 8 sender.toNat) := by
  simp [describe, tracked, Rocker.describe, Attributes.setState, Attributes.setByte,
    Attributes.setNumber, SortedMap.find?_insert]

/-- The switches and the base address are what the packets of the stream tell, into whatever pieces it
is cut and whatever else is done meanwhile. -/
theorem switches_follow_telegrams (now responseTimeout : Nat) (schedule : List (Nat × Operation))
    {packets : List Packet} {records : List Bytes}
    (encoded : packets.mapM Packet.encode = .ok records)
    (delivered : schedule.flatMap (·.2.received) = records.flatten) :
    let opened := start now { responseTimeout }
    let network := opened.follow schedule
    let log := opened.log schedule
    log.filterMap Incident.packet? = packets ∧
    (∀ sender rocker, network.rockers.find? sender = some rocker ↔
      ∃ before packet after, packets = before ++ packet :: after ∧ Telegram packet sender rocker ∧
        ∀ later ∈ after, ∀ other, ¬ Telegram later sender other) ∧
    (∀ sender, network.rockers.find? sender = none ↔
      ∀ packet ∈ packets, ∀ rocker, ¬ Telegram packet sender rocker) ∧
    (∀ packet sender rocker, Telegram packet sender rocker →
      (rocker.destination.isSome = true ↔ 6 ≤ packet.extra.length) ∧
        (rocker.dbm.isSome = true ↔ 6 ≤ packet.extra.length)) ∧
    (network.session.backlog.requests = [.readBaseId] ↔ Unanswered log) ∧
    (∀ baseId, network.baseId = some baseId ↔ BaseIdTold log baseId) ∧
    (∀ earlier later, schedule = earlier ++ later →
      (opened.follow earlier).baseId = none ∨
        network.baseId = (opened.follow earlier).baseId) ∧
    (∀ sender attributes, network.rockers.contains sender →
      ∃ name, (network.describe sender attributes).2.find? "node.name" = some name ∧
        Http.nodeNumber? 16 name = some sender) := by
  intro opened network log
  obtain ⟨decodings, spells, same⟩ := spells_packets encoded
  have heard : log.filterMap Incident.packet? = packets :=
    (packets_log (waiting_start now responseTimeout) spells delivered).trans same
  have rockers : ∀ sender, network.rockers.find? sender = lastTold? sender packets := by
    intro sender
    rw [← heard, ← (informed_follow now responseTimeout schedule).rockers sender, handled_follow]
  refine ⟨heard, ?_, ?_, fun _ _ _ telegram => telegram.located_iff, requests_follow ..,
    fun _ => baseId_follow .., ?_, ?_⟩
  · intro sender rocker
    rw [rockers, lastTold?_eq_some_iff]
  · intro sender
    rw [rockers, lastTold?_eq_none_iff]
  · rintro earlier later rfl
    cases known : (opened.follow earlier).baseId with
    | none => exact .inl rfl
    | some baseId => exact .inr (baseId_follow_append now responseTimeout earlier later known)
  · intro sender attributes tracked
    obtain ⟨rocker, found⟩ := Option.isSome_iff_exists.mp tracked
    exact ⟨_, name_of_describe found attributes, Http.nodeNumber?_hex sender⟩

/-- A switch is pressed and released, and the initial request is answered after it has been repeated
once. Every packet comes in pieces. -/
theorem released_switch_is_tracked :
    let press : Packet := ⟨1, [0xf6, 0x30, 0, 0x2d, 0xcf, 0x45, 0x30], []⟩
    let answer : Packet := ⟨2, [0, 0xff, 0x80, 0, 0], [0x0a]⟩
    let release : Packet := ⟨1, [0xf6, 0, 0, 0x2d, 0xcf, 0x45, 0x20],
      [1, 0xff, 0xff, 0xff, 0xff, 0x2d, 0]⟩
    let records : List Bytes :=
      [[0x55, 0, 7, 0, 1, 0x11, 0xf6, 0x30, 0, 0x2d, 0xcf, 0x45, 0x30, 0xa4],
        [0x55, 0, 5, 1, 2, 0xdb, 0, 0xff, 0x80, 0, 0, 0x0a, 0x3e],
        [0x55, 0, 7, 7, 1, 0x7a, 0xf6, 0, 0, 0x2d, 0xcf, 0x45, 0x20] ++
          [1, 0xff, 0xff, 0xff, 0xff, 0x2d, 0, 0x1c]]
    let schedule : List (Nat × Operation) :=
      [(5, .receive [0x55, 0, 7, 0, 1, 0x11, 0xf6, 0x30, 0]),
        (1500, .expire),
        (1600, .receive [0x2d, 0xcf, 0x45, 0x30, 0xa4, 0x55, 0, 5, 1, 2, 0xdb, 0, 0xff]),
        (1601, .set 0x002dcf45 .empty),
        (1602, .receive [0x80, 0, 0, 0x0a, 0x3e, 0x55, 0, 7]),
        (1603, .get 0x002dcf45 .empty),
        (3000, .expire),
        (3001, .receive ([7, 1, 0x7a, 0xf6, 0, 0, 0x2d, 0xcf, 0x45, 0x20, 1, 0xff] ++
          [0xff, 0xff, 0xff, 0x2d, 0, 0x1c]))]
    [press, answer, release].mapM Packet.encode = .ok records ∧
      schedule.flatMap (·.2.received) = records.flatten ∧
      ∃ network, (start 0 {}).follow schedule = network ∧
        network.rockers.find? 0x002dcf45 = some {
          data := 0
          status := 0x20
          destination := some 0xffffffff
          attenuation := some 0x2d } ∧
        network.rockers.find? 0x002dcf46 = none ∧
        network.baseId = some 0xff800000 ∧
        BaseIdTold ((start 0 {}).log schedule) 0xff800000 := by
  intro press answer release records schedule
  have encoded : [press, answer, release].mapM Packet.encode = .ok records := by
    simp only [List.mapM_cons, List.mapM_nil]
    rw [Packet.encode_eq (by decide) (by decide), Packet.encode_eq (by decide) (by decide),
      Packet.encode_eq (by decide) (by decide)]
    refine congrArg Except.ok (?_ : [_, _, _] = records)
    simp only [Crc8.checksum_eq]
    decide +kernel
  have delivered : schedule.flatMap (·.2.received) = records.flatten := rfl
  have known : ((start 0 {}).follow schedule).baseId = some 0xff800000 := by decide +kernel
  obtain ⟨_, last, none, _, _, told, _⟩ :=
    switches_follow_telegrams 0 1500 schedule encoded delivered
  refine ⟨encoded, delivered, _, rfl, ?_, ?_, known, (told _).mp known⟩
  · refine (last ..).mpr ⟨[press, answer], release, [], rfl, ?_, by simp⟩
    exact (ofPacket?_eq_some_iff ..).mp (by decide +kernel)
  · exact (none _).mpr ((lastTold?_eq_none_iff ..).mp (by decide +kernel))

end Network

end RadioGateway.EnOcean
