import RadioGateway.Proofs.EnOcean.Recognition
import RadioGateway.Proofs.EnOcean.Run
import RadioGateway.Proofs.Link.Rounds
import RadioGateway.Proofs.ZWave.Recognition
import RadioGateway.Proofs.ZWave.Run

/-!
# What is left in a receive buffer

Between two reads a link keeps the bytes that do not make a record yet. They are a proper beginning
of one record, so there are never more of them than the longest record has, whatever was received.
-/

namespace RadioGateway

open Link

namespace ZWave

/-- Bytes that may be left in a receive buffer: a proper beginning of a record. -/
structure Frame.Pending (bytes : Bytes) : Prop where
  proper : ∃ record, Frame.Valid record ∧ bytes <+: record ∧ bytes ≠ record
  lead : ∀ first ∈ bytes[0]?, first = Frame.start
  length : ∀ length ∈ bytes[1]?, 3 ≤ length.toNat
  short : bytes.length ≤ 256

theorem Frame.pending_of_needMore {bytes : Bytes} (asks : Frame.decode bytes = .needMore) :
    Frame.Pending bytes := by
  have proper := (Frame.decode_eq_needMore_iff bytes).mp asks
  have reading := Frame.reading_decode bytes
  rw [asks] at reading
  cases reading with
  | empty => exact ⟨proper, by simp, by simp, by simp⟩
  | unsized => exact ⟨proper, by simp, by simp, by simp⟩
  | @short length rest large missing =>
      refine ⟨proper, by simp, by simpa using large, ?_⟩
      have bound := length.toNat_lt
      simp only [List.length_cons]
      omega

/-- The longest record but for its last byte. -/
example : (drain Frame.decode (0x01 :: 0xff :: .replicate 254 0)).2.length = 256 := by
  decide +kernel

namespace Run

/-- Between two actions the session waits for more bytes. -/
theorem waiting_follow (ackTimeout answerTimeout : Nat) (actions : List Action) :
    Frame.decode ((start ackTimeout answerTimeout).follow actions).session.received =
      .needMore := by
  refine List.foldlRecOn (motive := fun run : Run =>
    Frame.decode run.session.received = .needMore) actions act
    Frame.incremental_decode.decode_nil fun run waiting action _ => ?_
  cases action with
  | operate operation =>
      rw [act, Session.perform_eq]
      cases operation with
      | submit request => exact waiting
      | receive bytes => exact Frame.steadfast_decode.decode_drain_rest _
      | expire => exact waiting
      | close => exact Frame.incremental_decode.decode_nil
  | takeOutput | takeEvents | advance duration => exact waiting

end Run

end ZWave

namespace EnOcean

structure Packet.Pending (bytes : Bytes) : Prop where
  proper : ∃ (packet : Packet) (record : Bytes),
    packet.encode = .ok record ∧ bytes <+: record ∧ bytes ≠ record
  lead : ∀ first ∈ bytes[0]?, first = Packet.sync
  header : ∀ lead high low extra kind check behind,
    bytes = lead :: high :: low :: extra :: kind :: check :: behind →
      Crc8.checksum [high, low, extra, kind] = check
  short : bytes.length ≤ 65796

theorem Packet.pending_of_needMore {bytes : Bytes} (asks : Packet.decode bytes = .needMore) :
    Packet.Pending bytes := by
  have proper := (Packet.decode_eq_needMore_iff bytes).mp asks
  have reading := Packet.reading_decode bytes
  rw [asks] at reading
  cases reading with
  | empty => exact ⟨proper, by simp, by simp, by simp⟩
  | @headless rest missing =>
      refine ⟨proper, by simp, ?_, ?_⟩
      · intro lead high low extra kind check behind split
        obtain ⟨-, rfl⟩ := List.cons.inj split
        simp only [List.length_cons] at missing
        omega
      · simp only [List.length_cons]
        omega
  | @short high low extra rest missing kind =>
      refine ⟨proper, by simp, ?_, ?_⟩
      · intro lead first second third fourth check behind split
        simp only [List.cons.injEq] at split
        obtain ⟨-, rfl, rfl, rfl, rfl, sound, -⟩ := split
        exact sound
      · have wordBound := (Bytes.word high low).toNat_lt
        have byteBound := extra.toNat_lt
        simp only [List.length_cons]
        omega

namespace Run

theorem waiting_follow (responseTimeout : Nat) (actions : List Action) :
    Packet.decode ((start responseTimeout).follow actions).session.received = .needMore := by
  refine List.foldlRecOn (motive := fun run : Run =>
    Packet.decode run.session.received = .needMore) actions act
    Packet.incremental_decode.decode_nil fun run waiting action _ => ?_
  cases action with
  | operate operation =>
      rw [act, Session.perform_eq]
      cases operation with
      | submit request => exact waiting
      | receive bytes => exact Packet.steadfast_decode.decode_drain_rest _
      | expire => exact waiting
      | close => exact Packet.incremental_decode.decode_nil
  | takeOutput | takeEvents | advance duration => exact waiting

end Run

end EnOcean

namespace Link

/-- Whatever has been done with a session before, and whatever bytes are read, the rounds over its
receive buffer come to an end, and with them its reception. No byte is lost, passed over or read twice
on the way. What is left is a proper beginning of one record, which is at most 256 bytes on the one
link and 65796 on the other, and no more than that is ever kept between two reads. -/
theorem reception_ends_and_is_bounded :
    (∀ (ackTimeout answerTimeout : Nat) (actions : List ZWave.Action),
      let session := ((ZWave.Run.start ackTimeout answerTimeout).follow actions).session
      ZWave.Frame.Pending session.received ∧
      ∀ (now : Nat) (bytes : Bytes),
        Finishes ZWave.Frame.decode (ZWave.Session.onDecoding now) session
          (session.received ++ bytes) fun last rest =>
            session.receive now bytes = { last with received := rest } ∧
              ZWave.Frame.Pending rest) ∧
    ∀ (responseTimeout : Nat) (actions : List EnOcean.Action),
      let session := ((EnOcean.Run.start responseTimeout).follow actions).session
      EnOcean.Packet.Pending session.received ∧
      ∀ (now : Nat) (bytes : Bytes),
        Finishes EnOcean.Packet.decode (EnOcean.Session.onDecoding now) session
          (session.received ++ bytes) fun last rest =>
            session.receive now bytes = { last with received := rest } ∧
              EnOcean.Packet.Pending rest := by
  constructor
  · intro ackTimeout answerTimeout actions session
    have waiting := ZWave.Run.waiting_follow ackTimeout answerTimeout actions
    exact ⟨ZWave.Frame.pending_of_needMore waiting, fun now bytes =>
      ZWave.Frame.steadfast_decode.finishes fun asks =>
        ⟨rfl, ZWave.Frame.pending_of_needMore asks⟩⟩
  · intro responseTimeout actions session
    have waiting := EnOcean.Run.waiting_follow responseTimeout actions
    exact ⟨EnOcean.Packet.pending_of_needMore waiting, fun now bytes =>
      EnOcean.Packet.steadfast_decode.finishes fun asks =>
        ⟨rfl, EnOcean.Packet.pending_of_needMore asks⟩⟩

end Link

end RadioGateway
