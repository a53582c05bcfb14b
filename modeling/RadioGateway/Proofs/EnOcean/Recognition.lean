import RadioGateway.Proofs.EnOcean.Framing

/-!
# Which packets the decoder recognises

The wire format divides all buffers into three: those that begin with an encoded packet, the proper
beginnings of encoded packets, and the others. The decoder tells them apart.
-/

namespace RadioGateway.EnOcean.Packet

open RadioGateway.Link

theorem encode_eq_ok_iff (packet : Packet) :
    (∃ bytes, packet.encode = .ok bytes) ↔
      packet.data.length ≤ maxData ∧ packet.extra.length ≤ maxExtra := by
  constructor
  · rintro ⟨bytes, encoded⟩
    unfold encode at encoded
    split at encoded
    · cases encoded
    · split at encoded
      · cases encoded
      · rename_i dataFits extraFits
        exact ⟨Nat.not_lt.mp dataFits, Nat.not_lt.mp extraFits⟩
  · rintro ⟨dataFits, extraFits⟩
    exact ⟨_, encode_eq dataFits extraFits⟩

theorem decode_eq_frame_iff (buffer : Bytes) (packet : Packet) (size : Nat) :
    decode buffer = .frame packet size ↔
      ∃ bytes, packet.encode = .ok bytes ∧ bytes.length = size ∧ bytes <+: buffer := by
  constructor
  · intro decoded
    have reading := reading_decode buffer
    rw [decoded] at reading
    cases reading with
    | packet encoded rest => exact ⟨_, encoded, rfl, List.prefix_append _ _⟩
  · rintro ⟨bytes, encoded, rfl, rest, rfl⟩
    exact decode_encode encoded rest

/-- Zeros and the check value complete a body. -/
theorem exists_packet_of_header (high low extra kind : Byte) (rest : Bytes)
    (missing : rest.length ≤ (Bytes.word high low).toNat + extra.toNat) :
    ∃ packet more, more ≠ [] ∧ encode packet =
      .ok (sync :: high :: low :: extra :: kind :: Crc8.checksum [high, low, extra, kind] ::
        rest ++ more) := by
  have filled : (rest ++ List.replicate ((Bytes.word high low).toNat + extra.toNat - rest.length)
      0).length = (Bytes.word high low).toNat + extra.toNat := by
    rw [List.length_append, List.length_replicate]
    omega
  have encoded := encode_of_header filled kind
  rw [List.append_assoc] at encoded
  exact ⟨_, _, List.append_ne_nil_of_right_ne_nil _ (List.cons_ne_nil _ _), encoded⟩

theorem exists_header {front : Bytes} (missing : front.length < 5) :
    ∃ high low extra kind, front <+: [high, low, extra, kind] := by
  match front, missing with
  | [], _ => exact ⟨0, 0, 0, 0, List.nil_prefix⟩
  | [high], _ => exact ⟨high, 0, 0, 0, [0, 0, 0], rfl⟩
  | [high, low], _ => exact ⟨high, low, 0, 0, [0, 0], rfl⟩
  | [high, low, extra], _ => exact ⟨high, low, extra, 0, [0], rfl⟩
  | [high, low, extra, kind], _ => exact ⟨high, low, extra, kind, List.prefix_refl _⟩

/-- What asks for more bytes can be completed to a packet. -/
theorem exists_packet_of_needMore {buffer : Bytes} (needMore : decode buffer = .needMore) :
    ∃ packet more, more ≠ [] ∧ encode packet = .ok (buffer ++ more) := by
  have headed : ∀ high low extra kind, ∃ packet more, encode packet = .ok
      (sync :: ([high, low, extra, kind] ++ Crc8.checksum [high, low, extra, kind] :: more)) := by
    intro high low extra kind
    obtain ⟨packet, more, _, encoded⟩ :=
      exists_packet_of_header high low extra kind [] (Nat.zero_le _)
    exact ⟨packet, more, encoded⟩
  have reading := reading_decode buffer
  rw [needMore] at reading
  cases reading with
  | empty =>
      obtain ⟨packet, more, encoded⟩ := headed 0 0 0 0
      exact ⟨packet, _, List.cons_ne_nil _ _, encoded⟩
  | @headless rest missing =>
      obtain ⟨high, low, extra, kind, zeros, filled⟩ := exists_header missing
      obtain ⟨packet, more, encoded⟩ := headed high low extra kind
      rw [← filled, List.append_assoc] at encoded
      exact ⟨packet, _, List.append_ne_nil_of_right_ne_nil _ (List.cons_ne_nil _ _), encoded⟩
  | short missing kind => exact exists_packet_of_header _ _ _ kind _ missing

theorem decode_eq_needMore_iff (buffer : Bytes) :
    decode buffer = .needMore ↔ ∃ (packet : Packet) (bytes : Bytes),
      packet.encode = .ok bytes ∧ buffer <+: bytes ∧ buffer ≠ bytes := by
  constructor
  · intro needMore
    obtain ⟨packet, more, some, encoded⟩ := exists_packet_of_needMore needMore
    refine ⟨packet, _, encoded, List.prefix_append _ _, fun same => some ?_⟩
    exact List.self_eq_append_right.mp same
  · rintro ⟨packet, bytes, encoded, ⟨more, rfl⟩, proper⟩
    have decoded := decode_encode encoded []
    rw [List.append_nil] at decoded
    apply incremental_decode.needMore_of_proper _ _ proper
    · rw [decoded]
      trivial
    · rw [decoded]
      rfl

/-- A buffer that is no beginning of a packet and does not begin with one is spoiled as a whole. -/
theorem decode_cases (buffer : Bytes) :
    decode buffer = .needMore ∨ (∃ packet size, decode buffer = .frame packet size) ∨
      decode buffer = .corrupt buffer.length := by
  cases steadfast_decode buffer [] with
  | asks needMore => exact .inl needMore
  | spoils nonempty here there => exact .inr (.inr here)
  | decides complete some within same =>
      have reading := reading_decode buffer
      generalize decode buffer = decoding at reading complete
      cases reading with
      | packet encoded rest => exact .inr (.inl ⟨_, _, rfl⟩)
      | empty | stray | headless | spoiltHeader | short | spoiltBody => exact complete.elim

/-- The encoder takes the packets that fit. The decoder gives a packet exactly where its encoding
stands at the front of the buffer, asks for more exactly at a proper beginning of an encoding, and
spoils the whole buffer in every other case. -/
theorem decode_trichotomy :
    (∀ packet : Packet, (∃ bytes, packet.encode = .ok bytes) ↔
      packet.data.length ≤ 65535 ∧ packet.extra.length ≤ 255) ∧
    (∀ buffer packet size, decode buffer = .frame packet size ↔
      ∃ bytes, packet.encode = .ok bytes ∧ bytes.length = size ∧ bytes <+: buffer) ∧
    (∀ buffer, decode buffer = .needMore ↔ ∃ (packet : Packet) (bytes : Bytes),
      packet.encode = .ok bytes ∧ buffer <+: bytes ∧ buffer ≠ bytes) ∧
    (∀ buffer, decode buffer = .corrupt buffer.length ↔ ∀ (packet : Packet) (bytes : Bytes),
      packet.encode = .ok bytes → ¬ bytes <+: buffer ∧ ¬ buffer <+: bytes) := by
  refine ⟨encode_eq_ok_iff, decode_eq_frame_iff, decode_eq_needMore_iff, ?_⟩
  intro buffer
  constructor
  · intro spoilt packet bytes encoded
    have noFrame : ¬ bytes <+: buffer := by
      intro begins
      have decoded := (decode_eq_frame_iff buffer packet bytes.length).mpr
        ⟨bytes, encoded, rfl, begins⟩
      rw [spoilt] at decoded
      cases decoded
    refine ⟨noFrame, fun begins => ?_⟩
    have needMore := (decode_eq_needMore_iff buffer).mpr
      ⟨packet, bytes, encoded, begins, fun same => noFrame (same ▸ List.prefix_refl _)⟩
    rw [spoilt] at needMore
    cases needMore
  · intro foreign
    rcases decode_cases buffer with needMore | ⟨packet, size, decoded⟩ | spoilt
    · obtain ⟨packet, bytes, encoded, begins, _⟩ := (decode_eq_needMore_iff buffer).mp needMore
      exact absurd begins (foreign packet bytes encoded).2
    · obtain ⟨bytes, encoded, _, begins⟩ := (decode_eq_frame_iff buffer packet size).mp decoded
      exact absurd begins (foreign packet bytes encoded).1
    · exact spoilt

end RadioGateway.EnOcean.Packet
