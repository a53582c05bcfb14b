import RadioGateway.Proofs.ZWave.Framing

/-!
# Which frames the decoder recognises

The decoder gives a frame exactly where the encoder's bytes for it stand at the front of the buffer,
and asks for more bytes exactly where some may follow that make a valid record.
-/

namespace RadioGateway.ZWave

open RadioGateway.Link

namespace Frame

theorem encode_eq_ok_iff (frame : Frame) :
    (∃ bytes, frame.encode = .ok bytes) ↔ frame.payload.length ≤ maxPayload := by
  constructor
  · rintro ⟨bytes, encoded⟩
    unfold encode at encoded
    split at encoded
    · cases encoded
    · rename_i fits
      exact Nat.not_lt.mp fits
  · intro fits
    exact ⟨_, encode_eq fits⟩

theorem decode_eq_frame_iff (buffer : Bytes) (frame : Frame) (size : Nat) :
    decode buffer = .frame frame size ↔
      ∃ bytes, frame.encode = .ok bytes ∧ bytes.length = size ∧ bytes <+: buffer := by
  constructor
  · intro decoded
    have reading := reading_decode buffer
    rw [decoded] at reading
    cases reading with
    | frame encoded rest => exact ⟨_, encoded, rfl, List.prefix_append _ _⟩
  · rintro ⟨bytes, encoded, rfl, rest, rfl⟩
    exact decode_encode encoded rest

/-- Encoding a decoded frame again gives the bytes that it took. -/
theorem encode_of_decode {buffer : Bytes} {frame : Frame} {size : Nat}
    (decoded : decode buffer = .frame frame size) : frame.encode = .ok (buffer.take size) := by
  obtain ⟨bytes, encoded, rfl, begins⟩ := (decode_eq_frame_iff buffer frame size).mp decoded
  rw [encoded, ← List.prefix_iff_eq_take.mp begins]

/-- The bytes of a complete record with a right check byte, whether its kind is known or not. -/
inductive Valid : Bytes → Prop where
  | intro {length : Byte} {content : Bytes} (room : 2 ≤ content.length)
      (counted : length.toNat = content.length + 1) :
      Valid (start :: length :: (content ++ [checksum (length :: content)]))

/-- A valid record is decoded as a whole. -/
theorem decode_valid {record : Bytes} (valid : Valid record) :
    (decode record).Complete ∧ (decode record).consumed = record.length := by
  cases valid with
  | @intro length content room counted =>
      obtain ⟨kind, function, payload, rfl⟩ := exists_cons_cons_of_two_le room
      cases known : FrameKind.ofByte? kind with
      | none =>
          have reads := (Reading.unknown counted known function []).decode_eq
          rw [List.cons_append, List.cons_append, reads]
          exact ⟨trivial, by simp [Decoding.consumed]⟩
      | some frameKind =>
          have reads := decode_encode (encode_of_record counted known function) []
          rw [List.append_nil] at reads
          rw [List.cons_append, List.cons_append, reads]
          exact ⟨trivial, rfl⟩

theorem valid_three : Valid [start, 3, 0, 0, 0xfc] :=
  @Valid.intro 3 [0, 0] (Nat.le_refl 2) rfl

/-- What asks for more bytes can be completed: zeros and the check byte will do. -/
theorem exists_valid_of_needMore {buffer : Bytes} (needMore : decode buffer = .needMore) :
    ∃ more, more ≠ [] ∧ Valid (buffer ++ more) := by
  have reading := reading_decode buffer
  rw [needMore] at reading
  cases reading with
  | empty => exact ⟨_, List.cons_ne_nil _ _, valid_three⟩
  | unsized => exact ⟨[3, 0, 0, 0xfc], List.cons_ne_nil _ _, valid_three⟩
  | @short length rest large missing =>
      have filled : (rest ++ List.replicate (length.toNat - 1 - rest.length) 0).length =
          length.toNat - 1 := by
        rw [List.length_append, List.length_replicate]
        omega
      have counted : length.toNat =
          (rest ++ List.replicate (length.toNat - 1 - rest.length) 0).length + 1 := by omega
      have valid := Valid.intro (by omega) counted
      rw [List.append_assoc] at valid
      exact ⟨_, List.append_ne_nil_of_right_ne_nil _ (List.cons_ne_nil _ _), valid⟩

theorem decode_eq_needMore_iff (buffer : Bytes) :
    decode buffer = .needMore ↔ ∃ record, Valid record ∧ buffer <+: record ∧ buffer ≠ record := by
  constructor
  · intro needMore
    obtain ⟨more, some, valid⟩ := exists_valid_of_needMore needMore
    refine ⟨buffer ++ more, valid, List.prefix_append _ _, fun same => some ?_⟩
    exact List.self_eq_append_right.mp same
  · rintro ⟨record, valid, ⟨more, rfl⟩, proper⟩
    obtain ⟨complete, whole⟩ := decode_valid valid
    exact incremental_decode.needMore_of_proper complete whole proper

/-- The encoder takes the payloads that fit. The decoder gives a frame exactly where its encoding
stands at the front of the buffer, so whatever follows an encoding it is read back, and what was read
is encoded to the same bytes. It asks for more exactly at a proper beginning of a valid record, and
otherwise takes some of the bytes that there are. -/
theorem decode_inverts_encode :
    (∀ frame : Frame, (∃ bytes, frame.encode = .ok bytes) ↔ frame.payload.length ≤ 252) ∧
    (∀ buffer frame size, decode buffer = .frame frame size ↔
      ∃ bytes, frame.encode = .ok bytes ∧ bytes.length = size ∧ bytes <+: buffer) ∧
    (∀ frame bytes rest, frame.encode = .ok bytes →
      decode (bytes ++ rest) = .frame frame bytes.length) ∧
    (∀ buffer frame size, decode buffer = .frame frame size →
      frame.encode = .ok (buffer.take size)) ∧
    (∀ buffer, decode buffer = .needMore ↔
      ∃ record, Valid record ∧ buffer <+: record ∧ buffer ≠ record) ∧
    (∀ buffer, decode buffer ≠ .needMore →
      1 ≤ (decode buffer).consumed ∧ (decode buffer).consumed ≤ buffer.length) := by
  refine ⟨encode_eq_ok_iff, decode_eq_frame_iff, ?_, ?_, decode_eq_needMore_iff, ?_⟩
  · intro frame bytes rest encoded
    exact decode_encode encoded rest
  · intro buffer frame size decoded
    exact encode_of_decode decoded
  · intro buffer decided
    exact ⟨incremental_decode.consumed_pos_of_ne decided, incremental_decode.bounded buffer⟩

end Frame

end RadioGateway.ZWave
