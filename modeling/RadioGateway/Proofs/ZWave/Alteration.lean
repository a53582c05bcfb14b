import RadioGateway.Proofs.ZWave.Recognition

/-!
# Altered frames

One byte of an encoded frame arrives with another value. Behind the length, the check byte always
shows it. A length that is altered itself moves the place of the check byte: a longer record is not
all there, and a shorter one passes exactly if the bytes that are cut off make up for the change.
-/

namespace RadioGateway.ZWave

open RadioGateway.Link

namespace Frame

def parity (bytes : Bytes) : Byte := bytes.foldl (· ^^^ ·) 0

theorem foldl_xor (first : Byte) (bytes : Bytes) :
    bytes.foldl (· ^^^ ·) first = first ^^^ parity bytes := by
  have moved := @List.foldl_assoc Byte (· ^^^ ·) _ bytes first 0
  rwa [UInt8.xor_zero] at moved

theorem checksum_eq (bytes : Bytes) : checksum bytes = 0xff ^^^ parity bytes := foldl_xor 0xff bytes

theorem parity_cons (first : Byte) (bytes : Bytes) :
    parity (first :: bytes) = first ^^^ parity bytes := by
  rw [parity, List.foldl_cons, UInt8.zero_xor, foldl_xor]

theorem parity_append (bytes others : Bytes) :
    parity (bytes ++ others) = parity bytes ^^^ parity others := by
  rw [parity, List.foldl_append, ← parity, foldl_xor]

/-- A check byte is right if the parity of all bytes with it is. -/
theorem checksum_eq_iff (bytes : Bytes) (check : Byte) :
    checksum bytes = check ↔ parity (bytes ++ [check]) = 0xff := by
  rw [checksum_eq, parity_append, parity_cons, show parity [] = 0 from rfl, UInt8.xor_zero]
  constructor
  · rintro rfl
    rw [UInt8.xor_comm 0xff, ← UInt8.xor_assoc, UInt8.xor_self, UInt8.zero_xor]
  · intro right
    rw [← right, UInt8.xor_comm, ← UInt8.xor_assoc, UInt8.xor_self, UInt8.zero_xor]

theorem parity_set_ne {bytes : Bytes} {index : Nat} {value : Byte} (inside : index < bytes.length)
    (changed : bytes[index]? ≠ some value) : parity (bytes.set index value) ≠ parity bytes := by
  induction bytes generalizing index with
  | nil => cases inside
  | cons first rest ih =>
      cases index with
      | zero =>
          rw [List.set_cons_zero, parity_cons, parity_cons, Ne, UInt8.xor_left_inj]
          exact fun same => changed (congrArg some same.symm)
      | succ index =>
          rw [List.set_cons_succ, parity_cons, parity_cons, Ne, UInt8.xor_right_inj]
          exact ih (Nat.lt_of_succ_lt_succ inside) changed

/-- An encoded frame begins with its length, which counts what comes behind it. -/
theorem exists_length_of_encode {frame : Frame} {bytes : Bytes}
    (encoded : frame.encode = .ok bytes) :
    ∃ length, length.toNat = frame.payload.length + 3 ∧
      bytes = start :: length :: frame.kind.byte :: frame.function ::
        (frame.payload ++
          [checksum (length :: frame.kind.byte :: frame.function :: frame.payload)]) := by
  have fits := (encode_eq_ok_iff frame).mp ⟨bytes, encoded⟩
  rw [encode_eq fits] at encoded
  cases encoded
  refine ⟨.ofNat (frame.payload.length + 3), ?_, rfl⟩
  rw [UInt8.toNat_ofNat']
  simp only [maxPayload] at fits
  omega

/-- A record of the right length but the wrong parity is spoilt. -/
theorem decode_of_parity {length : Byte} {record : Bytes} (large : 3 ≤ length.toNat)
    (whole : record.length = length.toNat) (wrong : parity (length :: record) ≠ 0xff) :
    decode (start :: length :: record) = .corrupt (record.length + 2) := by
  obtain ⟨content, check, rfl⟩ : ∃ content check, record = content ++ [check] := by
    rcases List.eq_nil_or_concat record with rfl | ⟨content, check, split⟩
    · rw [List.length_nil] at whole
      omega
    · exact ⟨content, check, split.trans List.concat_eq_append⟩
  rw [List.length_append, List.length_singleton] at whole
  have room : 2 ≤ content.length := by omega
  have unlike : checksum (length :: content) ≠ check :=
    fun same => wrong ((checksum_eq_iff _ _).mp same)
  rw [(Reading.spoilt room whole.symm unlike []).decode_eq]
  simp

theorem decode_altered {frame : Frame} {bytes : Bytes} (encoded : frame.encode = .ok bytes)
    {index : Nat} {value : Byte} (behind : 2 ≤ index) (inside : index < bytes.length)
    (changed : bytes[index]? ≠ some value) :
    decode (bytes.set index value) = .corrupt bytes.length := by
  obtain ⟨length, counted, rfl⟩ := exists_length_of_encode encoded
  obtain ⟨place, rfl⟩ := Nat.exists_eq_add_of_le' behind
  let record := frame.kind.byte :: frame.function ::
    (frame.payload ++ [checksum (length :: frame.kind.byte :: frame.function :: frame.payload)])
  have whole : record.length = length.toNat := by simp [record, counted]
  have right : parity (length :: record) = 0xff :=
    (checksum_eq_iff (length :: frame.kind.byte :: frame.function :: frame.payload) _).mp rfl
  have other : parity (record.set place value) ≠ parity record :=
    parity_set_ne (Nat.lt_of_add_lt_add_right inside) changed
  have wrong : parity (length :: record.set place value) ≠ 0xff := by
    rwa [← right, parity_cons, parity_cons, Ne, UInt8.xor_right_inj]
  have spoilt := decode_of_parity (by omega) (List.length_set.trans whole) wrong
  rw [List.length_set] at spoilt
  exact spoilt

/-- A record that ends early passes exactly if what is left over makes up for the other length. -/
theorem checksum_of_cut {length shorter check last : Byte} {kept cut : Bytes}
    (right : checksum (length :: (kept ++ check :: cut)) = last) :
    checksum (shorter :: kept) = check ↔ parity (cut ++ [last]) = shorter ^^^ length := by
  have all : length ^^^ (parity (kept ++ [check]) ^^^ parity (cut ++ [last])) = 0xff := by
    rw [← (checksum_eq_iff _ _).mp right, ← parity_append, ← parity_cons]
    simp
  rw [checksum_eq_iff, List.cons_append, parity_cons, ← all,
    UInt8.xor_comm (parity (kept ++ [check])), ← UInt8.xor_assoc, UInt8.xor_left_inj]
  constructor
  · rintro rfl
    rw [UInt8.xor_comm length, UInt8.xor_assoc, UInt8.xor_self, UInt8.xor_zero]
  · intro evened
    rw [evened, UInt8.xor_comm shorter, ← UInt8.xor_assoc, UInt8.xor_self, UInt8.zero_xor]

/-- What becomes of a frame whose length arrives as a smaller one that still makes a record. -/
theorem decode_shortened {length value : Byte} (kind : FrameKind) (function : Byte)
    {payload : Bytes} (counted : length.toNat = payload.length + 3) (large : 3 ≤ value.toNat)
    (shorter : value.toNat < length.toNat) :
    let last := checksum (length :: kind.byte :: function :: payload)
    let bytes := start :: value :: kind.byte :: function :: (payload ++ [last])
    decode bytes =
      if parity (bytes.drop (value.toNat + 2)) = value ^^^ length then
        .frame ⟨kind, function, payload.take (value.toNat - 3)⟩ (value.toNat + 2)
      else .corrupt bytes.length := by
  obtain missing | ⟨kept, check, cut, size, rfl⟩ := field_cases (value.toNat - 3) payload
  · omega
  intro last bytes
  have here : value.toNat = kept.length + 3 := by omega
  have arrived : bytes = start :: value :: kind.byte :: function ::
      (kept ++ check :: (cut ++ [last])) := by simp [bytes]
  have left : bytes.drop (value.toNat + 2) = cut ++ [last] := by
    rw [arrived, here]
    change (kept ++ check :: (cut ++ [last])).drop (kept.length + 1) = cut ++ [last]
    rw [List.drop_length_add_append, List.drop_one, List.tail_cons]
  have evened : checksum (value :: kind.byte :: function :: kept) = check ↔
      parity (cut ++ [last]) = value ^^^ length := checksum_of_cut rfl
  rw [left, ← size, List.take_left, here, arrived, decode_start, decodeRecord_whole here,
    FrameKind.ofByte?_byte]
  simp only [evened, List.length_cons]

/-- One byte of an encoded frame arrives with another value. Behind the length, the record is always
refused. A length that is too small for a record is refused, and one that is larger than the right
one makes the decoder wait. Any other smaller length passes, as the length of a shorter frame,
exactly if the parity of the bytes that are cut off is that of the two lengths. -/
theorem alterations_are_noticed (frame : Frame) (bytes : Bytes)
    (encoded : frame.encode = .ok bytes) :
    (∀ index value, 2 ≤ index → index < bytes.length → bytes[index]? ≠ some value →
      decode (bytes.set index value) = .corrupt bytes.length) ∧
    ∃ length, bytes[1]? = some length ∧ ∀ value : Byte,
      (value.toNat < 3 → decode (bytes.set 1 value) = .corrupt bytes.length) ∧
      (length.toNat < value.toNat → decode (bytes.set 1 value) = .needMore) ∧
      (3 ≤ value.toNat → value.toNat < length.toNat →
        (parity (bytes.drop (value.toNat + 2)) = value ^^^ length →
          decode (bytes.set 1 value) =
            .frame ⟨frame.kind, frame.function, frame.payload.take (value.toNat - 3)⟩
              (value.toNat + 2)) ∧
        (parity (bytes.drop (value.toNat + 2)) ≠ value ^^^ length →
          decode (bytes.set 1 value) = .corrupt bytes.length)) := by
  refine ⟨fun index value behind inside changed => decode_altered encoded behind inside changed, ?_⟩
  obtain ⟨length, counted, rfl⟩ := exists_length_of_encode encoded
  refine ⟨length, rfl, fun value => ⟨fun small => ?_, fun longer => ?_, fun large shorter => ?_⟩⟩
  · exact (Reading.tiny small _).decode_eq
  · refine (Reading.short (by omega) ?_).decode_eq
    simp only [List.length_cons, List.length_append, List.length_nil]
    omega
  · have cut := decode_shortened frame.kind frame.function counted large shorter
    constructor
    · intro evened
      exact cut.trans (if_pos evened)
    · intro odd
      exact cut.trans (if_neg odd)

/-- Of a frame whose last byte is 1, a length that is 4 and not 5 is not noticed. A smaller one is,
and so is every other change. -/
theorem shortened_frame_is_accepted :
    let frame : Frame := ⟨.request, 0x13, [0x00, 0xe8]⟩
    let bytes : Bytes := [0x01, 0x05, 0x00, 0x13, 0x00, 0xe8, 0x01]
    frame.encode = .ok bytes ∧
      decode [0x01, 0x04, 0x00, 0x13, 0x00, 0xe8, 0x01] = .frame ⟨.request, 0x13, [0x00]⟩ 6 ∧
      decode [0x01, 0x03, 0x00, 0x13, 0x00, 0xe8, 0x01] = .corrupt 7 ∧
      decode [0x01, 0x05, 0x00, 0x13, 0x00, 0xe9, 0x01] = .corrupt 7 := by
  intro frame bytes
  have encoded : frame.encode = .ok bytes := by cbv
  obtain ⟨behind, length, first, altered⟩ := alterations_are_noticed frame bytes encoded
  cases first
  obtain ⟨_, _, passes⟩ := altered 4
  obtain ⟨_, _, fails⟩ := altered 3
  exact ⟨encoded, (passes (by decide) (by decide)).1 (by decide),
    (fails (by decide) (by decide)).2 (by decide),
    behind 5 0xe9 (by decide) (by decide) (by decide)⟩

end Frame

end RadioGateway.ZWave
