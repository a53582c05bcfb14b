import RadioGateway.Proofs.Link.Incremental
import RadioGateway.ZWave.Frame

/-!
# Frames in a stream

The decoder of the serial interface as a list of rules, one for everything that may stand at the
front of a buffer. The rules show that it stands by what it says when bytes are added, so a stream of
symbols and encoded frames is spelled record by record, whatever bytes the payloads hold.
-/

namespace RadioGateway.ZWave

open RadioGateway.Link

theorem FrameKind.byte_of_ofByte? {value : Byte} {kind : FrameKind}
    (known : FrameKind.ofByte? value = some kind) : kind.byte = value := by
  unfold ofByte? at known
  split at known
  · rename_i zero
    cases known
    exact zero.symm
  · split at known
    · rename_i one
      cases known
      exact one.symm
    · cases known

namespace Frame

/-- What the decoder says of a buffer. -/
inductive Reading : Bytes → Decoding Frame → Prop where
  | empty : Reading [] .needMore
  | symbol (symbol : Symbol) (rest : Bytes) :
      Reading (symbolByte symbol :: rest) (.symbol symbol)
  | stray {lead : Byte} (noSymbol : ∀ symbol, lead ≠ symbolByte symbol) (noStart : lead ≠ start)
      (rest : Bytes) : Reading (lead :: rest) (.discard 1)
  | unsized : Reading [start] .needMore
  | tiny {length : Byte} (small : length.toNat < 3) (rest : Bytes) :
      Reading (start :: length :: rest) (.corrupt (rest.length + 2))
  | short {length : Byte} {rest : Bytes} (large : 3 ≤ length.toNat)
      (missing : rest.length < length.toNat) : Reading (start :: length :: rest) .needMore
  | spoilt {length check : Byte} {content : Bytes} (room : 2 ≤ content.length)
      (counted : length.toNat = content.length + 1) (wrong : checksum (length :: content) ≠ check)
      (rest : Bytes) :
      Reading (start :: length :: (content ++ check :: rest))
        (.corrupt (content.length + rest.length + 3))
  | unknown {length kind : Byte} {payload : Bytes}
      (counted : length.toNat = payload.length + 3) (strange : FrameKind.ofByte? kind = none)
      (function : Byte) (rest : Bytes) :
      Reading
        (start :: length :: kind :: function ::
          (payload ++ checksum (length :: kind :: function :: payload) :: rest))
        (.unsupported (payload.length + 5))
  | frame {frame : Frame} {bytes : Bytes} (encoded : frame.encode = .ok bytes) (rest : Bytes) :
      Reading (bytes ++ rest) (.frame frame bytes.length)

theorem lt_three_iff (length : Byte) : length < 3 ↔ length.toNat < 3 := UInt8.lt_iff_toNat_lt

theorem decodeRecord_whole {length : Byte} {payload : Bytes}
    (counted : length.toNat = payload.length + 3) (total : Nat) (kind function check : Byte)
    (rest : Bytes) :
    decodeRecord total (length :: kind :: function :: (payload ++ check :: rest)) =
      if checksum (length :: kind :: function :: payload) = check then
        match FrameKind.ofByte? kind with
        | some kind => .frame ⟨kind, function, payload⟩ (payload.length + 5)
        | none => .unsupported (payload.length + 5)
      else .corrupt total := by
  have large : ¬ length < 3 := by
    rw [lt_three_iff]
    omega
  have size : length.toNat - 1 = (kind :: function :: payload).length := by
    rw [counted]
    rfl
  have taken : length.toNat + 2 = payload.length + 5 := by omega
  have split : kind :: function :: (payload ++ check :: rest) =
      (kind :: function :: payload) ++ check :: rest := rfl
  simp only [decodeRecord, large, if_false]
  rw [split, size, List.take_left, List.drop_left]
  cases known : FrameKind.ofByte? kind <;> simp only [known, taken]

theorem decode_start (rest : Bytes) :
    decode (start :: rest) = decodeRecord (rest.length + 1) rest := rfl

theorem exists_cons_cons_of_two_le {bytes : Bytes} (long : 2 ≤ bytes.length) :
    ∃ first second rest, bytes = first :: second :: rest := by
  match bytes, long with
  | first :: second :: rest, _ => exact ⟨first, second, rest, rfl⟩

/-- What a rule says of a buffer is what the decoder says. -/
theorem Reading.decode_eq {buffer : Bytes} {decoding : Decoding Frame}
    (reading : Reading buffer decoding) : decode buffer = decoding := by
  cases reading with
  | empty => rfl
  | symbol symbol rest => cases symbol <;> rfl
  | stray noSymbol noStart rest =>
      simp only [decode, noSymbol .ack, noSymbol .nack, noSymbol .cancel, noStart, if_false]
  | unsized => rfl
  | tiny small rest =>
      rw [decode_start, decodeRecord, if_pos ((lt_three_iff _).mpr small)]
      rfl
  | @short length rest large missing =>
      have nothing : rest.drop (length.toNat - 1) = [] := List.drop_eq_nil_of_le (by omega)
      rw [decode_start, decodeRecord, if_neg (fun small => by rw [lt_three_iff] at small; omega)]
      simp [nothing]
  | spoilt room counted wrong rest =>
      obtain ⟨kind, function, payload, rfl⟩ := exists_cons_cons_of_two_le room
      rw [decode_start, List.cons_append, List.cons_append, decodeRecord_whole counted,
        if_neg wrong]
      simp
      omega
  | unknown counted strange function rest =>
      rw [decode_start, decodeRecord_whole counted, if_pos rfl, strange]
  | frame encoded rest => exact decode_encode encoded rest

theorem encode_eq {frame : Frame} (fits : frame.payload.length ≤ maxPayload) :
    frame.encode = .ok (start :: frame.body ++ [checksum frame.body]) :=
  if_neg (Nat.not_lt.mpr fits)

/-- A record of a known kind spells a frame. -/
theorem encode_of_record {length kindByte : Byte} {kind : FrameKind} {payload : Bytes}
    (counted : length.toNat = payload.length + 3) (known : FrameKind.ofByte? kindByte = some kind)
    (function : Byte) :
    encode ⟨kind, function, payload⟩ =
      .ok (start :: length :: kindByte :: function ::
        (payload ++ [checksum (length :: kindByte :: function :: payload)])) := by
  have bound := length.toNat_lt
  have lengthByte : UInt8.ofNat (payload.length + 3) = length := by
    rw [← counted, UInt8.ofNat_toNat]
  rw [encode_eq (by simp only [maxPayload]; omega)]
  simp [body, lengthByte, FrameKind.byte_of_ofByte? known]

/-- The bytes behind the length do not fill the record, or hold it whole. -/
theorem record_cases {length : Byte} (large : 3 ≤ length.toNat) (rest : Bytes) :
    rest.length < length.toNat ∨
      ∃ kind function payload check behind, length.toNat = payload.length + 3 ∧
        rest = kind :: function :: (payload ++ check :: behind) := by
  rcases field_cases (length.toNat - 1) rest with missing | ⟨content, check, behind, whole, rfl⟩
  · left
    omega
  · right
    have room : 2 ≤ content.length := by omega
    obtain ⟨kind, function, payload, rfl⟩ := exists_cons_cons_of_two_le room
    simp only [List.length_cons] at whole
    exact ⟨kind, function, payload, check, behind, by omega, rfl⟩

theorem exists_reading (buffer : Bytes) : ∃ decoding, Reading buffer decoding := by
  match buffer with
  | [] => exact ⟨_, .empty⟩
  | lead :: rest =>
      by_cases heard : ∃ symbol, lead = symbolByte symbol
      · obtain ⟨symbol, rfl⟩ := heard
        exact ⟨_, .symbol symbol rest⟩
      by_cases begins : lead = start
      · subst begins
        match rest with
        | [] => exact ⟨_, .unsized⟩
        | length :: rest =>
            by_cases small : length.toNat < 3
            · exact ⟨_, .tiny small rest⟩
            · have large := Nat.not_lt.mp small
              rcases record_cases large rest with missing |
                ⟨kind, function, payload, check, behind, counted, rfl⟩
              · exact ⟨_, .short large missing⟩
              · by_cases sound : checksum (length :: kind :: function :: payload) = check
                · subst sound
                  cases known : FrameKind.ofByte? kind with
                  | none => exact ⟨_, .unknown counted known function behind⟩
                  | some frameKind =>
                      have reading := Reading.frame (encode_of_record counted known function) behind
                      simp only [List.cons_append, List.append_assoc, List.nil_append] at reading
                      exact ⟨_, reading⟩
                · have room : 2 ≤ (kind :: function :: payload).length := by simp
                  exact ⟨_, .spoilt room counted sound behind⟩
      · exact ⟨_, .stray (fun symbol same => heard ⟨symbol, same⟩) begins rest⟩

theorem reading_decode (buffer : Bytes) : Reading buffer (decode buffer) := by
  obtain ⟨decoding, reading⟩ := exists_reading buffer
  rw [reading.decode_eq]
  exact reading

theorem steadfast_decode : Steadfast decode := by
  intro buffer more
  have reading := reading_decode buffer
  generalize decoded : decode buffer = decoding at reading
  cases reading with
  | empty => exact .asks decoded
  | unsized => exact .asks decoded
  | short large missing => exact .asks decoded
  | symbol symbol rest =>
      have reads (rest : Bytes) : decode ([symbolByte symbol] ++ rest) = .symbol symbol :=
        (Reading.symbol symbol rest).decode_eq
      exact .of_record reads trivial rfl Nat.one_pos rest more
  | @stray lead noSymbol noStart rest =>
      have reads (rest : Bytes) : decode ([lead] ++ rest) = .discard 1 :=
        (Reading.stray noSymbol noStart rest).decode_eq
      exact .of_record reads trivial rfl Nat.one_pos rest more
  | tiny small rest =>
      have later := (Reading.tiny small (rest ++ more)).decode_eq
      exact .spoils (List.cons_ne_nil _ _) decoded later
  | @spoilt length check content room counted wrong rest =>
      have later := (Reading.spoilt room counted wrong (rest ++ more)).decode_eq
      refine .spoils (List.cons_ne_nil _ _) (decoded.trans ?_) ?_
      · simp
        omega
      · simp only [List.cons_append, List.append_assoc]
        rw [later]
        simp
        omega
  | @unknown length kind payload counted strange function rest =>
      have reads (rest : Bytes) : decode (start :: length :: kind :: function :: payload ++
          [checksum (length :: kind :: function :: payload)] ++ rest) =
            .unsupported (payload.length + 5) := by
        rw [List.append_assoc]
        exact (Reading.unknown counted strange function rest).decode_eq
      have stands := Stands.of_record reads trivial (by simp [Decoding.consumed]) (by simp) rest more
      rwa [List.append_assoc] at stands
  | frame encoded rest =>
      have some := length_encode encoded
      exact .of_record (decode_encode encoded) trivial rfl (by omega) rest more

theorem incremental_decode : Incremental decode := steadfast_decode.incremental

/-- Bytes that are the encoding of a frame are that of no other. -/
theorem encode_injective {frame other : Frame} {bytes : Bytes} (encoded : frame.encode = .ok bytes)
    (again : other.encode = .ok bytes) : frame = other := by
  have reads := (decode_encode encoded []).symm.trans (decode_encode again [])
  cases reads
  rfl

theorem spells_symbol (symbol : Symbol) : Spells decode [.symbol symbol] [symbolByte symbol] := by
  have reads : decode [symbolByte symbol] = .symbol symbol := by cases symbol <;> rfl
  have spells : Spells decode [decode [symbolByte symbol]] ([symbolByte symbol] ++ []) :=
    .cons (by rw [reads]; trivial) (by rw [reads]; rfl) .nil
  rwa [reads] at spells

theorem spells_frame {frame : Frame} {bytes : Bytes} (encoded : frame.encode = .ok bytes) :
    Spells decode [.frame frame bytes.length] bytes := by
  have reads : decode bytes = .frame frame bytes.length := by
    simpa using decode_encode encoded []
  have spells : Spells decode [decode bytes] (bytes ++ []) :=
    .cons (by rw [reads]; trivial) (by rw [reads]; rfl) .nil
  rwa [reads, List.append_nil] at spells

end Frame

end RadioGateway.ZWave
