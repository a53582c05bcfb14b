import RadioGateway.EnOcean.Packet
import RadioGateway.Proofs.Link.Incremental

/-!
# Packets in a stream

The decoder of the transceiver's interface as a list of rules, one for everything that may stand at
the front of a buffer. The rules show that it stands by what it says when bytes are added.
-/

namespace RadioGateway.EnOcean.Packet

open RadioGateway.Link

/-- What the decoder says of a buffer. -/
inductive Reading : Bytes → Decoding Packet → Prop where
  | empty : Reading [] .needMore
  | stray {lead : Byte} (other : lead ≠ sync) (rest : Bytes) :
      Reading (lead :: rest) (.corrupt (rest.length + 1))
  | headless {rest : Bytes} (missing : rest.length < 5) : Reading (sync :: rest) .needMore
  | spoiltHeader {high low extra kind check : Byte}
      (wrong : Crc8.checksum [high, low, extra, kind] ≠ check) (rest : Bytes) :
      Reading (sync :: high :: low :: extra :: kind :: check :: rest) (.corrupt (rest.length + 6))
  | short {high low extra : Byte} {rest : Bytes}
      (missing : rest.length ≤ (Bytes.word high low).toNat + extra.toNat) (kind : Byte) :
      Reading
        (sync :: high :: low :: extra :: kind :: Crc8.checksum [high, low, extra, kind] :: rest)
        .needMore
  | spoiltBody {high low extra check : Byte} {body : Bytes}
      (whole : body.length = (Bytes.word high low).toNat + extra.toNat)
      (wrong : Crc8.checksum body ≠ check) (kind : Byte) (rest : Bytes) :
      Reading
        (sync :: high :: low :: extra :: kind :: Crc8.checksum [high, low, extra, kind] ::
          (body ++ check :: rest))
        (.corrupt (body.length + rest.length + 7))
  | packet {packet : Packet} {bytes : Bytes} (encoded : packet.encode = .ok bytes) (rest : Bytes) :
      Reading (bytes ++ rest) (.frame packet bytes.length)

theorem decode_sync (high low extra kind check : Byte) (rest : Bytes) :
    decode (sync :: high :: low :: extra :: kind :: check :: rest) =
      if Crc8.checksum [high, low, extra, kind] = check then
        decodeBody (rest.length + 6) (Bytes.word high low).toNat extra.toNat kind rest
      else .corrupt (rest.length + 6) := by
  simp [decode]

theorem decode_headless {rest : Bytes} (missing : rest.length < 5) :
    decode (sync :: rest) = .needMore := by
  match rest, missing with
  | [], _ | [_], _ | [_, _], _ | [_, _, _], _ | [_, _, _, _], _ => rfl

theorem decodeBody_short {dataLength extraLength : Nat} {rest : Bytes}
    (missing : rest.length ≤ dataLength + extraLength) (total : Nat) (kind : Byte) :
    decodeBody total dataLength extraLength kind rest = .needMore := by
  rw [decodeBody, List.drop_eq_nil_of_le missing]

theorem decodeBody_whole {dataLength extraLength : Nat} {body : Bytes}
    (whole : body.length = dataLength + extraLength) (total : Nat) (kind check : Byte)
    (rest : Bytes) :
    decodeBody total dataLength extraLength kind (body ++ check :: rest) =
      if Crc8.checksum body = check then
        .frame ⟨kind, body.take dataLength, body.drop dataLength⟩ (body.length + 7)
      else .corrupt total := by
  rw [decodeBody, ← whole, List.drop_left, List.take_left]

/-- What a rule says of a buffer is what the decoder says. -/
theorem Reading.decode_eq {buffer : Bytes} {decoding : Decoding Packet}
    (reading : Reading buffer decoding) : decode buffer = decoding := by
  cases reading with
  | empty => rfl
  | stray other rest => exact if_pos other
  | headless missing => exact decode_headless missing
  | spoiltHeader wrong rest => rw [decode_sync, if_neg wrong]
  | short missing kind => rw [decode_sync, if_pos rfl, decodeBody_short missing]
  | spoiltBody whole wrong kind rest =>
      rw [decode_sync, if_pos rfl, decodeBody_whole whole, if_neg wrong]
      simp
      omega
  | packet encoded rest => exact decode_encode encoded rest

theorem encode_eq {packet : Packet} (dataFits : packet.data.length ≤ maxData)
    (extraFits : packet.extra.length ≤ maxExtra) :
    packet.encode = .ok (sync :: packet.header ++ Crc8.checksum packet.header ::
      packet.body ++ [Crc8.checksum packet.body]) := by
  rw [encode, if_neg (Nat.not_lt.mpr dataFits), if_neg (Nat.not_lt.mpr extraFits)]

/-- A header and a body of the length that it tells spell a packet. -/
theorem encode_of_header {high low extra : Byte} {body : Bytes}
    (whole : body.length = (Bytes.word high low).toNat + extra.toNat) (kind : Byte) :
    encode ⟨kind, body.take (Bytes.word high low).toNat, body.drop (Bytes.word high low).toNat⟩ =
      .ok (sync :: high :: low :: extra :: kind :: Crc8.checksum [high, low, extra, kind] ::
        (body ++ [Crc8.checksum body])) := by
  have wordBound := (Bytes.word high low).toNat_lt
  have extraBound := extra.toNat_lt
  have dataLength : (body.take (Bytes.word high low).toNat).length =
      (Bytes.word high low).toNat := by
    rw [List.length_take]
    omega
  have extraLength : (body.drop (Bytes.word high low).toNat).length = extra.toNat := by
    rw [List.length_drop]
    omega
  have lengths : [UInt8.ofNat ((Bytes.word high low).toNat / 256),
      UInt8.ofNat (Bytes.word high low).toNat] = [high, low] := Bytes.ofWord_word high low
  simp only [List.cons.injEq, and_true] at lengths
  rw [encode_eq (by simp only [dataLength, maxData]; omega)
    (by simp only [extraLength, maxExtra]; omega)]
  simp [header, Packet.body, dataLength, extraLength, lengths]

theorem exists_reading (buffer : Bytes) : ∃ decoding, Reading buffer decoding := by
  cases buffer with
  | nil => exact ⟨_, .empty⟩
  | cons lead rest =>
      by_cases begins : lead = sync
      · subst begins
        match rest with
        | [] | [_] | [_, _] | [_, _, _] | [_, _, _, _] => exact ⟨_, .headless (by simp)⟩
        | high :: low :: extra :: kind :: check :: rest =>
            by_cases sound : Crc8.checksum [high, low, extra, kind] = check
            · subst sound
              rcases field_cases ((Bytes.word high low).toNat + extra.toNat) rest with missing |
                ⟨body, check, behind, whole, rfl⟩
              · exact ⟨_, .short missing kind⟩
              · by_cases sound : Crc8.checksum body = check
                · subst sound
                  have reading := Reading.packet (encode_of_header whole kind) behind
                  simp only [List.cons_append, List.append_assoc, List.nil_append] at reading
                  exact ⟨_, reading⟩
                · exact ⟨_, .spoiltBody whole sound kind behind⟩
            · exact ⟨_, .spoiltHeader sound rest⟩
      · exact ⟨_, .stray begins rest⟩

theorem reading_decode (buffer : Bytes) : Reading buffer (decode buffer) := by
  obtain ⟨decoding, reading⟩ := exists_reading buffer
  rw [reading.decode_eq]
  exact reading

theorem steadfast_decode : Steadfast decode := by
  intro buffer more
  have reading := reading_decode buffer
  generalize decoded : decode buffer = decoding at reading
  cases reading with
  | empty => exact .asks decoded
  | headless missing => exact .asks decoded
  | short missing kind => exact .asks decoded
  | stray other rest =>
      have later := (Reading.stray other (rest ++ more)).decode_eq
      exact .spoils (List.cons_ne_nil _ _) decoded later
  | spoiltHeader wrong rest =>
      have later := (Reading.spoiltHeader wrong (rest ++ more)).decode_eq
      exact .spoils (List.cons_ne_nil _ _) decoded later
  | spoiltBody whole wrong kind rest =>
      have later := (Reading.spoiltBody whole wrong kind (rest ++ more)).decode_eq
      refine .spoils (List.cons_ne_nil _ _) (decoded.trans ?_) ?_
      · simp
        omega
      · simp only [List.cons_append, List.append_assoc]
        rw [later]
        simp
        omega
  | packet encoded rest =>
      have some := length_encode encoded
      exact .of_record (decode_encode encoded) trivial rfl (by omega) rest more

theorem incremental_decode : Incremental decode := steadfast_decode.incremental

end RadioGateway.EnOcean.Packet
