import RadioGateway.Proofs.Checked.Link
import RadioGateway.Proofs.EnOcean.Framing

/-!
# Checked packets

The decoder of the transceiver's interface, with every byte of the buffer looked up by its place.
The header says where both parts of the body end. As its lengths have three bytes in all, the sums
fit their words, and the body is cut out only once it is there.
-/

namespace RadioGateway.EnOcean

open RadioGateway.Link Checked

namespace Crc8

def checkedAddByte (remainder byte : Byte) : Checked Byte :=
  get table.toList (remainder ^^^ byte).toNat

def checkedChecksum (message : Bytes) : Checked Byte := message.foldlM checkedAddByte 0

/-- Every byte is a place in the table. -/
theorem checkedAddByte_eq (remainder byte : Byte) :
    checkedAddByte remainder byte = .ok (addByte remainder byte) :=
  get_eq (Vector.getElem?_toList.trans
    (Vector.getElem?_eq_getElem (remainder ^^^ byte).toNat_lt))

theorem checkedChecksum_eq (message : Bytes) :
    checkedChecksum message = .ok (checksum message) :=
  (foldlM_eq (fun _ => True)
    (fun remainder byte _ => ⟨checkedAddByte_eq remainder byte, trivial⟩) trivial message).1

end Crc8

namespace Packet

/-- The body of a packet that is all there, with the places behind its data and its optional data.
-/
def checkedBody (buffer : Bytes) (dataEnd bodyEnd : Nat) : Checked (Decoding Packet) := do
  let body ← slice buffer 6 bodyEnd
  let found ← Crc8.checkedChecksum body
  let check ← get buffer bodyEnd
  if found = check then
    let kind ← get buffer 4
    let data ← slice buffer 6 dataEnd
    let extra ← slice buffer dataEnd bodyEnd
    let total ← add 32 bodyEnd 1
    .ok (.frame ⟨kind, data, extra⟩ total)
  else .ok (.corrupt buffer.length)

def checkedHeader (buffer : Bytes) : Checked (Decoding Packet) :=
  if buffer.length < 6 then .ok .needMore
  else do
    let header ← slice buffer 1 5
    let found ← Crc8.checkedChecksum header
    let check ← get buffer 5
    if found = check then
      let high ← get buffer 1
      let low ← get buffer 2
      let extra ← get buffer 3
      let dataEnd ← add 32 6 (Bytes.word high low).toNat
      let bodyEnd ← add 32 dataEnd extra.toNat
      let total ← add 32 bodyEnd 1
      if buffer.length < total then .ok .needMore else checkedBody buffer dataEnd bodyEnd
    else .ok (.corrupt buffer.length)

def checkedDecode (buffer : Bytes) : Checked (Decoding Packet) :=
  if buffer.isEmpty then .ok .needMore
  else do
    let lead ← get buffer 0
    if lead = sync then checkedHeader buffer else .ok (.corrupt buffer.length)

def checkedEncode (packet : Packet) : Checked (Except Oversized Bytes) :=
  if maxData < packet.data.length then .ok (.error ⟨packet.data.length, maxData⟩)
  else if maxExtra < packet.extra.length then .ok (.error ⟨packet.extra.length, maxExtra⟩)
  else do
    let dataEnd ← add 32 6 packet.data.length
    let bodyEnd ← add 32 dataEnd packet.extra.length
    let _ ← add 32 bodyEnd 1
    let front := sync :: packet.header
    let header ← slice front 1 5
    let headerCheck ← Crc8.checkedChecksum header
    let whole := front ++ headerCheck :: packet.body
    let body ← slice whole 6 whole.length
    let bodyCheck ← Crc8.checkedChecksum body
    .ok (.ok (whole ++ [bodyCheck]))

theorem checkedEncode_eq (packet : Packet) : packet.checkedEncode = .ok packet.encode := by
  unfold checkedEncode
  split
  · rename_i large
    rw [encode, if_pos large]
  · rename_i dataFits
    split
    · rename_i large
      rw [encode, if_neg dataFits, if_pos large]
    · rename_i extraFits
      rw [encode_eq (Nat.not_lt.mp dataFits) (Nat.not_lt.mp extraFits)]
      simp only [maxData, maxExtra, Nat.not_lt] at dataFits extraFits
      have header : slice (sync :: packet.header) 1 5 = .ok packet.header := rfl
      have body : slice (sync :: packet.header ++ Crc8.checksum packet.header :: packet.body) 6
          (sync :: packet.header ++ Crc8.checksum packet.header :: packet.body).length =
            .ok packet.body := by
        rw [slice_eq (by simp [Packet.header]) (Nat.le_refl _), List.take_length]
        rfl
      rw [add_eq (by omega), ok_bind, add_eq (by omega), ok_bind, add_eq (by omega), ok_bind]
      dsimp only
      rw [header, ok_bind, Crc8.checkedChecksum_eq, ok_bind, body, ok_bind,
        Crc8.checkedChecksum_eq, ok_bind]

theorem checkedBody_eq {high low extra : Byte} {body : Bytes}
    (whole : body.length = (Bytes.word high low).toNat + extra.toNat) (kind check : Byte)
    (rest : Bytes) :
    checkedBody
        (sync :: high :: low :: extra :: kind :: Crc8.checksum [high, low, extra, kind] ::
          (body ++ check :: rest))
        (6 + (Bytes.word high low).toNat) (6 + (Bytes.word high low).toNat + extra.toNat) =
      .ok (decode
        (sync :: high :: low :: extra :: kind :: Crc8.checksum [high, low, extra, kind] ::
          (body ++ check :: rest))) := by
  rw [decode_sync, if_pos rfl, decodeBody_whole whole]
  have dataBound := (Bytes.word high low).toNat_lt
  generalize Crc8.checksum [high, low, extra, kind] = headerCheck
  generalize (Bytes.word high low).toNat = dataLength at whole dataBound ⊢
  obtain ⟨data, tail, dataWhole, tailWhole, rfl⟩ : ∃ data tail : Bytes,
      data.length = dataLength ∧ tail.length = extra.toNat ∧ body = data ++ tail :=
    ⟨body.take dataLength, body.drop dataLength, by rw [List.length_take]; omega,
      by rw [List.length_drop]; omega, (List.take_append_drop ..).symm⟩
  subst dataWhole
  rw [← tailWhole]
  generalize complete : sync :: high :: low :: extra :: kind :: headerCheck ::
    (data ++ tail ++ check :: rest) = buffer
  have bodyPiece : slice buffer 6 (6 + data.length + tail.length) = .ok (data ++ tail) := by
    rw [← complete]
    exact slice_append [sync, high, low, extra, kind, headerCheck] (data ++ tail) (check :: rest)
      rfl (by simp; omega)
  have dataPiece : slice buffer 6 (6 + data.length) = .ok data := by
    rw [← complete, List.append_assoc]
    exact slice_append [sync, high, low, extra, kind, headerCheck] data (tail ++ check :: rest)
      rfl (by simp)
  have tailPiece : slice buffer (6 + data.length) (6 + data.length + tail.length) = .ok tail := by
    rw [← complete]
    exact slice_append (sync :: high :: low :: extra :: kind :: headerCheck :: data) tail
      (check :: rest) (by simp; omega) (by simp; omega)
  have last : get buffer (6 + data.length + tail.length) = .ok check := by
    rw [← complete]
    exact get_append (sync :: high :: low :: extra :: kind :: headerCheck :: (data ++ tail)) check
      rest (by simp; omega)
  have known : get buffer 4 = .ok kind := get_eq (by simp [← complete])
  have size : buffer.length = (data ++ tail ++ check :: rest).length + 6 := by simp [← complete]
  have total : 6 + data.length + tail.length + 1 = (data ++ tail).length + 7 := by
    rw [List.length_append]
    omega
  have tailBound := extra.toNat_lt
  rw [checkedBody, bodyPiece, ok_bind, Crc8.checkedChecksum_eq, ok_bind, last, ok_bind]
  split
  · rw [known, ok_bind, dataPiece, ok_bind, tailPiece, ok_bind, add_eq (by omega), ok_bind, total,
      List.take_left, List.drop_left]
  · rw [size]

/-- A header that is all there is looked up in bounds. -/
theorem checkedHeader_eq (high low extra kind check : Byte) (rest : Bytes) :
    checkedHeader (sync :: high :: low :: extra :: kind :: check :: rest) =
      if Crc8.checksum [high, low, extra, kind] = check then
        if rest.length ≤ (Bytes.word high low).toNat + extra.toNat then .ok .needMore
        else checkedBody (sync :: high :: low :: extra :: kind :: check :: rest)
          (6 + (Bytes.word high low).toNat) (6 + (Bytes.word high low).toNat + extra.toNat)
      else .ok (.corrupt (rest.length + 6)) := by
  have wordBound := (Bytes.word high low).toNat_lt
  have byteBound := extra.toNat_lt
  generalize complete : sync :: high :: low :: extra :: kind :: check :: rest = buffer
  have size : buffer.length = rest.length + 6 := by simp [← complete]
  have header : slice buffer 1 5 = .ok [high, low, extra, kind] := by
    rw [← complete]
    exact slice_append [sync] [high, low, extra, kind] (check :: rest) rfl rfl
  have headerCheck : get buffer 5 = .ok check := get_eq (by simp [← complete])
  have first : get buffer 1 = .ok high := get_eq (by simp [← complete])
  have second : get buffer 2 = .ok low := get_eq (by simp [← complete])
  have third : get buffer 3 = .ok extra := get_eq (by simp [← complete])
  rw [checkedHeader, size, if_neg (by omega), header, ok_bind, Crc8.checkedChecksum_eq, ok_bind,
    headerCheck, ok_bind]
  split
  · rw [first, ok_bind, second, ok_bind, third, ok_bind, add_eq (by omega), ok_bind,
      add_eq (by omega), ok_bind, add_eq (by omega), ok_bind]
    have missing : rest.length + 6 < 6 + (Bytes.word high low).toNat + extra.toNat + 1 ↔
        rest.length ≤ (Bytes.word high low).toNat + extra.toNat := by omega
    simp only [missing]
  · rfl

theorem checkedDecode_eq (buffer : Bytes) : checkedDecode buffer = .ok (decode buffer) := by
  match buffer with
  | [] => rfl
  | lead :: rest =>
      have first : get (lead :: rest) 0 = .ok lead := rfl
      rw [checkedDecode, List.isEmpty_cons, if_neg Bool.false_ne_true, first, ok_bind]
      by_cases begins : lead = sync
      · subst begins
        rw [if_pos rfl]
        match rest with
        | [] | [_] | [_, _] | [_, _, _] | [_, _, _, _] => rfl
        | high :: low :: extra :: kind :: check :: rest =>
            rw [checkedHeader_eq]
            by_cases sound : Crc8.checksum [high, low, extra, kind] = check
            · subst sound
              rw [if_pos rfl]
              rcases field_cases ((Bytes.word high low).toNat + extra.toNat) rest with missing |
                ⟨body, check, behind, whole, rfl⟩
              · rw [if_pos missing, (Reading.short missing kind).decode_eq]
              · rw [if_neg (by simp; omega)]
                exact checkedBody_eq whole kind check behind
            · rw [if_neg sound, (Reading.spoiltHeader sound rest).decode_eq]
      · rw [if_neg begins, (Reading.stray begins rest).decode_eq, List.length_cons]

end Packet

end RadioGateway.EnOcean
