import RadioGateway.Proofs.Checked.Link
import RadioGateway.Proofs.ZWave.Framing

/-!
# Checked frames

The decoder of the serial interface, with every byte of the buffer looked up by its place. The
length that a record claims is compared with what is there before anything behind it is touched.
-/

namespace RadioGateway.ZWave.Frame

open RadioGateway.Link Checked

def checkedRecord (buffer : Bytes) (total : Nat) : Checked (Decoding Frame) := do
  let last ← subtract total 1
  let covered ← slice buffer 1 last
  let check ← get buffer last
  if checksum covered = check then
    let kind ← get buffer 2
    match FrameKind.ofByte? kind with
    | some kind =>
        let function ← get buffer 3
        let payload ← slice buffer 4 last
        .ok (.frame ⟨kind, function, payload⟩ total)
    | none => .ok (.unsupported total)
  else .ok (.corrupt buffer.length)

def checkedDecode (buffer : Bytes) : Checked (Decoding Frame) :=
  match buffer.head? with
  | none => .ok .needMore
  | some lead =>
      if lead = symbolByte .ack then .ok (.symbol .ack)
      else if lead = symbolByte .nack then .ok (.symbol .nack)
      else if lead = symbolByte .cancel then .ok (.symbol .cancel)
      else if lead = start then
        if buffer.length < 2 then .ok .needMore
        else do
          let length ← get buffer 1
          if length < 3 then .ok (.corrupt buffer.length)
          else
            let total ← add 32 length.toNat 2
            if buffer.length < total then .ok .needMore else checkedRecord buffer total
      else .ok (.discard 1)

def checkedEncode (frame : Frame) : Checked (Except Oversized Bytes) :=
  if maxPayload < frame.payload.length then
    .ok (.error ⟨frame.payload.length, maxPayload⟩)
  else do
    let _ ← add 32 frame.payload.length 5
    let size ← add 32 frame.payload.length 3
    let front := start :: .ofNat size :: frame.kind.byte :: frame.function :: frame.payload
    let covered ← slice front 1 front.length
    .ok (.ok (front ++ [checksum covered]))

theorem checkedEncode_eq (frame : Frame) : frame.checkedEncode = .ok frame.encode := by
  unfold checkedEncode encode
  split
  · rfl
  · rename_i fits
    simp only [maxPayload, Nat.not_lt] at fits
    have covered : slice (start :: .ofNat (frame.payload.length + 3) :: frame.kind.byte ::
        frame.function :: frame.payload) 1 (start :: .ofNat (frame.payload.length + 3) ::
          frame.kind.byte :: frame.function :: frame.payload).length = .ok frame.body := by
      rw [slice_eq (by simp) (Nat.le_refl _), List.take_length]
      rfl
    rw [add_eq (by omega), add_eq (by omega), ok_bind, ok_bind]
    dsimp only
    rw [covered]
    rfl

/-- A record that is all there is looked up in bounds. -/
theorem checkedRecord_eq {length : Byte} {payload : Bytes}
    (counted : length.toNat = payload.length + 3) (kind function check : Byte) (rest : Bytes) :
    checkedRecord (start :: length :: kind :: function :: (payload ++ check :: rest))
        (length.toNat + 2) =
      .ok (decode (start :: length :: kind :: function :: (payload ++ check :: rest))) := by
  rw [decode_start, decodeRecord_whole counted, counted]
  generalize whole : start :: length :: kind :: function :: (payload ++ check :: rest) = buffer
  have covered : slice buffer 1 (payload.length + 4) =
      .ok (length :: kind :: function :: payload) := by
    rw [← whole]
    exact slice_append [start] (length :: kind :: function :: payload) (check :: rest) rfl
      (by simp; omega)
  have content : slice buffer 4 (payload.length + 4) = .ok payload := by
    rw [← whole]
    exact slice_append [start, length, kind, function] payload (check :: rest) rfl
      (by simp; omega)
  have last : get buffer (payload.length + 4) = .ok check := by
    rw [← whole]
    exact get_append (start :: length :: kind :: function :: payload) check rest rfl
  have known : get buffer 2 = .ok kind := get_eq (by simp [← whole])
  have named : get buffer 3 = .ok function := get_eq (by simp [← whole])
  have size : buffer.length =
      (length :: kind :: function :: (payload ++ check :: rest)).length + 1 := by simp [← whole]
  rw [checkedRecord, subtract_eq (by omega)]
  simp only [ok_bind, Nat.reduceSubDiff, covered, last, known, named, content, size]
  split
  · cases FrameKind.ofByte? kind <;> rfl
  · rfl

/-- A record of which only the length has arrived. -/
example : checkedRecord [0x01, 0x03] 5 = .error (.piece 1 4 2) := rfl

theorem checkedDecode_start (length : Byte) (rest : Bytes) :
    checkedDecode (start :: length :: rest) =
      if length < 3 then .ok (.corrupt (rest.length + 2))
      else if rest.length < length.toNat then .ok .needMore
      else checkedRecord (start :: length :: rest) (length.toNat + 2) := by
  have counted : get (start :: length :: rest) 1 = .ok length := rfl
  have total : add 32 length.toNat 2 = .ok (length.toNat + 2) :=
    add_eq (by have := length.toNat_lt; omega)
  have size : (start :: length :: rest).length = rest.length + 2 := rfl
  rw [checkedDecode, List.head?_cons]
  dsimp only
  rw [if_neg (by decide), if_neg (by decide), if_neg (by decide), if_pos rfl, size,
    if_neg (by omega), counted, ok_bind, total, ok_bind]
  simp only [Nat.add_lt_add_iff_right]

theorem checkedDecode_eq (buffer : Bytes) : checkedDecode buffer = .ok (decode buffer) := by
  match buffer with
  | [] => rfl
  | lead :: rest =>
      by_cases begins : lead = start
      · subst begins
        match rest with
        | [] => rfl
        | length :: rest =>
            rw [checkedDecode_start]
            by_cases small : length < 3
            · rw [if_pos small, (Reading.tiny ((lt_three_iff length).mp small) rest).decode_eq]
            · have large := Nat.not_lt.mp (mt (lt_three_iff length).mpr small)
              rw [if_neg small]
              rcases record_cases large rest with missing |
                ⟨kind, function, payload, check, behind, counted, rfl⟩
              · rw [if_pos missing, (Reading.short large missing).decode_eq]
              · rw [if_neg (by simp; omega)]
                exact checkedRecord_eq counted kind function check behind
      · simp only [checkedDecode, decode, List.head?_cons, begins, if_false]
        split
        · rfl
        · split
          · rfl
          · split <;> rfl

end RadioGateway.ZWave.Frame
