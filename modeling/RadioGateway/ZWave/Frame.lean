import RadioGateway.Link.Decoding
import RadioGateway.Link.Failure

/-!
# Frames of the Z-Wave serial interface

A frame starts with a fixed byte and its length, which counts the kind, the function, the payload
and the check byte. The check byte is the exclusive or of everything from the length on. Between
frames stand single symbols.
-/

namespace RadioGateway.ZWave

open RadioGateway.Link

inductive FrameKind where
  | request
  | response
  deriving DecidableEq, Repr

namespace FrameKind

def byte : FrameKind → Byte
  | request => 0
  | response => 1

def ofByte? (value : Byte) : Option FrameKind :=
  if value = 0 then some request else if value = 1 then some response else none

theorem ofByte?_byte (kind : FrameKind) : ofByte? kind.byte = some kind := by
  cases kind <;> rfl

end FrameKind

structure Frame where
  kind : FrameKind
  function : Byte
  payload : Bytes
  deriving DecidableEq, Repr

namespace Frame

def start : Byte := 0x01

def symbolByte : Symbol → Byte
  | .ack => 0x06
  | .nack => 0x15
  | .cancel => 0x18

/-- The longest payload whose length still fits into one byte. -/
def maxPayload : Nat := 252

/-- The check byte of the bytes between the start of a frame and its check byte. -/
def checksum (bytes : Bytes) : Byte := bytes.foldl (· ^^^ ·) 0xff

def body (frame : Frame) : Bytes :=
  .ofNat (frame.payload.length + 3) :: frame.kind.byte :: frame.function :: frame.payload

/-- The wire form of a frame, if its payload fits. -/
def encode (frame : Frame) : Except Oversized Bytes :=
  if maxPayload < frame.payload.length then
    .error ⟨frame.payload.length, maxPayload⟩
  else .ok (start :: frame.body ++ [checksum frame.body])

/-- Decodes the record that follows the start byte in a buffer of `total` bytes. A record with a
wrong check byte, or too short to hold one, spoils the whole buffer. -/
def decodeRecord (total : Nat) : Bytes → Decoding Frame
  | [] => .needMore
  | length :: rest =>
      if length < 3 then .corrupt total
      else
        let size := length.toNat - 1
        match rest.take size, rest.drop size with
        | kind :: function :: payload, check :: _ =>
            if checksum (length :: kind :: function :: payload) = check then
              match FrameKind.ofByte? kind with
              | some kind => .frame ⟨kind, function, payload⟩ (length.toNat + 2)
              | none => .unsupported (length.toNat + 2)
            else .corrupt total
        | _, _ => .needMore

def decode (buffer : Bytes) : Decoding Frame :=
  match buffer with
  | [] => .needMore
  | lead :: rest =>
      if lead = symbolByte .ack then .symbol .ack
      else if lead = symbolByte .nack then .symbol .nack
      else if lead = symbolByte .cancel then .symbol .cancel
      else if lead = start then decodeRecord buffer.length rest
      else .discard 1

theorem length_encode {frame : Frame} {bytes : Bytes} (encoded : frame.encode = .ok bytes) :
    bytes.length = frame.payload.length + 5 := by
  unfold encode at encoded
  split at encoded
  · cases encoded
  · cases encoded
    simp [body]

/-- A frame reads back from its wire form, whatever follows. -/
theorem decode_encode {frame : Frame} {bytes : Bytes} (encoded : frame.encode = .ok bytes)
    (rest : Bytes) : decode (bytes ++ rest) = .frame frame bytes.length := by
  have length := length_encode encoded
  unfold encode at encoded
  split at encoded
  · cases encoded
  · rename_i fits
    cases encoded
    obtain ⟨kind, function, payload⟩ := frame
    simp only [maxPayload, Nat.not_lt] at fits
    have size : (UInt8.ofNat (payload.length + 3)).toNat = payload.length + 3 := by
      rw [UInt8.toNat_ofNat']
      omega
    have large : ¬ UInt8.ofNat (payload.length + 3) < 3 := by
      rw [UInt8.lt_iff_toNat_lt, size]
      simp
    have kinds : FrameKind.ofByte? kind.byte = some kind := FrameKind.ofByte?_byte kind
    simp only [body] at length ⊢
    simp only [decode, decodeRecord, List.cons_append, List.append_assoc, List.nil_append, size,
      Nat.add_one_sub_one, large, if_false, if_true]
    simp [start, symbolByte, kinds]

end Frame

end RadioGateway.ZWave
