import RadioGateway.EnOcean.Crc8
import RadioGateway.Link.Decoding
import RadioGateway.Link.Failure

/-!
# Packets of the EnOcean serial interface

A packet is a synchronisation byte, a header of four bytes with its check value, and a body of data
and optional data with its check value. The header holds the lengths of both parts of the body and
the kind of the packet. Anything wrong spoils the whole receive buffer.
-/

namespace RadioGateway.EnOcean

open RadioGateway.Link

structure Packet where
  kind : Byte
  data : Bytes
  extra : Bytes := []
  deriving DecidableEq, Repr

namespace Packet

def sync : Byte := 0x55

def maxData : Nat := 65535

def maxExtra : Nat := 255

def header (packet : Packet) : Bytes :=
  [.ofNat (packet.data.length / 256), .ofNat packet.data.length, .ofNat packet.extra.length,
    packet.kind]

def body (packet : Packet) : Bytes := packet.data ++ packet.extra

/-- The wire form of a packet, if both parts of its body fit. -/
def encode (packet : Packet) : Except Oversized Bytes :=
  if maxData < packet.data.length then .error ⟨packet.data.length, maxData⟩
  else if maxExtra < packet.extra.length then .error ⟨packet.extra.length, maxExtra⟩
  else .ok (sync :: packet.header ++ Crc8.checksum packet.header ::
    packet.body ++ [Crc8.checksum packet.body])

/-- Decodes the body of a packet in a buffer of `total` bytes. -/
def decodeBody (total dataLength extraLength : Nat) (kind : Byte) (rest : Bytes) : Decoding Packet :=
  match rest.drop (dataLength + extraLength) with
  | [] => .needMore
  | check :: _ =>
      let body := rest.take (dataLength + extraLength)
      if Crc8.checksum body = check then
        .frame ⟨kind, body.take dataLength, body.drop dataLength⟩ (dataLength + extraLength + 7)
      else .corrupt total

def decode (buffer : Bytes) : Decoding Packet :=
  match buffer with
  | [] => .needMore
  | lead :: rest =>
      if lead ≠ sync then .corrupt buffer.length
      else
        match rest with
        | high :: low :: extra :: kind :: check :: rest =>
            if Crc8.checksum [high, low, extra, kind] = check then
              decodeBody buffer.length (Bytes.word high low).toNat extra.toNat kind rest
            else .corrupt buffer.length
        | _ => .needMore

theorem length_encode {packet : Packet} {bytes : Bytes} (encoded : packet.encode = .ok bytes) :
    bytes.length = packet.data.length + packet.extra.length + 7 := by
  unfold encode at encoded
  split at encoded
  · cases encoded
  · split at encoded
    · cases encoded
    · cases encoded
      simp [header, body]
      omega

theorem decodeBody_append (total : Nat) (kind : Byte) (data extra rest : Bytes) :
    decodeBody total data.length extra.length kind
        (data ++ (extra ++ Crc8.checksum (data ++ extra) :: rest)) =
      .frame ⟨kind, data, extra⟩ (data.length + extra.length + 7) := by
  unfold decodeBody
  rw [← List.append_assoc, ← List.length_append, List.drop_left, List.take_left]
  simp

/-- A packet reads back from its wire form, whatever follows. -/
theorem decode_encode {packet : Packet} {bytes : Bytes} (encoded : packet.encode = .ok bytes)
    (rest : Bytes) : decode (bytes ++ rest) = .frame packet bytes.length := by
  have length := length_encode encoded
  unfold encode at encoded
  split at encoded
  · cases encoded
  · split at encoded
    · cases encoded
    · rename_i dataFits extraFits
      cases encoded
      obtain ⟨kind, data, extra⟩ := packet
      simp only [maxData, maxExtra, Nat.not_lt] at dataFits extraFits
      have dataSize : (Bytes.word (.ofNat (data.length / 256)) (.ofNat data.length)).toNat =
          data.length := by
        rw [Bytes.toNat_word, UInt8.toNat_ofNat', UInt8.toNat_ofNat']
        omega
      have extraSize : (UInt8.ofNat extra.length).toNat = extra.length := by
        rw [UInt8.toNat_ofNat']
        omega
      rw [length]
      simp [decode, header, body, sync, dataSize, extraSize, decodeBody_append]

end Packet

end RadioGateway.EnOcean
