import RadioGateway.Proofs.EnOcean.Framing
import RadioGateway.Proofs.EnOcean.Remainder

/-!
# Disturbed packets

A burst flips bits of a packet on its way that lie within eight places, the most significant bit of
a byte coming first. Wherever it strikes, the decoder refuses what arrives: another first byte is no
packet, and the check values of header and body notice the rest. In particular they notice every
change of a single byte.
-/

namespace RadioGateway.EnOcean

open RadioGateway.Link

namespace Crc8

/-- The bits that a burst flips: at least one, and all within eight places. -/
structure Burst (pattern : Bytes) : Prop where
  nonzero : ∃ byte ∈ pattern, byte ≠ 0
  confined : Confined (pattern.flatMap bits)

/-- What arrives of a message if the bits of a pattern are flipped. -/
def disturb (message pattern : Bytes) : Bytes := List.zipWith (· ^^^ ·) message pattern

theorem mem_bits (byte : Byte) : true ∈ bits byte ↔ byte ≠ 0 := by
  revert byte
  apply forall_byte
  decide +kernel

/-- No burst is divided without remainder. -/
theorem Burst.checksum_ne_zero {pattern : Bytes} (burst : Burst pattern) :
    checksum pattern ≠ 0 := by
  intro divides
  rw [checksum_eq_bitwise] at divides
  obtain ⟨byte, member, nonzero⟩ := burst.nonzero
  exact foldl_confined burst.confined divides
    (List.mem_flatMap.mpr ⟨byte, member, (mem_bits byte).mpr nonzero⟩)

/-- The part of a burst that strikes a part of a message is one as well, if it flips anything. -/
theorem Burst.part (front back : Bytes) {middle : Bytes}
    (burst : Burst (front ++ middle ++ back)) (nonzero : ∃ byte ∈ middle, byte ≠ 0) :
    Burst middle := by
  refine ⟨nonzero, ?_⟩
  have confined := burst.confined
  rw [List.flatMap_append, List.flatMap_append] at confined
  exact confined.part

/-- A burst on a message and its check value makes them disagree. -/
theorem Burst.checksum_disturb {pattern : Bytes} {last : Byte} (burst : Burst (pattern ++ [last]))
    (message : Bytes) (same : message.length = pattern.length) :
    checksum (disturb message pattern) ≠ checksum message ^^^ last := by
  rw [disturb, checksum_xor same, Ne, UInt8.xor_right_inj, ← checksum_concat_eq_zero_iff]
  exact burst.checksum_ne_zero

/-- A part of a message that no bit of a burst strikes arrives as it is. -/
theorem disturb_clear {message pattern : Bytes} (same : message.length = pattern.length)
    (clear : ∀ byte ∈ pattern, byte = 0) : disturb message pattern = message := by
  induction message generalizing pattern with
  | nil => rfl
  | cons first message ih =>
      cases pattern with
      | nil => cases same
      | cons byte pattern =>
          rw [List.forall_mem_cons] at clear
          have rest := ih (Nat.succ.inj same) clear.2
          rw [disturb, List.zipWith_cons_cons, clear.1, UInt8.xor_zero]
          exact congrArg (first :: ·) rest

theorem disturb_append {front message pattern others : Bytes}
    (same : front.length = pattern.length) :
    disturb (front ++ message) (pattern ++ others) =
      disturb front pattern ++ disturb message others :=
  List.zipWith_append same

theorem length_disturb {message pattern : Bytes} (same : message.length = pattern.length) :
    (disturb message pattern).length = message.length := by
  rw [disturb, List.length_zipWith, same, Nat.min_self]

theorem unset_zeros (count : Nat) : true ∉ (List.replicate count (0 : Byte)).flatMap bits := by
  intro set
  obtain ⟨byte, member, set⟩ := List.mem_flatMap.mp set
  exact (mem_bits byte).mp set (List.mem_replicate.mp member).2

/-- The pattern that strikes one byte between others. -/
def strike (before behind : Nat) (flips : Byte) : Bytes :=
  .replicate before 0 ++ ([flips] ++ .replicate behind 0)

theorem burst_strike (before behind : Nat) {flips : Byte} (nonzero : flips ≠ 0) :
    Burst (strike before behind flips) := by
  refine ⟨⟨flips, by simp [strike], nonzero⟩, ?_⟩
  rw [strike, List.flatMap_append, List.flatMap_append, List.flatMap_singleton,
    ← List.append_assoc]
  exact .of_few (unset_zeros _) (unset_zeros _) (Nat.le_of_eq (length_bits _))

theorem length_strike (before behind : Nat) (flips : Byte) :
    (strike before behind flips).length = before + 1 + behind := by
  simp [strike]
  omega

theorem disturb_strike (front back : Bytes) (byte other : Byte) :
    disturb (front ++ byte :: back) (strike front.length back.length (byte ^^^ other)) =
      front ++ other :: back := by
  have clear : ∀ message : Bytes,
      disturb message (.replicate message.length 0) = message := fun message =>
    disturb_clear List.length_replicate.symm fun _ member => (List.mem_replicate.mp member).2
  have turned : disturb [byte] [byte ^^^ other] = [other] := by
    rw [disturb, List.zipWith_cons_cons, ← UInt8.xor_assoc, UInt8.xor_self, UInt8.zero_xor,
      List.zipWith_nil_left]
  have around : disturb ([byte] ++ back) ([byte ^^^ other] ++ .replicate back.length 0) =
      [other] ++ back := by
    rw [disturb_append (by simp), clear, turned]
  rw [strike, disturb_append List.length_replicate.symm, clear]
  exact congrArg (front ++ ·) around

end Crc8

namespace Packet

open Crc8

/-- The encoding of a packet is its header and a body of the length that this tells, each with its
check value. -/
theorem exists_body_of_encode {packet : Packet} {bytes : Bytes}
    (encoded : packet.encode = .ok bytes) :
    ∃ high low extra kind body, body.length = (Bytes.word high low).toNat + extra.toNat ∧
      bytes = sync :: high :: low :: extra :: kind :: checksum [high, low, extra, kind] ::
        (body ++ [checksum body]) := by
  unfold encode at encoded
  split at encoded
  · cases encoded
  · split at encoded
    · cases encoded
    · rename_i dataFits extraFits
      simp only [maxData, maxExtra, Nat.not_lt] at dataFits extraFits
      cases encoded
      refine ⟨_, _, _, packet.kind, packet.body, ?_, rfl⟩
      rw [Bytes.toNat_word, UInt8.toNat_ofNat', UInt8.toNat_ofNat', UInt8.toNat_ofNat',
        body, List.length_append]
      omega

/-- A burst on the header or on its check value spoils the header. -/
theorem decode_struck_header (high low extra kind : Byte) {first second third fourth check : Byte}
    (struck : Burst ([first, second, third, fourth] ++ [check])) (rest : Bytes) :
    decode (sync :: (high ^^^ first) :: (low ^^^ second) :: (extra ^^^ third) ::
      (kind ^^^ fourth) :: (checksum [high, low, extra, kind] ^^^ check) :: rest) =
        .corrupt (rest.length + 6) := by
  have wrong : checksum [high ^^^ first, low ^^^ second, extra ^^^ third, kind ^^^ fourth] ≠
      checksum [high, low, extra, kind] ^^^ check :=
    struck.checksum_disturb [high, low, extra, kind] rfl
  exact (Reading.spoiltHeader wrong rest).decode_eq

theorem decode_struck_body {high low extra : Byte} {body flips : Bytes} {last : Byte}
    (whole : body.length = (Bytes.word high low).toNat + extra.toNat) (kind : Byte)
    (same : body.length = flips.length) (struck : Burst (flips ++ [last])) :
    decode (sync :: high :: low :: extra :: kind :: checksum [high, low, extra, kind] ::
      (disturb body flips ++ [checksum body ^^^ last])) = .corrupt (body.length + 7) := by
  have length : (disturb body flips).length = (Bytes.word high low).toNat + extra.toNat :=
    (length_disturb same).trans whole
  rw [(Reading.spoiltBody length (struck.checksum_disturb body same) kind []).decode_eq,
    length_disturb same]
  rfl

/-- No burst on the encoding of a packet goes unnoticed. -/
theorem decode_disturb {packet : Packet} {bytes : Bytes} (encoded : packet.encode = .ok bytes)
    {pattern : Bytes} (same : bytes.length = pattern.length) (burst : Burst pattern) :
    decode (disturb bytes pattern) = .corrupt bytes.length := by
  obtain ⟨high, low, extra, kind, body, whole, rfl⟩ := exists_body_of_encode encoded
  match pattern, same with
  | lead :: first :: second :: third :: fourth :: check :: rest, same =>
      obtain ⟨flips, last, rfl⟩ : ∃ flips last, rest = flips ++ [last] := by
        rcases List.eq_nil_or_concat rest with rfl | ⟨flips, last, split⟩
        · simp at same
        · exact ⟨flips, last, split.trans List.concat_eq_append⟩
      have equal : body.length = flips.length := by
        simpa using same
      have behind : disturb (body ++ [checksum body]) (flips ++ [last]) =
          disturb body flips ++ [checksum body ^^^ last] := disturb_append equal
      have arrived : disturb
          (sync :: high :: low :: extra :: kind :: checksum [high, low, extra, kind] ::
            (body ++ [checksum body]))
          (lead :: first :: second :: third :: fourth :: check :: (flips ++ [last])) =
          (sync ^^^ lead) :: (high ^^^ first) :: (low ^^^ second) :: (extra ^^^ third) ::
            (kind ^^^ fourth) :: (checksum [high, low, extra, kind] ^^^ check) ::
            (disturb body flips ++ [checksum body ^^^ last]) := by
        rw [← behind]
        rfl
      have length := length_disturb equal
      rw [arrived]
      -- The first of the three parts that is struck is where the decoder notices.
      by_cases begins : lead = 0
      · subst begins
        rw [UInt8.xor_zero]
        by_cases headed : ∃ byte ∈ [first, second, third, fourth] ++ [check], byte ≠ 0
        · have struck : Burst ([first, second, third, fourth] ++ [check]) :=
            .part [0] (flips ++ [last]) burst headed
          rw [decode_struck_header high low extra kind struck]
          simp [length]
        · have spared : first = 0 ∧ second = 0 ∧ third = 0 ∧ fourth = 0 ∧ check = 0 := by
            simpa using headed
          obtain ⟨rfl, rfl, rfl, rfl, rfl⟩ := spared
          have nonzero : ∃ byte ∈ flips ++ [last], byte ≠ 0 := by
            simpa using burst.nonzero
          have struck : Burst (flips ++ [last]) :=
            .part [0, 0, 0, 0, 0, 0] [] (by simpa using burst) nonzero
          simp only [UInt8.xor_zero]
          rw [decode_struck_body whole kind equal struck]
          simp
      · have other : sync ^^^ lead ≠ sync := by
          intro kept
          apply begins
          rwa [← UInt8.xor_right_inj sync, UInt8.xor_zero]
        rw [(Reading.stray other _).decode_eq]
        simp [length]

theorem decode_change {packet : Packet} {front back : Bytes} {byte other : Byte}
    (encoded : packet.encode = .ok (front ++ byte :: back)) (changed : other ≠ byte) :
    decode (front ++ other :: back) = .corrupt (front ++ byte :: back).length := by
  have nonzero : byte ^^^ other ≠ 0 := fun same => changed (UInt8.xor_eq_zero_iff.mp same).symm
  rw [← disturb_strike front back byte other]
  refine decode_disturb encoded ?_ (burst_strike _ _ nonzero)
  simp [length_strike]
  omega

/-- The decoder refuses an encoded packet if a burst has flipped some of its bits, wherever it
struck, and in particular if any one of its bytes has been changed. -/
theorem bursts_are_refused (packet : Packet) (bytes : Bytes) (encoded : packet.encode = .ok bytes) :
    (∀ pattern, pattern.length = bytes.length → Burst pattern →
      decode (disturb bytes pattern) = .corrupt bytes.length) ∧
    ∀ front byte back other, bytes = front ++ byte :: back → other ≠ byte →
      decode (front ++ other :: back) = .corrupt bytes.length := by
  constructor
  · intro pattern same burst
    exact decode_disturb encoded same.symm burst
  · rintro front byte back other rfl changed
    exact decode_change encoded changed

/-- A burst over the border between header and body, and another check value of the body. -/
theorem bursts_are_refused_at_borders :
    let packet : Packet := ⟨0x02, [0x00, 0xff, 0x80], [0x0a]⟩
    let bytes : Bytes := [0x55, 0x00, 0x03, 0x01, 0x02, 0xa6, 0x00, 0xff, 0x80, 0x0a, 0xab]
    let pattern : Bytes := [0, 0, 0, 0, 0, 0x09, 0x90, 0, 0, 0, 0]
    packet.encode = .ok bytes ∧
      (pattern.length = bytes.length ∧ Burst pattern ∧
        decode (disturb bytes pattern) = .corrupt 11) ∧
      decode [0x55, 0x00, 0x03, 0x01, 0x02, 0xa6, 0x00, 0xff, 0x80, 0x0a, 0xac] = .corrupt 11 := by
  intro packet bytes pattern
  have encoded : packet.encode = .ok bytes := by
    rw [encode_eq (by decide) (by decide)]
    refine congrArg Except.ok (?_ : _ = bytes)
    simp only [checksum_eq]
    decide +kernel
  have split : pattern.flatMap bits = .replicate 44 false ++
      [true, false, false, true, true, false, false, true] ++ .replicate 36 false := by
    decide +kernel
  have burst : Burst pattern := by
    refine ⟨⟨0x09, by decide, by decide⟩, ?_⟩
    rw [split]
    exact .of_few (by decide) (by decide) (by decide)
  obtain ⟨disturbed, changed⟩ := bursts_are_refused packet bytes encoded
  exact ⟨encoded, ⟨rfl, burst, disturbed pattern rfl burst⟩,
    changed [0x55, 0x00, 0x03, 0x01, 0x02, 0xa6, 0x00, 0xff, 0x80, 0x0a] 0xab [] 0xac rfl
      (by decide)⟩

end Packet

end RadioGateway.EnOcean
