import RadioGateway.Proofs.EnOcean.Framing
import RadioGateway.Proofs.ZWave.Framing

/-!
# Streams in pieces

A stream reaches its decoder in pieces of any size. How it was cut does not matter for what is decoded
before the first spoiled record, nor for whether there is one; how much a spoiled record takes along
does depend on it.
-/

namespace RadioGateway.Link

variable {φ : Type}

def Decoding.isCorrupt : Decoding φ → Bool
  | corrupt _ => true
  | _ => false

/-- Whether two readings of a stream, each with the decodings and the undecoded rest, agree up to the
first spoiled record. -/
structure Agree (left right : List (Decoding φ) × Bytes) : Prop where
  before : left.1.takeWhile (!·.isCorrupt) = right.1.takeWhile (!·.isCorrupt)
  spoilt : left.1.any (·.isCorrupt) = right.1.any (·.isCorrupt)
  rest : left.1.any (·.isCorrupt) = false → left.2 = right.2

namespace Agree

variable {left right other : List (Decoding φ) × Bytes}

theorem refl (reading : List (Decoding φ) × Bytes) : Agree reading reading := ⟨rfl, rfl, fun _ => rfl⟩

theorem symm (agree : Agree left right) : Agree right left := by
  refine ⟨agree.before.symm, agree.spoilt.symm, fun sound => (agree.rest ?_).symm⟩
  rw [agree.spoilt]
  exact sound

theorem trans (first : Agree left right) (second : Agree right other) : Agree left other := by
  refine ⟨first.before.trans second.before, first.spoilt.trans second.spoilt, fun sound => ?_⟩
  have same := first.rest sound
  rw [first.spoilt] at sound
  exact same.trans (second.rest sound)

theorem after (decodings : List (Decoding φ)) (agree : Agree left right) :
    Agree (decodings ++ left.1, left.2) (decodings ++ right.1, right.2) := by
  constructor
  · simp only [List.takeWhile_append, agree.before]
  · simp only [List.any_append, agree.spoilt]
  · intro sound
    rw [List.any_append, Bool.or_eq_false_iff] at sound
    exact agree.rest sound.2

/-- Readings that begin with a spoiled record agree whatever comes later. -/
theorem of_corrupt (length longer : Nat) (decodings others : List (Decoding φ)) (rest more : Bytes) :
    Agree (.corrupt length :: decodings, rest) (.corrupt longer :: others, more) := by
  constructor
  · rfl
  · rfl
  · intro sound
    cases sound

end Agree

namespace Steadfast

variable {decode : Bytes → Decoding φ}

theorem decode_drain_rest (steadfast : Steadfast decode) (buffer : Bytes) :
    decode (drain decode buffer).2 = .needMore := by
  rcases drain_rest decode buffer with empty | stuck
  · rw [empty]
    exact steadfast.incremental.decode_nil
  · exact steadfast.incremental.stuck _ stuck

/-- Draining a beginning first and the whole afterwards is as good as draining the whole at once. -/
theorem agree_drain_append (steadfast : Steadfast decode) (front back : Bytes) :
    Agree (drain decode (front ++ back))
      ((drain decode front).1 ++ (drain decode ((drain decode front).2 ++ back)).1,
        (drain decode ((drain decode front).2 ++ back)).2) := by
  fun_induction drain decode front with
  | case1 front progress later ih =>
      cases steadfast front back with
      | asks needMore =>
          rw [needMore] at progress
          exact absurd progress.1 (Nat.lt_irrefl 0)
      | spoils nonempty here there =>
          have decided : decode (front ++ back) ≠ .needMore := by
            rw [there]
            intro needMore
            cases needMore
          rw [steadfast.incremental.drain_of_ne decided, there, here]
          exact .of_corrupt ..
      | decides complete some within same =>
          have decided : decode (front ++ back) ≠ .needMore := by
            rw [same]
            intro needMore
            rw [needMore] at complete
            exact complete
          rw [steadfast.incremental.drain_of_ne decided, same, List.drop_append_of_le_length within]
          exact ih.after [decode front]
  | case2 front stuck => exact .refl _

theorem agree_feed (steadfast : Steadfast decode) {buffer : Bytes}
    (waiting : decode buffer = .needMore) (pieces : List Bytes) :
    Agree (feed decode buffer pieces) (drain decode (buffer ++ pieces.flatten)) := by
  induction pieces generalizing buffer with
  | nil =>
      rw [List.flatten_nil, List.append_nil, Incremental.drain_of_needMore waiting]
      exact .refl _
  | cons piece pieces ih =>
      have later := ih (steadfast.decode_drain_rest (buffer ++ piece))
      rw [feed_cons, List.flatten_cons, ← List.append_assoc]
      exact (later.after _).trans (steadfast.agree_drain_append _ _).symm

theorem agree_feed_feed (steadfast : Steadfast decode) {pieces others : List Bytes}
    (same : pieces.flatten = others.flatten) :
    Agree (feed decode [] pieces) (feed decode [] others) := by
  have whole := steadfast.agree_feed steadfast.incremental.decode_nil pieces
  rw [same] at whole
  exact whole.trans (steadfast.agree_feed steadfast.incremental.decode_nil others).symm

end Steadfast

/-- However a stream is cut into pieces, both decoders decode the same before the first spoiled
record, meet one or not, and leave the same rest if they do not. -/
theorem cuts_do_not_matter (pieces others : List Bytes) (same : pieces.flatten = others.flatten) :
    Agree (feed ZWave.Frame.decode [] pieces) (feed ZWave.Frame.decode [] others) ∧
      Agree (feed EnOcean.Packet.decode [] pieces) (feed EnOcean.Packet.decode [] others) :=
  ⟨ZWave.Frame.steadfast_decode.agree_feed_feed same,
    EnOcean.Packet.steadfast_decode.agree_feed_feed same⟩

/-- The second symbol is decoded only if the piece with the spoiled record ends before it. -/
theorem cuts_of_spoiled_record :
    [[0x06, 0x01, 0x03, 0x00, 0x02, 0x00, 0x06]].flatten =
        [[0x06, 0x01, 0x03], [0x00, 0x02, 0x00], ([0x06] : Bytes)].flatten ∧
      feed ZWave.Frame.decode [] [[0x06, 0x01, 0x03, 0x00, 0x02, 0x00, 0x06]] =
        ([.symbol .ack, .corrupt 6], []) ∧
      feed ZWave.Frame.decode [] [[0x06, 0x01, 0x03], [0x00, 0x02, 0x00], [0x06]] =
        ([.symbol .ack, .corrupt 5, .symbol .ack], []) ∧
      Agree (feed ZWave.Frame.decode [] [[0x06, 0x01, 0x03, 0x00, 0x02, 0x00, 0x06]])
        (feed ZWave.Frame.decode [] [[0x06, 0x01, 0x03], [0x00, 0x02, 0x00], [0x06]]) ∧
      Agree (feed EnOcean.Packet.decode [] [[0x06, 0x01, 0x03, 0x00, 0x02, 0x00, 0x06]])
        (feed EnOcean.Packet.decode [] [[0x06, 0x01, 0x03], [0x00, 0x02, 0x00], [0x06]]) := by
  have agree := cuts_do_not_matter [[0x06, 0x01, 0x03, 0x00, 0x02, 0x00, 0x06]]
    [[0x06, 0x01, 0x03], [0x00, 0x02, 0x00], [0x06]] rfl
  exact ⟨rfl, by decide +kernel, by decide +kernel, agree⟩

end RadioGateway.Link
