import RadioGateway.Bytes

/-!
# Decoding a receive buffer

A decoder looks at the front of a buffer and says what stands there and how many bytes it takes.
Draining a buffer repeats this until the decoder takes nothing; feeding pieces drains after each of
them.
-/

namespace RadioGateway.Link

/-- One-byte symbols that travel outside of frames. -/
inductive Symbol where
  | ack
  | nack
  | cancel
  deriving DecidableEq, Repr

/-- What stands at the front of a receive buffer. -/
inductive Decoding (φ : Type) where
  /-- A proper beginning of a record. -/
  | needMore
  /-- Bytes that begin no record. -/
  | discard (length : Nat)
  /-- A record with a wrong check value or an impossible length. -/
  | corrupt (length : Nat)
  /-- A valid record of an unknown kind. -/
  | unsupported (length : Nat)
  | symbol (symbol : Symbol)
  | frame (frame : φ) (length : Nat)
  deriving DecidableEq, Repr

namespace Decoding

variable {φ : Type}

def consumed : Decoding φ → Nat
  | needMore => 0
  | discard length => length
  | corrupt length => length
  | unsupported length => length
  | symbol _ => 1
  | frame _ length => length

end Decoding

variable {φ : Type}

/-- Decodes and drops from the front of the buffer until the decoder takes nothing, and gives the
decodings with the rest of the buffer. -/
def drain (decode : Bytes → Decoding φ) (buffer : Bytes) : List (Decoding φ) × Bytes :=
  if 0 < (decode buffer).consumed ∧ buffer ≠ [] then
    let later := drain decode (buffer.drop (decode buffer).consumed)
    (decode buffer :: later.1, later.2)
  else ([], buffer)
termination_by buffer.length
decreasing_by
  rename_i progress
  have := List.length_pos_iff.2 progress.2
  have := progress.1
  simp only [List.length_drop]
  omega

/-- Feeds the pieces of a stream one after the other to a buffer, draining it after each. -/
def feed (decode : Bytes → Decoding φ) (buffer : Bytes) : List Bytes → List (Decoding φ) × Bytes
  | [] => ([], buffer)
  | piece :: pieces =>
      let (decodings, rest) := drain decode (buffer ++ piece)
      let (later, rest) := feed decode rest pieces
      (decodings ++ later, rest)

/-- The pieces of `size` bytes of a stream, the last one possibly shorter; a size of zero counts as
one. -/
def pieces (size : Nat) (stream : Bytes) : List Bytes :=
  if stream = [] then []
  else stream.take (max size 1) :: pieces size (stream.drop (max size 1))
termination_by stream.length
decreasing_by
  rename_i nonempty
  have := List.length_pos_iff.2 nonempty
  simp only [List.length_drop]
  omega

theorem flatten_pieces (size : Nat) (stream : Bytes) : (pieces size stream).flatten = stream := by
  fun_induction pieces size stream with
  | case1 => rfl
  | case2 stream _ ih => simp [ih]

/-- A rest that stays after draining gives the decoder nothing to take. -/
theorem drain_rest (decode : Bytes → Decoding φ) (buffer : Bytes) :
    (drain decode buffer).2 = [] ∨ (decode (drain decode buffer).2).consumed = 0 := by
  fun_induction drain decode buffer with
  | case1 buffer progress later ih => exact ih
  | case2 buffer stuck =>
      by_cases empty : buffer = []
      · exact .inl empty
      · exact .inr (Nat.eq_zero_of_not_pos fun positive => stuck ⟨positive, empty⟩)

end RadioGateway.Link
