import RadioGateway.Proofs.Link.Pieces

/-!
# Rounds over a receive buffer

A link reads its receive buffer in rounds. Each round decodes the front of the buffer, acts on the
decoding and drops the bytes that it took; only a decoder that asks for more ends them. Nothing else
does: a decoder that takes nothing without asking for more would keep the loop going for ever, and
one that takes more than there is would leave nothing to drop. A steadfast decoder does neither, so
the rounds come to an end, and they are those that draining the buffer goes through.
-/

namespace RadioGateway.Link

variable {σ φ : Type}

/-- The rounds of a state over a buffer, each with the bytes that it dropped and what they were
decoded to, up to the last state and the bytes that are left. -/
inductive Rounds (decode : Bytes → Decoding φ) (act : σ → Decoding φ → σ) :
    σ → Bytes → List (Bytes × Decoding φ) → σ → Bytes → Prop where
  | done {state : σ} {buffer : Bytes} (asks : decode buffer = .needMore) :
      Rounds decode act state buffer [] state buffer
  | round {state last : σ} {taken behind rest : Bytes} {later : List (Bytes × Decoding φ)}
      (decided : decode (taken ++ behind) ≠ .needMore)
      (dropped : (decode (taken ++ behind)).consumed = taken.length)
      (rounds : Rounds decode act (act state (decode (taken ++ behind))) behind later last rest) :
      Rounds decode act state (taken ++ behind) ((taken, decode (taken ++ behind)) :: later) last rest

namespace Rounds

variable {decode : Bytes → Decoding φ} {act : σ → Decoding φ → σ} {state last : σ}
  {buffer rest : Bytes} {rounds : List (Bytes × Decoding φ)}

/-- No byte is dropped twice, passed over or moved. -/
theorem flatten_append (ended : Rounds decode act state buffer rounds last rest) :
    (rounds.map Prod.fst).flatten ++ rest = buffer := by
  induction ended with
  | done asks => rfl
  | round decided dropped rounds ih => rw [List.map_cons, List.flatten_cons, List.append_assoc, ih]

theorem asks (ended : Rounds decode act state buffer rounds last rest) :
    decode rest = .needMore := by
  induction ended with
  | done asks => exact asks
  | round decided dropped rounds ih => exact ih

theorem length_eq (ended : Rounds decode act state buffer rounds last rest) :
    ∀ round ∈ rounds, round.1.length = round.2.consumed := by
  induction ended with
  | done asks => exact fun _ none => absurd none List.not_mem_nil
  | round decided dropped rounds ih => exact List.forall_mem_cons.mpr ⟨dropped.symm, ih⟩

/-- Rounds over a buffer go the way that draining it goes. -/
theorem eq_drain (steadfast : Steadfast decode)
    (ended : Rounds decode act state buffer rounds last rest) :
    rounds.map Prod.snd = (drain decode buffer).1 ∧
      last = (drain decode buffer).1.foldl act state ∧ rest = (drain decode buffer).2 := by
  induction ended with
  | done asks =>
      rw [Incremental.drain_of_needMore asks]
      exact ⟨rfl, rfl, rfl⟩
  | round decided dropped rounds ih =>
      rw [steadfast.incremental.drain_of_ne decided, dropped, List.drop_left]
      exact ⟨congrArg (_ :: ·) ih.1, ih.2⟩

/-- Every round drops a byte, so that there are at most as many rounds as bytes. -/
theorem length_le (steadfast : Steadfast decode)
    (ended : Rounds decode act state buffer rounds last rest) :
    rounds.length ≤ buffer.length := by
  induction ended with
  | done asks => exact Nat.zero_le _
  | round decided dropped rounds ih =>
      have some := steadfast.incremental.consumed_pos_of_ne decided
      rw [List.length_cons, List.length_append]
      omega

end Rounds

theorem Steadfast.exists_rounds {decode : Bytes → Decoding φ} (steadfast : Steadfast decode)
    (act : σ → Decoding φ → σ) (state : σ) (buffer : Bytes) :
    ∃ rounds last rest, Rounds decode act state buffer rounds last rest := by
  -- Whatever is done with the state, every round shortens the buffer.
  induction length : buffer.length using Nat.strongRecOn generalizing state buffer with
  | ind count ih =>
      by_cases asks : decode buffer = .needMore
      · exact ⟨_, _, _, .done asks⟩
      · have some := steadfast.incremental.consumed_pos_of_ne asks
        have within := steadfast.incremental.bounded buffer
        obtain ⟨taken, behind, rfl, dropped⟩ : ∃ taken behind, buffer = taken ++ behind ∧
            (decode buffer).consumed = taken.length :=
          ⟨buffer.take (decode buffer).consumed, buffer.drop (decode buffer).consumed,
            (List.take_append_drop ..).symm, by rw [List.length_take, Nat.min_eq_left within]⟩
        have shorter : behind.length < count := by
          rw [List.length_append] at length
          omega
        obtain ⟨later, last, rest, rounds⟩ :=
          ih behind.length shorter (act state (decode (taken ++ behind))) behind rfl
        exact ⟨_, last, rest, .round asks dropped rounds⟩

/-- Whether the rounds of a state over a buffer come to an end. However they do, there are at most as
many rounds as bytes, each one drops what its decoding takes, the dropped bytes and those that are
left are the bytes of the buffer in their order, and something holds of the last state and of what is
left. -/
structure Finishes (decode : Bytes → Decoding φ) (act : σ → Decoding φ → σ) (state : σ)
    (buffer : Bytes) (Leaves : σ → Bytes → Prop) : Prop where
  ends : ∃ rounds last rest, Rounds decode act state buffer rounds last rest
  few : ∀ rounds last rest, Rounds decode act state buffer rounds last rest →
    rounds.length ≤ buffer.length
  drops : ∀ rounds last rest, Rounds decode act state buffer rounds last rest →
    ∀ round ∈ rounds, round.1.length = round.2.consumed
  keeps : ∀ rounds last rest, Rounds decode act state buffer rounds last rest →
    (rounds.map Prod.fst).flatten ++ rest = buffer
  leaves : ∀ rounds last rest, Rounds decode act state buffer rounds last rest → Leaves last rest

/-- A steadfast decoder finishes with what draining the buffer gives, and asks for more there. -/
theorem Steadfast.finishes {decode : Bytes → Decoding φ} (steadfast : Steadfast decode)
    {act : σ → Decoding φ → σ} {state : σ} {buffer : Bytes} {Leaves : σ → Bytes → Prop}
    (leaves : decode (drain decode buffer).2 = .needMore →
      Leaves ((drain decode buffer).1.foldl act state) (drain decode buffer).2) :
    Finishes decode act state buffer Leaves where
  ends := steadfast.exists_rounds act state buffer
  few _ _ _ ended := ended.length_le steadfast
  drops _ _ _ ended := ended.length_eq
  keeps _ _ _ ended := ended.flatten_append
  leaves _ _ _ ended := by
    obtain ⟨-, rfl, rfl⟩ := ended.eq_drain steadfast
    exact leaves ended.asks

end RadioGateway.Link
