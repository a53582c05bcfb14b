import RadioGateway.Link.Backlog
import RadioGateway.Proofs.Checked.Machine
import RadioGateway.Proofs.Link.Incremental

/-!
# Checked links

What both links have in common: they take records from the front of a buffer for as long as there
are any, and they count the failed transmissions of the head of their line. The count stays below
the number of transmissions, so that it always fits its word.
-/

namespace RadioGateway.Link

open Checked

section Consuming

variable {σ φ : Type}

/-- Decodes the front of the buffer, acts on it and takes it from the buffer, until the decoder
takes nothing. -/
def consume (decode : Bytes → Checked (Decoding φ)) (act : σ → Decoding φ → Checked σ) (state : σ)
    (buffer : Bytes) : Checked (σ × Bytes) :=
  match decode buffer with
  | .error panic => .error panic
  | .ok decoding =>
      if 0 < decoding.consumed ∧ buffer ≠ [] then
        match act state decoding with
        | .error panic => .error panic
        | .ok state =>
            if decoding.consumed ≤ buffer.length then
              consume decode act state (buffer.drop decoding.consumed)
            else .error (.piece 0 decoding.consumed buffer.length)
      else .ok (state, buffer)
termination_by buffer.length
decreasing_by
  rename_i progress _
  have := List.length_pos_iff.2 progress.2
  have := progress.1
  simp only [List.length_drop]
  omega

/-- If neither the decoder stops nor what is done with a record, then to consume a buffer is to
drain it and to act on its records. -/
theorem consume_eq {decode : Bytes → Checked (Decoding φ)} {plain : Bytes → Decoding φ}
    (decodes : ∀ buffer, decode buffer = .ok (plain buffer))
    (bounded : ∀ buffer, (plain buffer).consumed ≤ buffer.length)
    (Holds : σ → Prop) {act : σ → Decoding φ → Checked σ} {react : σ → Decoding φ → σ}
    (round : ∀ state decoding, Holds state →
      act state decoding = .ok (react state decoding) ∧ Holds (react state decoding))
    {state : σ} (holds : Holds state) (buffer : Bytes) :
    consume decode act state buffer =
        .ok ((drain plain buffer).1.foldl react state, (drain plain buffer).2) ∧
      Holds ((drain plain buffer).1.foldl react state) := by
  fun_induction drain plain buffer generalizing state with
  | case1 buffer progress later =>
      rename_i ih
      obtain ⟨agrees, kept⟩ := round state (plain buffer) holds
      rw [consume, decodes]
      simp only [if_pos progress, agrees, if_pos (bounded buffer)]
      exact ih kept
  | case2 buffer done =>
      rw [consume, decodes]
      simp only [if_neg done]
      exact ⟨rfl, holds⟩

end Consuming

namespace Backlog

variable {ρ : Type} {backlog : Backlog ρ}

/-- Whether the head has transmissions left. -/
def Spare (backlog : Backlog ρ) : Prop := backlog.failures < maxTransmissions

theorem spare_empty : ({} : Backlog ρ).Spare := (by decide : 0 < maxTransmissions)

theorem Spare.enqueue (spare : backlog.Spare) (request : ρ) : (backlog.enqueue request).Spare :=
  spare

theorem spare_forgive (backlog : Backlog ρ) : backlog.forgive.Spare :=
  (by decide : 0 < maxTransmissions)

theorem spare_dequeue (backlog : Backlog ρ) : backlog.dequeue.Spare :=
  (by decide : 0 < maxTransmissions)

/-- One more failure can be counted in a word of 32 bits. -/
theorem Spare.counts (spare : backlog.Spare) :
    add 32 backlog.failures 1 = .ok (backlog.failures + 1) := by
  have few : backlog.failures < 3 := spare
  exact add_eq (by omega)

def checkedRecordFailure (backlog : Backlog ρ) : Checked (Verdict ρ × Backlog ρ) :=
  match backlog.requests with
  | [] => .ok (.none, backlog)
  | head :: _ => do
      let failures ← add 32 backlog.failures 1
      if failures < maxTransmissions then .ok (.again, { backlog with failures })
      else .ok (.exhausted head, backlog.dequeue)

theorem checkedRecordFailure_eq (spare : backlog.Spare) :
    backlog.checkedRecordFailure = .ok backlog.recordFailure ∧ backlog.recordFailure.2.Spare := by
  unfold checkedRecordFailure recordFailure
  cases backlog.requests with
  | nil => exact ⟨rfl, spare⟩
  | cons head rest =>
      simp only [spare.counts]
      by_cases again : backlog.failures + 1 < maxTransmissions
      · simp only [if_pos again]
        exact ⟨if_pos again, again⟩
      · simp only [if_neg again]
        exact ⟨if_neg again, spare_dequeue backlog⟩

end Backlog

end RadioGateway.Link
