import RadioGateway.Proofs.Link.Pieces
import RadioGateway.Proofs.ZWave.Batch
import RadioGateway.Proofs.ZWave.Recognition

/-!
# Noise and foreign frames

Between two records on the line may stand bytes that begin no record, records of an unknown kind,
and frames that belong to no request. The session replies to them and hands frames on. Nothing that
becomes of its requests depends on them.
-/

namespace RadioGateway.Link

variable {φ : Type} {decode : Bytes → Decoding φ}

/-- A stream that ends with its last record, none of which is spoilt, is drained to these records
whatever follows it. -/
theorem Incremental.drain_append (incremental : Incremental decode) {stream : Bytes}
    (whole : (drain decode stream).2 = [])
    (sound : ∀ decoding ∈ (drain decode stream).1, decoding.isCorrupt = false) (rest : Bytes) :
    drain decode (stream ++ rest) =
      ((drain decode stream).1 ++ (drain decode rest).1, (drain decode rest).2) := by
  fun_induction drain decode stream with
  | case1 stream progress later ih =>
      rw [List.forall_mem_cons] at sound
      have complete : (decode stream).Complete := by
        cases decoded : decode stream with
        | needMore =>
            rw [decoded] at progress
            exact absurd progress.1 (Nat.lt_irrefl 0)
        | corrupt length =>
            rw [decoded] at sound
            exact absurd sound.1 Bool.noConfusion
        | discard length | unsupported length | symbol symbol | frame frame length => trivial
      have same := incremental.extend stream rest complete
      have still : (decode (stream ++ rest)).Complete := by
        rw [same]
        exact complete
      rw [incremental.drain_of_complete still, same,
        List.drop_append_of_le_length (incremental.bounded stream), ih whole sound.2]
      rfl
  | case2 stream stuck =>
      rw [show stream = [] from whole]
      rfl

end RadioGateway.Link

namespace RadioGateway.ZWave

open RadioGateway.Link

namespace Frame

/-- Bytes of which none is a symbol or the start of a frame are dropped one by one. -/
theorem spells_noise {noise : Bytes}
    (stray : ∀ byte ∈ noise, byte ∉ ([0x01, 0x06, 0x15, 0x18] : Bytes)) :
    Spells decode (.replicate noise.length (.discard 1)) noise := by
  induction noise with
  | nil => exact .nil
  | cons byte rest ih =>
      rw [List.forall_mem_cons] at stray
      obtain ⟨noRecord, stray⟩ := stray
      simp only [List.mem_cons, List.not_mem_nil, or_false, not_or] at noRecord
      obtain ⟨noStart, noAck, noNack, noCancel⟩ := noRecord
      have noSymbol : ∀ symbol, byte ≠ symbolByte symbol := by
        intro symbol
        cases symbol <;> assumption
      have reads : decode [byte] = .discard 1 := (Reading.stray noSymbol noStart []).decode_eq
      have spells : Spells decode (decode [byte] :: _) ([byte] ++ rest) :=
        .cons (by rw [reads]; trivial) (by rw [reads]; rfl) (ih stray)
      rwa [reads] at spells

theorem spells_unknown {record : Bytes} {kind : Byte} (valid : Valid record)
    (placed : record[2]? = some kind) (strange : FrameKind.ofByte? kind = none) :
    Spells decode [.unsupported record.length] record := by
  obtain ⟨complete, whole⟩ := decode_valid valid
  have reads : decode record = .unsupported record.length := by
    cases valid with
    | @intro length content room counted =>
        obtain ⟨_, function, payload, rfl⟩ := exists_cons_cons_of_two_le room
        cases placed
        have reads := (Reading.unknown counted strange function []).decode_eq
        rw [List.cons_append, List.cons_append, reads]
        simp
  have spells : Spells decode [decode record] (record ++ []) := .cons complete whole .nil
  rwa [reads, List.append_nil] at spells

/-- The bytes of a complete record with a wrong check byte. -/
inductive Spoilt : Bytes → Prop where
  | intro {length check : Byte} {content : Bytes} (room : 2 ≤ content.length)
      (counted : length.toNat = content.length + 1) (wrong : checksum (length :: content) ≠ check) :
      Spoilt (start :: length :: (content ++ [check]))

theorem drain_spoilt {record : Bytes} (spoilt : Spoilt record) :
    drain decode record = ([.corrupt record.length], []) := by
  have reads : decode record = .corrupt record.length := by
    cases spoilt with
    | intro room counted wrong =>
        rw [(Reading.spoilt room counted wrong []).decode_eq]
        simp
  have decided : decode record ≠ .needMore := by simp [reads]
  rw [incremental_decode.drain_of_ne decided, reads, Decoding.consumed, List.drop_length,
    Incremental.drain_of_needMore incremental_decode.decode_nil]

end Frame

namespace Session

section Behind

variable (now : Nat) (session : Session) (output : Bytes) (events : List (Event Request Frame))
  (received : Bytes)

theorem emit_behind (event : Event Request Frame) :
    (session.behind output events received).emit event =
      (session.emit event).behind output events received := by
  simp [behind, emit]

theorem write_behind (bytes : Bytes) :
    (session.behind output events received).write bytes =
      (session.write bytes).behind output events received := by
  simp [behind, write]

theorem retransmit_behind (failure : Failure) :
    (session.behind output events received).retransmit now failure =
      (session.retransmit now failure).behind output events received := by
  have waiting : (session.behind output events received).backlog = session.backlog := rfl
  unfold retransmit
  rw [waiting]
  cases session.backlog.disarm.recordFailure with
  | mk verdict backlog =>
      cases verdict with
      | none => rfl
      | again => exact transmitFrom_behind now { session with backlog } output events received _
      | exhausted request =>
          have failed := emit_behind { session with backlog } output events received
            (.failed request failure)
          exact (congrArg (transmit now) failed).trans
            (transmitFrom_behind now _ output events received _)

theorem complete_behind (event : Event Request Frame) :
    (session.behind output events received).complete now event =
      (session.complete now event).behind output events received := by
  have ended := emit_behind { session with backlog := session.backlog.dequeue } output events
    received event
  exact (congrArg (transmit now) ended).trans
    (transmitFrom_behind now _ output events received _)

theorem onSymbol_behind (symbol : Symbol) :
    (session.behind output events received).onSymbol now symbol =
      (session.onSymbol now symbol).behind output events received := by
  have waiting : (session.behind output events received).backlog = session.backlog := rfl
  unfold onSymbol
  rw [waiting]
  split
  · cases symbol with
    | ack => rfl
    | nack => exact retransmit_behind now session output events received .rejected
    | cancel => exact retransmit_behind now session output events received .rejected
  · rfl

theorem onFrame_behind (frame : Frame) :
    (session.behind output events received).onFrame now frame =
      (session.onFrame now frame).behind output events received := by
  have waiting : (session.behind output events received).backlog = session.backlog := rfl
  unfold onFrame
  rw [waiting]
  cases session.backlog.head? with
  | none => exact emit_behind session output events received _
  | some head =>
      cases related : relation head frame with
      | answer =>
          simp only [related]
          split
          · exact emit_behind (session.awaitCompletion now) output events received _
          · exact complete_behind now session output events received _
      | confirmation =>
          simp only [related]
          exact complete_behind now session output events received _
      | foreign =>
          simp only [related]
          exact emit_behind session output events received _

theorem onDecoding_behind (decoding : Decoding Frame) :
    (session.behind output events received).onDecoding now decoding =
      (session.onDecoding now decoding).behind output events received := by
  cases decoding with
  | needMore => rfl
  | discard length => rfl
  | corrupt length => exact write_behind session output events received _
  | unsupported length => exact write_behind session output events received _
  | symbol symbol => exact onSymbol_behind now session output events received symbol
  | frame frame length =>
      have replied := write_behind session output events received [Frame.symbolByte .ack]
      exact (congrArg (onFrame now · frame) replied).trans
        (onFrame_behind now _ output events received frame)

theorem foldl_onDecoding_behind (decodings : List (Decoding Frame)) :
    decodings.foldl (onDecoding now) (session.behind output events received) =
      (decodings.foldl (onDecoding now) session).behind output events received := by
  induction decodings generalizing session with
  | nil => rfl
  | cons decoding later ih =>
      rw [List.foldl_cons, onDecoding_behind, ih]
      rfl

/-- What was written and reported before has no part in what is received. -/
theorem receive_behind (bytes : Bytes) :
    (session.behind output events session.received).receive now bytes =
      (session.receive now bytes).behind output events (session.receive now bytes).received := by
  have same : (session.behind output events session.received).received = session.received := rfl
  simp only [receive, same, foldl_onDecoding_behind]
  rfl

end Behind

theorem receive_between (now : Nat) (session : Session) (bytes : Bytes) :
    ∃ written told, (session.receive now bytes).output = session.output ++ written ∧
      (session.receive now bytes).events = session.events ++ told ∧
      ∀ reply further,
        ({ session with output := session.output ++ reply, events := session.events ++ further } :
            Session).receive now bytes =
          { session.receive now bytes with
            output := session.output ++ reply ++ written
            events := session.events ++ further ++ told } := by
  let bare : Session := { session with output := [], events := [] }
  have behind : ∀ output events, ({ session with output, events } : Session).receive now bytes =
      (bare.receive now bytes).behind output events (bare.receive now bytes).received := by
    intro output events
    have moved := receive_behind now bare output events bytes
    simpa [Session.behind, bare] using moved
  have here : session.receive now bytes = _ := behind session.output session.events
  refine ⟨(bare.receive now bytes).output, (bare.receive now bytes).events, ?_, ?_, ?_⟩
  · rw [here]
    rfl
  · rw [here]
    rfl
  · intro reply further
    rw [behind, here]
    rfl

/-! ## Receiving record by record -/

variable {now : Nat} {session : Session}

theorem received_foldl (decodings : List (Decoding Frame)) :
    (decodings.foldl (onDecoding now) session).received = session.received := by
  have same : session.behind [] [] session.received = session := by simp [behind]
  have moved := foldl_onDecoding_behind now session [] [] session.received decodings
  rw [same] at moved
  exact (congrArg Session.received moved).trans rfl

theorem receive_of_drain {bytes : Bytes} {decodings : List (Decoding Frame)}
    (clean : session.received = []) (drained : drain Frame.decode bytes = (decodings, [])) :
    session.receive now bytes = decodings.foldl (onDecoding now) session := by
  have kept := @received_foldl now session decodings
  rw [clean] at kept
  rw [receive, clean, List.nil_append, drained]
  simp only [← kept]

theorem receive_records {front middle back : Bytes} {decodings : List (Decoding Frame)}
    (clean : session.received = []) (whole : (drain Frame.decode front).2 = [])
    (sound : ∀ decoding ∈ (drain Frame.decode front).1, decoding.isCorrupt = false)
    (spelled : Spells Frame.decode decodings middle) :
    session.receive now (front ++ middle ++ back) =
      (decodings.foldl (onDecoding now) (session.receive now front)).receive now back := by
  have incremental := Frame.incremental_decode
  have first : session.receive now front =
      (drain Frame.decode front).1.foldl (onDecoding now) session :=
    receive_of_drain clean (Prod.ext rfl whole)
  have empty : (decodings.foldl (onDecoding now)
      ((drain Frame.decode front).1.foldl (onDecoding now) session)).received = [] := by
    rw [received_foldl, received_foldl, clean]
  rw [first, receive, receive, empty, clean, List.nil_append, List.nil_append, List.append_assoc,
    incremental.drain_append whole sound, spelled.drain_append incremental]
  simp only [List.foldl_append]

theorem foldl_discard (count : Nat) :
    (List.replicate count (.discard 1)).foldl (onDecoding now) session = session := by
  induction count with
  | zero => rfl
  | succ count ih => exact ih

/-- What arrives between two whole records changes nothing that becomes of the requests. Noise has
no effect at all. A valid record of an unknown kind is acknowledged; so is a frame of a function that
no request has, which is also handed on. A record with a wrong check byte, if it is read by itself,
is refused. Everything that is written or reported otherwise stays as it is and in its order. -/
theorem noise_leaves_requests_alone (session : Session) (now : Nat) (front back : Bytes)
    (clean : session.received = []) (whole : (drain Frame.decode front).2 = [])
    (sound : ∀ decoding ∈ (drain Frame.decode front).1, decoding.isCorrupt = false) :
    let first := session.receive now front
    let undisturbed := session.receive now (front ++ back)
    ∃ written told,
      undisturbed.output = first.output ++ written ∧ undisturbed.events = first.events ++ told ∧
      (∀ noise : Bytes, (∀ byte ∈ noise, byte ∉ ([0x01, 0x06, 0x15, 0x18] : Bytes)) →
        session.receive now (front ++ noise ++ back) = undisturbed) ∧
      (∀ record kind, Frame.Valid record → record[2]? = some kind →
        FrameKind.ofByte? kind = none →
        session.receive now (front ++ record ++ back) =
          { undisturbed with
            output := first.output ++ [Frame.symbolByte .ack] ++ written }) ∧
      (∀ frame bytes, frame.encode = .ok bytes →
        frame.function ∉ ([0x02, 0x13, 0x41, 0x60] : Bytes) →
        session.receive now (front ++ bytes ++ back) =
          { undisturbed with
            output := first.output ++ [Frame.symbolByte .ack] ++ written
            events := first.events ++ [.unsolicited frame] ++ told }) ∧
      ∀ record, Frame.Spoilt record →
        ((session.receive now front).receive now record).receive now back =
          { undisturbed with
            output := first.output ++ [Frame.symbolByte .nack] ++ written } := by
  intro first undisturbed
  have together : undisturbed = first.receive now back := by
    have nothing := @receive_records now session front [] back [] clean whole sound .nil
    rwa [List.append_nil] at nothing
  obtain ⟨written, told, output, events, between⟩ := receive_between now first back
  rw [← together] at output events between
  -- A reply alone leaves the events as they are.
  have replied : ∀ reply, (first.write reply).receive now back =
      { undisturbed with output := first.output ++ reply ++ written } := by
    intro reply
    have there := between reply []
    rw [List.append_nil, ← events] at there
    exact there
  have rest : first.received = [] := by
    rw [show first = _ from receive_of_drain clean (Prod.ext rfl whole), received_foldl, clean]
  refine ⟨written, told, output, events, ?_, ?_, ?_, ?_⟩
  · intro noise stray
    rw [receive_records clean whole sound (Frame.spells_noise stray), foldl_discard, together]
  · intro record kind valid placed strange
    rw [receive_records clean whole sound (Frame.spells_unknown valid placed strange)]
    exact replied [Frame.symbolByte .ack]
  · intro frame bytes encoded foreign
    rw [receive_records clean whole sound (Frame.spells_frame encoded)]
    have handed : first.onDecoding now (.frame frame bytes.length) =
        (first.write [Frame.symbolByte .ack]).emit (.unsolicited frame) :=
      onFrame_of_foreign foreign now _
    rw [List.foldl_cons, List.foldl_nil, handed]
    exact between [Frame.symbolByte .ack] [.unsolicited frame]
  · intro record spoilt
    rw [receive_of_drain rest (Frame.drain_spoilt spoilt)]
    exact replied [Frame.symbolByte .nack]

/-- Between the acknowledgement of a request and its answer, two stray bytes do nothing and an
announcement is handed on. -/
theorem noise_before_an_answer :
    let session : Session := Session.submit 0 .listNodes {}
    let front : Bytes := [0x06]
    let answer : Bytes := [0x01, 0x04, 0x01, 0x02, 0x05, 0xfd]
    let announcement : Bytes := [0x01, 0x03, 0x00, 0x49, 0xb5]
    (drain Frame.decode front).2 = [] ∧
      (∀ decoding ∈ (drain Frame.decode front).1, decoding.isCorrupt = false) ∧
      session.receive 10 (front ++ [0x55, 0xff] ++ answer) = session.receive 10 (front ++ answer) ∧
      (session.receive 10 (front ++ announcement ++ answer)).events =
        [.unsolicited ⟨.request, 0x49, []⟩, .answered .listNodes ⟨.response, 0x02, [0x05]⟩] := by
  intro session front answer announcement
  have whole : (drain Frame.decode front).2 = [] := by decide +kernel
  have sound : ∀ decoding ∈ (drain Frame.decode front).1, decoding.isCorrupt = false := by
    decide +kernel
  obtain ⟨written, told, _, events, noise, _, foreign, _⟩ :=
    noise_leaves_requests_alone session 10 front answer rfl whole sound
  have quiet : (session.receive 10 front).events = [] := by decide +kernel
  have answered : (session.receive 10 (front ++ answer)).events =
      [.answered .listNodes ⟨.response, 0x02, [0x05]⟩] := by decide +kernel
  rw [quiet, List.nil_append, answered] at events
  refine ⟨whole, sound, noise _ (by simp), ?_⟩
  rw [foreign ⟨.request, 0x49, []⟩ announcement (by decide +kernel) (by simp), quiet, ← events]
  rfl

end Session

end RadioGateway.ZWave
