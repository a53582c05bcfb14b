import RadioGateway.Link.Decoding

/-!
# Incremental decoders

An incremental decoder stands by what it said of the front of a buffer when bytes are added behind,
unless it asked for them. So a stream that is spelled record by record is read back as these records,
into whatever pieces it was cut.
-/

namespace RadioGateway.Link

variable {φ : Type}

namespace Decoding

/-- Whether a decoding stands for bytes that are what they seem. -/
def Complete : Decoding φ → Prop
  | needMore => False
  | corrupt _ => False
  | _ => True

end Decoding

/-- The bytes of a buffer do not fill a field of the given size and the byte behind it, or hold both. -/
theorem field_cases (size : Nat) (bytes : Bytes) :
    bytes.length ≤ size ∨
      ∃ field last rest, field.length = size ∧ bytes = field ++ last :: rest := by
  by_cases missing : bytes.length ≤ size
  · exact .inl missing
  · right
    obtain ⟨last, rest, behind⟩ : ∃ last rest, bytes.drop size = last :: rest :=
      List.exists_cons_of_ne_nil fun none => missing (List.drop_eq_nil_iff.mp none)
    refine ⟨bytes.take size, last, rest, ?_, ?_⟩
    · rw [List.length_take]
      omega
    · rw [← behind, List.take_append_drop]

/-- A decoder that does not change its mind about the front of a buffer, except on how much of it is
spoiled. -/
structure Incremental (decode : Bytes → Decoding φ) : Prop where
  stuck : ∀ buffer, (decode buffer).consumed = 0 → decode buffer = .needMore
  bounded : ∀ buffer, (decode buffer).consumed ≤ buffer.length
  extend : ∀ buffer more, (decode buffer).Complete → decode (buffer ++ more) = decode buffer
  spoil : ∀ buffer more length, decode buffer = .corrupt length →
    ¬ (decode (buffer ++ more)).Complete

/-- What becomes of a decoding when bytes are added behind the buffer. -/
inductive Stands (decode : Bytes → Decoding φ) (buffer more : Bytes) : Prop where
  | asks (needMore : decode buffer = .needMore)
  | spoils (nonempty : buffer ≠ []) (here : decode buffer = .corrupt buffer.length)
      (there : decode (buffer ++ more) = .corrupt (buffer ++ more).length)
  | decides (complete : (decode buffer).Complete) (some : 0 < (decode buffer).consumed)
      (within : (decode buffer).consumed ≤ buffer.length)
      (same : decode (buffer ++ more) = decode buffer)

/-- A record that is decoded whatever follows it stays decoded. -/
theorem Stands.of_record {decode : Bytes → Decoding φ} {decoding : Decoding φ} {record : Bytes}
    (reads : ∀ rest, decode (record ++ rest) = decoding) (complete : decoding.Complete)
    (whole : decoding.consumed = record.length) (some : 0 < record.length) (rest more : Bytes) :
    Stands decode (record ++ rest) more := by
  have here := reads rest
  refine .decides ?_ ?_ ?_ ?_
  · rw [here]
    exact complete
  · rw [here, whole]
    exact some
  · rw [here, whole, List.length_append]
    exact Nat.le_add_right ..
  · rw [List.append_assoc, reads, here]

/-- A decoder that stands by what it said of the front of a buffer, unless it asked for more, and
that spoils either nothing or all there is. -/
def Steadfast (decode : Bytes → Decoding φ) : Prop := ∀ buffer more, Stands decode buffer more

theorem Steadfast.incremental {decode : Bytes → Decoding φ} (steadfast : Steadfast decode) :
    Incremental decode where
  stuck := by
    intro buffer none
    cases steadfast buffer [] with
    | asks needMore => exact needMore
    | spoils nonempty here there =>
        rw [here] at none
        exact absurd (List.length_eq_zero_iff.mp none) nonempty
    | decides complete some within same => exact absurd none (Nat.ne_of_gt some)
  bounded := by
    intro buffer
    cases steadfast buffer [] with
    | asks needMore =>
        rw [needMore]
        exact Nat.zero_le _
    | spoils nonempty here there =>
        rw [here]
        exact Nat.le_refl _
    | decides complete some within same => exact within
  extend := by
    intro buffer more complete
    cases steadfast buffer more with
    | asks needMore =>
        rw [needMore] at complete
        exact complete.elim
    | spoils nonempty here there =>
        rw [here] at complete
        exact complete.elim
    | decides _ some within same => exact same
  spoil := by
    intro buffer more length spoilt complete
    cases steadfast buffer more with
    | asks needMore =>
        rw [needMore] at spoilt
        cases spoilt
    | spoils nonempty here there =>
        rw [there] at complete
        exact complete
    | decides whole some within same =>
        rw [spoilt] at whole
        exact whole

namespace Incremental

variable {decode : Bytes → Decoding φ}

theorem decode_nil (incremental : Incremental decode) : decode [] = .needMore :=
  incremental.stuck [] (Nat.le_zero.mp (incremental.bounded []))

/-- What is complete only with more bytes is not decoded without them. -/
theorem needMore_of_short (incremental : Incremental decode) {buffer more : Bytes}
    (complete : (decode (buffer ++ more)).Complete)
    (short : buffer.length < (decode (buffer ++ more)).consumed) : decode buffer = .needMore := by
  cases decoded : decode buffer with
  | needMore => rfl
  | corrupt length => exact absurd complete (incremental.spoil buffer more length decoded)
  | discard length | unsupported length | symbol symbol | frame frame length =>
      have same := incremental.extend buffer more (by rw [decoded]; trivial)
      have bounded := incremental.bounded buffer
      rw [same] at short
      omega

theorem needMore_of_proper (incremental : Incremental decode) {buffer more : Bytes}
    (complete : (decode (buffer ++ more)).Complete)
    (whole : (decode (buffer ++ more)).consumed = (buffer ++ more).length)
    (proper : buffer ≠ buffer ++ more) : decode buffer = .needMore := by
  apply incremental.needMore_of_short complete
  have some : more ≠ [] := fun none => proper (by rw [none, List.append_nil])
  have positive := List.length_pos_iff.mpr some
  rw [whole, List.length_append]
  omega

theorem consumed_pos_of_ne (incremental : Incremental decode) {buffer : Bytes}
    (decided : decode buffer ≠ .needMore) : 0 < (decode buffer).consumed :=
  Nat.pos_of_ne_zero fun none => decided (incremental.stuck buffer none)

theorem drain_of_needMore {buffer : Bytes} (needMore : decode buffer = .needMore) :
    drain decode buffer = ([], buffer) := by
  rw [drain, needMore, if_neg (fun progress => absurd progress.1 (Nat.lt_irrefl 0))]

theorem drain_of_ne (incremental : Incremental decode) {buffer : Bytes}
    (decided : decode buffer ≠ .needMore) :
    drain decode buffer =
      (decode buffer :: (drain decode (buffer.drop (decode buffer).consumed)).1,
        (drain decode (buffer.drop (decode buffer).consumed)).2) := by
  have nonempty : buffer ≠ [] := by
    rintro rfl
    exact decided incremental.decode_nil
  conv => lhs; rw [drain]
  rw [if_pos ⟨incremental.consumed_pos_of_ne decided, nonempty⟩]

theorem drain_of_complete (incremental : Incremental decode) {buffer : Bytes}
    (complete : (decode buffer).Complete) :
    drain decode buffer =
      (decode buffer :: (drain decode (buffer.drop (decode buffer).consumed)).1,
        (drain decode (buffer.drop (decode buffer).consumed)).2) := by
  apply incremental.drain_of_ne
  intro needMore
  rw [needMore] at complete
  exact complete

end Incremental

theorem feed_cons (decode : Bytes → Decoding φ) (buffer piece : Bytes) (pieces : List Bytes) :
    feed decode buffer (piece :: pieces) =
      ((drain decode (buffer ++ piece)).1 ++
          (feed decode (drain decode (buffer ++ piece)).2 pieces).1,
        (feed decode (drain decode (buffer ++ piece)).2 pieces).2) := rfl

/-! ## Spelling -/

/-- A stream that consists of whole records, one for each of the decodings. -/
inductive Spells (decode : Bytes → Decoding φ) : List (Decoding φ) → Bytes → Prop where
  | nil : Spells decode [] []
  | cons {record stream : Bytes} {decodings : List (Decoding φ)}
      (complete : (decode record).Complete) (whole : (decode record).consumed = record.length)
      (later : Spells decode decodings stream) :
      Spells decode (decode record :: decodings) (record ++ stream)

namespace Spells

variable {decode : Bytes → Decoding φ} {decodings : List (Decoding φ)} {stream : Bytes}

theorem append {others : List (Decoding φ)} {rest : Bytes} (spells : Spells decode decodings stream)
    (later : Spells decode others rest) : Spells decode (decodings ++ others) (stream ++ rest) := by
  induction spells with
  | nil => exact later
  | cons complete whole _ ih =>
      rw [List.append_assoc]
      exact .cons complete whole ih

theorem of_cons (incremental : Incremental decode) {decoding : Decoding φ}
    (spells : Spells decode (decoding :: decodings) stream) :
    decode stream = decoding ∧ decoding.Complete ∧
      Spells decode decodings (stream.drop decoding.consumed) := by
  cases spells with
  | @cons record stream _ complete whole later =>
      refine ⟨incremental.extend record stream complete, complete, ?_⟩
      rw [whole, List.drop_left]
      exact later

/-- A beginning of a spelled stream decodes to the first record, or is too short for it. -/
theorem decode_prefix (incremental : Incremental decode) {front back : Bytes}
    (spells : Spells decode decodings (front ++ back)) :
    decode front = .needMore ∨ ∃ later, decodings = decode front :: later ∧
      Spells decode later (front.drop (decode front).consumed ++ back) := by
  by_cases needMore : decode front = .needMore
  · exact .inl needMore
  right
  cases decodings with
  | nil =>
      cases cut : front with
      | nil => exact absurd (cut ▸ incremental.decode_nil) needMore
      | cons first rest =>
          rw [cut] at spells
          cases spells
  | cons decoding later =>
      obtain ⟨first, complete, rest⟩ := spells.of_cons incremental
      -- What spoils the front would spoil the stream, which is spelled.
      have stands : (decode front).Complete := by
        cases decoded : decode front with
        | needMore => exact needMore decoded
        | corrupt length =>
            rw [← first] at complete
            exact incremental.spoil front back length decoded complete
        | _ => trivial
      rw [incremental.extend front back stands] at first
      refine ⟨later, by rw [first], ?_⟩
      rwa [← first, List.drop_append_of_le_length (incremental.bounded front)] at rest

/-- Draining a beginning of a spelled stream gives its first records, and leaves nothing that the
decoder could take. -/
theorem drain_prefix (incremental : Incremental decode) (spells : Spells decode decodings stream)
    {front back : Bytes} (cut : front ++ back = stream) :
    ∃ later, decodings = (drain decode front).1 ++ later ∧
      Spells decode later ((drain decode front).2 ++ back) ∧
      decode (drain decode front).2 = .needMore := by
  induction spells generalizing front with
  | nil =>
      obtain ⟨rfl, rfl⟩ := List.append_eq_nil_iff.mp cut
      rw [Incremental.drain_of_needMore incremental.decode_nil]
      exact ⟨[], rfl, .nil, incremental.decode_nil⟩
  | @cons record stream decodings complete whole spelled ih =>
      rcases List.append_eq_append_iff.mp cut with ⟨more, rfl, rfl⟩ | ⟨more, rfl, rfl⟩
      · by_cases rest : more = []
        · subst rest
          rw [List.append_nil] at complete whole ⊢
          have drained := incremental.drain_of_complete complete
          rw [whole, List.drop_length,
            Incremental.drain_of_needMore incremental.decode_nil] at drained
          rw [drained]
          exact ⟨decodings, rfl, spelled, incremental.decode_nil⟩
        · have short : front.length < (decode (front ++ more)).consumed := by
            have some := List.length_pos_iff.mpr rest
            rw [whole, List.length_append]
            omega
          have needMore := incremental.needMore_of_short complete short
          rw [Incremental.drain_of_needMore needMore]
          refine ⟨_, rfl, ?_, needMore⟩
          rw [← List.append_assoc]
          exact .cons complete whole spelled
      · have same := incremental.extend record more complete
        have still : (decode (record ++ more)).Complete := by
          rw [same]
          exact complete
        have drained := incremental.drain_of_complete still
        rw [same, whole, List.drop_left] at drained
        obtain ⟨later, split, rest, stuck⟩ := ih rfl
        rw [drained]
        exact ⟨later, by rw [split]; rfl, rest, stuck⟩

theorem drain_append (incremental : Incremental decode) (spells : Spells decode decodings stream)
    (rest : Bytes) :
    drain decode (stream ++ rest) =
      (decodings ++ (drain decode rest).1, (drain decode rest).2) := by
  induction spells with
  | nil => rfl
  | @cons record stream decodings complete whole spelled ih =>
      have same := incremental.extend record (stream ++ rest) complete
      have still : (decode (record ++ (stream ++ rest))).Complete := by
        rw [same]
        exact complete
      rw [List.append_assoc, incremental.drain_of_complete still, same, whole, List.drop_left, ih]
      rfl

theorem drain_eq (incremental : Incremental decode) (spells : Spells decode decodings stream) :
    drain decode stream = (decodings, []) := by
  have drained := spells.drain_append incremental []
  rwa [List.append_nil, Incremental.drain_of_needMore incremental.decode_nil, List.append_nil]
    at drained

theorem eq_nil (incremental : Incremental decode) (spells : Spells decode decodings stream)
    (stuck : decode stream = .needMore) : decodings = [] ∧ stream = [] := by
  cases decodings with
  | nil =>
      cases spells
      exact ⟨rfl, rfl⟩
  | cons decoding later =>
      obtain ⟨first, complete, _⟩ := spells.of_cons incremental
      rw [← first, stuck] at complete
      exact complete.elim

/-- A spelled stream is read back as its records, into whatever pieces it is cut. -/
theorem feed_eq (incremental : Incremental decode) (spells : Spells decode decodings stream)
    {buffer : Bytes} {pieces : List Bytes} (cut : buffer ++ pieces.flatten = stream)
    (stuck : decode buffer = .needMore) : feed decode buffer pieces = (decodings, []) := by
  induction pieces generalizing buffer decodings stream with
  | nil =>
      rw [List.flatten_nil, List.append_nil] at cut
      subst cut
      obtain ⟨rfl, rfl⟩ := spells.eq_nil incremental stuck
      rfl
  | cons piece pieces ih =>
      rw [List.flatten_cons, ← List.append_assoc] at cut
      obtain ⟨later, split, rest, stuck⟩ := spells.drain_prefix incremental cut
      rw [feed_cons, ih rest rfl stuck, split]

end Spells

end RadioGateway.Link
