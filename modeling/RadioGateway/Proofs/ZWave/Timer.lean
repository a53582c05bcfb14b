import RadioGateway.Proofs.ZWave.Effect

/-!
# The timer of a session

Every effect leaves a steady session behind, so no run ends with a request under way and no timer
for it, nor with a timer and no request. The head always has its ticket. When requests are put in
line without tickets, no ticket is zero, and no request behind the head has one.
-/

namespace RadioGateway.ZWave

open RadioGateway.Link

namespace Request

theorem nextTicket_ne_zero (ticket : Byte) : nextTicket ticket ≠ 0 := by
  unfold nextTicket
  split
  · decide
  · rename_i notLast
    intro wrapped
    apply notLast
    rw [← UInt8.toNat_inj, UInt8.toNat_add] at wrapped
    rw [← UInt8.toNat_inj] at notLast ⊢
    have bound := ticket.toNat_lt
    simp only [UInt8.toNat_ofNat] at *
    omega

theorem free_stamp_ne_zero {free : Byte} (nonzero : free ≠ 0) (request : Request) :
    (request.stamp free).2 ≠ 0 := by
  cases request with
  | deliver delivery =>
      cases given : delivery.ticket with
      | some ticket => simpa only [stamp, given] using nonzero
      | none => simpa only [stamp, given] using nextTicket_ne_zero free
  | listNodes => exact nonzero
  | describeNode node => exact nonzero
  | askNode node => exact nonzero

theorem ticket_stamp {free : Byte} (nonzero : free ≠ 0) {request : Request}
    (bare : request.ticket? = none) : (request.stamp free).1.ticket? ≠ some 0 := by
  cases request with
  | deliver delivery =>
      simp only [ticket?] at bare
      simpa only [stamp, bare, ticket?, ne_eq, Option.some.injEq] using nonzero
  | listNodes => simp [stamp, ticket?]
  | describeNode node => simp [stamp, ticket?]
  | askNode node => simp [stamp, ticket?]

end Request

namespace Session

variable {now : Nat} {session after : Session} {stimulus : Stimulus} {requests : List Request}
  {reported failures : List (Event Request Frame)} {copy : Bytes}

namespace Steady

theorem requests_eq_nil_iff (steady : Steady now session) :
    session.backlog.requests = [] ↔ session.backlog.phase = .idle := by
  cases steady with
  | atRest empty => simp [empty]
  | underWay line phase timer soon stamped fits =>
      rcases phase with ⟨phase, _⟩ | ⟨phase, _⟩ <;> simp [line, phase]

theorem phase_eq_idle_iff (steady : Steady now session) :
    session.backlog.phase = .idle ↔ session.backlog.deadline = none := by
  cases steady with
  | atRest empty => simp [empty]
  | underWay line phase timer soon stamped fits =>
      rcases phase with ⟨phase, _⟩ | ⟨phase, _⟩ <;> simp [timer, phase]

/-- A session with a request has few failures and a timer that ends soon. -/
theorem guarded (steady : Steady now session) (busy : session.backlog.requests ≠ []) :
    (session.backlog.phase = .transmission ∧ session.backlog.failures < maxTransmissions ∨
      session.backlog.phase = .completion ∧ session.backlog.failures = 0) ∧
    ∃ deadline, session.backlog.deadline = some deadline ∧
      deadline ≤ now + max session.ackTimeout session.answerTimeout := by
  cases steady with
  | atRest empty =>
      rw [empty] at busy
      exact absurd rfl busy
  | underWay line phase timer soon stamped fits => exact ⟨phase, _, timer, soon⟩

theorem stamped_head (steady : Steady now session) {head : Request}
    (first : session.backlog.head? = some head) : head.Stamped := by
  cases steady with
  | atRest empty =>
      rw [empty] at first
      cases first
  | underWay line phase timer soon stamped fits =>
      simp only [Backlog.head?, line, List.head?_cons, Option.some.injEq] at first
      exact first ▸ stamped

end Steady

theorem steady_of_passage (passage : Passage now session requests failures copy after) :
    Steady now after := by
  induction passage with
  | empty => exact .atRest rfl
  | @sent session head stamped rest free copy stamp fits =>
      exact .underWay rfl (.inl ⟨rfl, Nat.succ_pos _⟩) rfl
        (Nat.add_le_add_left (Nat.le_max_left ..) now) (Request.of_stamp stamp).2 fits
  | dropped stamp unfit later ih => exact ih

theorem steady_awaitCompletion (steady : Steady now session)
    (busy : session.backlog.phase ≠ .idle) : Steady now (session.awaitCompletion now) := by
  obtain ⟨head, rest, copy, line, stamped, fits⟩ := steady.head busy
  exact .underWay line (.inr ⟨rfl, rfl⟩) rfl
    (Nat.add_le_add_left (Nat.le_max_right ..) now) stamped fits

theorem Steady.busy (steady : Steady now session) {head : Request} {rest : List Request}
    (line : session.backlog.requests = head :: rest) : session.backlog.phase ≠ .idle := by
  intro idle
  rw [steady.empty_of_idle idle] at line
  cases line

/-- No effect leaves a request without a timer, or a timer without a request. -/
theorem steady_of_effect (steady : Steady now session)
    (effect : Effect now session stimulus reported copy after) : Steady now after := by
  cases effect with
  | ignored => exact steady.congr rfl rfl rfl
  | unsolicited => exact steady.congr rfl rfl rfl
  | @queued request busy =>
      cases steady with
      | atRest empty =>
          rw [empty] at busy
          exact absurd rfl busy
      | underWay line phase timer soon stamped fits =>
          have longer := congrArg (· ++ [request]) line
          exact .underWay longer phase timer soon stamped fits
  | begun empty passage => exact steady_of_passage passage
  | acknowledged phase => exact steady_awaitCompletion steady (by rw [phase]; simp)
  | answered line answers twice =>
      have taken : Steady now (session.awaitCompletion now) :=
        steady_awaitCompletion steady (steady.busy line)
      exact taken.congr rfl rfl rfl
  | repeated line phase spare stamped fits refusal =>
      exact .underWay line (.inl ⟨rfl, spare⟩) rfl (Nat.add_le_add_left (Nat.le_max_left ..) now)
        stamped fits
  | finished line ending passage => exact steady_of_passage passage
  | closed => exact .atRest rfl

theorem timeouts_of_passage (passage : Passage now session requests failures copy after) :
    after.ackTimeout = session.ackTimeout ∧ after.answerTimeout = session.answerTimeout := by
  induction passage with
  | empty => exact ⟨rfl, rfl⟩
  | sent stamp fits => exact ⟨rfl, rfl⟩
  | dropped stamp unfit later ih => exact ih

theorem timeouts_of_effect (effect : Effect now session stimulus reported copy after) :
    after.ackTimeout = session.ackTimeout ∧ after.answerTimeout = session.answerTimeout := by
  cases effect with
  | begun empty passage => exact timeouts_of_passage passage
  | finished line ending passage =>
      have fixed := timeouts_of_passage passage
      exact fixed
  | _ => exact ⟨rfl, rfl⟩

structure Timed (ackTimeout answerTimeout now : Nat) (session : Session) : Prop where
  steady : Steady now session
  ackTimeout : session.ackTimeout = ackTimeout
  answerTimeout : session.answerTimeout = answerTimeout

/-! ## Tickets -/

/-- The free ticket and that of the head are not zero, and no other request has one yet. -/
structure Numbered (session : Session) : Prop where
  free : session.freeTicket ≠ 0
  head : ∀ request ∈ session.backlog.requests.head?, request.ticket? ≠ some 0
  waiting : ∀ request ∈ session.backlog.requests.tail, request.ticket? = none

theorem Numbered.congr {other : Session} (numbered : Numbered session)
    (free : other.freeTicket = session.freeTicket)
    (requests : other.backlog.requests = session.backlog.requests) : Numbered other :=
  ⟨free ▸ numbered.free, requests ▸ numbered.head, requests ▸ numbered.waiting⟩

theorem numbered_of_passage (passage : Passage now session requests failures copy after)
    (free : session.freeTicket ≠ 0) (bare : ∀ request ∈ requests, request.ticket? = none) :
    Numbered after := by
  induction passage with
  | empty => exact ⟨free, by simp, by simp⟩
  | @sent session head stamped rest next copy stamp fits =>
      have first := Request.ticket_stamp free (bare head (List.mem_cons_self ..))
      have second := Request.free_stamp_ne_zero free head
      rw [stamp] at first second
      exact ⟨second, by simpa using first,
        fun request member => bare request (List.mem_cons_of_mem _ member)⟩
  | @dropped session after head stamped rest next payload failures copy stamp unfit later ih =>
      have second := Request.free_stamp_ne_zero free head
      rw [stamp] at second
      exact ih second fun request member => bare request (List.mem_cons_of_mem _ member)

/-- Tickets stay right as long as requests are put in line without one. -/
theorem numbered_of_effect (numbered : Numbered session)
    (bare : ∀ request ∈ stimulus.submitted?, request.ticket? = none)
    (effect : Effect now session stimulus reported copy after) : Numbered after := by
  cases effect with
  | @queued request busy =>
      obtain ⟨head, rest, line⟩ := List.exists_cons_of_ne_nil busy
      have waiting := numbered.waiting
      have first := numbered.head
      refine ⟨numbered.free, ?_, ?_⟩
      · simpa [line] using first
      · simp only [Backlog.requests_enqueue, line, List.cons_append, List.tail_cons,
          List.mem_append, List.mem_singleton] at waiting ⊢
        rintro later (before | rfl)
        · exact waiting later before
        · exact bare later rfl
  | @begun request failures copy after empty passage =>
      refine numbered_of_passage passage numbered.free ?_
      intro only member
      rw [List.mem_singleton.mp member]
      exact bare request rfl
  | finished line ending passage =>
      have free : session.freeTicket ≠ 0 := numbered.free
      have waiting := numbered.waiting
      rw [line] at waiting
      exact numbered_of_passage passage free waiting
  | closed => exact ⟨numbered.free, by simp [close, Backlog.clear], by simp [close, Backlog.clear]⟩
  | ignored => exact numbered.congr rfl rfl
  | unsolicited => exact numbered.congr rfl rfl
  | acknowledged => exact numbered.congr rfl rfl
  | answered => exact numbered.congr rfl rfl
  | repeated => exact numbered.congr rfl rfl

end Session

/-! ## Runs -/

namespace Run

open Session

/-- Every run is steady, before each of its reactions and at the end, and its timeouts are fixed. -/
theorem timed_follow (ackTimeout answerTimeout : Nat) (actions : List Action) :
    let run := (start ackTimeout answerTimeout).follow actions
    Timed ackTimeout answerTimeout run.now run.session ∧
      ∀ reaction ∈ run.history, Timed ackTimeout answerTimeout reaction.now reaction.before := by
  refine always_session (Timed ackTimeout answerTimeout) ackTimeout answerTimeout
    ?_ ?_ ?_ ?_ actions
  · exact ⟨.atRest rfl, rfl, rfl⟩
  · rintro now session stimulus ⟨steady, ackFixed, answerFixed⟩
    obtain ⟨reported, copy, effect⟩ := effect steady stimulus
    obtain ⟨sameAck, sameAnswer⟩ := timeouts_of_effect effect
    exact ⟨steady_of_effect steady effect, sameAck.trans ackFixed, sameAnswer.trans answerFixed⟩
  · exact fun _ _ _ _ _ ⟨steady, ackFixed, answerFixed⟩ =>
      ⟨steady.congr rfl rfl rfl, ackFixed, answerFixed⟩
  · exact fun _ duration _ ⟨steady, ackFixed, answerFixed⟩ =>
      ⟨steady.later duration, ackFixed, answerFixed⟩

theorem timed_passes (ackTimeout answerTimeout : Nat) (actions : List Action)
    {earlier : List Reaction} {now : Nat} {session : Session}
    (passes : ((start ackTimeout answerTimeout).follow actions).Passes earlier now session) :
    Timed ackTimeout answerTimeout now session := by
  obtain ⟨atEnd, before⟩ := timed_follow ackTimeout answerTimeout actions
  cases passes with
  | met split => exact before _ (split ▸ List.mem_append_right _ (List.mem_cons_self ..))
  | last => exact atEnd

/-- As `always`, with the effect of each reaction at hand. -/
theorem always_effect (Holds : Run → Prop) (ackTimeout answerTimeout : Nat)
    (atStart : Holds (start ackTimeout answerTimeout))
    (reacting : ∀ run stimulus reported copy, Steady run.now run.session →
      Effect run.now run.session stimulus reported copy (run.react stimulus).session →
      Holds run → Holds (run.react stimulus))
    (buffering : ∀ run bytes, Holds run →
      Holds { run with session := { run.session with received := bytes } })
    (fetchingOutput : ∀ run, Holds run → Holds (run.act .takeOutput))
    (fetchingEvents : ∀ run, Holds run → Holds (run.act .takeEvents))
    (waiting : ∀ run duration, Holds run → Holds (run.act (.advance duration)))
    (actions : List Action) : Holds ((start ackTimeout answerTimeout).follow actions) := by
  have both := always (fun run => Steady run.now run.session ∧ Holds run) ackTimeout answerTimeout
    ?_ ?_ ?_ ?_ ?_ ?_ actions
  · exact both.2
  · exact ⟨.atRest rfl, atStart⟩
  · rintro run stimulus ⟨steady, holds⟩
    obtain ⟨reported, copy, effect⟩ := effect steady stimulus
    exact ⟨steady_of_effect steady effect, reacting run stimulus reported copy steady effect holds⟩
  · exact fun run bytes ⟨steady, holds⟩ => ⟨steady.congr rfl rfl rfl, buffering run bytes holds⟩
  · exact fun run ⟨steady, holds⟩ => ⟨steady.congr rfl rfl rfl, fetchingOutput run holds⟩
  · exact fun run ⟨steady, holds⟩ => ⟨steady.congr rfl rfl rfl, fetchingEvents run holds⟩
  · exact fun run duration ⟨steady, holds⟩ => ⟨steady.later duration, waiting run duration holds⟩

/-- As `always_effect`, for every session that a run goes through and the reactions before it. -/
theorem always_passes (Holds : List Reaction → Nat → Session → Prop)
    (ackTimeout answerTimeout : Nat) (atStart : Holds [] 0 { ackTimeout, answerTimeout })
    (reacting : ∀ history now session stimulus reported copy, Steady now session →
      Effect now session stimulus reported copy (session.react now stimulus) →
      Holds history now session →
      Holds (history ++ [⟨now, session, stimulus⟩]) now (session.react now stimulus))
    (buffering : ∀ history now session received output events, Holds history now session →
      Holds history now { session with received, output, events })
    (waiting : ∀ history now duration session, Holds history now session →
      Holds history (now + duration) session)
    (actions : List Action) {earlier : List Reaction} {now : Nat} {session : Session}
    (passes : ((start ackTimeout answerTimeout).follow actions).Passes earlier now session) :
    Holds earlier now session := by
  have all := always_effect
    (fun run => ∀ earlier now session, run.Passes earlier now session → Holds earlier now session)
    ackTimeout answerTimeout ?_ ?_ ?_ ?_ ?_ ?_ actions
  · exact all earlier now session passes
  · intro earlier now session passes
    cases passes with
    | met split => simp [start] at split
    | last => exact atStart
  · intro run stimulus reported copy steady effect holds earlier now session passes
    rcases passes_react passes with before | ⟨rfl, rfl, rfl⟩
    · exact holds _ _ _ before
    · exact reacting _ _ _ _ _ _ steady effect (holds _ _ _ .last)
  · intro run bytes holds earlier now session passes
    cases passes with
    | met split => exact holds _ _ _ (.met split)
    | last => exact buffering _ _ _ bytes _ _ (holds _ _ _ .last)
  · intro run holds earlier now session passes
    cases passes with
    | met split => exact holds _ _ _ (.met split)
    | last => exact buffering _ _ _ _ [] _ (holds _ _ _ .last)
  · intro run holds earlier now session passes
    cases passes with
    | met split => exact holds _ _ _ (.met split)
    | last => exact buffering _ _ _ _ _ [] (holds _ _ _ .last)
  · intro run duration holds earlier now session passes
    cases passes with
    | met split => exact holds _ _ _ (.met split)
    | last => exact waiting _ _ duration _ (holds _ _ _ .last)

theorem numbered_follow (ackTimeout answerTimeout : Nat) (actions : List Action)
    (bare : ∀ request ∈ actions.filterMap Action.submitted?, request.ticket? = none) :
    Numbered ((start ackTimeout answerTimeout).follow actions).session := by
  have numbered := always_effect
    (fun run => (∀ request ∈ run.submitted, request.ticket? = none) → Numbered run.session)
    ackTimeout answerTimeout ?_ ?_ ?_ ?_ ?_ ?_ actions
  · refine numbered ?_
    rw [submitted_follow]
    exact bare
  · exact fun _ => ⟨by simp [start], by simp [start], by simp [start]⟩
  · intro run stimulus reported copy steady effect numbered bare
    rw [submitted_react] at bare
    refine numbered_of_effect (numbered fun request member => ?_) ?_ effect
    · exact bare request (List.mem_append_left _ member)
    · intro request asked
      exact bare request (List.mem_append_right _ (Option.mem_toList.mpr asked))
  · exact fun _ _ numbered bare => (numbered bare).congr rfl rfl
  · exact fun _ numbered bare => (numbered bare).congr rfl rfl
  · exact fun _ numbered bare => (numbered bare).congr rfl rfl
  · exact fun _ _ numbered bare => numbered bare

/-- A request is under way exactly while a timer runs for it. The timer ends within the longer of
the two timeouts, the head has its ticket and has been refused at most twice. If requests are put in
line without tickets, then that of the head is a number from 1 to 255, and those behind it have
none. -/
theorem timer_guards_head (ackTimeout answerTimeout : Nat) (actions : List Action) :
    let run := (start ackTimeout answerTimeout).follow actions
    let backlog := run.session.backlog
    (backlog.requests = [] ↔ backlog.phase = .idle) ∧
    (backlog.phase = .idle ↔ backlog.deadline = none) ∧
    (backlog.requests ≠ [] →
      (backlog.phase = .transmission ∧ backlog.failures ≤ 2 ∨
        backlog.phase = .completion ∧ backlog.failures = 0) ∧
      ∃ deadline, backlog.deadline = some deadline ∧
        deadline ≤ run.now + max ackTimeout answerTimeout) ∧
    (∀ delivery, backlog.head? = some (.deliver delivery) → delivery.ticket.isSome = true) ∧
    ((∀ request ∈ actions.filterMap Action.submitted?, request.ticket? = none) →
      (∀ delivery, backlog.head? = some (.deliver delivery) →
        ∃ ticket, delivery.ticket = some ticket ∧ 1 ≤ ticket.toNat ∧ ticket.toNat ≤ 255) ∧
      ∀ request ∈ backlog.requests.tail, request.ticket? = none) := by
  intro run backlog
  obtain ⟨⟨steady, ackFixed, answerFixed⟩, _⟩ := timed_follow ackTimeout answerTimeout actions
  have stamped : ∀ delivery, backlog.head? = some (.deliver delivery) →
      delivery.ticket.isSome = true := fun delivery first => steady.stamped_head first rfl
  refine ⟨steady.requests_eq_nil_iff, steady.phase_eq_idle_iff, ?_, stamped, ?_⟩
  · intro busy
    obtain ⟨phase, deadline, timer, soon⟩ := steady.guarded busy
    rw [ackFixed, answerFixed] at soon
    refine ⟨?_, deadline, timer, soon⟩
    rcases phase with ⟨phase, few⟩ | done
    · exact .inl ⟨phase, Nat.le_of_lt_succ few⟩
    · exact .inr done
  · intro bare
    have numbered := numbered_follow ackTimeout answerTimeout actions bare
    refine ⟨?_, numbered.waiting⟩
    intro delivery first
    obtain ⟨ticket, given⟩ := Option.isSome_iff_exists.mp (stamped delivery first)
    have nonzero := numbered.head (.deliver delivery) first
    rw [Request.ticket?, given] at nonzero
    refine ⟨ticket, given, ?_, ?_⟩
    · have positive : ticket.toNat ≠ 0 := fun zero =>
        nonzero (congrArg some (UInt8.toNat_inj.mp zero))
      omega
    · have bound := ticket.toNat_lt
      omega

end Run

end RadioGateway.ZWave
