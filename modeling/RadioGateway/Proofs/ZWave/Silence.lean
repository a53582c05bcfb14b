import RadioGateway.Proofs.ZWave.Acknowledgement
import RadioGateway.Proofs.ZWave.Capacity

/-!
# Silent controllers

When nothing more is heard of the controller, each expiry either transmits the head again or gives it
up and moves the line on. How many expiries the head outlasts is known from what it is waited for and
how often its transmission has failed, and every request behind it outlasts as many as it may be
transmitted. So the line runs out after a number of expiries that is known beforehand.
-/

namespace RadioGateway.ZWave

open RadioGateway.Link

namespace Request

/-- Requests as they are once they have been given their tickets in turn. -/
def ticketed (free : Byte) : List Request → List Request
  | [] => []
  | request :: later => (request.stamp free).1 :: ticketed (request.stamp free).2 later

theorem withoutTicket_ticketed (free : Byte) (requests : List Request) :
    (ticketed free requests).map withoutTicket = requests.map withoutTicket := by
  induction requests generalizing free with
  | nil => rfl
  | cons request later ih =>
      rw [ticketed, List.map_cons, List.map_cons, withoutTicket_stamp, ih]

theorem fitting_ticketed {requests : List Request}
    (fitting : ∀ request ∈ requests, request.isOversized = false) (free : Byte) :
    ∀ request ∈ ticketed free requests, request.isOversized = false := by
  intro request member
  have same := List.mem_map_of_mem (f := withoutTicket) member
  rw [withoutTicket_ticketed] at same
  obtain ⟨original, there, same⟩ := List.mem_map.mp same
  rw [← isOversized_eq same, fitting original there]

theorem length_ticketed (free : Byte) (requests : List Request) :
    (ticketed free requests).length = requests.length := by
  simpa using congrArg List.length (withoutTicket_ticketed free requests)

/-- The bytes of the frame of a request; none if no frame can hold it. -/
def wire (request : Request) : Bytes := request.frame.encode.toOption.getD []

theorem wire_of_encode {request : Request} {copy : Bytes}
    (fits : request.frame.encode = .ok copy) : request.wire = copy := by
  rw [wire, fits]
  rfl

theorem encode_wire {request : Request} (small : request.isOversized = false) :
    request.frame.encode = .ok request.wire := by
  obtain ⟨copy, fits⟩ := exists_encode_of_fits small
  rw [wire_of_encode fits, fits]

end Request

/-! ## The course of a line in silence -/

/-- What one expiry does to a line whose head outlasts all but the last of the given number of
expiries: the events reported, the requests transmitted, and what is left of both. -/
inductive Tick : Nat → List Request →
    List (Event Request Frame) → List Request → Nat → List Request → Prop where
  | ended {left : Nat} : Tick left [] [] [] left []
  | again {left : Nat} {head : Request} {later : List Request}
      (few : left + 2 ≤ maxTransmissions) :
      Tick (left + 2) (head :: later) [] [head] (left + 1) (head :: later)
  | givenUp {head : Request} {later : List Request} :
      Tick 1 (head :: later) [.failed head .expired] later.head?.toList maxTransmissions later

/-- The number of expiries that a line outlasts. -/
def lifetime (left : Nat) : List Request → Nat
  | [] => 0
  | _ :: later => left + maxTransmissions * later.length

/-- The requests that a line still transmits, one for each expiry. -/
def rounds (left : Nat) : List Request → List Request
  | [] => []
  | head :: later =>
      List.replicate (left - 1) head ++ later.flatMap (List.replicate maxTransmissions)

def givenUpIn (expiries left : Nat) (line : List Request) : List Request :=
  line.take ((expiries + (maxTransmissions - left)) / maxTransmissions)

section Tick

variable {left left' : Nat} {line line' : List Request} {reported : List (Event Request Frame)}
  {sent : List Request}

theorem Tick.lifetime_le_iff (tick : Tick left line reported sent left' line') (expiries : Nat) :
    lifetime left line ≤ expiries + 1 ↔ lifetime left' line' ≤ expiries := by
  cases tick with
  | ended => simp [lifetime]
  | again few =>
      simp only [lifetime]
      omega
  | givenUp =>
      cases line' with
      | nil => simp [lifetime]
      | cons next later =>
          simp only [lifetime, List.length_cons, Nat.mul_succ]
          omega

theorem Tick.take_rounds (tick : Tick left line reported sent left' line') (expiries : Nat) :
    (rounds left line).take (expiries + 1) = sent ++ (rounds left' line').take expiries := by
  cases tick with
  | ended => simp [rounds]
  | again few => rfl
  | givenUp =>
      cases line' with
      | nil => simp [rounds]
      | cons next later => rfl

theorem Tick.givenUpIn_eq (tick : Tick left line reported sent left' line') (expiries : Nat) :
    (givenUpIn (expiries + 1) left line).map (Event.failed · Failure.expired) =
      reported ++ (givenUpIn expiries left' line').map (.failed · .expired) := by
  cases tick with
  | ended => simp [givenUpIn]
  | @again left head later few =>
      have same : expiries + 1 + (maxTransmissions - (left + 2)) =
          expiries + (maxTransmissions - (left + 1)) := by omega
      rw [givenUpIn, same]
      rfl
  | givenUp =>
      have next : (expiries + 1 + (maxTransmissions - 1)) / maxTransmissions =
          (expiries + (maxTransmissions - maxTransmissions)) / maxTransmissions + 1 := by
        simp only [maxTransmissions]
        omega
      rw [givenUpIn, next]
      rfl

end Tick

namespace Session

variable {now : Nat} {session after : Session} {requests line : List Request} {left : Nat}
  {reported failures : List (Event Request Frame)} {copy : Bytes}

/-- The number of expiries after which the head is given up. -/
def allowance (session : Session) : Nat :=
  if session.backlog.phase = .transmission then maxTransmissions - session.backlog.failures else 1

/-- A session with the given requests in line, which frames can hold, and the number of expiries
after which the head is given up. -/
inductive Dwindling (session : Session) : Nat → List Request → Prop where
  | ended {left : Nat} (empty : session.backlog = {}) : Dwindling session left []
  | line {head : Request} {rest : List Request} (line : session.backlog.requests = head :: rest)
      (fitting : ∀ request ∈ rest, request.isOversized = false) :
      Dwindling session session.allowance (head :: Request.ticketed session.freeTicket rest)

theorem Dwindling.congr {other : Session} (dwindling : session.Dwindling left line)
    (backlog : other.backlog = session.backlog)
    (freeTicket : other.freeTicket = session.freeTicket) : other.Dwindling left line := by
  cases dwindling with
  | ended empty => exact .ended (backlog.trans empty)
  | line inLine fitting =>
      have same : other.allowance = session.allowance := by rw [allowance, backlog, allowance]
      rw [← freeTicket, ← same]
      exact .line (backlog ▸ inLine) fitting

theorem allowance_le (session : Session) : session.allowance ≤ maxTransmissions := by
  unfold allowance
  split
  · exact Nat.sub_le ..
  · exact Nat.le_add_left ..

/-- A steady session gives up its head after one to three expiries. -/
theorem Steady.allowance_pos (steady : Steady now session) : 0 < session.allowance := by
  unfold allowance
  split
  · rename_i transmitting
    cases steady with
    | atRest empty => simp [empty] at transmitting
    | underWay line phase timer soon stamped fits =>
        rcases phase with ⟨_, few⟩ | ⟨phase, _⟩
        · omega
        · rw [phase] at transmitting
          cases transmitting
  · exact Nat.one_pos

theorem Dwindling.requests_eq_nil_iff (dwindling : session.Dwindling left line)
    (steady : Steady now session) : session.backlog.requests = [] ↔ lifetime left line ≤ 0 := by
  cases dwindling with
  | ended empty => simp [empty, lifetime]
  | line inLine fitting =>
      have positive := steady.allowance_pos
      simp only [inLine, lifetime, reduceCtorEq, false_iff]
      omega

theorem Dwindling.givenUpIn_zero (dwindling : session.Dwindling left line)
    (steady : Steady now session) : givenUpIn 0 left line = [] := by
  cases dwindling with
  | ended empty => simp [givenUpIn]
  | line inLine fitting =>
      have positive := steady.allowance_pos
      have none : (0 + (maxTransmissions - session.allowance)) / maxTransmissions = 0 := by
        simp only [maxTransmissions]
        omega
      rw [givenUpIn, none, List.take_zero]

/-- When the line moves on, frames can hold the requests in it, so that none but the next one is
dealt with. -/
theorem dwindling_of_passage (passage : Passage now session requests failures copy after)
    (fitting : ∀ request ∈ requests, request.isOversized = false) :
    failures = [] ∧ after.Dwindling maxTransmissions (Request.ticketed session.freeTicket requests) ∧
      [copy].filter (· ≠ []) =
        (Request.ticketed session.freeTicket requests).head?.toList.map Request.wire := by
  cases passage with
  | empty => exact ⟨rfl, .ended rfl, rfl⟩
  | @sent _ head stamped rest free copy stamp fits =>
      have waiting : ∀ request ∈ rest, request.isOversized = false := fun request member =>
        fitting request (List.mem_cons_of_mem _ member)
      refine ⟨rfl, ?_, ?_⟩
      · rw [Request.ticketed, stamp]
        exact .line rfl waiting
      · rw [Request.ticketed, stamp]
        simp [Request.wire_of_encode fits, Frame.ne_nil_of_encode fits]
  | dropped stamp unfit later =>
      have small := fitting _ (List.mem_cons_self ..)
      rw [(GivenUp.of_unfit stamp unfit).1] at small
      cases small

theorem tick_of_effect (steady : Steady now session) (dwindling : session.Dwindling left line)
    (effect : Effect now session .expire reported copy after) :
    ∃ sent left' line', Tick left line reported sent left' line' ∧
      after.Dwindling left' line' ∧ [copy].filter (· ≠ []) = sent.map Request.wire := by
  cases effect with
  | ignored idle =>
      cases dwindling with
      | ended empty => exact ⟨[], _, [], .ended, .ended idle, rfl⟩
      | line inLine fitting =>
          rw [show session.backlog = {} from idle] at inLine
          cases inLine
  | @repeated head rest copy _ failure inLine phase spare stamped fits refusal =>
      cases dwindling with
      | ended empty =>
          rw [empty] at inLine
          cases inLine
      | @line first others line fitting =>
          rw [inLine] at line
          cases line
          obtain ⟨left, count⟩ : ∃ left, maxTransmissions - session.backlog.failures = left + 2 :=
            ⟨maxTransmissions - session.backlog.failures - 2, by omega⟩
          have before : session.allowance = left + 2 := by rw [allowance, if_pos phase, count]
          rw [before]
          refine ⟨[head], left + 1, _, .again (by omega), ?_, ?_⟩
          · have afterwards : maxTransmissions - (session.backlog.failures + 1) = left + 1 := by
              omega
            rw [← afterwards]
            exact .line inLine fitting
          · simp [Request.wire_of_encode fits, Frame.ne_nil_of_encode fits]
  | @finished head rest _ event failures copy after inLine ending passage =>
      cases dwindling with
      | ended empty =>
          rw [empty] at inLine
          cases inLine
      | @line first others line fitting =>
          rw [inLine] at line
          cases line
          have last : event = .failed head .expired ∧ session.allowance = 1 := by
            cases ending with
            | exhausted phase spent refusal =>
                cases refusal
                have positive := steady.allowance_pos
                rw [allowance, if_pos phase] at positive ⊢
                exact ⟨rfl, by omega⟩
            | unanswered phase =>
                rw [allowance, phase]
                exact ⟨rfl, rfl⟩
          obtain ⟨rfl, one⟩ := last
          obtain ⟨rfl, dwindling, sent⟩ := dwindling_of_passage passage fitting
          rw [one]
          exact ⟨_, _, _, .givenUp, dwindling, sent⟩

end Session

/-- Whether an action brings a session nothing new. -/
def Action.IsSilent : Action → Prop
  | operate operation => operation = .expire
  | takeOutput => True
  | takeEvents => True
  | advance _ => True

namespace Run

open Session

variable {run : Run} {left : Nat} {line : List Request}

/-- Silent actions other than an expiry leave the line and everything told and written as it is. -/
theorem act_silent {action : Action} (silent : action.IsSilent)
    (other : action ≠ .operate .expire) (steady : Steady run.now run.session)
    (dwindling : run.session.Dwindling left line) :
    Steady (run.act action).now (run.act action).session ∧
      (run.act action).session.Dwindling left line ∧
      (run.act action).events = run.events ∧ (run.act action).history = run.history ∧
      (run.act action).output = run.output := by
  cases action with
  | operate operation => exact absurd (congrArg Action.operate silent) other
  | takeOutput =>
      exact ⟨steady.congr rfl rfl rfl, dwindling.congr rfl rfl, rfl, rfl,
        by simp [output, act, takeOutput]⟩
  | takeEvents =>
      exact ⟨steady.congr rfl rfl rfl, dwindling.congr rfl rfl,
        by simp [events, act, takeEvents], rfl, rfl⟩
  | advance duration => exact ⟨steady.later duration, dwindling, rfl, rfl, rfl⟩

theorem act_expire (steady : Steady run.now run.session)
    (dwindling : run.session.Dwindling left line) :
    ∃ reported sent left' line', Tick left line reported sent left' line' ∧
      Steady run.now (run.act (.operate .expire)).session ∧
      (run.act (.operate .expire)).session.Dwindling left' line' ∧
      (run.act (.operate .expire)).events = run.events ++ reported ∧
      transmissions (run.act (.operate .expire)).history =
        transmissions run.history ++ sent.map Request.wire ∧
      (run.act (.operate .expire)).output = run.output ++ (sent.map Request.wire).flatten := by
  let reaction : Reaction := ⟨run.now, run.session, .expire⟩
  have effect := reaction.effect steady
  have appends := appends_of_effect effect
  obtain ⟨sent, left', line', tick, dwindling, copies⟩ := tick_of_effect steady dwindling effect
  have copy : reaction.transmission = (sent.map Request.wire).flatten := by
    rw [← copies]
    by_cases none : reaction.transmission = [] <;> simp [none]
  refine ⟨_, sent, left', line', tick, steady_of_effect steady effect, dwindling, ?_, ?_, ?_⟩
  · rw [events, events, List.append_assoc, ← appends.events]
    rfl
  · rw [← copies, transmissions, transmissions, ← List.filter_append, ← List.map_singleton,
      ← List.map_append]
    rfl
  · rw [output, output, List.append_assoc, ← copy]
    exact congrArg (run.outputTaken ++ ·) (appends.output (by simp [reaction]))

/-- In silence, the line of a run goes the course that is known beforehand. -/
theorem follow_silence (silence : List Action) (silent : ∀ action ∈ silence, action.IsSilent)
    (steady : Steady run.now run.session) (dwindling : run.session.Dwindling left line) :
    let after := run.follow silence
    let expiries := silence.count (.operate .expire)
    let sent := ((rounds left line).take expiries).map Request.wire
    (after.session.backlog.requests = [] ↔ lifetime left line ≤ expiries) ∧
      after.events = run.events ++ (givenUpIn expiries left line).map (.failed · .expired) ∧
      transmissions after.history = transmissions run.history ++ sent ∧
      after.output = run.output ++ sent.flatten := by
  induction silence generalizing run left line with
  | nil =>
      refine ⟨dwindling.requests_eq_nil_iff steady, ?_, ?_, ?_⟩
      · simp [follow, dwindling.givenUpIn_zero steady]
      · simp [follow]
      · simp [follow]
  | cons action later ih =>
      have laterSilent : ∀ action ∈ later, action.IsSilent := fun action member =>
        silent action (List.mem_cons_of_mem _ member)
      by_cases expiry : action = .operate .expire
      · subst expiry
        obtain ⟨reported, sent, left', line', tick, steady, dwindling, told, copies, written⟩ :=
          act_expire steady dwindling
        obtain ⟨empty, events, transmitted, output⟩ := ih laterSilent steady dwindling
        simp only [List.count_cons_self, tick.lifetime_le_iff, tick.take_rounds, tick.givenUpIn_eq]
        refine ⟨empty, events.trans ?_, transmitted.trans ?_, output.trans ?_⟩
        · rw [told, List.append_assoc]
        · rw [copies, List.append_assoc, List.map_append]
        · rw [written, List.append_assoc, List.map_append, List.flatten_append]
      · obtain ⟨steady, dwindling, told, copies, written⟩ :=
          act_silent (silent action (List.mem_cons_self ..)) expiry steady dwindling
        obtain ⟨empty, events, transmitted, output⟩ := ih laterSilent steady dwindling
        rw [List.count_cons_of_ne expiry]
        rw [told] at events
        rw [copies] at transmitted
        rw [written] at output
        exact ⟨empty, events, transmitted, output⟩

/-- With the controller silent, the line runs out after a number of expiries that is known: the head
is given up after those that are left to it, which is one if it was acknowledged, and every request
behind it after three. They fail as expired, in their order and each once. The head is transmitted
with every expiry but its last, and each of the others three times. -/
theorem silence_drains_line (ackTimeout answerTimeout : Nat) (actions : List Action)
    {head : Request} {rest : List Request}
    (line : ((start ackTimeout answerTimeout).follow actions).session.backlog.requests =
      head :: rest)
    (fitting : ∀ request ∈ rest, request.isOversized = false) :
    let run := (start ackTimeout answerTimeout).follow actions
    let left := run.session.allowance
    let waiting := Request.ticketed run.session.freeTicket rest
    let copies := List.replicate (left - 1) head ++
      waiting.flatMap (List.replicate maxTransmissions)
    let failures : List (Event Request Frame) := (head :: waiting).map (.failed · .expired)
    waiting.map Request.withoutTicket = rest.map Request.withoutTicket ∧
    (∀ request ∈ head :: waiting, request.frame.encode = .ok request.wire) ∧
    ∀ silence : List Action, (∀ action ∈ silence, action.IsSilent) →
      let after := run.follow silence
      let expiries := silence.count (.operate .expire)
      let settled := (expiries + (maxTransmissions - left)) / maxTransmissions
      (after.session.backlog.requests = [] ↔ left + maxTransmissions * rest.length ≤ expiries) ∧
      after.events = run.events ++ failures.take settled ∧
      transmissions after.history =
        transmissions run.history ++ (copies.take expiries).map Request.wire ∧
      after.output = run.output ++ (copies.take expiries).flatMap Request.wire ∧
      (left + maxTransmissions * rest.length ≤ expiries →
        failures.take settled = failures ∧ copies.take expiries = copies) := by
  intro run left waiting copies failures
  obtain ⟨⟨steady, _, _⟩, _⟩ := timed_follow ackTimeout answerTimeout actions
  have dwindling : run.session.Dwindling left (head :: waiting) := .line line fitting
  have length : waiting.length = rest.length := Request.length_ticketed ..
  refine ⟨Request.withoutTicket_ticketed .., ?_, ?_⟩
  · intro request member
    rcases List.mem_cons.mp member with rfl | behind
    · exact Request.encode_wire (steady.fits_of_head (by simp [Backlog.head?, line]))
    · exact Request.encode_wire (Request.fitting_ticketed fitting _ request behind)
  · intro silence silent after expiries settled
    obtain ⟨empty, events, transmitted, output⟩ := follow_silence silence silent steady dwindling
    rw [lifetime, length] at empty
    refine ⟨empty, ?_, transmitted, ?_, fun long => ⟨?_, ?_⟩⟩
    · rw [events, givenUpIn, List.map_take]
    · rw [output, ← List.flatMap_def]
      rfl
    · have all : rest.length + 1 ≤ settled := by
        rw [Nat.le_div_iff_mul_le (by decide)]
        have few := run.session.allowance_le
        simp only [maxTransmissions] at long few ⊢
        omega
      refine List.take_of_length_le ?_
      rw [List.length_map, List.length_cons, length]
      exact all
    · refine List.take_of_length_le ?_
      rw [List.length_append, List.length_replicate, List.length_flatMap,
        List.map_congr_left fun _ _ => List.length_replicate, List.map_const', List.sum_replicate_nat,
        length, Nat.mul_comm]
      omega

/-- Of three requests the first was acknowledged. It is given up with the first expiry, and the others
with the fourth and the seventh. -/
theorem three_requests_run_out :
    let actions : List Action :=
      [.operate (.submit .listNodes), .operate (.submit (.command 5 [0x20, 0x02])),
        .operate (.submit (.askNode 3)), .operate (.receive [0x06])]
    let rest : List Request := [.command 5 [0x20, 0x02], .askNode 3]
    let delivery : Request := .deliver { node := 5, command := [0x20, 0x02], ticket := some 1 }
    let run := (start 1500 5000).follow actions
    let expiries := List.replicate 6 (.operate .expire) ++ [.takeOutput, .advance 1500]
    run.session.backlog.requests = .listNodes :: rest ∧
      (∀ request ∈ rest, request.isOversized = false) ∧
      (∀ action ∈ expiries ++ [.operate .expire], action.IsSilent) ∧
      (run.follow expiries).session.backlog.requests ≠ [] ∧
      (run.follow (expiries ++ [.operate .expire])).session.backlog.requests = [] ∧
      (run.follow (expiries ++ [.operate .expire])).events =
        [.failed .listNodes .expired, .failed delivery .expired, .failed (.askNode 3) .expired] ∧
      transmissions (run.follow expiries).history =
        transmissions run.history ++
          [delivery, delivery, delivery, .askNode 3, .askNode 3, .askNode 3].map Request.wire := by
  intro actions rest delivery run expiries
  have line : run.session.backlog.requests = .listNodes :: rest := by decide +kernel
  have fitting : ∀ request ∈ rest, request.isOversized = false := by decide
  have silent : ∀ action ∈ expiries ++ [.operate .expire], action.IsSilent := by
    simp [expiries, Action.IsSilent]
  obtain ⟨_, _, course⟩ := silence_drains_line 1500 5000 actions line fitting
  obtain ⟨sixth, _, copies, _⟩ := course expiries fun action member =>
    silent action (List.mem_append_left _ member)
  obtain ⟨seventh, events, _⟩ := course (expiries ++ [.operate .expire]) silent
  refine ⟨line, fitting, silent, ?_, ?_, events.trans ?_, copies.trans ?_⟩
  · rw [ne_eq, sixth]
    decide +kernel
  · rw [seventh]
    decide +kernel
  · decide +kernel
  · decide +kernel

end Run

end RadioGateway.ZWave
