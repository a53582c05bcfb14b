import Mathlib.Data.List.Chain
import RadioGateway.Proofs.Link.Exchange

/-!
# The discipline of a worker

Whatever wakes it and whatever the port does, a worker writes what its network hands over before it is
woken again, calls the timer only in time, parts from its network once, and leaves no query without
answer.
-/

namespace RadioGateway.Link

def Call.output? : Call → Option Bytes
  | takeOutput output => some output
  | _ => none

def Call.isFarewell : Call → Bool
  | alarm _ => true
  | close _ => true
  | _ => false

def handedOver (calls : List Call) : Bytes := (calls.filterMap Call.output?).flatten

/-- How a port fails or comes to its end in a turn. -/
def Port.outage? (port : Port) (output : Bytes) : Option Wake → Option Outage
  | some .ended => some .ended
  | some (.readFault fault) => some (.fault fault)
  | _ => (port.writeFault? output).map .fault

variable {σ : Type} [Network σ]

/-! ## One turn -/

section Conduct

variable {now : Nat} {port : Port} {network : σ} {wake : Option Wake} {calls : List Call}
  {output written : Bytes} {status : Status}

theorem handedOver_append (calls later : List Call) :
    handedOver (calls ++ later) = handedOver calls ++ handedOver later := by
  simp [handedOver]

/-- The calls by which a network acts hand nothing over, and none of them parts from it. -/
theorem Acts.plain (acts : Acts now network wake calls) :
    ∀ call ∈ calls, call.output? = none ∧ call.isFarewell = false := by
  cases acts <;> simp [Call.output?, Call.isFarewell]

theorem handedOver_farewell (now : Nat) (status : Status) :
    handedOver (farewell now status) = [] := by
  cases status <;> rfl

theorem Acts.handedOver_eq (acts : Acts now network wake calls) (output : Bytes) (status : Status) :
    handedOver (calls ++ .takeOutput output :: farewell now status) = output := by
  have silent : calls.filterMap Call.output? = [] :=
    List.filterMap_eq_nil_iff.mpr fun call member => (acts.plain call member).1
  have taken : handedOver (.takeOutput output :: farewell now status) =
      output ++ handedOver (farewell now status) := rfl
  rw [handedOver_append, handedOver, silent, taken, handedOver_farewell, List.append_nil]
  rfl

namespace Conduct

variable (conduct : Conduct now port network wake calls written status)

include conduct

/-- What the network hands over is written, unless the port fails at that. -/
theorem written_eq (fine : port.writeFault? (handedOver calls) = none) :
    written = handedOver calls := by
  cases conduct with
  | served acts delivers =>
      rw [acts.handedOver_eq] at fine ⊢
      cases delivers with
      | whole fine => rfl
      | part fails =>
          rw [fails] at fine
          cases fine
  | stopped stops => rw [handedOver_farewell]

/-- The last call before a worker waits is the only one for the output. -/
theorem ends_with_output (running : status = .running) :
    ∃ acts, calls = acts ++ [.takeOutput (handedOver calls)] ∧
      ∀ call ∈ acts, call.output? = none := by
  cases conduct with
  | served acts delivers =>
      rw [acts.handedOver_eq, running]
      exact ⟨_, rfl, fun call member => (acts.plain call member).1⟩
  | stopped stops =>
      subst running
      cases stops

theorem expire_due {time : Nat} {deadline : Option Nat} (member : .expire time deadline ∈ calls) :
    ∃ due, deadline = some due ∧ due ≤ time := by
  have unparting : ∀ status, .expire time deadline ∉ farewell now status := by
    intro status
    cases status <;> simp [farewell]
  cases conduct with
  | served acts delivers =>
      rcases List.mem_append.mp member with acting | later
      · cases acts with
        | @timer due reached past =>
            simp only [List.mem_singleton, Call.expire.injEq] at acting
            exact ⟨due, acting.2, acting.1 ▸ past⟩
        | _ => simp at acting
      · rcases List.mem_cons.mp later with output | parting
        · cases output
        · exact absurd parting (unparting _)
  | stopped stops => exact absurd member (unparting _)

/-- A worker fails when the port fails or comes to its end, and finishes when it is abandoned. -/
theorem status_iff :
    (∀ outage, status = .failed outage ↔ port.outage? (handedOver calls) wake = some outage) ∧
      (status = .finished ↔ wake = some .abandoned) := by
  cases conduct with
  | @served _ output _ _ acts delivers =>
      have serving : port.outage? output wake = (port.writeFault? output).map .fault ∧
          wake ≠ some .abandoned := by
        cases acts <;> simp [Port.outage?]
      rw [acts.handedOver_eq, serving.1]
      cases delivers with
      | whole fine => simp [fine, serving.2]
      | part fails => simp [fails, serving.2]
  | stopped stops =>
      rw [handedOver_farewell]
      cases stops <;> simp [Port.outage?, Port.writeFault?]

theorem ends_with_farewell :
    ∃ acts, calls = acts ++ farewell now status ∧ ∀ call ∈ acts, call.isFarewell = false := by
  cases conduct with
  | @served acting output _ _ acts delivers =>
      refine ⟨acting ++ [.takeOutput output], (List.append_assoc acting [_] _).symm, ?_⟩
      intro call member
      rcases List.mem_append.mp member with early | last
      · exact (acts.plain call early).2
      · rw [List.mem_singleton.mp last]
        rfl
  | stopped stops => exact ⟨[], rfl, fun _ none => absurd none List.not_mem_nil⟩

end Conduct

end Conduct

/-- A running worker answers the query that wakes it, and nothing else. -/
theorem Worker.answer_turn {worker : Worker σ} (running : worker.status = .running) (now : Nat)
    (port : Port) (wake : Wake) :
    (worker.turn now port wake).answer =
      wake.query?.map fun query => .ok (query.apply now worker.network).1 := by
  simp only [turn, running]
  cases wake with
  | bytes bytes => exact answer_flush now port _
  | timer =>
      dsimp only
      split
      · exact answer_flush now port _
      · rfl
  | _ => rfl

namespace Round

def calls (round : Round (Recorded σ)) : List Call :=
  round.turn.worker.network.calls.drop round.before.network.calls.length

def writeFault? (round : Round (Recorded σ)) : Option OsFault :=
  round.port.writeFault? (handedOver round.calls)

/-- How the port failed or came to its end in a turn. -/
def outage? (round : Round (Recorded σ)) : Option Outage :=
  round.port.outage? (handedOver round.calls) round.wake

def taken? (round : Round σ) : Option Query := round.wake.bind Wake.query?

def result? (round : Round σ) : Option (Except Stopped Answer) :=
  round.taken?.map fun query => .ok (query.apply round.now round.before.network).1

/-- A turn is that of a running worker whose timer wakes it only in time, unless it is the first. -/
def Timely (round : Round σ) : Prop :=
  ∀ wake, round.wake = some wake → round.before.status = .running ∧ round.before.Attentive ∧
    (wake = .timer → round.before.isDue round.now = true)

/-- A turn in which the worker did what the occasion calls for, and nothing else. -/
def Conducted (round : Round (Recorded σ)) : Prop :=
  Conduct round.now round.port round.before.network.network round.wake round.calls
    round.turn.written round.turn.worker.status

theorem conducted_of_timely {round : Round (Recorded σ)} (timely : round.Timely) :
    round.turn.worker.Attentive ∧
      round.turn.worker.network.calls = round.before.network.calls ++ round.calls ∧
      round.Conducted := by
  obtain ⟨attentive, calls, recorded, conduct⟩ : round.turn.worker.Attentive ∧ ∃ calls,
      round.turn.worker.network.calls = round.before.network.calls ++ calls ∧
      Conduct round.now round.port round.before.network.network round.wake calls
        round.turn.written round.turn.worker.status := by
    obtain ⟨now, port, before, wake⟩ := round
    cases wake with
    | none => exact Worker.conduct_flush .start (List.append_nil _).symm
    | some wake =>
        obtain ⟨running, attentive, due⟩ := timely wake rfl
        exact Worker.conduct_turn running attentive due
  have same : round.calls = calls := by rw [Round.calls, recorded, List.drop_left]
  rw [Conducted, same]
  exact ⟨attentive, recorded, conduct⟩

theorem answer_of_timely {round : Round σ} (timely : round.Timely) :
    round.turn.answer = round.result? := by
  obtain ⟨now, port, before, wake⟩ := round
  cases wake with
  | none => exact Worker.answer_flush now port before.network
  | some wake => exact Worker.answer_turn (timely wake rfl).1 now port wake

end Round

namespace Exchange

/-! ## Turns of an exchange -/

/-- An exchange whose turns all have their conduct, each beginning where the one before left off, and
of which only the last may have stopped the worker. -/
structure Regular (exchange : Exchange (Recorded σ)) : Prop where
  attentive : exchange.worker.Attentive
  calls : exchange.worker.network.calls = exchange.rounds.flatMap Round.calls
  conducted : ∀ round ∈ exchange.rounds, round.Conducted
  linked : exchange.rounds.IsChain fun round next => next.before = round.turn.worker
  last : ∃ earlier final, exchange.rounds = earlier ++ [final] ∧
    final.turn.worker = exchange.worker ∧ ∀ round ∈ earlier, round.turn.worker.status = .running

variable {exchange : Exchange (Recorded σ)}

theorem Regular.congr {other : Exchange (Recorded σ)} (regular : exchange.Regular)
    (worker : other.worker = exchange.worker) (rounds : other.rounds = exchange.rounds) :
    other.Regular := by
  obtain ⟨attentive, calls, conducted, linked, last⟩ := regular
  exact ⟨worker ▸ attentive, worker ▸ rounds ▸ calls, rounds ▸ conducted, rounds ▸ linked,
    worker ▸ rounds ▸ last⟩

theorem Regular.running (regular : exchange.Regular) (running : exchange.worker.status = .running) :
    ∀ round ∈ exchange.rounds, round.turn.worker.status = .running := by
  obtain ⟨earlier, final, rounds, final, before⟩ := regular.last
  intro round member
  rw [rounds] at member
  rcases List.mem_append.mp member with early | last
  · exact before round early
  · rw [List.mem_singleton.mp last, final]
    exact running

theorem regular_play {round : Round (Recorded σ)} (timely : round.Timely)
    (begins : round.before.network.calls = exchange.rounds.flatMap Round.calls)
    (conducted : ∀ round ∈ exchange.rounds, round.Conducted)
    (linked : exchange.rounds.IsChain fun round next => next.before = round.turn.worker)
    (link : ∀ last ∈ exchange.rounds.getLast?, round.before = last.turn.worker)
    (running : ∀ round ∈ exchange.rounds, round.turn.worker.status = .running) :
    (exchange.play round).Regular := by
  obtain ⟨attentive, recorded, own⟩ := Round.conducted_of_timely timely
  refine ⟨attentive, ?_, ?_, ?_, exchange.rounds, round, rfl, rfl, running⟩
  · rw [play, List.flatMap_append, List.flatMap_singleton, ← begins]
    exact recorded
  · intro other member
    rcases List.mem_append.mp member with earlier | last
    · exact conducted other earlier
    · rw [List.mem_singleton.mp last]
      exact own
  · refine List.isChain_append.mpr ⟨linked, .singleton _, fun last before next first => ?_⟩
    cases first
    exact link last before

/-- The books on the queries of an exchange: each was answered once or is in line, those that the
worker took by the result of putting them to the network, and the others turned down after it had
stopped. -/
structure Tally (exchange : Exchange σ) : Prop where
  numbers : exchange.answers.map (·.1) ++ exchange.waiting.map (·.1) =
    List.range exchange.queries.length
  line : exchange.waiting.map (·.2) = exchange.queries.drop exchange.answers.length
  answers : ∃ served refused, exchange.answers = served ++ refused ∧
    served.map (·.2) = exchange.rounds.filterMap Round.result? ∧
    exchange.queries.take served.length = exchange.rounds.filterMap Round.taken? ∧
    (∀ entry ∈ refused, entry.2 = .error {}) ∧
    (exchange.worker.status = .running → refused = [])

section Tally

variable {exchange : Exchange σ}

theorem Tally.length_le (tally : exchange.Tally) :
    exchange.answers.length ≤ exchange.queries.length := by
  have lengths := congrArg List.length tally.numbers
  simp only [List.length_append, List.length_map, List.length_range] at lengths
  omega

theorem tally_ask (tally : exchange.Tally) (query : Query) :
    Tally { exchange with
      queries := exchange.queries ++ [query]
      waiting := exchange.waiting ++ [(exchange.queries.length, query)] } := by
  have within := tally.length_le
  obtain ⟨numbers, line, served, refused, answers, results, taken, turned, running⟩ := tally
  refine ⟨?_, ?_, served, refused, answers, results, ?_, turned, running⟩
  · rw [List.map_append, ← List.append_assoc, numbers, List.length_append, List.length_singleton,
      List.range_succ]
    rfl
  · rw [List.map_append, line, List.drop_append_of_le_length within]
    rfl
  · rw [← taken, List.take_append_of_le_length]
    rw [answers, List.length_append] at within
    omega

/-- All that is in line is turned down at once. -/
theorem tally_settle (tally : exchange.Tally) :
    exchange.settle.Tally ∧
      (exchange.settle.worker.status ≠ .running → exchange.settle.waiting = []) := by
  unfold settle
  split
  · rename_i running
    exact ⟨tally, fun stopped => absurd running stopped⟩
  · rename_i stopped
    refine ⟨?_, fun _ => rfl⟩
    -- A stopped worker has the same answer for every query.
    have turned : exchange.waiting.filterMap (fun entry =>
        (exchange.worker.turn exchange.now .working (.query entry.2)).answer.map (entry.1, ·)) =
        exchange.waiting.map fun entry => (entry.1, .error {}) := by
      simp only [Worker.answer_stopped stopped, Option.map_some, List.filterMap_eq_map']
    rw [turned]
    obtain ⟨numbers, line, served, refused, answers, results, taken, all, running⟩ := tally
    refine ⟨?_, ?_, served, refused ++ exchange.waiting.map fun entry => (entry.1, .error {}),
      ?_, results, taken, ?_, fun running => absurd running stopped⟩
    · rw [← numbers]
      simp
    · have lengths := congrArg List.length numbers
      simp only [List.length_append, List.length_map, List.length_range] at lengths
      rw [List.length_append, List.length_map, lengths, List.drop_length]
      rfl
    · rw [answers, List.append_assoc]
    · intro entry member
      rcases List.mem_append.mp member with earlier | new
      · exact all entry earlier
      · obtain ⟨waiting, _, rfl⟩ := List.mem_map.mp new
        rfl

/-- One more turn, in which the query at the head of the line may have been taken. -/
theorem tally_play (tally : exchange.Tally) {round : Round σ} (timely : round.Timely)
    (head : round.taken? = none ∨ ∃ number query later,
      round.taken? = some query ∧ exchange.waiting = (number, query) :: later)
    (running : exchange.worker.status = .running) : (exchange.play round).Tally := by
  have answer := Round.answer_of_timely timely
  obtain ⟨numbers, line, served, refused, answers, results, taken, turned, unrefused⟩ := tally
  obtain rfl := unrefused running
  rw [List.append_nil] at answers
  subst answers
  rcases head with untaken | ⟨number, query, later, asked, first⟩
  · have result : round.result? = none := by rw [Round.result?, untaken, Option.map_none]
    have still : exchange.play round = { exchange with
        worker := round.turn.worker
        rounds := exchange.rounds ++ [round] } := by
      simp [play, answer, result]
    rw [still]
    refine ⟨numbers, line, exchange.answers, [], by simp, ?_, ?_, by simp, fun _ => rfl⟩
    · simp [result, results]
    · simp [untaken, taken]
  · have result : round.result? =
        some (.ok (query.apply round.now round.before.network).1) := by
      rw [Round.result?, asked, Option.map_some]
    have moved : exchange.play round = { exchange with
        worker := round.turn.worker
        rounds := exchange.rounds ++ [round]
        waiting := later
        answers := exchange.answers ++
          [(number, .ok (query.apply round.now round.before.network).1)] } := by
      simp [play, answer, result, first]
    rw [first, List.map_cons] at line
    have next : exchange.queries[exchange.answers.length]? = some query := by
      rw [← List.head?_drop, ← line]
      rfl
    rw [moved]
    refine ⟨?_, ?_, _, [], (List.append_nil _).symm, ?_, ?_, by simp, fun _ => rfl⟩
    · rw [← numbers, first]
      simp
    · rw [List.length_append, List.length_singleton, ← List.tail_drop, ← line]
      rfl
    · simp [result, results]
    · rw [List.length_append, List.length_singleton, List.take_add_one, next, taken]
      simp [asked]

end Tally

/-! ## Runs of an exchange -/

structure Sound (exchange : Exchange (Recorded σ)) : Prop where
  regular : exchange.Regular
  tally : exchange.Tally
  released : exchange.worker.status ≠ .running → exchange.waiting = []

theorem sound_start (now : Nat) (port : Port) (network : σ) :
    (start now port ({ network } : Recorded σ)).Sound := by
  -- The first turn is played like any other, by an exchange in which nothing has happened.
  let idle : Exchange (Recorded σ) := { worker := { network := { network } }, now }
  have timely : Round.Timely ⟨now, port, idle.worker, none⟩ := nofun
  have tally : idle.Tally := ⟨rfl, rfl, [], [], rfl, rfl, rfl, nofun, fun _ => rfl⟩
  exact ⟨regular_play timely rfl nofun .nil nofun nofun, tally_play tally timely (.inl rfl) rfl,
    fun _ => List.drop_nil⟩

theorem sound_happen (sound : exchange.Sound) (happening : Happening) :
    (exchange.happen happening).Sound := by
  obtain ⟨regular, tally, released⟩ := sound
  cases happening with
  | pass duration =>
      exact ⟨regular.congr rfl rfl, ⟨tally.numbers, tally.line, tally.answers⟩, released⟩
  | leave => exact ⟨regular.congr rfl rfl, ⟨tally.numbers, tally.line, tally.answers⟩, released⟩
  | ask query =>
      rw [happen]
      split
      · obtain ⟨settled, empty⟩ := tally_settle (tally_ask tally query)
        exact ⟨regular.congr (settle_eq _).1 (settle_eq _).2, settled, empty⟩
      · exact ⟨regular, tally, released⟩
  | wake port occasion =>
      rw [happen]
      split
      · rename_i running
        split
        · rename_i wake ready
          obtain ⟨due, head⟩ := ready_eq_some ready
          have timely : Round.Timely
              ⟨exchange.now, port, exchange.worker, some wake⟩ := by
            intro other same
            cases same
            exact ⟨running, regular.attentive, due⟩
          have link : ∀ last ∈ exchange.rounds.getLast?, exchange.worker = last.turn.worker := by
            obtain ⟨earlier, final, rounds, last, _⟩ := regular.last
            rw [rounds, List.getLast?_concat]
            rintro _ ⟨⟩
            exact last.symm
          have played := regular_play timely regular.calls regular.conducted regular.linked link
            (regular.running running)
          obtain ⟨settled, empty⟩ := tally_settle (tally_play tally timely head running)
          exact ⟨played.congr (settle_eq _).1 (settle_eq _).2, settled, empty⟩
        · exact ⟨regular, tally, released⟩
      · exact ⟨regular, tally, released⟩

theorem sound_follow (now : Nat) (port : Port) (network : σ) (happenings : List Happening) :
    ((start now port ({ network } : Recorded σ)).follow happenings).Sound := by
  have begun := sound_start now port network
  generalize start now port ({ network } : Recorded σ) = exchange at begun
  induction happenings generalizing exchange with
  | nil => exact begun
  | cons happening later ih => exact ih _ (sound_happen begun happening)

/-- Only a running worker has a turn. -/
theorem happen_eq (exchange : Exchange σ) (happening : Happening) :
    (exchange.happen happening).worker = exchange.worker ∧
        (exchange.happen happening).rounds = exchange.rounds ∨
      exchange.worker.status = .running ∧
        ∃ round, (exchange.happen happening).rounds = exchange.rounds ++ [round] := by
  cases happening with
  | pass duration => exact .inl ⟨rfl, rfl⟩
  | leave => exact .inl ⟨rfl, rfl⟩
  | ask query =>
      rw [happen]
      split
      · exact .inl (settle_eq _)
      · exact .inl ⟨rfl, rfl⟩
  | wake port occasion =>
      rw [happen]
      split
      · rename_i running
        split
        · exact .inr ⟨running, _, (settle_eq _).2⟩
        · exact .inl ⟨rfl, rfl⟩
      · exact .inl ⟨rfl, rfl⟩

theorem follow_stopped {exchange : Exchange σ} (stopped : exchange.worker.status ≠ .running)
    (happenings : List Happening) :
    (exchange.follow happenings).worker = exchange.worker ∧
      (exchange.follow happenings).rounds = exchange.rounds := by
  induction happenings generalizing exchange with
  | nil => exact ⟨rfl, rfl⟩
  | cons happening later ih =>
      rcases happen_eq exchange happening with ⟨worker, rounds⟩ | ⟨running, _⟩
      · obtain ⟨sameWorker, sameRounds⟩ := ih (worker ▸ stopped)
        exact ⟨sameWorker.trans worker, sameRounds.trans rounds⟩
      · exact absurd running stopped

theorem rounds_follow (exchange : Exchange σ) (happenings : List Happening) :
    exchange.rounds <+: (exchange.follow happenings).rounds := by
  induction happenings generalizing exchange with
  | nil => exact List.prefix_rfl
  | cons happening later ih =>
      refine List.IsPrefix.trans ?_ (ih (exchange.happen happening))
      rcases happen_eq exchange happening with ⟨_, rounds⟩ | ⟨_, round, rounds⟩
      · exact ⟨[], (List.append_nil _).trans rounds.symm⟩
      · rw [rounds]
        exact List.prefix_append ..

/-! ## The discipline -/

/-- The turns of an exchange follow each other, from the given one to the last that the worker had. -/
structure TakesTurns (first : Round (Recorded σ)) (exchange : Exchange (Recorded σ)) : Prop where
  first : exchange.rounds.head? = some first
  linked : exchange.rounds.IsChain fun round next => next.before = round.turn.worker
  last : exchange.rounds.getLast?.map (·.turn.worker) = some exchange.worker

/-- What is handed over in one turn is written in it, whole and once. -/
structure WritesAtOnce (exchange : Exchange (Recorded σ)) : Prop where
  turns : ∀ round ∈ exchange.rounds, round.writeFault? = none →
    round.turn.written = handedOver round.calls
  /-- The output is asked for once in a turn, after which the worker waits again. -/
  asked : ∀ round ∈ exchange.rounds, round.turn.worker.status = .running →
    ∃ acts, round.calls = acts ++ [.takeOutput (handedOver round.calls)] ∧
      ∀ call ∈ acts, call.output? = none
  all : (∀ round ∈ exchange.rounds, round.writeFault? = none) →
    exchange.written = handedOver exchange.worker.network.calls

/-- The timer is called in time, and the one waited for is that which the network has. -/
structure KeepsTime (exchange : Exchange (Recorded σ)) : Prop where
  due : ∀ time deadline, .expire time deadline ∈ exchange.worker.network.calls →
    ∃ due, deadline = some due ∧ due ≤ time
  current : exchange.worker.status = .running →
    exchange.worker.timer = Network.deadline exchange.worker.network

/-- The worker stops for the reason that there is, and parts from its network once. -/
structure PartsOnce (exchange : Exchange (Recorded σ)) : Prop where
  failed : ∀ outage, exchange.worker.status = .failed outage ↔
    ∃ round ∈ exchange.rounds, round.outage? = some outage
  finished : exchange.worker.status = .finished ↔
    ∃ round ∈ exchange.rounds, round.wake = some .abandoned
  /-- The farewell comes last, and reports an outage exactly if there was one. -/
  farewell : ∃ acts time,
    exchange.worker.network.calls = acts ++ farewell time exchange.worker.status ∧
      ∀ call ∈ acts, call.isFarewell = false
  silent : exchange.worker.status ≠ .running → ∀ happenings,
    (exchange.follow happenings).worker = exchange.worker ∧
      (exchange.follow happenings).written = exchange.written

variable {exchange : Exchange (Recorded σ)}

theorem Regular.writesAtOnce (regular : exchange.Regular) : exchange.WritesAtOnce := by
  have turns : ∀ round ∈ exchange.rounds, round.writeFault? = none →
      round.turn.written = handedOver round.calls :=
    fun round member fine => (regular.conducted round member).written_eq fine
  refine ⟨turns, ?_, ?_⟩
  · exact fun round member running => (regular.conducted round member).ends_with_output running
  · intro fine
    rw [regular.calls, written]
    generalize exchange.rounds = rounds at turns fine
    induction rounds with
    | nil => rfl
    | cons round later ih =>
        rw [List.forall_mem_cons] at turns fine
        rw [List.flatMap_cons, List.flatMap_cons, handedOver_append, turns.1 fine.1,
          ih turns.2 fine.2]

theorem Regular.keepsTime (regular : exchange.Regular) : exchange.KeepsTime := by
  refine ⟨?_, regular.attentive⟩
  intro time deadline member
  rw [regular.calls] at member
  obtain ⟨round, among, called⟩ := List.mem_flatMap.mp member
  exact (regular.conducted round among).expire_due called

theorem Regular.status_iff (regular : exchange.Regular) {status : Status}
    (stopped : status ≠ .running) : exchange.worker.status = status ↔
      ∃ round ∈ exchange.rounds, round.turn.worker.status = status := by
  obtain ⟨earlier, final, rounds, last, running⟩ := regular.last
  rw [rounds, ← last]
  constructor
  · exact fun same => ⟨final, by simp, same⟩
  · rintro ⟨round, member, same⟩
    rcases List.mem_append.mp member with early | late
    · rw [running round early] at same
      exact absurd same.symm stopped
    · exact List.mem_singleton.mp late ▸ same

theorem Regular.partsOnce (regular : exchange.Regular) : exchange.PartsOnce := by
  refine ⟨?_, ?_, ?_, ?_⟩
  · intro outage
    rw [regular.status_iff (by simp)]
    exact exists_congr fun round => and_congr_right fun member =>
      (regular.conducted round member).status_iff.1 outage
  · rw [regular.status_iff (by simp)]
    exact exists_congr fun round => and_congr_right fun member =>
      (regular.conducted round member).status_iff.2
  · obtain ⟨earlier, final, rounds, last, running⟩ := regular.last
    have conducted := regular.conducted
    rw [rounds] at conducted
    obtain ⟨acts, calls, plain⟩ :=
      (conducted final (List.mem_append_right _ (List.mem_singleton_self _))).ends_with_farewell
    refine ⟨earlier.flatMap Round.calls ++ acts, final.now, ?_, ?_⟩
    · rw [regular.calls, rounds, List.flatMap_append, List.flatMap_singleton, calls, ← last,
        List.append_assoc]
    · intro call member
      rcases List.mem_append.mp member with before | late
      · obtain ⟨round, early, called⟩ := List.mem_flatMap.mp before
        obtain ⟨own, calls, plain⟩ :=
          (conducted round (List.mem_append_left _ early)).ends_with_farewell
        rw [running round early, farewell, List.append_nil] at calls
        exact plain call (calls ▸ called)
      · exact plain call late
  · intro stopped happenings
    obtain ⟨worker, rounds⟩ := follow_stopped stopped happenings
    exact ⟨worker, by rw [written, written, rounds]⟩

/-- Whatever wakes a worker and whatever the port does: as long as the port does not fail, what the
network hands over is written in the same turn, once and in order. The timer is called only when the
deadline of the network has come. The worker fails exactly if the port failed or came to its end, and
then reports this once and closes the network once. If nobody is left it closes the network once and
reports nothing. Nothing is written after that. Each query that it takes is answered once, with what it
came to, and each other one is turned down when it has stopped. -/
theorem keeps_discipline (now : Nat) (port : Port) (network : σ) (happenings : List Happening) :
    let exchange := (start now port ({ network } : Recorded σ)).follow happenings
    exchange.map Recorded.network = (start now port network).follow happenings ∧
      exchange.TakesTurns { now, port, before := { network := { network } } } ∧
      exchange.WritesAtOnce ∧ exchange.KeepsTime ∧ exchange.PartsOnce ∧ exchange.Tally ∧
      (exchange.worker.status ≠ .running → exchange.waiting = []) := by
  intro exchange
  obtain ⟨regular, tally, released⟩ := sound_follow now port network happenings
  have takesTurns : exchange.TakesTurns { now, port, before := { network := { network } } } := by
    obtain ⟨later, rounds⟩ := rounds_follow (start now port ({ network } : Recorded σ)) happenings
    refine ⟨by rw [← rounds]; rfl, regular.linked, ?_⟩
    obtain ⟨earlier, final, rounds, last, _⟩ := regular.last
    rw [rounds, List.getLast?_concat, ← last]
    rfl
  exact ⟨map_follow now port network happenings, takesTurns, regular.writesAtOnce,
    regular.keepsTime, regular.partsOnce, tally, released⟩

end Exchange

end RadioGateway.Link
