import RadioGateway.Proofs.Link.Recorded

/-!
# Exchanges

A worker runs among others: time passes, queries wait in line until it takes them, whoever may put
queries leaves, and the port does as it likes. Whenever several things could wake the worker, any of
them may. When it has stopped, nothing wakes it, and whatever query is still in line or is put later is
turned down.
-/

namespace RadioGateway.Link

def Wake.query? : Wake → Option Query
  | query put => some put
  | _ => none

/-- A turn of a worker with its circumstances. The first turn has no occasion. -/
structure Round (σ : Type) where
  now : Nat
  port : Port
  before : Worker σ
  wake : Option Wake := none

def Round.turn {σ : Type} [Network σ] (round : Round σ) : Turn σ :=
  match round.wake with
  | none => Worker.start round.now round.port round.before.network
  | some wake => round.before.turn round.now round.port wake

/-- A worker with its clock, its turns so far, and the queries that were put to it. -/
structure Exchange (σ : Type) where
  worker : Worker σ
  now : Nat := 0
  rounds : List (Round σ) := []
  attended : Bool := true
  /-- All queries, in the order in which they were put. Each is known by its place. -/
  queries : List Query := []
  waiting : List (Nat × Query) := []
  answers : List (Nat × Except Stopped Answer) := []

inductive Occasion where
  | bytes (bytes : Bytes)
  | ended
  | readFault (fault : OsFault)
  | timer
  /-- A query is in line, or there will never be one. -/
  | line
  deriving DecidableEq, Repr

inductive Happening where
  | pass (duration : Nat)
  | ask (query : Query)
  | leave
  /-- The worker is woken, and the port makes something of what it writes. -/
  | wake (port : Port) (occasion : Occasion)
  deriving DecidableEq, Repr

namespace Exchange

variable {σ : Type}

/-- How an occasion wakes the worker, if it is one at present. -/
def ready? (exchange : Exchange σ) : Occasion → Option Wake
  | .bytes bytes =>
      if bytes ≠ [] ∧ bytes.length ≤ readSize then some (.bytes bytes) else none
  | .ended => some .ended
  | .readFault fault => some (.readFault fault)
  | .timer => if exchange.worker.isDue exchange.now then some .timer else none
  | .line =>
      match exchange.waiting with
      | (_, query) :: _ => some (.query query)
      | [] => if exchange.attended then none else some .abandoned

/-- The timer wakes the worker when it is due, and a query when it is at the head of the line. -/
theorem ready_eq_some {exchange : Exchange σ} {occasion : Occasion} {wake : Wake}
    (ready : exchange.ready? occasion = some wake) :
    (wake = .timer → exchange.worker.isDue exchange.now = true) ∧
      (wake.query? = none ∨ ∃ number query later,
        wake.query? = some query ∧ exchange.waiting = (number, query) :: later) := by
  cases occasion with
  | bytes bytes =>
      obtain ⟨_, same⟩ := Option.ite_none_right_eq_some.mp ready
      cases same
      exact ⟨nofun, .inl rfl⟩
  | ended =>
      cases ready
      exact ⟨nofun, .inl rfl⟩
  | readFault fault =>
      cases ready
      exact ⟨nofun, .inl rfl⟩
  | timer =>
      obtain ⟨due, same⟩ := Option.ite_none_right_eq_some.mp ready
      cases same
      exact ⟨fun _ => due, .inl rfl⟩
  | line =>
      cases inLine : exchange.waiting with
      | nil =>
          simp only [ready?, inLine] at ready
          obtain ⟨_, same⟩ := Option.ite_none_left_eq_some.mp ready
          cases same
          exact ⟨nofun, .inl rfl⟩
      | cons entry later =>
          simp only [ready?, inLine] at ready
          cases ready
          exact ⟨nofun, .inr ⟨_, _, later, rfl, rfl⟩⟩

variable [Network σ]

/-- Turns down what is in line when the worker has stopped. -/
def settle (exchange : Exchange σ) : Exchange σ :=
  if exchange.worker.status = .running then exchange
  else
    { exchange with
      waiting := []
      answers := exchange.answers ++ exchange.waiting.filterMap fun entry =>
        (exchange.worker.turn exchange.now .working (.query entry.2)).answer.map (entry.1, ·) }

/-- The exchange in which the worker has had its turn. A query that it took is no longer in line. -/
def play (exchange : Exchange σ) (round : Round σ) : Exchange σ :=
  { exchange with
    worker := round.turn.worker
    rounds := exchange.rounds ++ [round]
    waiting := exchange.waiting.drop round.turn.answer.toList.length
    answers := exchange.answers ++ (exchange.waiting.map (·.1)).zip round.turn.answer.toList }

def start (now : Nat) (port : Port) (network : σ) : Exchange σ :=
  let worker : Worker σ := { network }
  ({ worker, now } : Exchange σ).play { now, port, before := worker }

def happen (exchange : Exchange σ) : Happening → Exchange σ
  | .pass duration => { exchange with now := exchange.now + duration }
  | .ask query =>
      if exchange.attended then
        settle
          { exchange with
            queries := exchange.queries ++ [query]
            waiting := exchange.waiting ++ [(exchange.queries.length, query)] }
      else exchange
  | .leave => { exchange with attended := false }
  | .wake port occasion =>
      if exchange.worker.status = .running then
        match exchange.ready? occasion with
        | some wake =>
            (exchange.play
              { now := exchange.now, port, before := exchange.worker, wake := some wake }).settle
        | none => exchange
      else exchange

def follow (exchange : Exchange σ) (happenings : List Happening) : Exchange σ :=
  happenings.foldl happen exchange

def written (exchange : Exchange σ) : Bytes := exchange.rounds.flatMap (·.turn.written)

theorem settle_eq (exchange : Exchange σ) :
    exchange.settle.worker = exchange.worker ∧ exchange.settle.rounds = exchange.rounds := by
  unfold settle
  split <;> exact ⟨rfl, rfl⟩

end Exchange

variable {σ : Type} [Network σ]

def Round.map {τ : Type} (view : τ → σ) (round : Round τ) : Round σ :=
  { round with before := round.before.map view }

def Exchange.map {τ : Type} (view : τ → σ) (exchange : Exchange τ) : Exchange σ :=
  { exchange with
    worker := exchange.worker.map view
    rounds := exchange.rounds.map (·.map view) }

theorem Round.map_turn (round : Round (Recorded σ)) :
    round.turn.map Recorded.network = (round.map Recorded.network).turn := by
  obtain ⟨now, port, before, wake⟩ := round
  cases wake with
  | none => exact Worker.map_flush now port before.network
  | some wake => exact Worker.map_turn now port before wake

namespace Exchange

theorem map_play (exchange : Exchange (Recorded σ)) (round : Round (Recorded σ)) :
    (exchange.play round).map Recorded.network =
      (exchange.map Recorded.network).play (round.map Recorded.network) := by
  rw [play, play, ← Round.map_turn]
  simp [map, Turn.map]

theorem map_settle (exchange : Exchange (Recorded σ)) :
    exchange.settle.map Recorded.network = (exchange.map Recorded.network).settle := by
  have answer : ∀ wake, (exchange.worker.turn exchange.now .working wake).answer =
      ((exchange.worker.map Recorded.network).turn exchange.now .working wake).answer := by
    intro wake
    rw [← Worker.map_turn]
    rfl
  by_cases running : exchange.worker.status = .running
  · have still : (exchange.map Recorded.network).worker.status = .running := running
    rw [settle, if_pos running, settle, if_pos still]
  · have still : (exchange.map Recorded.network).worker.status ≠ .running := running
    rw [settle, if_neg running, settle, if_neg still]
    simp only [map, answer]

theorem map_happen (exchange : Exchange (Recorded σ)) (happening : Happening) :
    (exchange.happen happening).map Recorded.network =
      (exchange.map Recorded.network).happen happening := by
  cases happening with
  | pass duration => rfl
  | leave => rfl
  | ask query =>
      have attended : (exchange.map Recorded.network).attended = exchange.attended := rfl
      simp only [happen, attended]
      split
      · exact map_settle _
      · rfl
  | wake port occasion =>
      have status : (exchange.map Recorded.network).worker.status = exchange.worker.status := rfl
      have ready : (exchange.map Recorded.network).ready? occasion = exchange.ready? occasion := by
        cases occasion <;> rfl
      simp only [happen, status, ready]
      split
      · split
        · rw [map_settle, map_play]
          rfl
        · rfl
      · rfl

/-- An exchange of a recorded network is that of the network. -/
theorem map_follow (now : Nat) (port : Port) (network : σ) (happenings : List Happening) :
    ((start now port ({ network } : Recorded σ)).follow happenings).map Recorded.network =
      (start now port network).follow happenings := by
  have begun : (start now port ({ network } : Recorded σ)).map Recorded.network =
      start now port network := map_play _ _
  rw [← begun]
  generalize start now port ({ network } : Recorded σ) = exchange
  induction happenings generalizing exchange with
  | nil => rfl
  | cons happening later ih =>
      rw [follow, follow, List.foldl_cons, List.foldl_cons, ← map_happen]
      exact ih _

end Exchange

end RadioGateway.Link
