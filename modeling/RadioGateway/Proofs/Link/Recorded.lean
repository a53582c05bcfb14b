import RadioGateway.Link.Worker

/-!
# Recorded networks

A recorded network acts like the network that it records, and keeps every call to it in order. So a
worker of a recorded network does what a worker of the network does, and what it calls in one turn can
be told from the record.
-/

namespace RadioGateway.Link

variable {σ : Type} [Network σ]

/-- A call that may change a network, with what matters about its circumstances. -/
inductive Call where
  | set (now : Nat) (node : UInt32) (attributes : Attributes)
  | receive (now : Nat) (bytes : Bytes)
  | expire (now : Nat) (deadline : Option Nat)
  | takeOutput (output : Bytes)
  | alarm (failure : Failure)
  | close (now : Nat)
  deriving DecidableEq, Repr

structure Recorded (σ : Type) where
  network : σ
  calls : List Call := []

def Recorded.record (recorded : Recorded σ) (call : Call) (network : σ) : Recorded σ :=
  ⟨network, recorded.calls ++ [call]⟩

instance : Network (Recorded σ) where
  transport recorded := Network.transport recorded.network
  set now node attributes recorded :=
    let (found, network) := Network.set now node attributes recorded.network
    (found, recorded.record (.set now node attributes) network)
  describe recorded := Network.describe recorded.network
  receive now bytes recorded :=
    recorded.record (.receive now bytes) (Network.receive now bytes recorded.network)
  expire now recorded :=
    recorded.record (.expire now (Network.deadline recorded.network))
      (Network.expire now recorded.network)
  deadline recorded := Network.deadline recorded.network
  takeOutput recorded :=
    let (output, network) := Network.takeOutput recorded.network
    (output, recorded.record (.takeOutput output) network)
  takeAlarms recorded :=
    let (alarms, network) := Network.takeAlarms recorded.network
    (alarms, { recorded with network })
  alarm failure recorded :=
    recorded.record (.alarm failure) (Network.alarm failure recorded.network)
  close now recorded := recorded.record (.close now) (Network.close now recorded.network)

def Worker.map {τ : Type} (view : τ → σ) (worker : Worker τ) : Worker σ :=
  { worker with network := view worker.network }

def Turn.map {τ : Type} (view : τ → σ) (turn : Turn τ) : Turn σ :=
  { turn with worker := turn.worker.map view }

namespace Worker

theorem map_flush (now : Nat) (port : Port) (recorded : Recorded σ) :
    (flush now port recorded).map Recorded.network = flush now port recorded.network := by
  have output : (Network.takeOutput recorded).1 = (Network.takeOutput recorded.network).1 := rfl
  simp only [flush, output]
  split
  · rfl
  · split <;> rfl

theorem map_turn (now : Nat) (port : Port) (worker : Worker (Recorded σ)) (wake : Wake) :
    (worker.turn now port wake).map Recorded.network =
      (worker.map Recorded.network).turn now port wake := by
  have sameStatus : (worker.map Recorded.network).status = worker.status := rfl
  unfold turn
  rw [sameStatus]
  split
  · cases wake with
    | bytes bytes => exact map_flush ..
    | ended => rfl
    | readFault fault => rfl
    | abandoned => rfl
    | timer =>
        have sameTimer : (worker.map Recorded.network).isDue now = worker.isDue now := rfl
        simp only [sameTimer]
        split
        · exact map_flush ..
        · rfl
    | query query =>
        have applied : query.apply now worker.network.network =
            ((query.apply now worker.network).1, (query.apply now worker.network).2.network) := by
          cases query <;> rfl
        simp only [show (worker.map Recorded.network).network = worker.network.network from rfl,
          applied]
        rw [← map_flush]
        rfl
  · cases wake <;> rfl

end Worker

/-- The calls with which a worker parts from its network. -/
def farewell (now : Nat) : Status → List Call
  | .running => []
  | .finished => [.close now]
  | .failed outage => [.alarm outage.failure, .close now]

/-- What lets the network act, with the calls by which it does. The first turn has no occasion. -/
inductive Acts (now : Nat) (network : σ) : Option Wake → List Call → Prop where
  | start : Acts now network none []
  | bytes (bytes : Bytes) : Acts now network (some (.bytes bytes)) [.receive now bytes]
  | timer {due : Nat} (deadline : Network.deadline network = some due) (reached : due ≤ now) :
      Acts now network (some .timer) [.expire now (some due)]
  | set (node : UInt32) (attributes : Attributes) :
      Acts now network (some (.query (.set node attributes))) [.set now node attributes]
  | get (node : UInt32) : Acts now network (some (.query (.get node))) []

inductive Stops : Option Wake → Status → Prop where
  | ended : Stops (some .ended) (.failed .ended)
  | readFault (fault : OsFault) : Stops (some (.readFault fault)) (.failed (.fault fault))
  | abandoned : Stops (some .abandoned) .finished

def Port.writeFault? (port : Port) (output : Bytes) : Option OsFault :=
  if output = [] then none else port.fault?

/-- What a port takes of an output, and what becomes of the worker. -/
inductive Delivers (port : Port) (output : Bytes) : Bytes → Status → Prop where
  | whole (fine : port.writeFault? output = none) : Delivers port output output .running
  | part {fault : OsFault} (fails : port.writeFault? output = some fault) :
      Delivers port output (port.taken output) (.failed (.fault fault))

/-- What a worker does in one turn: the calls to its network, the bytes written, and what becomes of
it. -/
inductive Conduct (now : Nat) (port : Port) (network : σ) (wake : Option Wake) :
    List Call → Bytes → Status → Prop where
  /-- The network acts, and its output is written before anything else. -/
  | served {calls : List Call} {output written : Bytes} {status : Status}
      (acts : Acts now network wake calls) (delivers : Delivers port output written status) :
      Conduct now port network wake (calls ++ .takeOutput output :: farewell now status) written
        status
  | stopped {status : Status} (stops : Stops wake status) :
      Conduct now port network wake (farewell now status) [] status

theorem Port.taken_of_working {port : Port} (working : port.fault? = none) (bytes : Bytes) :
    port.taken bytes = bytes := by
  cases port with
  | working => rfl
  | writeFault fault count => cases working
  | flushFault fault => cases working

namespace Worker

/-- A worker writes what the network hands over and waits, or the port fails at that. -/
theorem flush_eq (now : Nat) (port : Port) (network : σ) :
    let (output, after) := Network.takeOutput network
    (port.writeFault? output = none ∧
      flush now port network = { worker := rest after, written := output }) ∨
    ∃ fault, port.writeFault? output = some fault ∧
      flush now port network =
        { worker := fail now (.fault fault) after, written := port.taken output } := by
  unfold flush
  generalize Network.takeOutput network = result
  obtain ⟨output, after⟩ := result
  by_cases empty : output = []
  · exact .inl (by simp [empty, Port.writeFault?])
  · cases fails : port.fault? with
    | none => exact .inl (by simp [empty, Port.writeFault?, fails, Port.taken_of_working fails])
    | some fault => exact .inr ⟨fault, by simp [empty, Port.writeFault?, fails]⟩

theorem answer_flush (now : Nat) (port : Port) (network : σ) :
    (flush now port network).answer = none := by
  rcases flush_eq now port network with ⟨_, flushed⟩ | ⟨_, _, flushed⟩ <;> rw [flushed]

theorem answer_stopped {worker : Worker σ} (stopped : worker.status ≠ .running) (now : Nat)
    (port : Port) (query : Query) :
    (worker.turn now port (.query query)).answer = some (.error {}) := by
  unfold turn
  split
  · contradiction
  · rfl

/-- A worker that waits does so with the timer that its network has then. -/
def Attentive (worker : Worker σ) : Prop :=
  worker.status = .running → worker.timer = Network.deadline worker.network

variable {now : Nat} {port : Port}

theorem calls_fail (outage : Outage) (recorded : Recorded σ) :
    (fail now outage recorded).network.calls =
      recorded.calls ++ farewell now (.failed outage) :=
  List.append_assoc recorded.calls [.alarm outage.failure] [.close now]

theorem delivers_flush (now : Nat) (port : Port) (recorded : Recorded σ) :
    let turn := flush now port recorded
    turn.worker.Attentive ∧ ∃ output, Delivers port output turn.written turn.worker.status ∧
      turn.worker.network.calls =
        recorded.calls ++ .takeOutput output :: farewell now turn.worker.status := by
  intro turn
  rcases flush_eq now port recorded with ⟨fine, flushed⟩ | ⟨fault, fails, flushed⟩
  · rw [show turn = _ from flushed]
    exact ⟨fun _ => rfl, _, .whole fine, rfl⟩
  · rw [show turn = _ from flushed]
    refine ⟨fun running => (nomatch running), _, .part fails, ?_⟩
    rw [calls_fail]
    exact List.append_assoc recorded.calls [_] _

theorem conduct_flush {recorded acted : Recorded σ} {wake : Option Wake} {calls : List Call}
    (acts : Acts now recorded.network wake calls) (acting : acted.calls = recorded.calls ++ calls) :
    let turn := flush now port acted
    turn.worker.Attentive ∧ ∃ calls, turn.worker.network.calls = recorded.calls ++ calls ∧
      Conduct now port recorded.network wake calls turn.written turn.worker.status := by
  intro turn
  obtain ⟨attentive, output, delivers, flushed⟩ := delivers_flush now port acted
  refine ⟨attentive, _, ?_, .served acts delivers⟩
  rw [flushed, acting, List.append_assoc]

/-- Every turn of a running worker, whose timer wakes it only in time, has its conduct. -/
theorem conduct_turn {worker : Worker (Recorded σ)} {wake : Wake}
    (running : worker.status = .running) (attentive : worker.Attentive)
    (due : wake = .timer → worker.isDue now = true) :
    let turn := worker.turn now port wake
    turn.worker.Attentive ∧ ∃ calls, turn.worker.network.calls = worker.network.calls ++ calls ∧
      Conduct now port worker.network.network (some wake) calls turn.written
        turn.worker.status := by
  simp only [turn, running]
  cases wake with
  | bytes bytes => exact conduct_flush (.bytes bytes) rfl
  | ended => exact ⟨fun running => (nomatch running), _, calls_fail .., .stopped .ended⟩
  | readFault fault =>
      exact ⟨fun running => (nomatch running), _, calls_fail .., .stopped (.readFault fault)⟩
  | abandoned => exact ⟨fun running => (nomatch running), _, rfl, .stopped .abandoned⟩
  | timer =>
      obtain ⟨time, timer, past⟩ : ∃ time, worker.timer = some time ∧ time ≤ now := by
        simpa [isDue, Option.any_eq_true] using due rfl
      -- The network has not changed since the worker began to wait, so its deadline has come too.
      have deadline : Network.deadline worker.network.network = some time :=
        (attentive running).symm.trans timer
      simp only [due, if_true]
      refine conduct_flush (.timer deadline past) ?_
      rw [← deadline]
      rfl
  | query query =>
      cases query with
      | set node attributes => exact conduct_flush (.set node attributes) rfl
      | get node => exact conduct_flush (.get node) (List.append_nil _).symm

end Worker

end RadioGateway.Link
