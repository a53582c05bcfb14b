import RadioGateway.Proofs.EnOcean.Effect

/-!
# The requests of a run, one after the other

What is written and reported in the course of a run is, apart from packets that belong to no request,
a story for each request in the order in which they were put in line: the request is written some
times, and then an event settles it. The last story is that of the head and not over yet.
-/

namespace RadioGateway.EnOcean

open RadioGateway.Link

inductive Mark where
  /-- Bytes were written at once. -/
  | sent (bytes : Bytes)
  | event (event : Event Request Packet)
  deriving DecidableEq, Repr

/-- Whether a mark is more than a packet that belongs to no request. -/
def Mark.matters : Mark → Bool
  | event (.unsolicited _) => false
  | _ => true

def settled? : Event Request Packet → Option Request
  | .answered request _ => some request
  | .failed request _ => some request
  | _ => none

def Mark.settled? : Mark → Option Request
  | .sent _ => none
  | .event told => EnOcean.settled? told

/-- The mark of written bytes, if there are any. -/
def sentMarks (bytes : Bytes) : List Mark := if bytes = [] then [] else [.sent bytes]

/-- A reaction reports its events before it writes. -/
def Session.Reaction.marks (reaction : Session.Reaction) : List Mark :=
  reaction.reported.map .event ++ sentMarks reaction.written

def Run.marks (run : Run) : List Mark := run.history.flatMap (·.marks)

/-! ## Stories -/

/-- How often a request was written, and the event that settled it. -/
structure Story where
  request : Request
  count : Nat
  ending : Event Request Packet
  deriving DecidableEq, Repr

/-- The marks of a story: copies of the same bytes, and nothing between them. -/
def Story.marks (story : Story) : List Mark :=
  List.replicate story.count (.sent story.request.wire) ++ [.event story.ending]

/-- What may become of a request: a response completes it, or none comes after three transmissions,
or the session is closed. -/
inductive Story.Proper : Story → Prop where
  | answered (request : Request) {packet : Packet} (response : packet.kind = PacketKind.response)
      {count : Nat} (sent : 1 ≤ count) (bounded : count ≤ 3) :
      Proper ⟨request, count, .answered request packet⟩
  | expired (request : Request) : Proper ⟨request, 3, .failed request .expired⟩
  | closed (request : Request) {count : Nat} (bounded : count ≤ 3) :
      Proper ⟨request, count, .failed request .closed⟩

theorem Story.Proper.settled {story : Story} (proper : story.Proper) :
    settled? story.ending = some story.request := by
  cases proper <;> rfl

/-- The marks of the head of a backlog: one more copy than transmissions that failed. -/
def headMarks (backlog : Backlog Request) : List Mark :=
  match backlog.requests with
  | [] => []
  | head :: _ => List.replicate (backlog.failures + 1) (.sent head.wire)

namespace Session

theorem headMarks_underWay (head : Request) (rest : List Request) (failures deadline : Nat) :
    headMarks (underWay head rest failures deadline) =
      List.replicate (failures + 1) (.sent head.wire) := rfl

theorem headMarks_lineUp (deadline : Nat) (requests : List Request) :
    headMarks (lineUp deadline requests) = sentMarks (firstWire requests) := by
  cases requests with
  | nil => rfl
  | cons head rest => exact (if_neg head.wire_ne_nil).symm

/-- Whether marks tell the stories of all requests put in line, those of the backlog being the
last. -/
structure Told (marks : List Mark) (submitted : List Request) (backlog : Backlog Request) : Prop where
  steady : Steady backlog
  stories : ∃ stories : List Story, (∀ story ∈ stories, story.Proper) ∧
    marks.filter Mark.matters = stories.flatMap Story.marks ++ headMarks backlog ∧
    submitted = stories.map Story.request ++ backlog.requests

theorem filter_sentMarks (bytes : Bytes) :
    (sentMarks bytes).filter Mark.matters = sentMarks bytes := by
  unfold sentMarks
  split <;> rfl

theorem filter_failed (requests : List Request) (failure : Failure) :
    ((requests.map (.failed · failure)).map Mark.event).filter Mark.matters =
      (requests.map (.failed · failure)).map Mark.event := by
  rw [List.filter_eq_self]
  intro mark member
  obtain ⟨event, failed, rfl⟩ := List.mem_map.mp member
  obtain ⟨request, _, rfl⟩ := List.mem_map.mp failed
  rfl

variable {marks : List Mark} {submitted : List Request} {backlog after : Backlog Request}
  {stimulus : Stimulus} {reported : List (Event Request Packet)} {written : Bytes}

/-- The story of the head is over and that of the next request begins. -/
theorem Told.settle {head : Request} {rest : List Request} {failures deadline later : Nat}
    {ending : Event Request Packet}
    (told : Told marks submitted (underWay head rest failures deadline))
    (proper : Story.Proper ⟨head, failures + 1, ending⟩) :
    Told (marks ++ .event ending :: sentMarks (firstWire rest)) submitted (lineUp later rest) := by
  obtain ⟨_, stories, right, same, line⟩ := told
  refine ⟨steady_lineUp later rest, stories ++ [⟨head, failures + 1, ending⟩], ?_, ?_, ?_⟩
  · intro story member
    rcases List.mem_append.mp member with earlier | last
    · exact right story earlier
    · rw [List.mem_singleton.mp last]
      exact proper
  · have matters : Mark.matters (.event ending) = true := by
      cases proper <;> rfl
    rw [List.filter_append, same, List.filter_cons_of_pos matters, filter_sentMarks,
      headMarks_lineUp, headMarks_underWay]
    simp [Story.marks]
  · rw [line, requests_lineUp]
    simp [underWay]

theorem Told.close (told : Told marks submitted backlog) :
    Told (marks ++ (backlog.requests.map (.failed · .closed)).map .event) submitted {} := by
  obtain ⟨steady, stories, right, same, line⟩ := told
  cases steady with
  | atRest =>
      refine ⟨.atRest, stories, right, ?_, line⟩
      simpa [headMarks] using same
  | @underWay head rest failures deadline few =>
      let unwritten (request : Request) : Story := ⟨request, 0, .failed request .closed⟩
      have marked : (rest.map unwritten).flatMap Story.marks =
          rest.map fun request => .event (.failed request .closed) := by
        rw [List.flatMap_map, List.map_eq_flatMap]
        rfl
      refine ⟨.atRest, stories ++ ⟨head, failures + 1, .failed head .closed⟩ ::
        rest.map unwritten, ?_, ?_, ?_⟩
      · intro story member
        rcases List.mem_append.mp member with earlier | now
        · exact right story earlier
        · rcases List.mem_cons.mp now with rfl | waiting
          · exact .closed head few
          · obtain ⟨request, _, rfl⟩ := List.mem_map.mp waiting
            exact .closed request (Nat.zero_le 3)
      · rw [List.filter_append, same, filter_failed, headMarks_underWay]
        rw [List.flatMap_append, List.flatMap_cons, marked]
        simp [Story.marks, headMarks, underWay]
      · rw [line]
        simp [underWay, unwritten, Function.comp_def]

/-- Every effect goes on with the stories. -/
theorem Told.step (told : Told marks submitted backlog)
    (effect : Effect backlog stimulus reported written after) :
    Told (marks ++ (reported.map .event ++ sentMarks written))
      (submitted ++ stimulus.submitted?.toList) after := by
  have unchanged : Told (marks ++ ([].map .event ++ sentMarks [])) (submitted ++ []) backlog := by
    simpa [sentMarks] using told
  cases effect with
  | begun request deadline =>
      obtain ⟨_, stories, right, same, line⟩ := told
      refine ⟨.underWay (by decide), stories, right, ?_, ?_⟩
      · rw [List.filter_append, same]
        simp [sentMarks, request.wire_ne_nil, headMarks, underWay, Mark.matters]
      · rw [line]
        simp [underWay, Stimulus.submitted?]
  | queued head rest failures deadline request =>
      obtain ⟨steady, stories, right, same, line⟩ := told
      refine ⟨(Effect.queued head rest failures deadline request).steady steady, stories, right,
        ?_, ?_⟩
      · rw [List.filter_append, same]
        simp [sentMarks, headMarks_underWay]
      · rw [line]
        simp [underWay, Stimulus.submitted?]
  | answered head rest failures deadline later length response =>
      cases told.steady with
      | underWay few =>
          rw [show (Stimulus.hear _).submitted? = none from rfl, Option.toList_none,
            List.append_nil]
          exact told.settle (.answered head response (Nat.succ_pos failures) few)
  | unsolicited length alone =>
      obtain ⟨steady, stories, right, same, line⟩ := told
      refine ⟨steady, stories, right, ?_, ?_⟩
      · rw [List.filter_append, same]
        simp [sentMarks, Mark.matters]
      · simpa [Stimulus.submitted?] using line
  | ignored backlog void => exact unchanged
  | unneeded => exact unchanged
  | repeated head rest deadline later few =>
      obtain ⟨steady, stories, right, same, line⟩ := told
      refine ⟨.underWay few, stories, right, ?_, ?_⟩
      · rw [List.filter_append, same, headMarks_underWay, headMarks_underWay,
          List.replicate_succ' (n := _ + 1)]
        simp [sentMarks, head.wire_ne_nil, Mark.matters]
      · simpa [Stimulus.submitted?, underWay] using line
  | exhausted head rest deadline later last =>
      cases Nat.succ.inj last
      rw [show Stimulus.expire.submitted? = none from rfl, Option.toList_none, List.append_nil]
      exact told.settle (.expired head)
  | closed backlog =>
      rw [show Stimulus.close.submitted? = none from rfl, Option.toList_none, List.append_nil]
      simpa [sentMarks] using told.close

end Session

namespace Run

open Session

structure Regular (run : Run) : Prop where
  told : Told run.marks run.submitted run.session.backlog
  history : ∀ reaction ∈ run.history, Steady reaction.before.backlog
  events : run.events = run.history.flatMap (·.reported)
  output : (∀ reaction ∈ run.history, reaction.stimulus ≠ .close) →
    run.output = run.history.flatMap (·.written)

theorem regular_react {run : Run} (regular : run.Regular) (stimulus : Stimulus) :
    (run.react stimulus).Regular := by
  have last : Reaction.Regular ⟨run.now, run.session, stimulus⟩ :=
    Reaction.regular _ regular.told.steady
  refine ⟨?_, ?_, ?_, ?_⟩
  · have marks : (run.react stimulus).marks =
        run.marks ++ Reaction.marks ⟨run.now, run.session, stimulus⟩ := by
      simp [Run.marks, react]
    rw [marks, submitted_react]
    exact regular.told.step last.effect
  · intro reaction member
    rcases List.mem_append.mp member with earlier | now
    · exact regular.history reaction earlier
    · rw [List.mem_singleton.mp now]
      exact regular.told.steady
  · have events := last.events
    have reported : (run.react stimulus).events =
        run.events ++ Reaction.reported ⟨run.now, run.session, stimulus⟩ := by
      rw [Run.events, Run.events, List.append_assoc, ← events]
      rfl
    rw [reported, regular.events]
    simp [react]
  · intro opened
    have history : (run.react stimulus).history =
        run.history ++ [⟨run.now, run.session, stimulus⟩] := rfl
    rw [history, List.forall_mem_append, List.forall_mem_singleton] at opened
    have written : (run.react stimulus).output =
        run.output ++ Reaction.written ⟨run.now, run.session, stimulus⟩ := by
      rw [Run.output, Run.output, List.append_assoc, ← last.output opened.2]
      rfl
    rw [written, regular.output opened.1, history, List.flatMap_append, List.flatMap_singleton]

theorem regular_follow (responseTimeout : Nat) (actions : List Action) :
    ((start responseTimeout).follow actions).Regular := by
  refine always Regular responseTimeout ?_ (fun run stimulus regular => regular_react regular stimulus)
    ?_ ?_ ?_ ?_ actions
  · exact ⟨⟨.atRest, [], by simp, rfl, rfl⟩, by simp [start], rfl, fun _ => rfl⟩
  · exact fun run bytes ⟨told, history, events, output⟩ => ⟨told, history, events, output⟩
  · intro run ⟨told, history, events, output⟩
    exact ⟨told, history, events, fun opened => (List.append_nil _).trans (output opened)⟩
  · intro run ⟨told, history, events, output⟩
    exact ⟨told, history, (List.append_nil _).trans events, output⟩
  · exact fun run duration ⟨told, history, events, output⟩ => ⟨told, history, events, output⟩

/-! ## What the stories say -/

theorem filterMap_marks (run : Run) :
    run.marks.filterMap Mark.settled? = (run.history.flatMap (·.reported)).filterMap settled? := by
  have one : ∀ reaction : Reaction,
      reaction.marks.filterMap Mark.settled? = reaction.reported.filterMap settled? := by
    intro reaction
    have silent : (sentMarks reaction.written).filterMap Mark.settled? = [] := by
      unfold sentMarks
      split <;> rfl
    rw [Reaction.marks, List.filterMap_append, silent, List.append_nil, List.filterMap_map]
    rfl
  simp only [marks, List.filterMap_flatMap, one]

theorem filterMap_matters (marks : List Mark) :
    (marks.filter Mark.matters).filterMap Mark.settled? = marks.filterMap Mark.settled? := by
  rw [List.filterMap_filter]
  congr 1
  funext mark
  cases mark with
  | sent bytes => rfl
  | event event => cases event <;> rfl

/-- Each story settles its request, and nothing else. -/
theorem filterMap_stories {stories : List Story} (proper : ∀ story ∈ stories, story.Proper) :
    (stories.flatMap Story.marks).filterMap Mark.settled? = stories.map Story.request := by
  induction stories with
  | nil => rfl
  | cons story later ih =>
      rw [List.forall_mem_cons] at proper
      have settles : Mark.settled? (.event story.ending) = some story.request := proper.1.settled
      have silent : (List.replicate story.count (Mark.sent story.request.wire)).filterMap
          Mark.settled? = [] := by
        rw [List.filterMap_replicate_of_none rfl]
      rw [List.flatMap_cons, List.filterMap_append, ih proper.2, Story.marks,
        List.filterMap_append, silent, List.filterMap_cons_some settles]
      rfl

theorem filterMap_headMarks (backlog : Backlog Request) :
    (headMarks backlog).filterMap Mark.settled? = [] := by
  unfold headMarks
  split
  · rfl
  · rw [List.filterMap_replicate_of_none rfl]

/-- A request fails only because no response came or because the session was closed. -/
theorem Regular.failures {run : Run} (regular : run.Regular) {request : Request}
    {failure : Failure} (member : .failed request failure ∈ run.events) :
    failure = .expired ∨ failure = .closed := by
  obtain ⟨_, stories, proper, same, _⟩ := regular.told
  have marked : .event (.failed request failure) ∈ run.marks.filter Mark.matters := by
    rw [regular.events] at member
    obtain ⟨reaction, there, reported⟩ := List.mem_flatMap.mp member
    refine List.mem_filter.mpr ⟨List.mem_flatMap.mpr ⟨reaction, there, ?_⟩, rfl⟩
    exact List.mem_append_left _ (List.mem_map_of_mem reported)
  rw [same] at marked
  rcases List.mem_append.mp marked with ended | pending
  · obtain ⟨story, there, ended⟩ := List.mem_flatMap.mp ended
    rcases List.mem_append.mp ended with copy | last
    · cases List.eq_of_mem_replicate copy
    · have ending := Mark.event.inj (List.mem_singleton.mp last)
      cases proper story there with
      | answered => cases ending
      | expired =>
          cases ending
          exact .inl rfl
      | closed =>
          cases ending
          exact .inr rfl
  · unfold headMarks at pending
    split at pending
    · cases pending
    · cases List.eq_of_mem_replicate pending

end Run

namespace Session

theorem Effect.of_response {backlog after : Backlog Request} {packet : Packet} {length : Nat}
    {reported : List (Event Request Packet)} {written : Bytes}
    (effect : Effect backlog (.hear (.frame packet length)) reported written after)
    (response : packet.kind = PacketKind.response) :
    match backlog.requests with
    | head :: rest => reported = [.answered head packet] ∧ after.requests = rest
    | [] => reported = [.unsolicited packet] ∧ after.requests = [] := by
  cases effect with
  | answered head rest failures deadline later => exact ⟨rfl, requests_lineUp later rest⟩
  | unsolicited length alone =>
      rcases alone with rfl | other
      · exact ⟨rfl, rfl⟩
      · exact absurd response other
  | ignored backlog void => exact absurd rfl (void packet length)

/-- The timer runs, and runs for a transmission, exactly as long as something is in line. -/
theorem Steady.busy_iff {backlog : Backlog Request} (steady : Steady backlog) :
    (backlog.requests ≠ [] ↔ backlog.phase = .transmission) ∧
      (backlog.requests ≠ [] ↔ backlog.deadline.isSome) ∧ backlog.phase ≠ .completion ∧
      backlog.failures ≤ 2 := by
  cases steady with
  | atRest => simp
  | underWay few => simpa [Session.underWay] using Nat.le_of_lt_succ few

end Session

namespace Run

open Session

/-- Whatever is done with a session, its requests are settled in the order in which they were put in
line, each written at most three times with the same bytes and nothing else between its copies, and
nothing is written for a request before those ahead of it are settled. The timer runs exactly as long
as something is in line. A response completes the head, and belongs to no request only if there is no
head. A request fails only after its third copy or when the session is closed. Until then, all output
is what the reactions wrote. -/
theorem requests_are_settled_in_order (responseTimeout : Nat) (actions : List Action) :
    let run := (start responseTimeout).follow actions
    let backlog := run.session.backlog
    let pending := backlog.requests
    ((pending ≠ [] ↔ backlog.phase = .transmission) ∧
      (pending ≠ [] ↔ backlog.deadline.isSome) ∧ backlog.phase ≠ .completion ∧
      backlog.failures ≤ 2) ∧
    run.submitted = actions.filterMap Action.submitted? ∧
    run.events = run.history.flatMap (·.reported) ∧
    Reaches { responseTimeout } run.history run.session ∧
    (.operate .close ∉ actions → run.output = run.history.flatMap (·.written)) ∧
    (∀ request : Request, request.packet.encode = .ok request.wire) ∧
    run.submitted = run.events.filterMap settled? ++ pending ∧
    (∀ request failure, .failed request failure ∈ run.events →
      failure = .expired ∨ failure = .closed) ∧
    (∃ stories : List Story, (∀ story ∈ stories, story.Proper) ∧
      run.marks.filter Mark.matters = stories.flatMap Story.marks ++ headMarks backlog ∧
      run.submitted = stories.map Story.request ++ pending) ∧
    ∀ reaction ∈ run.history, ∀ packet length,
      reaction.stimulus = .hear (.frame packet length) → packet.kind = PacketKind.response →
      match reaction.before.backlog.requests with
      | head :: rest =>
          reaction.reported = [.answered head packet] ∧ reaction.after.backlog.requests = rest
      | [] =>
          reaction.reported = [.unsolicited packet] ∧ reaction.after.backlog.requests = [] := by
  intro run backlog pending
  have regular : run.Regular := regular_follow responseTimeout actions
  obtain ⟨steady, stories, proper, same, line⟩ := regular.told
  have settled : run.events.filterMap settled? = stories.map Story.request := by
    rw [regular.events, ← filterMap_marks, ← filterMap_matters, same, List.filterMap_append,
      filterMap_stories proper, filterMap_headMarks, List.append_nil]
  have output : .operate .close ∉ actions → run.output = run.history.flatMap (·.written) :=
    fun unclosed => regular.output
      (unclosed_follow _ actions unclosed fun _ none => absurd none List.not_mem_nil)
  refine ⟨steady.busy_iff, submitted_follow (start responseTimeout) actions, regular.events,
    reaches_follow responseTimeout actions, output, Request.encode_packet, ?_,
    fun request failure => regular.failures, ⟨stories, proper, same, line⟩, ?_⟩
  · rw [settled]
    exact line
  · intro reaction member packet length heard response
    have effect := (reaction.regular (regular.history reaction member)).effect
    rw [heard] at effect
    exact effect.of_response response

/-- Two requests are put in line. The first is answered after its second transmission, and the second
never. -/
theorem second_request_expires :
    let response : Bytes := [0x55, 0, 5, 1, 2, 0xdb, 0, 0xff, 0x80, 0, 0, 0x0a, 0x3e]
    let run := (start 1500).follow [.operate (.submit ⟨8⟩), .operate (.submit ⟨3⟩),
      .operate .expire, .operate (.receive response), .operate .expire, .operate .expire,
      .operate .expire]
    run.session.backlog = {} ∧ run.submitted = [⟨8⟩, ⟨3⟩] ∧
      run.output = run.history.flatMap (·.written) ∧
      run.submitted = run.events.filterMap settled? ++ [] ∧
      run.marks = List.replicate 2 (.sent (Request.wire ⟨8⟩)) ++
        .event (.answered ⟨8⟩ ⟨2, [0, 0xff, 0x80, 0, 0], [0x0a]⟩) ::
        List.replicate 3 (.sent (Request.wire ⟨3⟩)) ++ [.event (.failed ⟨3⟩ .expired)] := by
  intro response run
  obtain ⟨_, submitted, _, _, output, _, settled, _⟩ := requests_are_settled_in_order 1500
    [.operate (.submit ⟨8⟩), .operate (.submit ⟨3⟩), .operate .expire,
      .operate (.receive response), .operate .expire, .operate .expire, .operate .expire]
  have seen : run.session.backlog = {} ∧
      run.marks = List.replicate 2 (.sent (Request.wire ⟨8⟩)) ++
        .event (.answered ⟨8⟩ ⟨2, [0, 0xff, 0x80, 0, 0], [0x0a]⟩) ::
        List.replicate 3 (.sent (Request.wire ⟨3⟩)) ++ [.event (.failed ⟨3⟩ .expired)] := by
    decide +kernel
  rw [show ((start 1500).follow _).session.backlog = {} from seen.1] at settled
  exact ⟨seen.1, submitted, output (by decide), settled, seen.2⟩

end Run

end RadioGateway.EnOcean
