import Mathlib.Data.List.Forall2
import RadioGateway.Proofs.ZWave.Appending
import RadioGateway.Proofs.ZWave.Course

/-!
# The ledger of a run

A ledger is kept by an observer who sees what goes into a session and what comes out of it, and
books every copy of a frame on the first request that is not settled yet. The main statement is that
the books are right: the copies on a request are copies of its own frame, there are at most three
of them, all three are spent before it fails for want of an acknowledgement, and none comes after
one.
-/

namespace RadioGateway.ZWave

open RadioGateway.Link

def settles (event : Event Request Frame) : Bool := (settled? event).isSome

structure Ledger where
  settled : List (Course × Event Request Frame) := []
  unsettled : List Course := []
  deriving DecidableEq, Repr

namespace Ledger

open Session

def enter (ledger : Ledger) (request : Request) : Ledger :=
  { ledger with unsettled := ledger.unsettled ++ [.fresh request] }

def hear (ledger : Ledger) (decoding : Decoding Frame) : Ledger :=
  { ledger with unsettled := ledger.unsettled.modifyHead (·.hear decoding) }

def meet (ledger : Ledger) : Stimulus → Ledger
  | .submit request => ledger.enter request
  | .hear decoding => ledger.hear decoding
  | _ => ledger

def settle (ledger : Ledger) (event : Event Request Frame) : Ledger :=
  match settled? event, ledger.unsettled with
  | some _, course :: later =>
      { settled := ledger.settled ++ [(course, event)], unsettled := later }
  | _, _ => ledger

def send (ledger : Ledger) (copy : Bytes) : Ledger :=
  if copy = [] then ledger
  else { ledger with unsettled := ledger.unsettled.modifyHead (·.send copy) }

def lead (ledger : Ledger) : Ledger :=
  { ledger with unsettled := ledger.unsettled.modifyHead Course.lead }

/-- Books a stimulus, then what was reported, then what was transmitted. -/
def book (ledger : Ledger) (stimulus : Stimulus) (reported : List (Event Request Frame))
    (copy : Bytes) : Ledger :=
  ((reported.foldl settle (ledger.meet stimulus)).send copy).lead

def observe (ledger : Ledger) (reaction : Reaction) : Ledger :=
  ledger.book reaction.stimulus reaction.reported reaction.transmission

def ofHistory (history : List Reaction) : Ledger := history.foldl observe {}

def courses (ledger : Ledger) : List Course := ledger.settled.map (·.1) ++ ledger.unsettled

end Ledger

/-- The copies of frames that a run transmitted. -/
def transmissions (history : List Session.Reaction) : List Bytes :=
  (history.map (·.transmission)).filter (· ≠ [])

/-! ## Right books -/

structure Ledger.Right (ledger : Ledger) (session : Session)
    (events : List (Event Request Frame)) : Prop where
  events : ledger.settled.map (·.2) = events.filter settles
  ended : ∀ entry ∈ ledger.settled, ∃ request, entry.1.Ended entry.2 request
  lineup : Lineup session.backlog ledger.unsettled

namespace Ledger

open Session

variable {ledger : Ledger} {now : Nat} {session after : Session} {stimulus : Stimulus}
  {requests : List Request} {events reported failures : List (Event Request Frame)} {copy : Bytes}

theorem hear_eq_self {decoding : Decoding Frame}
    (same : ∀ course ∈ ledger.unsettled.head?, course.hear decoding = course) :
    ledger.hear decoding = ledger := by
  obtain ⟨settled, unsettled⟩ := ledger
  cases unsettled with
  | nil => rfl
  | cons course later => simp [hear, same course rfl]

/-- A head that is under way has led before. -/
theorem lead_eq_self {backlog : Backlog Request} (lineup : Lineup backlog ledger.unsettled) :
    ledger.lead = ledger := by
  obtain ⟨settled, unsettled⟩ := ledger
  cases lineup with
  | empty none => rfl
  | @line head rest course line tracks leads =>
      have led := tracks.led.mpr leads.copies
      obtain ⟨request, flag, copies, heeded, late⟩ := course
      simp only at led
      simp [lead, Course.lead, led]

theorem settle_unsettling {event : Event Request Frame} (unsettling : settled? event = none) :
    ledger.settle event = ledger := by
  simp [settle, unsettling]

theorem settle_first {event : Event Request Frame} {request : Request} {course : Course}
    {later : List Course} (settling : settled? event = some request)
    (first : ledger.unsettled = course :: later) :
    ledger.settle event = ⟨ledger.settled ++ [(course, event)], later⟩ := by
  simp [settle, settling, first]

theorem filter_settles {event : Event Request Frame} {request : Request}
    (settling : settled? event = some request) : [event].filter settles = [event] := by
  simp [settles, settling]

/-- A ledger that is right about the settled requests, with the given courses left. -/
structure Sound (ledger : Ledger) (events : List (Event Request Frame)) (left : List Course) :
    Prop where
  events : ledger.settled.map (·.2) = events.filter settles
  ended : ∀ entry ∈ ledger.settled, ∃ request, entry.1.Ended entry.2 request
  left : ledger.unsettled = left

theorem Right.sound (right : ledger.Right session events) :
    ledger.Sound events ledger.unsettled := ⟨right.events, right.ended, rfl⟩

theorem Sound.settle {event : Event Request Frame} {request : Request} {course : Course}
    {later : List Course} (sound : ledger.Sound events (course :: later))
    (ends : course.Ended event request) :
    (ledger.settle event).Sound (events ++ [event]) later := by
  rw [settle_first ends.subject sound.left]
  refine ⟨?_, ?_, rfl⟩
  · rw [List.filter_append, filter_settles ends.subject, List.map_append, sound.events]
    rfl
  · intro entry member
    rcases List.mem_append.mp member with earlier | last
    · exact sound.ended entry earlier
    · rw [List.mem_singleton.mp last]
      exact ⟨request, ends⟩

theorem Sound.finish (sound : ledger.Sound events []) (empty : session.backlog.requests = []) :
    (ledger.send []).lead.Right session events := by
  obtain ⟨settled, unsettled⟩ := ledger
  obtain ⟨booked, ended, none⟩ := sound
  cases none
  exact ⟨booked, ended, .empty empty⟩

/-- Moving the line on keeps the books right when nothing was transmitted yet of the requests. -/
theorem right_of_passage (passage : Passage now session requests failures copy after)
    (sound : ledger.Sound events (requests.map Course.fresh)) :
    (((failures.foldl settle ledger).send copy).lead).Right after (events ++ failures) := by
  induction passage generalizing ledger events with
  | empty => simpa using sound.finish rfl
  | @sent session head stamped rest free copy stamp fits =>
      obtain ⟨settled, unsettled⟩ := ledger
      obtain ⟨booked, ended, left⟩ := sound
      cases left
      have sent :=
        (Course.tracks_stamp stamp).send fits rfl (by simp [Course.fresh, maxTransmissions])
      rw [send, if_neg (Frame.ne_nil_of_encode fits)]
      refine ⟨by simpa [lead] using booked, ended, ?_⟩
      exact .line rfl sent ⟨by simp [Course.lead, Course.send], fun _ => ⟨rfl, rfl⟩, by simp⟩
  | @dropped session after head stamped rest free payload failures copy stamp unfit later ih =>
      have ends : (Course.fresh head).Ended (.failed stamped (.oversized payload)) stamped :=
        { subject := rfl
          tracks := Course.tracks_stamp stamp
          untried := fun _ => .inl ⟨payload, unfit⟩
          rejected := by simp
          expired := by simp }
      simpa using ih (sound.settle ends)

/-- Closing settles every request that nothing was transmitted of. -/
theorem Sound.close (requests : List Request)
    (sound : ledger.Sound events (requests.map Course.fresh)) :
    ((requests.map (Event.failed · .closed)).foldl Ledger.settle ledger).Sound
      (events ++ requests.map (Event.failed · .closed)) [] := by
  induction requests generalizing ledger events with
  | nil => simpa using sound
  | cons request later ih =>
      have ends : (Course.fresh request).Ended (.failed request .closed) request :=
        { subject := rfl
          tracks := Course.tracks_fresh request
          untried := fun _ => .inr rfl
          rejected := by simp
          expired := by simp }
      simpa using ih (sound.settle ends)

theorem meet_idle (steady : Steady now session) (right : ledger.Right session events)
    (idle : session.Idle stimulus) : ledger.meet stimulus = ledger := by
  cases stimulus with
  | submit request => exact absurd idle id
  | expire => rfl
  | close => rfl
  | hear decoding =>
      refine hear_eq_self fun course first => ?_
      cases decoding with
      | symbol symbol =>
          have lineup := right.lineup
          generalize ledger.unsettled = unsettled at first lineup
          cases lineup with
          | empty none => cases first
          | line line tracks leads =>
              cases first
              cases steady with
              | atRest empty => simp [empty] at line
              | underWay _ phase timer soon stamped fits =>
                  rcases phase with ⟨phase, _⟩ | ⟨phase, _⟩
                  · exact absurd phase idle
                  -- A symbol after the acknowledgement tells nothing new.
                  · exact Course.hear_of_heeded (leads.heeded phase) _
      | frame frame length => exact absurd idle id
      | needMore => exact Course.hear_of_not_heededBy rfl
      | discard length => exact Course.hear_of_not_heededBy rfl
      | corrupt length => exact Course.hear_of_not_heededBy rfl
      | unsupported length => exact Course.hear_of_not_heededBy rfl

/-- A frame tells nothing about the head unless it is the answer to a delivery. -/
theorem meet_frame (right : ledger.Right session events) {frame : Frame} (length : Nat)
    (unconcerned : ∀ head ∈ session.backlog.head?,
      ¬ (head.needsConfirmation = true ∧ relation head frame = .answer)) :
    ledger.meet (.hear (.frame frame length)) = ledger := by
  refine hear_eq_self fun course first => ?_
  have lineup := right.lineup
  generalize ledger.unsettled = unsettled at first lineup
  cases lineup with
  | empty none => cases first
  | line line tracks leads =>
      cases first
      refine Course.hear_of_not_heededBy ?_
      rw [← Bool.not_eq_true, tracks.heededBy_frame]
      exact unconcerned _ (by simp [Backlog.head?, line])

theorem meet_refusal {failure : Failure} (refusal : Refusal stimulus failure) :
    ledger.meet stimulus = ledger := by
  cases refusal with
  | nack => exact hear_eq_self fun _ _ => Course.hear_of_not_heededBy rfl
  | cancel => exact hear_eq_self fun _ _ => Course.hear_of_not_heededBy rfl
  | expiry => rfl

theorem meet_ending (right : ledger.Right session events) {head : Request} {rest : List Request}
    {event : Event Request Frame} (line : session.backlog.requests = head :: rest)
    (ending : Ending session head stimulus event) : ledger.meet stimulus = ledger := by
  cases ending with
  | exhausted phase spent refusal => exact meet_refusal refusal
  | unanswered phase => rfl
  | answered answers once =>
      refine meet_frame right _ ?_
      simp [Backlog.head?, line, once]
  | confirmed confirms =>
      refine meet_frame right _ ?_
      simp [Backlog.head?, line, confirms]

theorem Right.quiet (right : ledger.Right session events)
    (met : ledger.meet stimulus = ledger) (unsettling : ∀ event ∈ reported, settled? event = none)
    (same : after.backlog = session.backlog) :
    (ledger.book stimulus reported []).Right after (events ++ reported) := by
  have unchanged : reported.foldl settle ledger = ledger := by
    clear right
    induction reported with
    | nil => rfl
    | cons event later ih =>
        rw [List.foldl_cons, settle_unsettling (unsettling event (List.mem_cons_self ..))]
        exact ih fun event member => unsettling event (List.mem_cons_of_mem _ member)
  have none : reported.filter settles = [] := by
    rw [List.filter_eq_nil_iff]
    intro event member
    simp [settles, unsettling event member]
  rw [book, met, unchanged, send, if_pos rfl, lead_eq_self right.lineup]
  refine ⟨?_, right.ended, ?_⟩
  · rw [List.filter_append, none, List.append_nil]
    exact right.events
  · rw [same]
    exact right.lineup

/-- Books stay right when the controller is heard to have the head. -/
theorem Right.heeded (right : ledger.Right session events) {head : Request} {rest : List Request}
    (line : session.backlog.requests = head :: rest) {decoding : Decoding Frame}
    (heeded : ∀ course : Course, course.Tracks head → course.heededBy decoding = true)
    (unsettling : ∀ event ∈ reported, settled? event = none)
    (taken : after.backlog = (session.awaitCompletion now).backlog) :
    (ledger.book (.hear decoding) reported []).Right after (events ++ reported) := by
  obtain ⟨booked, ended, lineup⟩ := right
  obtain ⟨settled, unsettled⟩ := ledger
  obtain ⟨course, rfl, tracks, leads⟩ := lineup.of_line line
  have advanced : Lineup (session.awaitCompletion now).backlog
      (course.hear decoding :: rest.map Course.fresh) := by
    refine .line line (tracks.hear decoding) ⟨leads.copies, ?_, fun _ => ?_⟩
    · intro phase
      cases phase
    · simp [Course.hear, heeded course tracks]
  have heard : Ledger.Right ⟨settled, course.hear decoding :: rest.map Course.fresh⟩
      (session.awaitCompletion now) events := ⟨booked, ended, advanced⟩
  -- What is left to book is what a stimulus without an entry of its own would have booked.
  have quiet : (Ledger.book _ .expire reported []).Right after _ :=
    heard.quiet rfl unsettling taken
  exact quiet

theorem Right.repeated (right : ledger.Right session events) {head : Request}
    {rest : List Request} {failure : Failure} (line : session.backlog.requests = head :: rest)
    (phase : session.backlog.phase = .transmission)
    (spare : session.backlog.failures + 1 < maxTransmissions)
    (fits : head.frame.encode = .ok copy) (refusal : Refusal stimulus failure)
    (again : after.backlog = { session.backlog with
      failures := session.backlog.failures + 1 }.arm .transmission (now + session.ackTimeout)) :
    (ledger.book stimulus [] copy).Right after events := by
  rw [book, meet_refusal refusal, List.foldl_nil, send, if_neg (Frame.ne_nil_of_encode fits)]
  obtain ⟨booked, ended, lineup⟩ := right
  obtain ⟨settled, unsettled⟩ := ledger
  obtain ⟨course, rfl, tracks, leads⟩ := lineup.of_line line
  obtain ⟨unheeded, count⟩ := leads.spent phase
  refine ⟨booked, ended, ?_⟩
  rw [again]
  refine .line line (tracks.send fits unheeded (by omega)) ⟨?_, fun _ => ⟨unheeded, ?_⟩, ?_⟩
  · simp [Course.lead, Course.send]
  · simp [Course.lead, Course.send, Backlog.arm, count]
  · simp [Backlog.arm]

/-- Books stay right through every effect. -/
theorem right_of_effect (steady : Steady now session) (right : ledger.Right session events)
    (effect : Effect now session stimulus reported copy after) :
    (ledger.book stimulus reported copy).Right after (events ++ reported) := by
  cases effect with
  | ignored idle => exact right.quiet (meet_idle steady right idle) (by simp) rfl
  | @unsolicited frame length foreign =>
      refine right.quiet (meet_frame right length ?_) (by simp [settled?]) rfl
      intro head first
      simp [foreign head first]
  | @queued request busy =>
      obtain ⟨booked, ended, lineup⟩ := right
      obtain ⟨settled, unsettled⟩ := ledger
      obtain ⟨head, rest, line⟩ := List.exists_cons_of_ne_nil busy
      obtain ⟨course, rfl, tracks, leads⟩ := lineup.of_line line
      have longer : Lineup (session.backlog.enqueue request)
          (course :: (rest ++ [request]).map Course.fresh) :=
        .line (by rw [Backlog.requests_enqueue, line]; rfl) tracks
          ⟨leads.copies, leads.spent, leads.heeded⟩
      have entered : Ledger.Right ⟨settled, course :: (rest ++ [request]).map Course.fresh⟩
          { session with backlog := session.backlog.enqueue request } events :=
        ⟨booked, ended, longer⟩
      -- As above, the entry is made and the rest books nothing.
      have quiet : (Ledger.book _ .expire [] []).Right _ (events ++ []) :=
        entered.quiet rfl (by simp) rfl
      simpa [book, meet, enter] using quiet
  | @begun request failures copy after empty passage =>
      have none := right.lineup.of_empty (by rw [empty])
      refine right_of_passage passage ⟨right.events, right.ended, ?_⟩
      simp [meet, enter, none]
  | acknowledged phase =>
      obtain ⟨head, rest, copy, line, stamped, fits⟩ := steady.head (by rw [phase]; simp)
      exact right.heeded line (fun _ _ => rfl) (by simp) rfl
  | @answered head rest frame length line answers twice =>
      refine right.heeded line (fun course tracks => ?_) (by simp [settled?, twice]) rfl
      exact (tracks.heededBy_frame frame length).mpr ⟨twice, answers⟩
  | @repeated head rest copy stimulus failure line phase spare stamped fits refusal =>
      rw [List.append_nil]
      exact right.repeated line phase spare fits refusal rfl
  | @finished head rest stimulus event failures copy after line ending passage =>
      rw [book, meet_ending right line ending, List.foldl_cons]
      obtain ⟨course, left, tracks, leads⟩ := right.lineup.of_line line
      have sound := right.sound
      rw [left] at sound
      have settled := sound.settle (Course.ended_of_ending tracks leads ending)
      simpa using right_of_passage passage settled
  | closed =>
      rw [book, show ledger.meet .close = ledger from rfl]
      refine Sound.finish ?_ rfl
      have sound := right.sound
      cases line : session.backlog.requests with
      | nil =>
          rw [right.lineup.of_empty line] at sound
          exact sound.close []
      | cons head rest =>
          obtain ⟨course, left, tracks, leads⟩ := right.lineup.of_line line
          rw [left] at sound
          have ends : course.Ended (.failed head .closed) head :=
            ⟨rfl, tracks, fun none => absurd none leads.copies, by simp, by simp⟩
          simpa using (sound.settle ends).close rest

theorem courses_settle (ledger : Ledger) (event : Event Request Frame) :
    (ledger.settle event).courses = ledger.courses := by
  obtain ⟨settled, unsettled⟩ := ledger
  cases subject : settled? event with
  | none => rw [settle_unsettling subject]
  | some request =>
      cases unsettled with
      | nil => simp [settle, subject]
      | cons course later => simp [settle, subject, courses]

theorem courses_foldl_settle (ledger : Ledger) (reported : List (Event Request Frame)) :
    (reported.foldl settle ledger).courses = ledger.courses := by
  induction reported generalizing ledger with
  | nil => rfl
  | cons event later ih => rw [List.foldl_cons, ih, courses_settle]

/-- Changing the first course changes nothing that the change leaves alone. -/
theorem map_modifyHead_eq {β : Type} (view : Course → β) (change : Course → Course)
    (kept : ∀ course, view (change course) = view course) (courses : List Course) :
    (courses.modifyHead change).map view = courses.map view := by
  cases courses with
  | nil => rfl
  | cons course later => simp [kept]

theorem map_lead {β : Type} (view : Course → β)
    (kept : ∀ course : Course, view course.lead = view course) (ledger : Ledger) :
    ledger.lead.courses.map view = ledger.courses.map view := by
  simp only [courses, lead, List.map_append, map_modifyHead_eq view Course.lead kept]

theorem map_hear {β : Type} (view : Course → β) (decoding : Decoding Frame)
    (kept : ∀ course : Course, view (course.hear decoding) = view course) (ledger : Ledger) :
    (ledger.hear decoding).courses.map view = ledger.courses.map view := by
  simp only [courses, hear, List.map_append, map_modifyHead_eq view (·.hear decoding) kept]

/-- A booking enters exactly the request put in line. -/
theorem requests_book (ledger : Ledger) (stimulus : Stimulus)
    (reported : List (Event Request Frame)) (copy : Bytes) :
    (ledger.book stimulus reported copy).courses.map (·.request) =
      ledger.courses.map (·.request) ++ stimulus.submitted?.toList := by
  have sent : ∀ ledger : Ledger, (ledger.send copy).courses.map (·.request) =
      ledger.courses.map (·.request) := by
    intro ledger
    unfold send
    split
    · rfl
    · simp only [courses, List.map_append,
        map_modifyHead_eq Course.request (·.send copy) fun _ => rfl]
  rw [book, map_lead Course.request fun _ => rfl, sent, courses_foldl_settle]
  cases stimulus with
  | submit request => simp [meet, enter, courses, Course.fresh, Stimulus.submitted?]
  | hear decoding =>
      rw [meet, map_hear Course.request decoding fun _ => rfl]
      simp [Stimulus.submitted?]
  | expire => simp [meet, Stimulus.submitted?]
  | close => simp [meet, Stimulus.submitted?]

theorem copies_fresh (requests : List Request) :
    (requests.map Course.fresh).flatMap (·.copies) = [] := by
  simp [Course.fresh]

/-- A booking enters the copy behind all earlier ones, since no request behind the head has any. -/
theorem copies_book (right : (ledger.book stimulus reported copy).Right after events)
    (sent : copy ≠ [] → after.backlog.requests ≠ []) :
    (ledger.book stimulus reported copy).courses.flatMap (·.copies) =
      ledger.courses.flatMap (·.copies) ++ if copy = [] then [] else [copy] := by
  have before : (reported.foldl settle (ledger.meet stimulus)).courses.flatMap (·.copies) =
      ledger.courses.flatMap (·.copies) := by
    rw [courses_foldl_settle]
    cases stimulus with
    | submit request => simp [meet, enter, courses, Course.fresh]
    | hear decoding =>
        rw [meet, List.flatMap_def, map_hear Course.copies decoding fun _ => rfl,
          ← List.flatMap_def]
    | expire => rfl
    | close => rfl
  rw [← before]
  unfold book at right ⊢
  generalize reported.foldl settle (ledger.meet stimulus) = booked at right
  obtain ⟨settled, unsettled⟩ := booked
  by_cases none : copy = []
  · rw [if_pos none, send, if_pos none, List.append_nil, List.flatMap_def,
      map_lead Course.copies fun _ => rfl, ← List.flatMap_def]
  · obtain ⟨_, _, lineup⟩ := right
    rw [if_neg none]
    rw [send, if_neg none] at lineup ⊢
    cases unsettled with
    | nil =>
        cases lineup with
        | empty noRequests => exact absurd noRequests (sent none)
    | cons course later =>
        cases lineup with
        | line line tracks leads =>
            simp [courses, lead, Course.lead, Course.send, copies_fresh]

end Ledger

/-! ## Runs -/

namespace Run

open Session

/-- The ledger of a run that has seen everything. -/
structure Booked (run : Run) : Prop where
  right : (Ledger.ofHistory run.history).Right run.session (run.history.flatMap Reaction.reported)
  requests : (Ledger.ofHistory run.history).courses.map (·.request) = run.submitted
  copies : (Ledger.ofHistory run.history).courses.flatMap (·.copies) = transmissions run.history

theorem booked_react {run : Run} {stimulus : Stimulus} {reported : List (Event Request Frame)}
    {copy : Bytes} (steady : Steady run.now run.session)
    (effect : Effect run.now run.session stimulus reported copy (run.react stimulus).session)
    (booked : Booked run) : Booked (run.react stimulus) := by
  have appends := appends_of_effect effect
  have sameReported : Reaction.reported ⟨run.now, run.session, stimulus⟩ = reported :=
    Reaction.reported_eq appends
  have sameCopy : Reaction.transmission ⟨run.now, run.session, stimulus⟩ = copy :=
    Reaction.transmission_eq appends
  have history : (run.react stimulus).history =
      run.history ++ [⟨run.now, run.session, stimulus⟩] := rfl
  have ledger : Ledger.ofHistory (run.react stimulus).history =
      (Ledger.ofHistory run.history).book stimulus reported copy := by
    rw [history, Ledger.ofHistory, List.foldl_append, List.foldl_cons, List.foldl_nil,
      Ledger.observe, sameReported, sameCopy]
    rfl
  have right := Ledger.right_of_effect steady booked.right effect
  refine ⟨?_, ?_, ?_⟩
  · rw [ledger, history, List.flatMap_append, List.flatMap_singleton, sameReported]
    exact right
  · rw [ledger, Ledger.requests_book, booked.requests, submitted_react]
  · rw [ledger, Ledger.copies_book right, booked.copies, history]
    · simp only [transmissions, List.map_append, List.filter_append, List.map_singleton, sameCopy]
      by_cases none : copy = [] <;> simp [none]
    · intro sent
      rcases sent_of_effect effect with none | ⟨head, first, _⟩
      · exact absurd none sent
      · intro empty
        simp [Backlog.head?, empty] at first

theorem booked_follow (ackTimeout answerTimeout : Nat) (actions : List Action) :
    Booked ((start ackTimeout answerTimeout).follow actions) := by
  refine always_effect Booked ackTimeout answerTimeout ?_ ?_ ?_ ?_ ?_ ?_ actions
  · exact ⟨⟨rfl, fun entry none => absurd none List.not_mem_nil, .empty rfl⟩, rfl, rfl⟩
  · exact fun run stimulus reported copy steady effect booked => booked_react steady effect booked
  · exact fun _ _ ⟨⟨events, ended, lineup⟩, requests, copies⟩ =>
      ⟨⟨events, ended, lineup⟩, requests, copies⟩
  · exact fun _ ⟨⟨events, ended, lineup⟩, requests, copies⟩ =>
      ⟨⟨events, ended, lineup⟩, requests, copies⟩
  · exact fun _ ⟨⟨events, ended, lineup⟩, requests, copies⟩ =>
      ⟨⟨events, ended, lineup⟩, requests, copies⟩
  · exact fun _ _ booked => ⟨booked.right, booked.requests, booked.copies⟩

/-- What a run writes until it is closed are its replies and, in the order of the requests, at most
three identical copies of the frame of each. None is late. A request has none if no frame can hold
it, if it was closed before its turn, or if it is not the head yet. It has all three when it fails by
refusal, or by expiry with no sign that the controller has it. -/
theorem retry_budget (ackTimeout answerTimeout : Nat) (actions : List Action) :
    let run := (start ackTimeout answerTimeout).follow actions
    let ledger := Ledger.ofHistory run.history
    Reaches { ackTimeout, answerTimeout } run.history run.session ∧
    (.operate .close ∉ actions → run.output = run.history.flatMap Reaction.written) ∧
    (∀ reaction ∈ run.history, Appends reaction.before reaction.stimulus reaction.after
      reaction.reported reaction.transmission) ∧
    ledger.courses.map (·.request) = actions.filterMap Action.submitted? ∧
    ledger.settled.map (·.2) = run.events.filter settles ∧
    transmissions run.history = ledger.courses.flatMap (·.copies) ∧
    (∀ entry ∈ ledger.settled, ∃ request, entry.1.Ended entry.2 request) ∧
    List.Forall₂ Course.Tracks ledger.unsettled run.session.backlog.requests ∧
    (∀ course ∈ ledger.unsettled.head?, course.copies ≠ []) ∧
    ∀ course ∈ ledger.unsettled.tail, course.copies = [] := by
  intro run ledger
  obtain ⟨⟨events, ended, lineup⟩, requests, copies⟩ :=
    booked_follow ackTimeout answerTimeout actions
  refine ⟨reaches_follow ackTimeout answerTimeout actions,
    output_follow ackTimeout answerTimeout actions, ?_, ?_, ?_, copies.symm, ended, ?_⟩
  · intro reaction member
    have timed := (timed_follow ackTimeout answerTimeout actions).2 reaction member
    exact appends_of_effect (reaction.effect timed.steady)
  · rw [requests, submitted_follow]
    rfl
  · rw [events, ← events_follow]
  · change Lineup run.session.backlog ledger.unsettled at lineup
    generalize ledger.unsettled = unsettled at lineup
    cases lineup with
    | empty none =>
        rw [none]
        exact ⟨.nil, by simp, by simp⟩
    | @line head rest course line tracks leads =>
        rw [line]
        have waiting : List.Forall₂ Course.Tracks (rest.map Course.fresh) rest := by
          rw [List.forall₂_map_left_iff, List.forall₂_same]
          exact fun request _ => Course.tracks_fresh request
        refine ⟨.cons tracks waiting, ?_, ?_⟩
        · intro first same
          cases same
          exact leads.copies
        · intro later member
          obtain ⟨request, _, rfl⟩ := List.mem_map.mp member
          rfl

end Run

end RadioGateway.ZWave
