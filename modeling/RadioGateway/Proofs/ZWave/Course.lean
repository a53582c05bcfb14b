import RadioGateway.Proofs.ZWave.Conservation

/-!
# The course of a request

An observer of a session books for each request the copies of its frame and whether the controller
was heard to have it. The statements here say when these books are right about a request in line,
about one that an event settled, and about the head.
-/

namespace RadioGateway.ZWave

open RadioGateway.Link

structure Course where
  request : Request
  /-- Whether it was the first of the unsettled requests after some reaction. -/
  led : Bool := false
  copies : List Bytes := []
  /-- Whether the controller was heard to have it while it was the first. -/
  heeded : Bool := false
  late : Nat := 0
  deriving DecidableEq, Repr

namespace Course

def fresh (request : Request) : Course := { request }

/-- Whether a decoding tells that the controller has the request: an acknowledgement, or for a
delivery a response of its function. -/
def heededBy (course : Course) : Decoding Frame → Bool
  | .symbol symbol => symbol = .ack
  | .frame frame _ => course.request.needsConfirmation && frame.kind = .response &&
      frame.function = course.request.function
  | _ => false

def hear (course : Course) (decoding : Decoding Frame) : Course :=
  { course with heeded := course.heeded || course.heededBy decoding }

def send (course : Course) (copy : Bytes) : Course :=
  { course with
    copies := course.copies ++ [copy]
    late := if course.heeded then course.late + 1 else course.late }

def lead (course : Course) : Course := { course with led := true }

/-- The books on a request, as it is after it may have been given a ticket. -/
structure Tracks (course : Course) (request : Request) : Prop where
  same : request.withoutTicket = course.request.withoutTicket
  led : course.led = true ↔ course.copies ≠ []
  copies : ∀ copy ∈ course.copies, request.frame.encode = .ok copy
  few : course.copies.length ≤ maxTransmissions
  late : course.late = 0

/-- The books on a request that an event settled. -/
structure Ended (course : Course) (event : Event Request Frame) (request : Request) : Prop where
  subject : settled? event = some request
  tracks : course.Tracks request
  untried : course.copies = [] → (∃ payload, request.frame.encode = .error payload) ∨
    event = .failed request .closed
  rejected : event = .failed request .rejected → course.copies.length = maxTransmissions
  expired : event = .failed request .expired → course.heeded = false →
    course.copies.length = maxTransmissions

/-- The books on the head, which is waited for as the backlog says. -/
structure Leads (course : Course) (backlog : Backlog Request) : Prop where
  copies : course.copies ≠ []
  spent : backlog.phase = .transmission →
    course.heeded = false ∧ course.copies.length = backlog.failures + 1
  heeded : backlog.phase = .completion → course.heeded = true

theorem tracks_fresh (request : Request) : (fresh request).Tracks request :=
  ⟨rfl, by simp [fresh], by simp [fresh], Nat.zero_le _, rfl⟩

theorem tracks_stamp {free next : Byte} {request stamped : Request}
    (stamp : request.stamp free = (stamped, next)) : (fresh request).Tracks stamped := by
  have same := (Request.of_stamp stamp).1
  exact { tracks_fresh request with same, copies := by simp [fresh] }

end Course

/-- The books on the requests in line: the first is under way and the others are untouched. -/
inductive Lineup (backlog : Backlog Request) : List Course → Prop where
  | empty (none : backlog.requests = []) : Lineup backlog []
  | line {head : Request} {rest : List Request} {course : Course}
      (line : backlog.requests = head :: rest) (tracks : course.Tracks head)
      (leads : course.Leads backlog) : Lineup backlog (course :: rest.map Course.fresh)

theorem Lineup.of_line {backlog : Backlog Request} {courses : List Course} {head : Request}
    {rest : List Request} (lineup : Lineup backlog courses)
    (line : backlog.requests = head :: rest) :
    ∃ course, courses = course :: rest.map Course.fresh ∧ course.Tracks head ∧
      course.Leads backlog := by
  cases lineup with
  | empty none =>
      rw [line] at none
      cases none
  | line inLine tracks leads =>
      rw [line] at inLine
      cases inLine
      exact ⟨_, rfl, tracks, leads⟩

theorem Lineup.of_empty {backlog : Backlog Request} {courses : List Course}
    (lineup : Lineup backlog courses) (empty : backlog.requests = []) : courses = [] := by
  cases lineup with
  | empty none => rfl
  | line line tracks leads =>
      rw [empty] at line
      cases line

namespace Course

variable {course : Course} {request : Request}

theorem Tracks.hear (tracks : course.Tracks request) (decoding : Decoding Frame) :
    (course.hear decoding).Tracks request :=
  ⟨tracks.same, tracks.led, tracks.copies, tracks.few, tracks.late⟩

/-- A first copy, or one more while there is no acknowledgement, keeps the books on a request. -/
theorem Tracks.send {copy : Bytes} (tracks : course.Tracks request)
    (fits : request.frame.encode = .ok copy) (unheeded : course.heeded = false)
    (spare : course.copies.length < maxTransmissions) :
    (course.send copy).lead.Tracks request := by
  refine ⟨tracks.same, by simp [lead, Course.send], ?_, ?_, ?_⟩
  · intro booked member
    simp only [lead, Course.send, List.mem_append, List.mem_singleton] at member
    rcases member with earlier | rfl
    · exact tracks.copies booked earlier
    · exact fits
  · simp only [lead, Course.send, List.length_append, List.length_singleton]
    omega
  · simp [lead, Course.send, unheeded, tracks.late]

theorem hear_of_heeded (heeded : course.heeded = true) (decoding : Decoding Frame) :
    course.hear decoding = course := by
  cases course
  simp only [hear] at *
  simp [heeded]

theorem hear_of_not_heededBy {decoding : Decoding Frame}
    (unconcerned : course.heededBy decoding = false) : course.hear decoding = course := by
  cases course
  simp only [hear, unconcerned, Bool.or_false]

/-- Of the frames, only the answer to a delivery tells that the controller has it. -/
theorem Tracks.heededBy_frame (tracks : course.Tracks request) (frame : Frame) (length : Nat) :
    course.heededBy (.frame frame length) = true ↔
      request.needsConfirmation = true ∧ Session.relation request frame = .answer := by
  obtain ⟨function, needs⟩ := Request.function_eq tracks.same
  rw [Session.relation_eq_answer_iff, function, needs]
  simp only [heededBy, Bool.and_eq_true, decide_eq_true_eq]
  constructor
  · rintro ⟨⟨delivery, response⟩, same⟩
    exact ⟨delivery, same, response⟩
  · rintro ⟨delivery, same, response⟩
    exact ⟨⟨delivery, response⟩, same⟩

/-- The head ends with all its copies spent, unless the controller was heard to have it. -/
theorem ended_of_ending {session : Session} {stimulus : Session.Stimulus} {head : Request}
    {event : Event Request Frame} (tracks : course.Tracks head)
    (leads : course.Leads session.backlog)
    (ending : Session.Ending session head stimulus event) : course.Ended event head := by
  have allSpent : session.backlog.phase = .transmission →
      maxTransmissions ≤ session.backlog.failures + 1 →
      course.copies.length = maxTransmissions := by
    intro phase spent
    obtain ⟨_, count⟩ := leads.spent phase
    exact Nat.le_antisymm tracks.few (count ▸ spent)
  refine ⟨Session.settled?_of_ending ending, tracks, fun none => absurd none leads.copies, ?_, ?_⟩
  · rintro rfl
    cases ending with
    | exhausted phase spent refusal => exact allSpent phase spent
  · rintro rfl unheeded
    cases ending with
    | exhausted phase spent refusal => exact allSpent phase spent
    | unanswered phase =>
        rw [leads.heeded phase] at unheeded
        cases unheeded

end Course

end RadioGateway.ZWave
