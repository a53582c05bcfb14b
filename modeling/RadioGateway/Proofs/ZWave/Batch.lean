import RadioGateway.Proofs.ZWave.Acknowledgement
import RadioGateway.Proofs.ZWave.Reception
import RadioGateway.Proofs.ZWave.Watched

/-!
# Reports in batches

Nodes report by themselves, and a read may bring any number of their reports, cut anywhere. The
session hands all reports of a read on before the network acts on the first of them. But a report
leaves the line of requests as it is, and what the network asks for depends on the nodes alone. So
the requests are put in line in the same order, whether each report was read by itself or all of
them at once.
-/

namespace RadioGateway.ZWave

open RadioGateway.Link

/-- A frame by which a node reports something, with its wire form: a command or an announcement,
whatever its payload. -/
structure Report where
  frame : Frame
  bytes : Bytes
  request : frame.kind = .request
  unasked : frame.function = Function.commandReceived ∨ frame.function = Function.nodeAnnounced
  encoded : frame.encode = .ok bytes

namespace Report

def decoding (report : Report) : Decoding Frame := .frame report.frame report.bytes.length

def event (report : Report) : Event Request Frame := .unsolicited report.frame

def stream (reports : List Report) : Bytes := reports.flatMap Report.bytes

theorem spells_stream (reports : List Report) :
    Spells Frame.decode (reports.map decoding) (stream reports) := by
  induction reports with
  | nil => exact .nil
  | cons report later ih => exact (Frame.spells_frame report.encoded).append ih

theorem filterMap_failure? (reports : List Report) :
    (reports.map event).filterMap failure? = [] := by
  rw [List.filterMap_map]
  exact List.filterMap_eq_nil_iff.mpr fun _ _ => rfl

end Report

/-- Bytes in which the controller reads a number of acknowledgements, no other symbol, and certain
frames in their order. -/
def Writes (written : Bytes) (acknowledgements : Nat) (frames : List Frame) : Prop :=
  ∃ records, Spells Frame.decode records written ∧
    records.filterMap Decoding.symbol? = .replicate acknowledgements .ack ∧
    records.filterMap Decoding.frame? = frames

namespace Writes

variable {written more : Bytes} {count others : Nat} {frames later : List Frame}

theorem nil : Writes [] 0 [] := ⟨[], .nil, rfl, rfl⟩

theorem append (writes : Writes written count frames) (also : Writes more others later) :
    Writes (written ++ more) (count + others) (frames ++ later) := by
  obtain ⟨records, spells, symbols, read⟩ := writes
  obtain ⟨further, spelled, moreSymbols, moreRead⟩ := also
  refine ⟨records ++ further, spells.append spelled, ?_, ?_⟩
  · rw [List.filterMap_append, symbols, moreSymbols, List.replicate_append_replicate]
  · rw [List.filterMap_append, read, moreRead]

theorem acknowledgements (count : Nat) :
    Writes (.replicate count (Frame.symbolByte .ack)) count [] := by
  induction count with
  | zero => exact nil
  | succ count ih =>
      have one : Writes [Frame.symbolByte .ack] 1 [] := ⟨_, Frame.spells_symbol .ack, rfl, rfl⟩
      rw [Nat.add_comm, ← List.replicate_append_replicate]
      exact one.append ih

theorem frame {frame : Frame} (encoded : frame.encode = .ok written) : Writes written 0 [frame] :=
  ⟨_, Frame.spells_frame encoded, rfl, rfl⟩

/-- What is read, into whatever pieces the bytes are cut. -/
theorem feed (writes : Writes written count frames) {pieces : List Bytes}
    (whole : pieces.flatten = written) :
    (feed Frame.decode [] pieces).2 = [] ∧
      (feed Frame.decode [] pieces).1.filterMap Decoding.symbol? = .replicate count .ack ∧
      (feed Frame.decode [] pieces).1.filterMap Decoding.frame? = frames := by
  obtain ⟨records, spells, symbols, read⟩ := writes
  rw [spells.feed_eq Frame.incremental_decode whole rfl]
  exact ⟨rfl, symbols, read⟩

/-- The same bytes are not read as other frames. -/
theorem frames_eq (writes : Writes written count frames) (also : Writes written others later) :
    frames = later := by
  have whole : [written].flatten = written := List.append_nil written
  obtain ⟨_, _, read⟩ := writes.feed whole
  obtain ⟨_, _, again⟩ := also.feed whole
  exact read.symm.trans again

end Writes

/-! ## The line of requests -/

namespace Session

variable (now : Nat) (session : Session)

/-- A session without the bytes that wait to be read and written, and without events: all that
decides what becomes of a request. -/
def line : Session := { session with received := [], output := [], events := [] }

def behind (output : Bytes) (events : List (Event Request Frame)) (received : Bytes) : Session :=
  { session with received, output := output ++ session.output, events := events ++ session.events }

theorem line_behind (output : Bytes) (events : List (Event Request Frame)) (received : Bytes) :
    (session.behind output events received).line = session.line := rfl

theorem behind_line :
    session.line.behind session.output session.events session.received = session := by
  simp [behind, line]

section Behind

variable (output : Bytes) (events : List (Event Request Frame)) (received : Bytes)

theorem transmitFrom_behind (requests : List Request) :
    (session.behind output events received).transmitFrom now requests =
      (session.transmitFrom now requests).behind output events received := by
  induction requests generalizing session with
  | nil => rfl
  | cons head rest ih =>
      unfold transmitFrom
      cases encoded : (head.stamp session.freeTicket).1.frame.encode with
      | ok bytes => simp [behind, encoded]
      | error payload =>
          have later := ih (({ session with
            freeTicket := (head.stamp session.freeTicket).2
            backlog := {} } : Session).emit
              (.failed (head.stamp session.freeTicket).1 (.oversized payload)))
          simpa [behind, emit, encoded] using later

theorem submit_behind (request : Request) :
    (session.behind output events received).submit now request =
      (session.submit now request).behind output events received := by
  have waiting : (session.behind output events received).backlog = session.backlog := rfl
  unfold submit
  rw [waiting]
  dsimp only
  split
  · exact transmitFrom_behind now { session with backlog := session.backlog.enqueue request } output
      events received _
  · rfl

/-- What waits to be read, written or handled has no part in what becomes of requests. -/
theorem submitAll_behind (requests : List Request) :
    (session.behind output events received).submitAll now requests =
      (session.submitAll now requests).behind output events received := by
  induction requests generalizing session with
  | nil => rfl
  | cons request later ih =>
      have first := submit_behind now session output events received request
      exact (congrArg (submitAll now · later) first).trans (ih (session.submit now request))

end Behind

theorem writes_transmitFrom (requests : List Request) :
    ∃ written frames, (session.transmitFrom now requests).output = session.output ++ written ∧
      Writes written 0 frames := by
  induction requests generalizing session with
  | nil => exact ⟨[], [], (List.append_nil _).symm, .nil⟩
  | cons head rest ih =>
      unfold transmitFrom
      dsimp only
      split
      · rename_i bytes encoded
        exact ⟨bytes, _, rfl, .frame encoded⟩
      · exact ih _

theorem writes_submitAll (requests : List Request) :
    ∃ written frames, (session.submitAll now requests).output = session.output ++ written ∧
      Writes written 0 frames := by
  induction requests generalizing session with
  | nil => exact ⟨[], [], (List.append_nil _).symm, .nil⟩
  | cons request later ih =>
      obtain ⟨first, frames, begun, writes⟩ :
          ∃ written frames, (session.submit now request).output = session.output ++ written ∧
            Writes written 0 frames := by
        unfold submit
        dsimp only
        split
        · exact writes_transmitFrom now _ _
        · exact ⟨[], [], (List.append_nil _).symm, .nil⟩
      obtain ⟨second, further, done, also⟩ := ih (session.submit now request)
      refine ⟨first ++ second, frames ++ further, ?_, writes.append also⟩
      rw [← List.append_assoc, ← begun]
      exact done

/-- To hear reports is to acknowledge each of them and to hand them on. -/
theorem foldl_onDecoding_reports (reports : List Report) :
    (reports.map Report.decoding).foldl (onDecoding now) session =
      { session with
        output := session.output ++ .replicate reports.length (Frame.symbolByte .ack)
        events := session.events ++ reports.map Report.event } := by
  induction reports generalizing session with
  | nil => simp
  | cons report later ih =>
      have first : session.onDecoding now report.decoding =
          (session.write [Frame.symbolByte .ack]).emit report.event :=
        onFrame_of_unasked report.unasked now _
      rw [List.map_cons, List.foldl_cons, first, ih]
      simp [write, emit, List.replicate_succ]

end Session

namespace Directory

theorem demands_append (controller : Byte) (directory : Directory)
    (events later : List (Event Request Frame)) :
    directory.demands controller (events ++ later) =
      directory.demands controller events ++
        ((events.filterMap Influence.ofEvent?).foldl heed directory).demands controller later := by
  induction events generalizing directory with
  | nil => rfl
  | cons event others ih =>
      rw [List.cons_append, demands, demands, ih, List.append_assoc]
      cases told : Influence.ofEvent? event <;> simp [told]

end Directory

/-! ## Networks -/

namespace Network

variable {now : Nat} {before between after : Network} {reports later : List Report}

def receiveAll (now : Nat) (network : Network) (pieces : List Bytes) : Network :=
  pieces.foldl (fun network piece => network.receive now piece) network

/-- The line of requests to which reports lead, with what is written and what fails on the way. -/
def answer (now : Nat) (network : Network) (reports : List Report) : Session :=
  network.session.line.submitAll now
    (network.directory.demands network.controller (reports.map Report.event))

/-- What becomes of a network that hears reports. How they were read does not matter for it, except
that acknowledgements and frames may come in another order. -/
structure Attends (now : Nat) (before : Network) (reports : List Report) (after : Network) :
    Prop where
  directory : after.directory =
    ((reports.map Report.event).filterMap Influence.ofEvent?).foldl Directory.heed before.directory
  line : after.session.line = (before.answer now reports).line
  quiet : after.session.events = []
  controller : after.controller = before.controller
  alarms : after.alarms =
    before.alarms ++ (before.answer now reports).events.filterMap failure?
  output : ∃ written frames, after.session.output = before.session.output ++ written ∧
    Writes (before.answer now reports).output 0 frames ∧ Writes written reports.length frames

theorem received_answer (now : Nat) (network : Network) (reports : List Report) :
    (network.answer now reports).received = [] :=
  Session.received_submitAll ..

/-- Later reports find the nodes and the line of requests as the earlier ones have left them. -/
theorem answer_append (attends : Attends now before reports between) :
    before.answer now (reports ++ later) =
      (between.answer now later).behind (before.answer now reports).output
        (before.answer now reports).events [] := by
  have earlier : between.session.line.behind (before.answer now reports).output
      (before.answer now reports).events [] = before.answer now reports := by
    rw [attends.line, ← received_answer now before reports]
    exact Session.behind_line _
  calc before.answer now (reports ++ later)
      = (before.answer now reports).submitAll now
          (between.directory.demands between.controller (later.map Report.event)) := by
        rw [attends.directory, attends.controller, answer, List.map_append,
          Directory.demands_append, Session.submitAll_append]
        rfl
    _ = (between.session.line.behind (before.answer now reports).output
          (before.answer now reports).events []).submitAll now
            (between.directory.demands between.controller (later.map Report.event)) := by
        rw [earlier]
    _ = _ := Session.submitAll_behind ..

namespace Attends

theorem refl (now : Nat) (quiet : before.session.events = []) : Attends now before [] before where
  directory := rfl
  line := rfl
  quiet := quiet
  controller := rfl
  alarms := (List.append_nil _).symm
  output := ⟨[], [], (List.append_nil _).symm, .nil, .nil⟩

theorem trans (first : Attends now before reports between)
    (second : Attends now between later after) : Attends now before (reports ++ later) after where
  directory := by
    rw [second.directory, first.directory, List.map_append, List.filterMap_append,
      List.foldl_append]
  line := by rw [second.line, answer_append first, Session.line_behind]
  quiet := second.quiet
  controller := second.controller.trans first.controller
  alarms := by
    rw [second.alarms, first.alarms, answer_append first, Session.behind, List.filterMap_append,
      List.append_assoc]
  output := by
    obtain ⟨written, frames, output, sent, writes⟩ := first.output
    obtain ⟨more, further, outputs, sends, also⟩ := second.output
    refine ⟨written ++ more, frames ++ further, ?_, ?_, ?_⟩
    · rw [outputs, output, List.append_assoc]
    · rw [answer_append first]
      exact sent.append sends
    · rw [List.length_append]
      exact writes.append also

theorem receive {network : Network} (quiet : network.session.events = []) {piece rest : Bytes}
    (reads : drain Frame.decode (network.session.received ++ piece) =
      (reports.map Report.decoding, rest)) :
    Attends now network reports (network.receive now piece) ∧
      (network.receive now piece).session.received = rest := by
  let acknowledgements := List.replicate reports.length (Frame.symbolByte .ack)
  let heard : Network := { network with
    session := { network.session with
      output := network.session.output ++ acknowledgements
      events := reports.map Report.event
      received := rest } }
  have received : network.receive now piece = heard.settle now := by
    rw [Network.receive, Session.receive, reads]
    dsimp only
    rw [Session.foldl_onDecoding_reports, quiet, List.nil_append]
  -- What is handled besides the reports are failures of the requests to which they lead.
  have answered : (heard.handleEvents now).session =
      (network.answer now reports).behind (network.session.output ++ acknowledgements) [] rest := by
    have split : { heard.session with events := [] } =
        network.session.line.behind (network.session.output ++ acknowledgements) [] rest := by
      simp [heard, Session.behind, Session.line]
    rw [handleEvents_eq, split]
    exact Session.submitAll_behind ..
  have handled : heard.handled now =
      reports.map Report.event ++ (network.answer now reports).events := by
    rw [Network.handled, answered]
    rfl
  have failures := failures_handleEvents now heard
  rw [Session.OnlyFailures, answered] at failures
  have silent := (Directory.demands_of_failures network.controller network.directory failures).2
  rw [received, settle_eq, handled, answered]
  refine ⟨⟨?_, rfl, rfl, rfl, ?_, ?_⟩, rfl⟩
  · dsimp only
    rw [List.filterMap_append, List.foldl_append]
    exact congrArg (List.foldl Directory.heed _) silent
  · dsimp only
    rw [List.filterMap_append, Report.filterMap_failure?]
    rfl
  · obtain ⟨written, frames, output, writes⟩ :=
      Session.writes_submitAll now network.session.line
        (network.directory.demands network.controller (reports.map Report.event))
    have sent : Writes (network.answer now reports).output 0 frames := by
      rw [answer, output]
      exact writes
    refine ⟨acknowledgements ++ (network.answer now reports).output, frames, ?_, sent, ?_⟩
    · exact List.append_assoc ..
    · exact (Writes.acknowledgements reports.length).append sent

theorem receiveAll {network : Network} {pieces : List Bytes} (quiet : network.session.events = [])
    (stuck : Frame.decode network.session.received = .needMore)
    (spells : Spells Frame.decode (reports.map Report.decoding)
      (network.session.received ++ pieces.flatten)) :
    Attends now network reports (network.receiveAll now pieces) ∧
      (network.receiveAll now pieces).session.received = [] := by
  induction pieces generalizing network reports with
  | nil =>
      rw [List.flatten_nil, List.append_nil] at spells
      obtain ⟨none, clean⟩ := spells.eq_nil Frame.incremental_decode stuck
      rw [List.map_eq_nil_iff] at none
      subst none
      exact ⟨refl now quiet, clean⟩
  | cons piece pieces ih =>
      rw [List.flatten_cons, ← List.append_assoc] at spells
      obtain ⟨later, split, rest, stuck⟩ := spells.drain_prefix Frame.incremental_decode rfl
      obtain ⟨first, others, rfl, begun, rfl⟩ := List.map_eq_append_iff.mp split
      have reads : drain Frame.decode (network.session.received ++ piece) =
          (first.map Report.decoding,
            (drain Frame.decode (network.session.received ++ piece)).2) := by
        rw [begun]
      obtain ⟨attends, received⟩ := receive quiet reads
      rw [← received] at rest stuck
      obtain ⟨attended, done⟩ := ih attends.quiet stuck rest
      exact ⟨attends.trans attended, done⟩

end Attends

end Network

namespace Watched

/-- However a stream of reports is cut into pieces that are read at one time, the nodes end up the
same, and so do the requests in line with their tickets, their failed transmissions, what the head
waits for and until when. The failures reported are the same, nothing is left over, and the
controller reads one acknowledgement for each report and the same frames in the same order. -/
theorem cuts_of_reports_do_not_matter (ackTimeout answerTimeout : Nat) (controller : Byte)
    (schedule : List (Nat × Network.Operation)) (now : Nat) (reports : List Report)
    {left right : List Bytes} :
    let network := ((start ackTimeout answerTimeout controller).follow schedule).network
    network.session.received = [] →
    left.flatten = Report.stream reports → right.flatten = Report.stream reports →
    let first := network.receiveAll now left
    let second := network.receiveAll now right
    first.directory = second.directory ∧
    first.session.backlog = second.session.backlog ∧
    first.session.freeTicket = second.session.freeTicket ∧
    first.alarms = second.alarms ∧
    (first.session.received = [] ∧ second.session.received = []) ∧
    (first.session.events = [] ∧ second.session.events = []) ∧
    ∃ written other, first.session.output = network.session.output ++ written ∧
      second.session.output = network.session.output ++ other ∧
      ∀ pieces others, pieces.flatten = written → others.flatten = other →
        let read := feed Frame.decode [] pieces
        let also := feed Frame.decode [] others
        (read.2 = [] ∧ also.2 = []) ∧
        (read.1.filterMap Decoding.symbol? = .replicate reports.length .ack ∧
          also.1.filterMap Decoding.symbol? = .replicate reports.length .ack) ∧
        read.1.filterMap Decoding.frame? = also.1.filterMap Decoding.frame? := by
  intro network clean leftCut rightCut first second
  have quiet : network.session.events = [] :=
    (faithful_follow ackTimeout answerTimeout controller schedule).quiet
  have attends {pieces : List Bytes} (cut : pieces.flatten = Report.stream reports) :
      Network.Attends now network reports (network.receiveAll now pieces) ∧
        (network.receiveAll now pieces).session.received = [] := by
    refine Network.Attends.receiveAll quiet ?_ ?_
    · rw [clean]
      exact Frame.incremental_decode.decode_nil
    · rw [clean, List.nil_append, cut]
      exact Report.spells_stream reports
  obtain ⟨here, done⟩ := attends leftCut
  obtain ⟨there, finished⟩ := attends rightCut
  have line : first.session.line = second.session.line := here.line.trans there.line.symm
  obtain ⟨written, frames, output, sent, writes⟩ := here.output
  obtain ⟨other, further, outputs, sends, also⟩ := there.output
  refine ⟨here.directory.trans there.directory.symm, (congrArg Session.backlog line :),
    (congrArg Session.freeTicket line :), here.alarms.trans there.alarms.symm, ⟨done, finished⟩,
    ⟨here.quiet, there.quiet⟩, written, other, output, outputs, ?_⟩
  intro pieces others whole all
  obtain ⟨rest, symbols, read⟩ := writes.feed whole
  obtain ⟨others, acknowledgements, same⟩ := also.feed all
  exact ⟨⟨rest, others⟩, ⟨symbols, acknowledgements⟩,
    read.trans ((sent.frames_eq sends).trans same.symm)⟩

def announcement : Report where
  frame := ⟨.request, 0x49, [0x84, 5, 5, 4, 0x11, 6, 0x20, 0x70]⟩
  bytes := [0x01, 0x0b, 0x00, 0x49, 0x84, 5, 5, 4, 0x11, 6, 0x20, 0x70, 0x7a]
  request := rfl
  unasked := .inr rfl
  encoded := by cbv

def levelReport : Report where
  frame := ⟨.request, 0x04, [0, 5, 3, 0x20, 3, 0xff]⟩
  bytes := [0x01, 0x09, 0x00, 0x04, 0, 5, 3, 0x20, 3, 0xff, 0x28]
  request := rfl
  unasked := .inl rfl
  encoded := by cbv

/-- An announcement and a report while nothing is under way, once in one piece and once byte by
byte: the command that asks for the level stands behind both acknowledgements or between them. -/
theorem cuts_of_announcement_do_not_matter :
    let network := ((start 1500 5000 1).follow
      [(7, .receive [0x06]), (5000, .expire), (0, .takeOutput)]).network
    let whole := [Report.stream [announcement, levelReport]]
    let bytes := (Report.stream [announcement, levelReport]).map ([·])
    network.session.received = [] ∧
      (network.receiveAll 5009 whole).session.backlog =
        (network.receiveAll 5009 bytes).session.backlog ∧
      (network.receiveAll 5009 whole).session.output =
        [0x06, 0x06, 0x01, 0x09, 0x00, 0x13, 5, 2, 0x20, 0x02, 5, 1, 0xc4] ∧
      (network.receiveAll 5009 bytes).session.output =
        [0x06, 0x01, 0x09, 0x00, 0x13, 5, 2, 0x20, 0x02, 5, 1, 0xc4, 0x06] := by
  intro network whole bytes
  have clean : network.session.received = [] := by decide +kernel
  obtain ⟨_, backlog, _⟩ := cuts_of_reports_do_not_matter 1500 5000 1
    [(7, .receive [0x06]), (5000, .expire), (0, .takeOutput)] 5009 [announcement, levelReport] clean
    (show whole.flatten = _ by decide +kernel) (show bytes.flatten = _ by decide +kernel)
  refine ⟨clean, backlog, ?_, ?_⟩
  · decide +kernel
  · decide +kernel

end Watched

end RadioGateway.ZWave
