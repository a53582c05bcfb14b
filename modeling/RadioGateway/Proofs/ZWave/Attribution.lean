import RadioGateway.Proofs.ZWave.Completion
import RadioGateway.Proofs.ZWave.Dialogue
import RadioGateway.Proofs.ZWave.Ledger

/-!
# Whose description an answer is

The line keeps the order, so each answer belongs to the first copy of a question that has not been
answered. It is handed on as the answer to the question at the head, which is another one when a copy
of an earlier question is still unanswered. That takes an expired timer: as long as none expires, every
question is answered by its own description.
-/

namespace RadioGateway.ZWave

open RadioGateway.Link

namespace Session

variable {now : Nat} {session after : Session} {stimulus : Stimulus} {requests : List Request}
  {reported failures : List (Event Request Frame)} {copy : Bytes}

/-- The nodes that copies of questions were about, in the order of the copies. -/
def askedNodes (history : List Reaction) : List Byte :=
  (history.filterMap Reaction.sent?).filterMap Request.node?

def framesHeard (history : List Reaction) : List Frame :=
  (history.filterMap (·.stimulus.heard?)).filterMap Decoding.frame?

theorem filterMap_toList {α β : Type} (view : α → Option β) (option : Option α) :
    option.toList.filterMap view = (option.bind view).toList := by
  cases option with
  | none => rfl
  | some value => cases seen : view value <;> simp [seen]

theorem askedNodes_append (history : List Reaction) (reaction : Reaction) :
    askedNodes (history ++ [reaction]) =
      askedNodes history ++ (reaction.sent?.bind Request.node?).toList := by
  have sent : [reaction].filterMap Reaction.sent? = reaction.sent?.toList :=
    filterMap_toList Reaction.sent? (some reaction)
  rw [askedNodes, List.filterMap_append, List.filterMap_append, sent, filterMap_toList, askedNodes]

theorem framesHeard_append (history : List Reaction) (reaction : Reaction) :
    framesHeard (history ++ [reaction]) =
      framesHeard history ++ (reaction.stimulus.heard?.bind Decoding.frame?).toList := by
  have heard : [reaction].filterMap (·.stimulus.heard?) = reaction.stimulus.heard?.toList :=
    filterMap_toList (·.stimulus.heard?) (some reaction)
  rw [framesHeard, List.filterMap_append, List.filterMap_append, heard, filterMap_toList,
    framesHeard]

/-! ## Questions in line -/

def Questions (requests : List Request) : Prop :=
  ∀ request ∈ requests, ∃ node, request = .describeNode node

theorem encode_describeNode (node : Byte) :
    ∃ copy, (Request.describeNode node).frame.encode = .ok copy := ⟨_, rfl⟩

/-- A line of questions moves on by transmitting the first of them. -/
theorem passage_questions (questions : Questions requests)
    (passage : Passage now session requests failures copy after) :
    failures = [] ∧ after.backlog.requests = requests ∧ (copy = [] ↔ requests = []) := by
  cases passage with
  | empty => exact ⟨rfl, rfl, by simp⟩
  | sent stamp fits =>
      obtain ⟨node, rfl⟩ := questions _ (List.mem_cons_self ..)
      cases stamp
      exact ⟨rfl, rfl, by simp [Frame.ne_nil_of_encode fits]⟩
  | dropped stamp unfit later =>
      obtain ⟨node, rfl⟩ := questions _ (List.mem_cons_self ..)
      cases stamp
      obtain ⟨copy, fits⟩ := encode_describeNode node
      rw [fits] at unfit
      cases unfit

theorem questions_of_effect (questions : Questions session.backlog.requests)
    (asked : ∀ request ∈ stimulus.submitted?, ∃ node, request = .describeNode node)
    (effect : Effect now session stimulus reported copy after) :
    Questions after.backlog.requests := by
  intro request member
  have among : request.withoutTicket ∈
      (reported.filterMap settled? ++ after.backlog.requests).map Request.withoutTicket :=
    List.mem_map_of_mem (List.mem_append_right _ member)
  rw [← line_of_effect effect] at among
  obtain ⟨source, inLine, same⟩ := List.mem_map.mp among
  obtain ⟨node, rfl⟩ : ∃ node, source = .describeNode node := by
    rcases List.mem_append.mp inLine with before | new
    · exact questions source before
    · exact asked source (Option.mem_toList.mp new)
  refine ⟨node, ?_⟩
  cases request with
  | describeNode other => exact same.symm
  | listNodes => cases same
  | askNode other => cases same
  | deliver delivery => cases same

/-- An answer that is handed on is handed on as that to the question at the head. -/
theorem answered_of_effect {node : Byte} {frame : Frame}
    (effect : Effect now session stimulus reported copy after)
    (member : .answered (.describeNode node) frame ∈ reported) :
    session.backlog.head? = some (.describeNode node) ∧
      ∃ length, stimulus = .hear (.frame frame length) := by
  have given : ∀ {requests session failures copy after},
      Passage now session requests failures copy after →
      .answered (.describeNode node) frame ∉ failures := by
    intro requests session failures copy after passage among
    obtain ⟨request, payload, event, _⟩ := unfit_of_passage passage _ among
    cases event
  cases effect with
  | begun empty passage => exact absurd member (given passage)
  | unsolicited foreign => simp at member
  | answered line answers twice =>
      rw [List.mem_singleton] at member
      cases member
      cases twice
  | @finished head rest stimulus event failures copy after line ending passage =>
      rcases List.mem_cons.mp member with rfl | later
      · cases ending with
        | answered answers once => exact ⟨by simp [Backlog.head?, line], _, rfl⟩
      · exact absurd later (given passage)
  | closed => simp at member
  | _ => cases member

/-- The number of requests that are under way, since only the head is. -/
def underWay (session : Session) : Nat := if session.backlog.requests = [] then 0 else 1

theorem underWay_eq_zero (none : session.backlog.requests = []) : session.underWay = 0 := if_pos none

theorem underWay_eq_one (some : session.backlog.requests ≠ []) : session.underWay = 1 := if_neg some

theorem underWay_congr (same : after.backlog.requests = session.backlog.requests) :
    after.underWay = session.underWay := by
  rw [underWay, same, underWay]

/-- Moving a line of questions on brings one under way for the copy that it transmits. -/
theorem underWay_of_passage (questions : Questions requests)
    (passage : Passage now session requests failures copy after) :
    after.underWay = (if copy = [] then [] else [copy]).length := by
  obtain ⟨_, line, sent⟩ := passage_questions questions passage
  by_cases empty : requests = []
  · rw [underWay_eq_zero (line.trans empty), if_pos (sent.mpr empty), List.length_nil]
  · rw [underWay_eq_one (line ▸ empty), if_neg (mt sent.mp empty), List.length_singleton]

/-- Without expiry and refusal, a copy brings a question under way, and a frame ends the one that
is. -/
theorem pace_of_effect (questions : Questions session.backlog.requests)
    (asked : ∀ request ∈ stimulus.submitted?, ∃ node, request = .describeNode node)
    (unclosed : stimulus ≠ .close) (unexpired : stimulus ≠ .expire)
    (friendly : ∀ decoding ∈ stimulus.heard?,
      decoding = .symbol .ack ∨ ∃ frame length, decoding = .frame frame length)
    (answers : ∀ frame length, stimulus = .hear (.frame frame length) →
      ∃ head ∈ session.backlog.head?, relation head frame = .answer)
    (effect : Effect now session stimulus reported copy after) :
    (if copy = [] then [] else [copy]).length + session.underWay =
      (stimulus.heard?.bind Decoding.frame?).toList.length + after.underWay := by
  have unrefused : ∀ failure, ¬ Refusal stimulus failure := by
    intro failure refusal
    cases refusal with
    | expiry => exact unexpired rfl
    | nack => simpa using friendly _ rfl
    | cancel => simpa using friendly _ rfl
  cases effect with
  | ignored idle =>
      have unheard : (stimulus.heard?.bind Decoding.frame?).toList = [] := by
        cases stimulus with
        | hear decoding =>
            cases decoding with
            | frame frame length => exact absurd idle id
            | _ => rfl
        | _ => rfl
      have still : (session.write (reply stimulus)).underWay = session.underWay := underWay_congr rfl
      rw [unheard, still]
      rfl
  | unsolicited foreign =>
      obtain ⟨head, first, answered⟩ := answers _ _ rfl
      rw [foreign head first] at answered
      cases answered
  | queued busy =>
      rw [underWay_eq_one busy, underWay_eq_one (by simp [busy])]
      rfl
  | @begun request failures copy after empty passage =>
      have question : Questions [request] := by
        intro only member
        rw [List.mem_singleton.mp member]
        exact asked request rfl
      rw [underWay_of_passage question passage, underWay_eq_zero (by rw [empty])]
      exact Nat.add_comm ..
  | acknowledged phase =>
      have still : (session.awaitCompletion now).underWay = session.underWay := underWay_congr rfl
      rw [still]
      rfl
  | @answered head rest frame length line answers twice =>
      obtain ⟨node, rfl⟩ := questions head (by rw [line]; exact List.mem_cons_self ..)
      cases twice
  | repeated line phase spare stamped fits refusal => exact absurd refusal (unrefused _)
  | @finished head rest stimulus event failures copy after line ending passage =>
      rw [line] at questions
      rw [underWay_of_passage (fun request member => questions request (List.mem_cons_of_mem _ member))
        passage, underWay_eq_one (by simp [line])]
      cases ending with
      | answered answers once => exact Nat.add_comm ..
      | confirmed confirms =>
          obtain ⟨node, rfl⟩ := questions head (List.mem_cons_self ..)
          obtain ⟨_, _, ticket, given, _⟩ := (relation_eq_confirmation_iff _ _).mp confirms
          cases given
      | exhausted phase spent refusal => exact absurd refusal (unrefused _)
      | unanswered phase => exact absurd rfl unexpired
  | closed => exact absurd rfl unclosed

end Session

/-! ## What is under way -/

open Session

/-- A moment of a dialogue: the history of a session that is asked about nodes, with the records on
their way in both directions. -/
structure Talk (controller : Controller) (history : List Reaction) (session : Session)
    (outgoing incoming : List (Decoding Frame)) : Prop where
  questions : Questions session.backlog.requests
  copies : List.Forall₂ (fun node copy => (Request.describeNode node).frame.encode = .ok copy)
    (askedNodes history) (transmissions history)
  /-- Copies of questions have been answered, have answers under way, or are themselves under way. -/
  order : ∃ told coming going : List Byte,
    askedNodes history = told ++ coming ++ going ∧
      framesHeard history = told.map controller.answer ∧
      incoming.filterMap Decoding.frame? = coming.map controller.answer ∧
      outgoing.filterMap Decoding.frame? =
        going.map fun node => (Request.describeNode node).frame
  friendly : ∀ record ∈ incoming, record = .symbol .ack ∨ ∃ frame length, record = .frame frame length
  prompt : (∀ reaction ∈ history, reaction.stimulus ≠ .expire) →
    (askedNodes history).length = (framesHeard history).length + session.underWay

/-- Whose description a frame is that is handed on as the answer to a question about `node`. -/
structure Attributed (controller : Controller) (earlier : List Reaction) (node : Byte)
    (frame : Frame) : Prop where
  /-- It answers the first copy that was not answered before. -/
  inOrder : ∃ asked, (askedNodes earlier)[(framesHeard earlier).length]? = some asked ∧
    frame = controller.answer asked
  /-- It describes the node if all copies of earlier questions were answered before. -/
  settled : ((Ledger.ofHistory earlier).settled.flatMap (·.1.copies)).length ≤
    (framesHeard earlier).length → frame = controller.answer node
  prompt : (∀ reaction ∈ earlier, reaction.stimulus ≠ .expire) → frame = controller.answer node

theorem transmissions_append (history : List Reaction) (reaction : Reaction) :
    transmissions (history ++ [reaction]) =
      transmissions history ++ if reaction.transmission = [] then [] else [reaction.transmission] := by
  by_cases silent : reaction.transmission = [] <;> simp [transmissions, silent]

namespace Talk

variable {controller : Controller} {history : List Reaction} {now : Nat} {session : Session}
  {stimulus : Stimulus} {outgoing incoming : List (Decoding Frame)}

theorem answer_of_frame {frame : Frame} {length : Nat}
    (talk : Talk controller history session outgoing (.frame frame length :: incoming)) :
    ∃ node, (askedNodes history)[(framesHeard history).length]? = some node ∧
      frame = controller.answer node := by
  obtain ⟨told, coming, going, asked, heard, answers, questions⟩ := talk.order
  rw [List.filterMap_cons_some (f := Decoding.frame?) (b := frame) rfl] at answers
  cases coming with
  | nil => cases answers
  | cons node coming =>
      rw [List.map_cons, List.cons.injEq] at answers
      refine ⟨node, ?_, answers.1⟩
      rw [asked, heard, List.length_map]
      simp

/-- Without expiry, a frame that comes in answers the head. -/
theorem head_of_frame {frame : Frame} {length : Nat}
    (talk : Talk controller history session outgoing (.frame frame length :: incoming))
    (unexpired : ∀ reaction ∈ history, reaction.stimulus ≠ .expire) :
    ∃ head ∈ session.backlog.head?, relation head frame = .answer := by
  obtain ⟨asked, unanswered, rfl⟩ := talk.answer_of_frame
  have prompt := talk.prompt unexpired
  have short := (List.getElem?_eq_some_iff.mp unanswered).1
  cases line : session.backlog.requests with
  | nil =>
      rw [underWay_eq_zero line] at prompt
      omega
  | cons head rest =>
      obtain ⟨node, rfl⟩ := talk.questions head (by rw [line]; exact List.mem_cons_self ..)
      exact ⟨.describeNode node, by simp [Backlog.head?, line],
        (relation_eq_answer_iff _ _).mpr ⟨rfl, rfl⟩⟩

theorem sent_questions {reaction : Reaction} (steady : Steady reaction.now reaction.before)
    (questions : Questions reaction.after.backlog.requests) :
    let nodes := (reaction.sent?.bind Request.node?).toList
    List.Forall₂ (fun node copy => (Request.describeNode node).frame.encode = .ok copy) nodes
        (if reaction.transmission = [] then [] else [reaction.transmission]) ∧
      reaction.records.filterMap Decoding.frame? =
        nodes.map fun node => (Request.describeNode node).frame := by
  intro nodes
  have frames := Run.frames_records [reaction]
  rw [List.flatMap_singleton] at frames
  rw [frames]
  rcases Reaction.sent?_eq steady with ⟨none, silent⟩ | ⟨request, some, first, encoded⟩
  · simp [nodes, none, silent]
  · obtain ⟨node, rfl⟩ := questions request (List.mem_of_mem_head? first)
    have about : nodes = [node] := by simp only [nodes, some]; rfl
    rw [about, if_neg (Frame.ne_nil_of_encode encoded)]
    exact ⟨.cons encoded .nil, by simp [some]⟩

/-- What is under way stays in order through every reaction. -/
theorem react (steady : Steady now session)
    (talk : Talk controller history session outgoing (stimulus.heard?.toList ++ incoming))
    (asked : ∀ request ∈ stimulus.submitted?, ∃ node, request = .describeNode node)
    (unclosed : stimulus ≠ .close) :
    let reaction : Reaction := ⟨now, session, stimulus⟩
    Talk controller (history ++ [reaction]) reaction.after (outgoing ++ reaction.records)
      incoming := by
  intro reaction
  have metSteady : Steady reaction.now reaction.before := steady
  have effect := reaction.effect metSteady
  have questions := questions_of_effect talk.questions asked effect
  obtain ⟨copied, sent⟩ := sent_questions metSteady questions
  refine ⟨questions, ?_, ?_, ?_, ?_⟩
  · rw [askedNodes_append, transmissions_append]
    exact List.rel_append talk.copies copied
  · -- What comes in now answers the first of the copies whose answers were under way.
    obtain ⟨told, coming, going, all, heard, answers, frames⟩ := talk.order
    rw [List.filterMap_append, filterMap_toList, eq_comm, List.map_eq_append_iff] at answers
    obtain ⟨came, left, rfl, arrived, remain⟩ := answers
    refine ⟨told ++ came, left, going ++ (reaction.sent?.bind Request.node?).toList, ?_, ?_,
      remain.symm, ?_⟩
    · rw [askedNodes_append, all]
      simp
    · rw [framesHeard_append, heard, List.map_append, arrived]
    · rw [List.filterMap_append, frames, sent, List.map_append]
  · exact fun record member => talk.friendly record (List.mem_append_right _ member)
  · intro unexpired
    have earlier : ∀ reaction ∈ history, reaction.stimulus ≠ .expire :=
      fun earlier member => unexpired earlier (List.mem_append_left _ member)
    have last : stimulus ≠ .expire :=
      unexpired reaction (List.mem_append_right _ (List.mem_singleton_self _))
    have friendly : ∀ decoding ∈ stimulus.heard?,
        decoding = .symbol .ack ∨ ∃ frame length, decoding = .frame frame length :=
      fun decoding heard =>
        talk.friendly decoding (List.mem_append_left _ (Option.mem_toList.mpr heard))
    have pace := pace_of_effect talk.questions asked unclosed last friendly ?_ effect
    · have before := talk.prompt earlier
      rw [askedNodes_append, framesHeard_append, List.length_append, List.length_append,
        copied.length_eq, show reaction.stimulus = stimulus from rfl]
      omega
    · rintro frame length rfl
      exact talk.head_of_frame earlier

/-- A record that the controller reads is taken off one line, and its replies are put on the
other. -/
theorem read {record : Decoding Frame}
    (talk : Talk controller history session (record :: outgoing) incoming) :
    ∃ replies, Spells Frame.decode replies (controller.reply record) ∧
      Talk controller history session outgoing (incoming ++ replies) := by
  obtain ⟨told, coming, going, all, heard, answers, frames⟩ := talk.order
  cases record with
  | frame frame length =>
      rw [List.filterMap_cons_some (f := Decoding.frame?) (b := frame) rfl] at frames
      cases going with
      | nil => cases frames
      | cons node going =>
          rw [List.map_cons, List.cons.injEq] at frames
          obtain ⟨rfl, later⟩ := frames
          obtain ⟨size, spells⟩ := controller.spells_reply node length
          refine ⟨_, spells, talk.questions, talk.copies, ?_, ?_, talk.prompt⟩
          -- The copy leaves one line where its answer enters the other, so the order stays.
          · refine ⟨told, coming ++ [node], going, by rw [all]; simp, heard, ?_, later⟩
            rw [List.filterMap_append, answers, List.map_append]
            rfl
          · intro reply member
            rcases List.mem_append.mp member with before | new
            · exact talk.friendly reply before
            · rcases List.mem_cons.mp new with rfl | second
              · exact .inl rfl
              · exact .inr ⟨_, _, List.mem_singleton.mp second⟩
  | _ =>
      refine ⟨[], .nil, talk.questions, talk.copies, ?_, ?_, talk.prompt⟩
      · exact ⟨told, coming, going, all, heard, by rw [List.append_nil, answers], frames⟩
      · rw [List.append_nil]
        exact talk.friendly

end Talk

namespace Run

variable {controller : Controller} {run : Run} {stimulus : Stimulus}
  {outgoing incoming : List (Decoding Frame)} {reported : List (Event Request Frame)} {copy : Bytes}

/-- The copies behind those of the settled requests are copies of the question at the head. -/
theorem copies_of_head {head : Request} (booked : run.Booked)
    (first : run.session.backlog.head? = some head) :
    ∃ copies, copies ≠ [] ∧ (∀ copy ∈ copies, head.frame.encode = .ok copy) ∧
      transmissions run.history =
        (Ledger.ofHistory run.history).settled.flatMap (·.1.copies) ++ copies := by
  obtain ⟨rest, line⟩ : ∃ rest, run.session.backlog.requests = head :: rest :=
    List.head?_eq_some_iff.mp first
  obtain ⟨course, unsettled, tracks, leads⟩ := booked.right.lineup.of_line line
  refine ⟨course.copies, leads.copies, tracks.copies, ?_⟩
  rw [← booked.copies, Ledger.courses, unsettled, List.flatMap_append, List.flatMap_map,
    List.flatMap_cons, Ledger.copies_fresh, List.append_nil]

theorem attributed_of_effect (booked : run.Booked)
    (talk : Talk controller run.history run.session outgoing (stimulus.heard?.toList ++ incoming))
    {now : Nat} {after : Session}
    (effect : Effect now run.session stimulus reported copy after) {node : Byte} {frame : Frame}
    (member : .answered (.describeNode node) frame ∈ reported) :
    Attributed controller run.history node frame := by
  obtain ⟨first, length, rfl⟩ := answered_of_effect effect member
  obtain ⟨asked, unanswered, rfl⟩ := talk.answer_of_frame
  obtain ⟨copies, some, ofHead, all⟩ := copies_of_head booked first
  have settled : ((Ledger.ofHistory run.history).settled.flatMap (·.1.copies)).length ≤
      (framesHeard run.history).length → controller.answer asked = controller.answer node := by
    intro few
    -- The answered copy comes after those of the settled requests, so it is one of the head.
    obtain ⟨within, same⟩ := List.getElem?_eq_some_iff.mp unanswered
    have sent : (framesHeard run.history).length < (transmissions run.history).length :=
      talk.copies.length_eq ▸ within
    have copied := talk.copies.get within sent
    have among : (transmissions run.history).get ⟨_, sent⟩ ∈ copies := by
      simp only [all, List.get_eq_getElem, List.getElem_append_right few]
      exact List.getElem_mem _
    rw [List.get_eq_getElem, same] at copied
    have equal := Frame.encode_injective copied (ofHead _ among)
    rw [show asked = node by cases equal; rfl]
  refine ⟨⟨asked, unanswered, rfl⟩, settled, fun unexpired => settled ?_⟩
  have prompt := talk.prompt unexpired
  rw [underWay_eq_one, talk.copies.length_eq, all, List.length_append] at prompt
  · have some := List.length_pos_iff.mpr some
    omega
  · intro none
    rw [Backlog.head?, none] at first
    cases first

/-- A run that has kept to a dialogue, with what is on the way in both directions. -/
structure Converses (controller : Controller) (run : Run) (outbound : Bytes)
    (incoming : List (Decoding Frame)) : Prop where
  steady : Steady run.now run.session
  booked : run.Booked
  talk : ∃ outgoing, Spells Frame.decode outgoing (outbound ++ run.session.output) ∧
    Talk controller run.history run.session outgoing incoming
  attributed : ∀ earlier reaction later node frame, run.history = earlier ++ reaction :: later →
    .answered (.describeNode node) frame ∈ reaction.reported →
    Attributed controller earlier node frame

variable {outbound : Bytes}

theorem converses_react
    (converses : run.Converses controller outbound (stimulus.heard?.toList ++ incoming))
    (asked : ∀ request ∈ stimulus.submitted?, ∃ node, request = .describeNode node)
    (unclosed : stimulus ≠ .close) : (run.react stimulus).Converses controller outbound incoming := by
  obtain ⟨steady, booked, ⟨outgoing, spells, talk⟩, attributed⟩ := converses
  let reaction : Reaction := ⟨run.now, run.session, stimulus⟩
  have effect := reaction.effect steady
  have appends := appends_of_effect effect
  refine ⟨steady_of_effect steady effect, booked_react steady effect booked, ?_, ?_⟩
  · refine ⟨_, ?_, talk.react steady asked unclosed⟩
    have output : (run.react stimulus).session.output = run.session.output ++ reaction.written :=
      (appends.output unclosed).trans (congrArg _ (Reaction.written_eq appends).symm)
    rw [output, ← List.append_assoc]
    exact spells.append (Reaction.spells_written steady)
  · intro earlier other later node frame split member
    rcases split_concat split with ⟨between, before⟩ | ⟨rfl, rfl⟩
    · exact attributed _ _ _ _ _ before member
    · exact attributed_of_effect booked talk effect member

theorem converses_hear (decodings : List (Decoding Frame))
    (converses : run.Converses controller outbound (decodings ++ incoming)) :
    ((decodings.map Stimulus.hear).foldl react run).Converses controller outbound incoming := by
  induction decodings generalizing run with
  | nil => exact converses
  | cons decoding later ih =>
      have heard : (run.react (.hear decoding)).Converses controller outbound (later ++ incoming) :=
        converses_react converses (by simp [Stimulus.submitted?]) (by simp)
      exact ih heard

theorem Converses.congr {other : Run} {sent : Bytes}
    (converses : run.Converses controller outbound incoming)
    (history : other.history = run.history)
    (backlog : other.session.backlog = run.session.backlog)
    (ackTimeout : other.session.ackTimeout = run.session.ackTimeout)
    (answerTimeout : other.session.answerTimeout = run.session.answerTimeout)
    (later : run.now ≤ other.now)
    (written : sent ++ other.session.output = outbound ++ run.session.output) :
    other.Converses controller sent incoming := by
  obtain ⟨steady, ⟨right, requests, copies⟩, ⟨outgoing, spells, talk⟩, attributed⟩ := converses
  obtain ⟨duration, now⟩ := Nat.exists_eq_add_of_le later
  refine ⟨?_, ⟨?_, ?_, ?_⟩, ⟨outgoing, written ▸ spells, ?_⟩, history ▸ attributed⟩
  · rw [now]
    exact (steady.later duration).congr backlog ackTimeout answerTimeout
  · rw [history]
    exact ⟨right.events, right.ended, backlog ▸ right.lineup⟩
  · rw [submitted, history]
    exact requests
  · rw [history]
    exact copies
  · obtain ⟨questions, copied, order, friendly, prompt⟩ := talk
    have underWay : other.session.underWay = run.session.underWay :=
      underWay_congr (congrArg _ backlog)
    rw [history]
    exact ⟨backlog ▸ questions, copied, order, friendly, underWay ▸ prompt⟩

end Run

namespace Dialogue

/-- A dialogue in which every answer was handed on as the lines had it. -/
structure Orderly (controller : Controller) (dialogue : Dialogue) : Prop where
  converses : ∃ incoming,
    Spells Frame.decode incoming (dialogue.run.session.received ++ dialogue.inbound) ∧
      dialogue.run.Converses controller dialogue.outbound incoming
  stuck : Frame.decode dialogue.run.session.received = .needMore

variable {controller : Controller} {dialogue : Dialogue}

theorem orderly_operate {operation : Session.Operation} {stimulus : Stimulus}
    (orderly : dialogue.Orderly controller)
    (single : operation.stimuli dialogue.run.session = [stimulus])
    (untouched : operation.remainder dialogue.run.session = dialogue.run.session.received)
    (unheard : stimulus.heard? = none)
    (asked : ∀ request ∈ stimulus.submitted?, ∃ node, request = .describeNode node)
    (unclosed : stimulus ≠ .close) :
    Orderly controller { dialogue with run := dialogue.run.act (.operate operation) } := by
  obtain ⟨⟨incoming, spells, converses⟩, stuck⟩ := orderly
  have received := Run.received_operate dialogue.run operation
  rw [untouched] at received
  refine ⟨⟨incoming, by rw [received]; exact spells, ?_⟩, by rw [received]; exact stuck⟩
  have reacted : (dialogue.run.react stimulus).Converses controller dialogue.outbound incoming :=
    Run.converses_react (by rw [unheard]; exact converses) asked unclosed
  rw [Run.act_operate, single]
  exact reacted.congr rfl rfl rfl rfl (Nat.le_refl _) rfl

theorem orderly_read (orderly : dialogue.Orderly controller) :
    (dialogue.move controller .read).Orderly controller := by
  obtain ⟨⟨incoming, spells, converses⟩, stuck⟩ := orderly
  obtain ⟨steady, booked, ⟨outgoing, written, talk⟩, attributed⟩ := converses
  rcases written.decode_prefix Frame.incremental_decode with short | ⟨left, first, rest⟩
  · have unchanged : dialogue.move controller .read = dialogue := by
      simp [move, short, Decoding.consumed, Controller.reply]
    rw [unchanged]
    exact ⟨⟨incoming, spells, steady, booked, ⟨outgoing, written, talk⟩, attributed⟩, stuck⟩
  · rw [first] at talk
    obtain ⟨replies, answered, talk⟩ := talk.read
    refine ⟨⟨incoming ++ replies, ?_, steady, booked, ⟨left, rest, talk⟩, attributed⟩, stuck⟩
    rw [move, ← List.append_assoc]
    exact spells.append answered

theorem orderly_deliver (orderly : dialogue.Orderly controller) (count : Nat) :
    (dialogue.move controller (.deliver count)).Orderly controller := by
  obtain ⟨⟨incoming, spells, converses⟩, stuck⟩ := orderly
  have cut : dialogue.run.session.received ++ dialogue.inbound.take count ++
      dialogue.inbound.drop count = dialogue.run.session.received ++ dialogue.inbound := by
    rw [List.append_assoc, List.take_append_drop]
  obtain ⟨later, split, rest, stuck⟩ := spells.drain_prefix Frame.incremental_decode cut
  have received := Run.received_operate dialogue.run (.receive (dialogue.inbound.take count))
  rw [split] at converses
  have heard := Run.converses_hear _ converses
  refine ⟨⟨later, ?_, ?_⟩, ?_⟩
  · rw [move, received]
    exact rest
  · rw [move, Run.act_operate]
    exact heard.congr rfl rfl rfl rfl (Nat.le_refl _) rfl
  · rw [move, received]
    exact stuck

theorem orderly_move (orderly : dialogue.Orderly controller) (next : Move) :
    (dialogue.move controller next).Orderly controller := by
  cases next with
  | ask node =>
      exact orderly_operate orderly rfl rfl rfl (fun _ same => ⟨node, (Option.some.inj same).symm⟩)
        (by simp)
  | expire =>
      rw [move]
      split
      · exact orderly_operate orderly rfl rfl rfl (by simp [Stimulus.submitted?]) (by simp)
      · exact orderly
  | read => exact orderly_read orderly
  | deliver count => exact orderly_deliver orderly count
  | pass duration =>
      obtain ⟨⟨incoming, spells, converses⟩, stuck⟩ := orderly
      exact ⟨⟨incoming, spells, converses.congr rfl rfl rfl rfl (Nat.le_add_right ..) rfl⟩, stuck⟩
  | fetch =>
      obtain ⟨⟨incoming, spells, converses⟩, stuck⟩ := orderly
      exact ⟨⟨incoming, spells, converses.congr rfl rfl rfl rfl (Nat.le_refl _) rfl⟩, stuck⟩
  | transmit =>
      obtain ⟨⟨incoming, spells, converses⟩, stuck⟩ := orderly
      exact ⟨⟨incoming, spells,
        converses.congr rfl rfl rfl rfl (Nat.le_refl _) (List.append_nil _)⟩, stuck⟩

theorem orderly_follow (orderly : dialogue.Orderly controller) (moves : List Move) :
    (dialogue.follow controller moves).Orderly controller := by
  induction moves generalizing dialogue with
  | nil => exact orderly
  | cons next later ih => exact ih (orderly_move orderly next)

theorem orderly_start (controller : Controller) (ackTimeout answerTimeout : Nat) :
    (start ackTimeout answerTimeout).Orderly controller := by
  refine ⟨⟨[], .nil, ?_⟩, rfl⟩
  refine ⟨.atRest rfl, ?_, ⟨[], .nil, ?_⟩, by simp [start, Run.start]⟩
  · exact Run.booked_follow ackTimeout answerTimeout []
  · refine ⟨?_, .nil, ⟨[], [], [], rfl, rfl, rfl, rfl⟩, ?_, fun _ => rfl⟩
    · exact fun _ none => absurd none List.not_mem_nil
    · exact fun _ none => absurd none List.not_mem_nil

/-- In a dialogue about nodes, an answer is that to the first copy that was not answered before,
whatever question it is handed on for. So it describes the node that was asked about if no copy of an
earlier question was still to be answered, and in particular if the timer never expired before. -/
theorem answers_follow_copies (controller : Controller) (ackTimeout answerTimeout : Nat)
    (moves : List Move) :
    let run := ((start ackTimeout answerTimeout).follow controller moves).run
    run.events = run.history.flatMap Reaction.reported ∧
    ∀ earlier reaction later node frame, run.history = earlier ++ reaction :: later →
      .answered (.describeNode node) frame ∈ reaction.reported →
      Attributed controller earlier node frame := by
  intro run
  constructor
  · obtain ⟨actions, same⟩ := run_follow controller (start ackTimeout answerTimeout) moves
    have follows : run = (Run.start ackTimeout answerTimeout).follow actions := same
    rw [follows]
    exact Run.events_follow ackTimeout answerTimeout actions
  · have orderly := orderly_follow (orderly_start controller ackTimeout answerTimeout) moves
    obtain ⟨_, _, converses⟩ := orderly.converses
    exact converses.attributed

/-- A controller that has a multilevel switch at node two and binary switches elsewhere. -/
def twoKinds : Controller where
  description node := [0xd3, 0x16, 0x01, 0x04, if node = 2 then 0x11 else 0x10, 0x01]
  fits _ := by simp [Frame.maxPayload]

/-- When a question was sent twice because the first acknowledgement came late, the second answer to
it is handed on as that to the next question. -/
theorem answer_to_copy_describes_other_node :
    let moves : List Move := [.ask 2, .ask 3, .transmit, .pass 1500, .expire, .transmit, .read,
      .read, .deliver 24]
    let run := ((start 1500 5000).follow twoKinds moves).run
    .answered (.describeNode 3) (twoKinds.answer 2) ∈ run.events ∧
      twoKinds.answer 2 ≠ twoKinds.answer 3 := by
  decide +kernel

end Dialogue

end RadioGateway.ZWave
