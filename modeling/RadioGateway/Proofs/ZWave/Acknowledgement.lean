import Mathlib.Data.List.Basic
import RadioGateway.Proofs.ZWave.Appending
import RadioGateway.Proofs.ZWave.Framing

/-!
# What the controller reads

What a session writes is again a stream of records: the symbols that are due for the records that it
heard, and the frames of the requests that it transmits. No reaction breaks into the record of
another, and a symbol that is due stands before the frame that its record brought about.
-/

namespace RadioGateway.Link.Decoding

variable {φ : Type}

def symbol? : Decoding φ → Option Symbol
  | .symbol read => some read
  | _ => none

def frame? : Decoding φ → Option φ
  | .frame read _ => some read
  | _ => none

end RadioGateway.Link.Decoding

namespace RadioGateway.ZWave

open RadioGateway.Link

namespace Session

/-- The symbol that is due for what was heard: a valid record is acknowledged, whatever its kind, and
a spoiled one is refused. -/
def due? : Decoding Frame → Option Symbol
  | .corrupt _ => some .nack
  | .unsupported _ => some .ack
  | .frame _ _ => some .ack
  | _ => none

def Stimulus.heard? : Stimulus → Option (Decoding Frame)
  | hear decoding => some decoding
  | _ => none

theorem reply_eq (stimulus : Stimulus) :
    reply stimulus = (stimulus.heard?.bind due?).toList.map Frame.symbolByte := by
  cases stimulus with
  | hear decoding => cases decoding <;> rfl
  | _ => rfl

namespace Reaction

def sent? (reaction : Reaction) : Option Request :=
  if reaction.transmission = [] then none else reaction.after.backlog.head?

/-- The records that a reaction writes, the symbol that is due before the frame. -/
def records (reaction : Reaction) : List (Decoding Frame) :=
  (reaction.stimulus.heard?.bind due?).toList.map .symbol ++
    reaction.sent?.toList.map fun request => .frame request.frame reaction.transmission.length

variable {reaction : Reaction}

theorem sent?_eq (steady : Steady reaction.now reaction.before) :
    reaction.sent? = none ∧ reaction.transmission = [] ∨
      ∃ request, reaction.sent? = some request ∧ reaction.after.backlog.head? = some request ∧
        request.frame.encode = .ok reaction.transmission := by
  rcases sent_of_effect (reaction.effect steady) with silent | ⟨head, first, encoded⟩
  · exact .inl ⟨if_pos silent, silent⟩
  · refine .inr ⟨head, ?_, first, encoded⟩
    rw [sent?, if_neg (Frame.ne_nil_of_encode encoded), first]

theorem spells_written (steady : Steady reaction.now reaction.before) :
    Spells Frame.decode reaction.records reaction.written := by
  have symbols : ∀ symbol : Option Symbol, Spells Frame.decode (symbol.toList.map .symbol)
      (symbol.toList.map Frame.symbolByte) := by
    intro symbol
    cases symbol with
    | none => exact .nil
    | some symbol => exact Frame.spells_symbol symbol
  have copies : Spells Frame.decode
      (reaction.sent?.toList.map fun request => .frame request.frame reaction.transmission.length)
      reaction.transmission := by
    rcases sent?_eq steady with ⟨none, silent⟩ | ⟨request, some, _, encoded⟩
    · rw [none, silent]
      exact .nil
    · rw [some]
      exact Frame.spells_frame encoded
  rw [written_eq (appends_of_effect (reaction.effect steady)), reply_eq]
  exact (symbols _).append copies

end Reaction

end Session

def Action.received? : Action → Option Bytes
  | operate (.receive bytes) => some bytes
  | _ => none

namespace Run

open Session

theorem heard_reactions (now : Nat) (session : Session) (decodings : List (Decoding Frame)) :
    (reactions now session (decodings.map .hear)).filterMap (·.stimulus.heard?) = decodings := by
  rw [filterMap_reactions, List.filterMap_map]
  exact List.filterMap_some

theorem received_operate (run : Run) (operation : Operation) :
    (run.act (.operate operation)).session.received = operation.remainder run.session := by
  rw [act, perform_eq]

/-- As long as it is not closed, a run hears what a decoder makes of the pieces that it receives. -/
theorem heard_follow (run : Run) (actions : List Action)
    (unclosed : .operate .close ∉ actions) :
    (run.follow actions).history.filterMap (·.stimulus.heard?) =
      run.history.filterMap (·.stimulus.heard?) ++
        (feed Frame.decode run.session.received (actions.filterMap Action.received?)).1 := by
  induction actions generalizing run with
  | nil => simp [follow, feed]
  | cons action later ih =>
      rw [List.mem_cons, not_or] at unclosed
      rw [show run.follow (action :: later) = (run.act action).follow later from rfl,
        ih _ unclosed.2]
      have silent : ∀ unheard : Action, unheard.received? = none →
          (run.act unheard).history.filterMap (·.stimulus.heard?) =
            run.history.filterMap (·.stimulus.heard?) →
          (run.act unheard).session.received = run.session.received →
          (run.act unheard).history.filterMap (·.stimulus.heard?) ++
              (feed Frame.decode (run.act unheard).session.received
                (later.filterMap Action.received?)).1 =
            run.history.filterMap (·.stimulus.heard?) ++
              (feed Frame.decode run.session.received
                ((unheard :: later).filterMap Action.received?)).1 := by
        intro unheard none history received
        rw [history, received, List.filterMap_cons_none none]
      cases action with
      | operate operation =>
          cases operation with
          | submit request =>
              exact silent _ rfl (by simp [act, Operation.stimuli, reactions, Stimulus.heard?])
                (received_operate run _)
          | receive bytes =>
              rw [received_operate, show (Action.operate (.receive bytes) :: later).filterMap
                Action.received? = bytes :: later.filterMap Action.received? from rfl, feed_cons]
              simp only [act, Operation.stimuli, Operation.remainder, List.filterMap_append,
                heard_reactions, List.append_assoc]
          | expire =>
              exact silent _ rfl (by simp [act, Operation.stimuli, reactions, Stimulus.heard?])
                (received_operate run _)
          | close => exact absurd rfl unclosed.1
      | takeOutput => exact silent _ rfl rfl rfl
      | takeEvents => exact silent _ rfl rfl rfl
      | advance duration => exact silent _ rfl rfl rfl

/-! ## What is written -/

theorem spells_output (ackTimeout answerTimeout : Nat) (actions : List Action)
    (unclosed : .operate .close ∉ actions) :
    Spells Frame.decode
      (((start ackTimeout answerTimeout).follow actions).history.flatMap Reaction.records)
      ((start ackTimeout answerTimeout).follow actions).output := by
  have steady : ∀ reaction ∈ ((start ackTimeout answerTimeout).follow actions).history,
      Steady reaction.now reaction.before := fun reaction member =>
    ((timed_follow ackTimeout answerTimeout actions).2 reaction member).steady
  rw [output_follow ackTimeout answerTimeout actions unclosed]
  generalize ((start ackTimeout answerTimeout).follow actions).history = history at steady
  induction history with
  | nil => exact .nil
  | cons reaction later ih =>
      rw [List.forall_mem_cons] at steady
      exact (Reaction.spells_written steady.1).append (ih steady.2)

/-- The symbols read are those due for what was heard. -/
theorem symbols_records (history : List Reaction) :
    (history.flatMap Reaction.records).filterMap Decoding.symbol? =
      (history.filterMap (·.stimulus.heard?)).filterMap due? := by
  rw [List.filterMap_flatMap, List.filterMap_filterMap, List.filterMap_eq_flatMap_toList]
  refine congrArg (List.flatMap · history) (funext fun reaction => ?_)
  have frames : (reaction.sent?.toList.map fun request =>
      Decoding.frame request.frame reaction.transmission.length).filterMap Decoding.symbol? = [] := by
    rw [List.filterMap_map]
    exact List.filterMap_eq_nil_iff.mpr fun _ _ => rfl
  rw [Reaction.records, List.filterMap_append, frames, List.append_nil, List.filterMap_map]
  exact List.filterMap_some

/-- The frames read are those of the requests transmitted. -/
theorem frames_records (history : List Reaction) :
    (history.flatMap Reaction.records).filterMap Decoding.frame? =
      (history.filterMap Reaction.sent?).map Request.frame := by
  rw [List.filterMap_flatMap, List.map_filterMap, List.filterMap_eq_flatMap_toList]
  refine congrArg (List.flatMap · history) (funext fun reaction => ?_)
  have symbols : ((reaction.stimulus.heard?.bind due?).toList.map Decoding.symbol).filterMap
      (Decoding.frame? (φ := Frame)) = [] := by
    rw [List.filterMap_map]
    exact List.filterMap_eq_nil_iff.mpr fun _ _ => rfl
  rw [Reaction.records, List.filterMap_append, symbols, List.nil_append, List.filterMap_map]
  cases reaction.sent? <;> rfl

theorem symbol_or_frame_of_mem_records {reaction : Reaction} {record : Decoding Frame}
    (member : record ∈ reaction.records) :
    (∃ symbol, record = .symbol symbol) ∨ ∃ frame length, record = .frame frame length := by
  rcases List.mem_append.mp member with symbols | frames
  · obtain ⟨symbol, _, rfl⟩ := List.mem_map.mp symbols
    exact .inl ⟨symbol, rfl⟩
  · obtain ⟨request, _, rfl⟩ := List.mem_map.mp frames
    exact .inr ⟨_, _, rfl⟩

/-- As long as a session is not closed, the controller reads from it, into whatever pieces its output
is cut, nothing but symbols and frames, and nothing is left over. The symbols are those that are due
for the records received, one for each and in their order. The frames are those of the requests
transmitted. What a reaction writes is read as its own records, and an acknowledgement comes before
the frame that was transmitted because of it. -/
theorem output_is_well_formed (ackTimeout answerTimeout : Nat) (actions : List Action)
    (unclosed : .operate .close ∉ actions) :
    let run := (start ackTimeout answerTimeout).follow actions
    let heard := (feed Frame.decode [] (actions.filterMap Action.received?)).1
    run.history.filterMap (·.stimulus.heard?) = heard ∧
    (∀ pieces, pieces.flatten = run.output →
      let read := (feed Frame.decode [] pieces).1
      (feed Frame.decode [] pieces).2 = [] ∧
      (∀ record ∈ read, (∃ symbol, record = .symbol symbol) ∨
        ∃ frame length, record = .frame frame length) ∧
      read.filterMap Decoding.symbol? = heard.filterMap due? ∧
      read.filterMap Decoding.frame? = (run.history.filterMap Reaction.sent?).map Request.frame ∧
      read = run.history.flatMap Reaction.records) ∧
    ∀ reaction ∈ run.history,
      Spells Frame.decode reaction.records reaction.written ∧
      (reaction.sent? = none ∧ reaction.transmission = [] ∨
        ∃ request, reaction.sent? = some request ∧ reaction.after.backlog.head? = some request ∧
          request.frame.encode = .ok reaction.transmission) ∧
      ∀ frame length, reaction.stimulus = .hear (.frame frame length) →
        reaction.records = .symbol .ack ::
          reaction.sent?.toList.map fun request =>
            .frame request.frame reaction.transmission.length := by
  intro run heard
  have hears : run.history.filterMap (·.stimulus.heard?) = heard :=
    heard_follow (start ackTimeout answerTimeout) actions unclosed
  refine ⟨hears, ?_, ?_⟩
  · intro pieces whole read
    have all : feed Frame.decode [] pieces = (run.history.flatMap Reaction.records, []) :=
      (spells_output ackTimeout answerTimeout actions unclosed).feed_eq Frame.incremental_decode
        whole rfl
    have same : read = run.history.flatMap Reaction.records := congrArg Prod.fst all
    refine ⟨congrArg Prod.snd all, ?_, ?_, ?_, same⟩
    · intro record member
      rw [same] at member
      obtain ⟨reaction, _, written⟩ := List.mem_flatMap.mp member
      exact symbol_or_frame_of_mem_records written
    · rw [same, symbols_records, hears]
    · rw [same, frames_records]
  · intro reaction member
    have steady := ((timed_follow ackTimeout answerTimeout actions).2 reaction member).steady
    refine ⟨Reaction.spells_written steady, Reaction.sent?_eq steady, ?_⟩
    intro frame length stimulus
    rw [Reaction.records, stimulus]
    rfl

/-- A frame out of the blue, a spoiled record and a request, in two reads. -/
theorem output_is_well_formed_on_noisy_line :
    let actions : List Action := [.operate (.submit .listNodes),
      .operate (.receive [0x01, 0x04, 0x00, 0x04, 0x01]), .takeOutput,
      .operate (.receive [0xfe, 0x01, 0x03, 0x00, 0x02, 0x00])]
    let run := (start 1500 5000).follow actions
    .operate .close ∉ actions ∧
      run.output = [0x01, 0x03, 0x00, 0x02, 0xfe, 0x06, 0x15] ∧
      (feed Frame.decode [] [[0x01, 0x03], [0x00, 0x02, 0xfe, 0x06], [0x15]]).1.filterMap
        Decoding.symbol? = [.ack, .nack] := by
  intro actions run
  have unclosed : .operate .close ∉ actions := by decide
  have whole : run.output = [0x01, 0x03, 0x00, 0x02, 0xfe, 0x06, 0x15] := by decide +kernel
  obtain ⟨_, reads, _⟩ := output_is_well_formed 1500 5000 actions unclosed
  obtain ⟨_, _, symbols, _⟩ :=
    reads [[0x01, 0x03], [0x00, 0x02, 0xfe, 0x06], [0x15]] (by rw [whole]; rfl)
  refine ⟨unclosed, whole, symbols.trans ?_⟩
  decide +kernel

end Run

end RadioGateway.ZWave
