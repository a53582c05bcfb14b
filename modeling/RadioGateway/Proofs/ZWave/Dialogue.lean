import RadioGateway.Proofs.ZWave.Acknowledgement

/-!
# Dialogues with a controller

A session asks a controller about nodes over a line that loses nothing and keeps the order, but may
be slow in both directions. The controller answers every copy of a question that it reads. Nothing in
an answer tells which copy it belongs to, or even which node.
-/

namespace RadioGateway.ZWave

open RadioGateway.Link

/-- A controller by what it has to say about each node. -/
structure Controller where
  description : Byte → Bytes
  fits : ∀ node, (description node).length ≤ Frame.maxPayload

def Frame.question? : Frame → Option Byte
  | ⟨.request, function, [node]⟩ => if function = Function.describeNode then some node else none
  | _ => none

namespace Controller

variable (controller : Controller)

def answer (node : Byte) : Frame :=
  ⟨.response, Function.describeNode, controller.description node⟩

/-- What the controller sends when it has read a record: to a question an acknowledgement and the
answer, to anything else nothing. -/
def reply : Decoding Frame → Bytes
  | .frame frame _ =>
      match frame.question? with
      | some node => Frame.symbolByte .ack :: ((controller.answer node).encode.toOption.getD [])
      | none => []
  | _ => []

theorem encode_answer (node : Byte) :
    ∃ bytes, (controller.answer node).encode = .ok bytes := by
  have fits : ¬ Frame.maxPayload < (controller.answer node).payload.length :=
    Nat.not_lt.mpr (controller.fits node)
  exact ⟨_, if_neg fits⟩

/-- A question is answered by two records. -/
theorem spells_reply (node : Byte) (length : Nat) :
    ∃ size, Spells Frame.decode [.symbol .ack, .frame (controller.answer node) size]
      (controller.reply (.frame (Request.describeNode node).frame length)) := by
  obtain ⟨bytes, encoded⟩ := controller.encode_answer node
  have asked : (Request.describeNode node).frame.question? = some node := rfl
  refine ⟨bytes.length, ?_⟩
  have sent : controller.reply (.frame (Request.describeNode node).frame length) =
      [Frame.symbolByte .ack] ++ bytes := by
    simp [reply, asked, encoded, Except.toOption]
  rw [sent]
  exact (Frame.spells_symbol .ack).append (Frame.spells_frame encoded)

end Controller

/-- A run with the bytes that are under way between its session and a controller. -/
structure Dialogue where
  run : Run
  outbound : Bytes := []
  inbound : Bytes := []

inductive Move where
  | ask (node : Byte)
  | pass (duration : Nat)
  /-- The timer fires, if it has run out. -/
  | expire
  | fetch
  | transmit
  /-- The controller reads the next record and replies to it. -/
  | read
  | deliver (count : Nat)
  deriving DecidableEq, Repr

namespace Dialogue

def start (ackTimeout answerTimeout : Nat) : Dialogue := { run := Run.start ackTimeout answerTimeout }

def isDue (dialogue : Dialogue) : Bool :=
  dialogue.run.session.backlog.deadline.any (· ≤ dialogue.run.now)

def move (controller : Controller) (dialogue : Dialogue) : Move → Dialogue
  | .ask node =>
      { dialogue with run := dialogue.run.act (.operate (.submit (.describeNode node))) }
  | .pass duration => { dialogue with run := dialogue.run.act (.advance duration) }
  | .expire =>
      if dialogue.isDue then { dialogue with run := dialogue.run.act (.operate .expire) }
      else dialogue
  | .fetch => { dialogue with run := dialogue.run.act .takeEvents }
  | .transmit =>
      { dialogue with
        run := dialogue.run.act .takeOutput
        outbound := dialogue.outbound ++ dialogue.run.session.output }
  | .read =>
      let record := Frame.decode dialogue.outbound
      { dialogue with
        outbound := dialogue.outbound.drop record.consumed
        inbound := dialogue.inbound ++ controller.reply record }
  | .deliver count =>
      { dialogue with
        run := dialogue.run.act (.operate (.receive (dialogue.inbound.take count)))
        inbound := dialogue.inbound.drop count }

def follow (controller : Controller) (dialogue : Dialogue) (moves : List Move) : Dialogue :=
  moves.foldl (move controller) dialogue

/-- The run of a dialogue is a run like any other. -/
theorem run_follow (controller : Controller) (dialogue : Dialogue) (moves : List Move) :
    ∃ actions, (dialogue.follow controller moves).run = dialogue.run.follow actions := by
  induction moves generalizing dialogue with
  | nil => exact ⟨[], rfl⟩
  | cons first later ih =>
      obtain ⟨actions, same⟩ := ih (dialogue.move controller first)
      have step : ∃ actions, (dialogue.move controller first).run = dialogue.run.follow actions := by
        cases first with
        | ask node => exact ⟨[.operate (.submit (.describeNode node))], rfl⟩
        | pass duration => exact ⟨[.advance duration], rfl⟩
        | expire =>
            rw [move]
            split
            · exact ⟨[.operate .expire], rfl⟩
            · exact ⟨[], rfl⟩
        | fetch => exact ⟨[.takeEvents], rfl⟩
        | transmit => exact ⟨[.takeOutput], rfl⟩
        | read => exact ⟨[], rfl⟩
        | deliver count => exact ⟨[.operate (.receive (dialogue.inbound.take count))], rfl⟩
      obtain ⟨before, start⟩ := step
      refine ⟨before ++ actions, same.trans ?_⟩
      rw [start, Run.follow, Run.follow, Run.follow, List.foldl_append]

end Dialogue

end RadioGateway.ZWave
