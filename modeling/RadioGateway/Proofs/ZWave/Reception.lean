import RadioGateway.Proofs.ZWave.Consequence
import RadioGateway.Proofs.ZWave.Framing
import RadioGateway.Proofs.ZWave.Run

/-!
# Frames from nodes

The commands and announcements of nodes answer no request. A network that has settled, and has no
unread bytes, takes in such a frame as a whole: it tells something about its sender, and leaves the
network ready for the next one.
-/

namespace RadioGateway.ZWave

open RadioGateway.Link

namespace Frame

/-- The node that sent a command or announced itself in a frame: its number follows the status. -/
def sender? (frame : Frame) : Option Byte :=
  if frame.kind = .request ∧
      (frame.function = Function.commandReceived ∨ frame.function = Function.nodeAnnounced) then
    frame.payload[1]?
  else none

theorem source_of_command {payload : Bytes} {influence : Influence}
    (told : Influence.ofCommand? payload = some influence) : payload[1]? = some influence.id := by
  unfold Influence.ofCommand? at told
  split at told
  · split at told
    · cases told
      rfl
    · cases told
  · cases told

theorem source_of_announcement {payload : Bytes} {influence : Influence}
    (told : Influence.ofAnnouncement? payload = some influence) :
    payload[1]? = some influence.id := by
  unfold Influence.ofAnnouncement? at told
  split at told
  · split at told
    · cases told
      rfl
    · cases told
  · cases told

theorem sender?_of_influence {frame : Frame} {influence : Influence}
    (told : Influence.ofFrame? frame = some influence) : frame.sender? = some influence.id := by
  unfold Influence.ofFrame? at told
  split at told
  · rename_i request
    split at told
    · rename_i command
      rw [sender?, if_pos ⟨request, .inl command⟩]
      exact source_of_command told
    · split at told
      · rename_i announcement
        rw [sender?, if_pos ⟨request, .inr announcement⟩]
        exact source_of_announcement told
      · cases told
  · cases told

end Frame

namespace Session

theorem function_mem (request : Request) :
    request.function ∈ ([0x02, 0x13, 0x41, 0x60] : Bytes) := by
  cases request <;> simp only [Request.function] <;> decide

theorem onFrame_of_foreign {frame : Frame}
    (foreign : frame.function ∉ ([0x02, 0x13, 0x41, 0x60] : Bytes)) (now : Nat)
    (session : Session) : session.onFrame now frame = session.emit (.unsolicited frame) := by
  have apart : ∀ request, relation request frame = .foreign := by
    intro request
    have other : frame.function ≠ request.function :=
      fun same => foreign (same ▸ function_mem request)
    rw [relation, if_neg other]
  unfold onFrame
  cases session.backlog.head? with
  | none => rfl
  | some head => simp only [apart head]

theorem onFrame_of_unasked {frame : Frame}
    (unasked : frame.function = Function.commandReceived ∨ frame.function = Function.nodeAnnounced)
    (now : Nat) (session : Session) :
    session.onFrame now frame = session.emit (.unsolicited frame) := by
  apply onFrame_of_foreign
  rcases unasked with command | announcement
  · rw [command]
    decide
  · rw [announcement]
    decide

theorem unasked_of_sender {frame : Frame} {id : Byte} (sent : frame.sender? = some id) :
    frame.function = Function.commandReceived ∨ frame.function = Function.nodeAnnounced := by
  unfold Frame.sender? at sent
  split at sent
  · rename_i unasked
    exact unasked.2
  · cases sent

/-- Bytes that complete one frame are taken in as this frame. -/
theorem receive_of_encode {session : Session} {frame : Frame} {bytes : Bytes}
    (encoded : frame.encode = .ok (session.received ++ bytes)) (now : Nat) :
    session.receive now bytes =
      { (session.write [Frame.symbolByte .ack]).onFrame now frame with received := [] } := by
  rw [receive, (Frame.spells_frame encoded).drain_eq Frame.incremental_decode]
  rfl

/-- To receive a frame that a node sent is to acknowledge it and hand it on. -/
theorem receive_of_sender {session : Session} (clean : session.received = []) {frame : Frame}
    {id : Byte} (sent : frame.sender? = some id) {bytes : Bytes}
    (encoded : frame.encode = .ok bytes) (now : Nat) :
    session.receive now bytes =
      (session.write [Frame.symbolByte .ack]).emit (.unsolicited frame) := by
  rw [receive_of_encode (by rwa [clean, List.nil_append]),
    onFrame_of_unasked (unasked_of_sender sent), ← clean]
  rfl

theorem received_submitAll (now : Nat) (session : Session) (requests : List Request) :
    (session.submitAll now requests).received = session.received := by
  apply List.foldlRecOn (motive := fun after : Session => after.received = session.received)
    requests
  · rfl
  · intro between same request _
    rw [submit]
    split
    · exact (received_transmitFrom ..).trans same
    · exact same

end Session

namespace Network

theorem received_handleEvents (now : Nat) (network : Network) :
    (network.handleEvents now).session.received = network.session.received := by
  rw [handleEvents_eq]
  exact Session.received_submitAll ..

/-- A frame that a node sent tells what it tells about the node, and that is all that becomes of the
nodes. -/
theorem receive_of_sender {network : Network} (quiet : network.session.events = [])
    (clean : network.session.received = []) {frame : Frame} {id : Byte}
    (sent : frame.sender? = some id) {bytes : Bytes} (encoded : frame.encode = .ok bytes)
    (now : Nat) :
    (network.receive now bytes).directory =
        (Influence.ofFrame? frame).toList.foldl Directory.heed network.directory ∧
      (network.receive now bytes).session.received = [] := by
  let heard : Network := { network with
    session := (network.session.write [Frame.symbolByte .ack]).emit (.unsolicited frame) }
  have received : network.receive now bytes = heard.settle now := by
    rw [receive, Session.receive_of_sender clean sent encoded now]
  have events : heard.session.events = [.unsolicited frame] := by
    simp [heard, Session.emit, Session.write, quiet]
  -- What else is handled are failures of the requests to which the frame leads.
  have told : (heard.handled now).filterMap Influence.ofEvent? =
      (Influence.ofFrame? frame).toList := by
    have silent := (Directory.demands_of_failures network.controller network.directory
      (failures_handleEvents now heard)).2
    rw [handled, List.filterMap_append, silent, events, List.append_nil]
    cases told : Influence.ofFrame? frame <;> simp [Influence.ofEvent?, told]
  rw [received, settle_eq, told]
  exact ⟨rfl, (received_handleEvents now heard).trans clean⟩

end Network

end RadioGateway.ZWave
