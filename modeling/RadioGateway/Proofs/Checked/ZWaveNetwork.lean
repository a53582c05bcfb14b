import RadioGateway.Proofs.Checked.ZWaveNode
import RadioGateway.Proofs.Checked.ZWaveSession
import RadioGateway.Proofs.ZWave.Influence

/-!
# The checked Z-Wave network

What the network cuts out of payloads is limited by the bytes that are there, however long a payload
claims to be. A bitmap has at most as many bytes as one byte can count, and every byte is the place
of a node in the table.
-/

namespace RadioGateway.ZWave

open RadioGateway.Link Checked

def checkedNodeId? (index : Nat) (bits : Byte) (place : Nat) : Checked (Option Byte) := do
  let mask ← bit place
  if bits &&& mask = 0 then .ok none
  else
    let first ← multiply 32 index 8
    let offset ← add 32 first place
    let number ← add 32 offset 1
    .ok (if number < 256 then some (.ofNat number) else none)

def checkedNodeIdsFrom (index : Nat) : Bytes → Checked (List Byte)
  | [] => .ok []
  | bits :: rest => do
      let here ← (List.range 8).mapM (checkedNodeId? index bits)
      let later ← checkedNodeIdsFrom (index + 1) rest
      .ok (here.filterMap id ++ later)

theorem and_bit_eq_zero_iff (bits : Byte) {place : Nat} (inside : place < 8) :
    bits &&& .ofNat (2 ^ place) = 0 ↔ bits.toNat.testBit place = false := by
  have small : 2 ^ place < 2 ^ 8 := Nat.pow_lt_pow_right (by decide) inside
  rw [← UInt8.toNat_inj, UInt8.toNat_and, UInt8.toNat_ofNat', Nat.mod_eq_of_lt small,
    Nat.and_two_pow]
  cases bits.toNat.testBit place
  · exact iff_of_true (Nat.zero_mul _) rfl
  · exact iff_of_false (by simp) Bool.noConfusion

theorem checkedNodeId?_eq {index place : Nat} (near : index < 256) (bits : Byte)
    (inside : place < 8) :
    checkedNodeId? index bits place =
      .ok ((Option.guard (fun place =>
        bits.toNat.testBit place && index * 8 + 1 + place < 256) place).map fun place =>
          .ofNat (index * 8 + 1 + place)) := by
  have order : index * 8 + place + 1 = index * 8 + 1 + place := by omega
  rw [checkedNodeId?, bit_eq inside, ok_bind]
  by_cases clear : bits.toNat.testBit place = false
  · rw [if_pos ((and_bit_eq_zero_iff bits inside).mpr clear), Option.guard, clear]
    rfl
  · rw [if_neg (mt (and_bit_eq_zero_iff bits inside).mp clear), multiply_eq (by omega), ok_bind,
      add_eq (by omega), ok_bind, add_eq (by omega), ok_bind, order, Option.guard,
      Bool.eq_true_of_not_eq_false clear, Bool.true_and]
    by_cases fits : index * 8 + 1 + place < 256
    · rw [if_pos fits, if_pos (decide_eq_true fits)]
      rfl
    · rw [if_neg fits, if_neg (by simpa using fits)]
      rfl

theorem checkedNodeIdsFrom_eq {index : Nat} {bitmap : Bytes} (near : index + bitmap.length ≤ 256) :
    checkedNodeIdsFrom index bitmap = .ok (nodeIdsFrom (index * 8 + 1) bitmap) := by
  induction bitmap generalizing index with
  | nil => rfl
  | cons bits rest ih =>
      rw [List.length_cons] at near
      have here : (List.range 8).mapM (checkedNodeId? index bits) = .ok _ := mapM_eq
        fun place inside => checkedNodeId?_eq (by omega) bits (List.mem_range.mp inside)
      rw [checkedNodeIdsFrom, nodeIdsFrom, here, ok_bind, ih (by omega), ok_bind,
        List.filterMap_map, Function.id_comp, ← List.map_filterMap, List.filterMap_eq_filter]
      have next : (index + 1) * 8 + 1 = index * 8 + 1 + 8 := by omega
      rw [next]

namespace Directory

def checkedNode (directory : Directory) (id : Byte) : Checked Node :=
  get directory.nodes.toList id.toNat

theorem checkedNode_eq (directory : Directory) (id : Byte) :
    directory.checkedNode id = .ok (directory.node id) :=
  get_eq (Vector.getElem?_toList.trans (directory.find?_toNat id))

end Directory

namespace Network

variable {network : Network} (now : Nat)

def Spare (network : Network) : Prop := network.session.backlog.Spare

def checkedSubmit (now : Nat) (request : Request) (network : Network) : Checked Network := do
  let session ← network.session.checkedSubmit now request
  .ok { network with session }

def checkedSend (now : Nat) (node : Byte) (commands : List Bytes) (network : Network) :
    Checked Network :=
  commands.foldlM (fun network command => network.checkedSubmit now (.command node command)) network

theorem checkedSubmit_eq (spare : network.Spare) (request : Request) :
    network.checkedSubmit now request = .ok (network.submit now request) ∧
      (network.submit now request).Spare := by
  obtain ⟨submitted, left⟩ := Session.checkedSubmit_eq now spare request
  rw [checkedSubmit, submitted]
  exact ⟨rfl, left⟩

theorem checkedSend_eq (spare : network.Spare) (node : Byte) (commands : List Bytes) :
    network.checkedSend now node commands = .ok (network.send now node commands) ∧
      (network.send now node commands).Spare :=
  foldlM_eq Spare (fun _ _ spare => checkedSubmit_eq now spare _) spare commands

def checkedOnNodeList (now : Nat) (payload : Bytes) (network : Network) : Checked Network :=
  match payload with
  | _ :: _ :: count :: rest => do
      let bitmap ← slice rest 0 (min rest.length count.toNat)
      let ids ← checkedNodeIdsFrom 0 bitmap
      (ids.filter (· ≠ network.controller)).foldlM
        (fun network node => network.checkedSubmit now (.describeNode node)) network
  | _ => .ok network

def checkedIntroduce (now : Nat) (id : Byte) (classes : List Byte) (network : Network) :
    Checked Network := do
  let found ← network.directory.checkedNode id
  let node := classes.foldl Node.installGeneric { found with name := Numeral.decimal id.toNat }
  ({ network with directory := network.directory.modify id fun _ => node }).checkedSend now id
    node.getCommands

def checkedOnNodeDescription (now : Nat) (id : Byte) (payload : Bytes) (network : Network) :
    Checked Network :=
  match payload[4]? with
  | none => .ok network
  | some deviceClass => do
      let introduced ← network.checkedIntroduce now id (DeviceClass.expectedClasses deviceClass)
      if DeviceClass.isController deviceClass then .ok introduced
      else introduced.checkedSubmit now (.askNode id)

def checkedOnCommandReceived (now : Nat) (payload : Bytes) (network : Network) : Checked Network :=
  match payload with
  | _ :: source :: length :: rest =>
      if length.toNat ≤ rest.length then do
        let node ← network.directory.checkedNode source
        let command ← slice rest 0 length.toNat
        let outcome ← node.checkedDispatch? command
        match outcome with
        | some (node, commands) =>
            ({ network with
              directory := network.directory.modify source fun _ => node }).checkedSend now source
                commands
        | none => .ok network
      else .ok network
  | _ => .ok network

def checkedOnAnnouncement (now : Nat) (payload : Bytes) (network : Network) : Checked Network :=
  match payload with
  | status :: id :: length :: _ :: _ :: _ :: classes =>
      if status = announcementReceived then do
        let listed ← slice classes 0 (min (length.toNat - 3) classes.length)
        network.checkedIntroduce now id (listed.takeWhile (· ≠ CommandClass.mark))
      else .ok network
  | _ => .ok network

def checkedOnEvent (now : Nat) (network : Network) : Event Request Frame → Checked Network
  | .answered .listNodes frame => network.checkedOnNodeList now frame.payload
  | .answered (.describeNode node) frame =>
      network.checkedOnNodeDescription now node frame.payload
  | .answered _ _ => .ok network
  | .confirmed _ _ => .ok network
  | .unsolicited frame =>
      if frame.kind = .request then
        if frame.function = Function.commandReceived then
          network.checkedOnCommandReceived now frame.payload
        else if frame.function = Function.nodeAnnounced then
          network.checkedOnAnnouncement now frame.payload
        else .ok network
      else .ok network
  | .failed _ failure => .ok (network.alarm failure)

def checkedHandleEvents (now : Nat) (network : Network) : Checked Network :=
  let (events, session) := network.session.takeEvents
  events.foldlM (checkedOnEvent now) { network with session }

def checkedSettle (now : Nat) (network : Network) : Checked Network := do
  let handled ← network.checkedHandleEvents now
  handled.checkedHandleEvents now

theorem checkedOnNodeList_eq (spare : network.Spare) (payload : Bytes) :
    network.checkedOnNodeList now payload = .ok (network.onNodeList now payload) ∧
      (network.onNodeList now payload).Spare := by
  match payload with
  | [] | [_] | [_, _] => exact ⟨rfl, spare⟩
  | _ :: _ :: count :: rest =>
      have bound := count.toNat_lt
      have bitmap : slice rest 0 (min rest.length count.toNat) = .ok (rest.take count.toNat) := by
        rw [slice_eq (Nat.zero_le _) (Nat.min_le_left ..), List.drop_zero, Nat.min_comm,
          ← List.take_eq_take_min]
      rw [checkedOnNodeList, bitmap, ok_bind, checkedNodeIdsFrom_eq (by
        rw [List.length_take]
        omega), ok_bind]
      exact foldlM_eq Spare (fun _ _ spare => checkedSubmit_eq now spare _) spare _

theorem checkedIntroduce_eq (spare : network.Spare) (id : Byte) (classes : List Byte) :
    network.checkedIntroduce now id classes = .ok (network.introduce now id classes) ∧
      (network.introduce now id classes).Spare := by
  rw [checkedIntroduce, Directory.checkedNode_eq, ok_bind]
  exact @checkedSend_eq { network with directory := network.directory.modify id _ } now spare id _

theorem checkedOnNodeDescription_eq (spare : network.Spare) (id : Byte) (payload : Bytes) :
    network.checkedOnNodeDescription now id payload =
        .ok (network.onNodeDescription now id payload) ∧
      (network.onNodeDescription now id payload).Spare := by
  unfold checkedOnNodeDescription onNodeDescription
  cases payload[4]? with
  | none => exact ⟨rfl, spare⟩
  | some deviceClass =>
      obtain ⟨introduced, left⟩ :=
        checkedIntroduce_eq now spare id (DeviceClass.expectedClasses deviceClass)
      dsimp only
      rw [introduced, ok_bind]
      split
      · exact ⟨rfl, left⟩
      · exact checkedSubmit_eq now left _

theorem checkedOnCommandReceived_eq (spare : network.Spare) (payload : Bytes) :
    network.checkedOnCommandReceived now payload = .ok (network.onCommandReceived now payload) ∧
      (network.onCommandReceived now payload).Spare := by
  match payload with
  | [] | [_] | [_, _] => exact ⟨rfl, spare⟩
  | _ :: source :: length :: rest =>
      unfold checkedOnCommandReceived onCommandReceived
      dsimp only
      split
      · rename_i whole
        rw [Directory.checkedNode_eq, ok_bind, slice_eq (Nat.zero_le _) whole, List.drop_zero,
          ok_bind, Node.checkedDispatch?_eq, ok_bind]
        cases (network.directory.node source).dispatch? (rest.take length.toNat) with
        | none => exact ⟨rfl, spare⟩
        | some outcome =>
            exact @checkedSend_eq
              { network with directory := network.directory.modify source fun _ => outcome.1 } now
              spare source outcome.2
      · exact ⟨rfl, spare⟩

theorem checkedOnAnnouncement_eq (spare : network.Spare) (payload : Bytes) :
    network.checkedOnAnnouncement now payload = .ok (network.onAnnouncement now payload) ∧
      (network.onAnnouncement now payload).Spare := by
  match payload with
  | [] | [_] | [_, _] | [_, _, _] | [_, _, _, _] | [_, _, _, _, _] => exact ⟨rfl, spare⟩
  | status :: id :: length :: _ :: _ :: _ :: classes =>
      unfold checkedOnAnnouncement onAnnouncement
      dsimp only
      split
      · rw [slice_eq (Nat.zero_le _) (Nat.min_le_right ..), List.drop_zero,
          ← List.take_eq_take_min, ok_bind]
        exact checkedIntroduce_eq now spare id _
      · exact ⟨rfl, spare⟩

theorem checkedOnEvent_eq (spare : network.Spare) (event : Event Request Frame) :
    network.checkedOnEvent now event = .ok (network.onEvent now event) ∧
      (network.onEvent now event).Spare := by
  cases event with
  | answered request frame =>
      cases request with
      | listNodes => exact checkedOnNodeList_eq now spare frame.payload
      | describeNode node => exact checkedOnNodeDescription_eq now spare node frame.payload
      | _ => exact ⟨rfl, spare⟩
  | confirmed request frame => exact ⟨rfl, spare⟩
  | failed request failure => exact ⟨rfl, spare⟩
  | unsolicited frame =>
      unfold checkedOnEvent onEvent
      dsimp only
      split
      · split
        · exact checkedOnCommandReceived_eq now spare frame.payload
        · split
          · exact checkedOnAnnouncement_eq now spare frame.payload
          · exact ⟨rfl, spare⟩
      · exact ⟨rfl, spare⟩

theorem checkedHandleEvents_eq (spare : network.Spare) :
    network.checkedHandleEvents now = .ok (network.handleEvents now) ∧
      (network.handleEvents now).Spare := by
  have taken : ({ network with session := network.session.takeEvents.2 } : Network).Spare := spare
  exact foldlM_eq Spare (fun _ event spare => checkedOnEvent_eq now spare event) taken _

theorem checkedSettle_eq (spare : network.Spare) :
    network.checkedSettle now = .ok (network.settle now) ∧ (network.settle now).Spare := by
  obtain ⟨handled, left⟩ := checkedHandleEvents_eq now spare
  rw [checkedSettle, handled, ok_bind]
  exact checkedHandleEvents_eq now left

def checkedSet (now : Nat) (id : UInt32) (attributes : Attributes) (network : Network) :
    Checked (Bool × Network) :=
  match (network.directory.find? id.toNat).filter Node.isDiscovered with
  | none => .ok (false, network)
  | some node => do
      let (changed, commands) ← node.checkedSet attributes
      let sent ← ({ network with
        directory := network.directory.modify node.id fun _ => changed }).checkedSend now node.id
          commands
      let settled ← sent.checkedSettle now
      .ok (true, settled)

def checkedReceive (now : Nat) (bytes : Bytes) (network : Network) : Checked Network := do
  let session ← network.session.checkedReceive now bytes
  { network with session }.checkedSettle now

def checkedExpire (now : Nat) (network : Network) : Checked Network := do
  let session ← network.session.checkedExpire now
  { network with session }.checkedSettle now

def checkedClose (now : Nat) (network : Network) : Checked Network :=
  { network with session := network.session.close }.checkedSettle now

/-- The network after an operation. To read a node checks nothing, as a number that is no address
finds none. -/
def checkedPerform (now : Nat) (network : Network) : Operation → Checked Network
  | .set id attributes => do
      let (_, network) ← network.checkedSet now id attributes
      .ok network
  | .get _ _ => .ok network
  | .receive bytes => network.checkedReceive now bytes
  | .expire => network.checkedExpire now
  | .fail failure => .ok (network.alarm failure)
  | .close => network.checkedClose now
  | .takeOutput => .ok { network with session := network.session.takeOutput.2 }

def checkedStart (now : Nat) (session : Session) (controller : Byte) : Checked Network :=
  ({ session, controller } : Network).checkedSubmit now .listNodes

def checkedFollow (network : Network) (operations : List (Nat × Operation)) : Checked Network :=
  operations.foldlM (fun network (now, operation) => network.checkedPerform now operation) network

theorem checkedSet_eq (spare : network.Spare) (id : UInt32) (attributes : Attributes) :
    network.checkedSet now id attributes = .ok (network.set now id attributes) ∧
      (network.set now id attributes).2.Spare := by
  unfold checkedSet set
  cases (network.directory.find? id.toNat).filter Node.isDiscovered with
  | none => exact ⟨rfl, spare⟩
  | some node =>
      obtain ⟨sent, left⟩ := checkedSend_eq now
        (show ({ network with directory := network.directory.modify node.id fun _ =>
          (node.set attributes).1 } : Network).Spare from spare) node.id (node.set attributes).2
      obtain ⟨settled, kept⟩ := checkedSettle_eq now left
      dsimp only
      rw [Node.checkedSet_eq, ok_bind, sent, ok_bind, settled, ok_bind]
      exact ⟨rfl, kept⟩

theorem checkedPerform_eq (spare : network.Spare) (operation : Operation) :
    network.checkedPerform now operation = .ok (network.perform now operation) ∧
      (network.perform now operation).Spare := by
  cases operation with
  | set id attributes =>
      obtain ⟨set, left⟩ := checkedSet_eq now spare id attributes
      rw [checkedPerform, set, ok_bind]
      exact ⟨rfl, left⟩
  | get id attributes => exact ⟨rfl, spare⟩
  | receive bytes =>
      obtain ⟨received, left⟩ := Session.checkedReceive_eq now spare bytes
      rw [checkedPerform, checkedReceive, received, ok_bind]
      exact checkedSettle_eq now left
  | expire =>
      obtain ⟨expired, left⟩ := Session.checkedExpire_eq now spare
      rw [checkedPerform, checkedExpire, expired, ok_bind]
      exact checkedSettle_eq now left
  | fail failure => exact ⟨rfl, spare⟩
  | close => exact checkedSettle_eq now Backlog.spare_empty
  | takeOutput => exact ⟨rfl, spare⟩

theorem checkedStart_eq {session : Session} (spare : session.backlog.Spare) (controller : Byte) :
    checkedStart now session controller = .ok (start now session controller) ∧
      (start now session controller).Spare :=
  @checkedSubmit_eq { session, controller } now spare .listNodes

theorem checkedFollow_eq (spare : network.Spare) (operations : List (Nat × Operation)) :
    network.checkedFollow operations = .ok (network.follow operations) ∧
      (network.follow operations).Spare :=
  foldlM_eq Spare (fun _ timed spare => checkedPerform_eq timed.1 spare timed.2) spare operations

end Network

end RadioGateway.ZWave
