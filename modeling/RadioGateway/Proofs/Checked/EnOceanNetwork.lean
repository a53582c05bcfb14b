import RadioGateway.Proofs.Checked.EnOceanSession
import RadioGateway.Proofs.EnOcean.Operation

/-!
# The checked EnOcean network

The strength of a signal is told without its sign, as a byte. It is negated in a word of 16 bits, in
which every byte has its opposite.
-/

namespace RadioGateway.EnOcean

open RadioGateway.Link Checked

namespace Rocker

def checkedButton (rocker : Rocker) : Checked Byte := shiftRight rocker.data 5

def checkedDbm (rocker : Rocker) : Checked (Option Int) :=
  match rocker.attenuation with
  | none => .ok none
  | some value => do
      let strength ← negate 16 value.toNat
      .ok (some strength)

def checkedDescribe (rocker : Rocker) (sender : UInt32) (attributes : Attributes) :
    Checked Attributes := do
  let named : Attributes := attributes.insert "node.name" (Numeral.hex 8 sender.toNat)
  let button ← rocker.checkedButton
  .ok ((named.setState "state" rocker.isPressed).setByte "button" button)

theorem checkedButton_eq (rocker : Rocker) : rocker.checkedButton = .ok rocker.button := rfl

theorem checkedDbm_eq (rocker : Rocker) : rocker.checkedDbm = .ok rocker.dbm := by
  unfold checkedDbm dbm
  cases rocker.attenuation with
  | none => rfl
  | some value =>
      dsimp only
      rw [negate_eq (by omega), ok_bind, Option.map_some]

theorem checkedDescribe_eq (rocker : Rocker) (sender : UInt32) (attributes : Attributes) :
    rocker.checkedDescribe sender attributes = .ok (rocker.describe sender attributes) := by
  rw [checkedDescribe, checkedButton_eq, ok_bind, describe]

end Rocker

namespace Network

variable {network : Network} (now : Nat)

def Spare (network : Network) : Prop := network.session.backlog.Spare

def checkedOnEvent (network : Network) : Event Request Packet → Checked Network
  | .answered request packet =>
      .ok <| if request = .readBaseId then
        { network with baseId := (baseIdIn? packet.data).or network.baseId }
      else network
  | .confirmed _ _ => .ok network
  | .unsolicited packet =>
      match Rocker.ofPacket? packet with
      | some (sender, rocker) => do
          let _ ← rocker.checkedDbm
          let _ ← rocker.checkedButton
          .ok { network with rockers := network.rockers.insert sender rocker }
      | none => .ok network
  | .failed _ failure => .ok (network.alarm failure)

def checkedSettle (network : Network) : Checked Network :=
  let (events, session) := network.session.takeEvents
  events.foldlM checkedOnEvent { network with session }

theorem checkedOnEvent_eq (spare : network.Spare) (event : Event Request Packet) :
    network.checkedOnEvent event = .ok (network.onEvent event) ∧
      (network.onEvent event).Spare := by
  cases event with
  | answered request packet =>
      refine ⟨rfl, ?_⟩
      unfold onEvent
      dsimp only
      split <;> exact spare
  | confirmed request packet => exact ⟨rfl, spare⟩
  | unsolicited packet =>
      unfold checkedOnEvent onEvent
      dsimp only
      cases Rocker.ofPacket? packet with
      | none => exact ⟨rfl, spare⟩
      | some telegram =>
          dsimp only
          rw [Rocker.checkedDbm_eq, ok_bind, Rocker.checkedButton_eq, ok_bind]
          exact ⟨rfl, spare⟩
  | failed request failure => exact ⟨rfl, spare⟩

theorem checkedSettle_eq (spare : network.Spare) :
    network.checkedSettle = .ok network.settle ∧ network.settle.Spare := by
  have taken : ({ network with session := network.session.takeEvents.2 } : Network).Spare := spare
  exact foldlM_eq Spare (fun _ event spare => checkedOnEvent_eq spare event) taken _

def checkedDescribe (network : Network) (sender : UInt32) (attributes : Attributes) :
    Checked (Bool × Attributes) :=
  match network.rockers.find? sender with
  | none => .ok (false, attributes)
  | some rocker => do
      let described ← rocker.checkedDescribe sender attributes
      .ok (true, described)

def checkedPerform (now : Nat) (network : Network) : Operation → Checked Network
  | .set _ _ => .ok network
  | .get id attributes => do
      let _ ← network.checkedDescribe id attributes
      .ok network
  | .receive bytes => do
      let session ← network.session.checkedReceive now bytes
      { network with session }.checkedSettle
  | .expire => do
      let session ← network.session.checkedExpire now
      { network with session }.checkedSettle
  | .fail failure => .ok (network.alarm failure)
  | .takeOutput => .ok { network with session := network.session.takeOutput.2 }

theorem checkedDescribe_eq (network : Network) (sender : UInt32) (attributes : Attributes) :
    network.checkedDescribe sender attributes = .ok (network.describe sender attributes) := by
  unfold checkedDescribe describe
  cases network.rockers.find? sender with
  | none => rfl
  | some rocker =>
      dsimp only
      rw [Rocker.checkedDescribe_eq, ok_bind]

theorem checkedPerform_eq (spare : network.Spare) (operation : Operation) :
    network.checkedPerform now operation = .ok (network.perform now operation) ∧
      (network.perform now operation).Spare := by
  cases operation with
  | set id attributes => exact ⟨rfl, spare⟩
  | get id attributes =>
      rw [checkedPerform, checkedDescribe_eq, ok_bind]
      exact ⟨rfl, spare⟩
  | receive bytes =>
      obtain ⟨received, left⟩ := Session.checkedReceive_eq now spare bytes
      rw [checkedPerform, received, ok_bind]
      exact checkedSettle_eq left
  | expire =>
      obtain ⟨expired, left⟩ := Session.checkedExpire_eq now spare
      rw [checkedPerform, expired, ok_bind]
      exact checkedSettle_eq left
  | fail failure => exact ⟨rfl, spare⟩
  | takeOutput => exact ⟨rfl, spare⟩

def checkedStart (now : Nat) (session : Session) : Checked Network := do
  let session ← session.checkedSubmit now .readBaseId
  .ok { session }

inductive Action where
  | operate (operation : Operation)
  | close
  deriving DecidableEq, Repr

def act (now : Nat) (network : Network) : Action → Network
  | .operate operation => network.perform now operation
  | .close => network.close

def checkedAct (now : Nat) (network : Network) : Action → Checked Network
  | .operate operation => network.checkedPerform now operation
  | .close => { network with session := network.session.close }.checkedSettle

def carryOut (network : Network) (actions : List (Nat × Action)) : Network :=
  actions.foldl (fun network (now, action) => network.act now action) network

def checkedCarryOut (network : Network) (actions : List (Nat × Action)) : Checked Network :=
  actions.foldlM (fun network (now, action) => network.checkedAct now action) network

theorem checkedStart_eq {session : Session} (spare : session.backlog.Spare) :
    checkedStart now session = .ok (start now session) ∧ (start now session).Spare := by
  obtain ⟨submitted, left⟩ := Session.checkedSubmit_eq now spare .readBaseId
  rw [checkedStart, submitted, ok_bind]
  exact ⟨rfl, left⟩

theorem checkedAct_eq (spare : network.Spare) (action : Action) :
    network.checkedAct now action = .ok (network.act now action) ∧
      (network.act now action).Spare := by
  cases action with
  | operate operation => exact checkedPerform_eq now spare operation
  | close => exact checkedSettle_eq (Backlog.spare_empty : ({} : Backlog Request).Spare)

theorem checkedCarryOut_eq (spare : network.Spare) (actions : List (Nat × Action)) :
    network.checkedCarryOut actions = .ok (network.carryOut actions) ∧
      (network.carryOut actions).Spare :=
  foldlM_eq Spare (fun _ timed spare => checkedAct_eq timed.1 spare timed.2) spare actions

end Network

end RadioGateway.EnOcean
