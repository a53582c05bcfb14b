import RadioGateway.Proofs.Checked.Decimal
import RadioGateway.ZWave.Node

/-!
# Checked nodes

Attributes name numbers that are read into words, and a report of a register says itself how many
bytes its value has. Neither makes a feature of a node stop.
-/

namespace RadioGateway.ZWave

open Checked

namespace Level

def checkedRequested? (attributes : Attributes) : Checked (Option Byte) := do
  let percentage ← attributes.checkedPercentage? "dim"
  .ok <| match percentage, attributes.state? "state" with
    | some dim, _ => some dim
    | none, some true => some on
    | none, some false => some off
    | none, none => none

theorem checkedRequested?_eq (attributes : Attributes) :
    checkedRequested? attributes = .ok (requested? attributes) := by
  rw [checkedRequested?, Attributes.checkedPercentage?_eq, ok_bind]
  rfl

end Level

namespace RegisterValue

def checkedRequested? (attributes : Attributes) (name : String) :
    RegisterValue → Checked (Option RegisterValue)
  | byte _ => do
      let value ← attributes.checkedByte? name
      .ok (value.map byte)
  | word _ => do
      let value ← attributes.checkedWord? name
      .ok (value.map word)
  | long _ => do
      let value ← attributes.checkedLong? name
      .ok (value.map long)

theorem checkedRequested?_eq (attributes : Attributes) (name : String) (value : RegisterValue) :
    value.checkedRequested? attributes name = .ok (value.requested? attributes name) := by
  cases value with
  | byte value => rw [checkedRequested?, Attributes.checkedByte?_eq, ok_bind, requested?]
  | word value => rw [checkedRequested?, Attributes.checkedWord?_eq, ok_bind, requested?]
  | long value => rw [checkedRequested?, Attributes.checkedLong?_eq, ok_bind, requested?]

end RegisterValue

namespace Registers

def checkedSetCommands (registers : Registers) (attributes : Attributes) :
    Checked (List Bytes) := do
  let commands ← registers.known.toList.mapM fun (index, value) => do
    let requested ← value.checkedRequested? attributes (Register.name index)
    .ok <| match requested with
      | some requested => [Register.setCommand index requested, Register.getCommand index]
      | none => []
  .ok commands.flatten

theorem checkedSetCommands_eq (registers : Registers) (attributes : Attributes) :
    registers.checkedSetCommands attributes = .ok (registers.setCommands attributes) := by
  rw [checkedSetCommands, mapM_eq, ok_bind, setCommands, List.flatMap]
  rintro ⟨index, value⟩ _
  dsimp only
  rw [RegisterValue.checkedRequested?_eq]
  rfl

end Registers

namespace Shutter

def checkedSetCommands (shutter : Shutter) (attributes : Attributes) : Checked (List Bytes) := do
  let asked ← attributes.checkedPercentage? "position.blinds"
  let slat ← attributes.checkedPercentage? "position.slat"
  let blinds := nudge asked slat
  let flags := (if blinds.isSome then blindsFlag else 0) ||| (if slat.isSome then slatFlag else 0)
  .ok <| if flags = 0 then []
    else [setCommand flags (blinds.getD shutter.blinds) (slat.getD shutter.slat)]

theorem checkedSetCommands_eq (shutter : Shutter) (attributes : Attributes) :
    shutter.checkedSetCommands attributes = .ok (shutter.setCommands attributes) := by
  rw [checkedSetCommands, Attributes.checkedPercentage?_eq, ok_bind,
    Attributes.checkedPercentage?_eq, ok_bind, setCommands]

end Shutter

namespace ShutterTuning

def checkedSet (tuning : ShutterTuning) (attributes : Attributes) :
    Checked (ShutterTuning × List Bytes) := do
  let requested ← attributes.checkedWord? "config.slatTime"
  .ok <| match requested with
    | some slatTime => ({ slatTime }, [Register.setCommand slatTimeRegister (.word slatTime)])
    | none =>
        if attributes.contains "config.calibrate" then
          (tuning, [Register.setCommand calibrationRegister (.byte 1)])
        else (tuning, [])

theorem checkedSet_eq (tuning : ShutterTuning) (attributes : Attributes) :
    tuning.checkedSet attributes = .ok (tuning.set attributes) := by
  rw [checkedSet, Attributes.checkedWord?_eq, ok_bind]
  rfl

end ShutterTuning

namespace Feature

def checkedSet (attributes : Attributes) : Feature → Checked (Feature × List Bytes)
  | level state => do
      let requested ← Level.checkedRequested? attributes
      .ok (level state, (requested.map Level.setCommand).toList)
  | registers state => do
      let commands ← state.checkedSetCommands attributes
      .ok (registers state, commands)
  | identification state => .ok (identification state, [])
  | shutter state => do
      let commands ← state.checkedSetCommands attributes
      .ok (shutter state, commands)
  | shutterTuning state => do
      let (state, commands) ← state.checkedSet attributes
      .ok (shutterTuning state, commands)

theorem checkedSet_eq (attributes : Attributes) (feature : Feature) :
    feature.checkedSet attributes = .ok (feature.set attributes) := by
  cases feature with
  | level state => rw [checkedSet, Level.checkedRequested?_eq, ok_bind, set]
  | registers state => rw [checkedSet, Registers.checkedSetCommands_eq, ok_bind, set]
  | identification state => rfl
  | shutter state => rw [checkedSet, Shutter.checkedSetCommands_eq, ok_bind, set]
  | shutterTuning state => rw [checkedSet, ShutterTuning.checkedSet_eq, ok_bind, set]

end Feature

namespace Node

def checkedSet (node : Node) (attributes : Attributes) : Checked (Node × List Bytes) := do
  let outcomes ← node.features.values.mapM (Feature.checkedSet attributes)
  .ok ({ node with features := node.features.mapValues fun feature => (feature.set attributes).1 },
    outcomes.flatMap Prod.snd)

theorem checkedSet_eq (node : Node) (attributes : Attributes) :
    node.checkedSet attributes = .ok (node.set attributes) := by
  rw [checkedSet, mapM_eq fun feature _ => Feature.checkedSet_eq attributes feature, ok_bind, set,
    List.flatMap_map]

end Node

def Register.checkedReport? : Bytes → Checked (Option (Byte × RegisterValue))
  | _ :: function :: index :: size :: rest =>
      if function = 0x06 ∧ size.toNat ≤ rest.length then do
        let value ← slice rest 0 size.toNat
        .ok ((RegisterValue.ofBytes? value).map (index, ·))
      else .ok none
  | _ => .ok none

theorem Register.checkedReport?_eq (command : Bytes) :
    checkedReport? command = .ok (report? command) := by
  match command with
  | [] | [_] | [_, _] | [_, _, _] => rfl
  | _ :: function :: index :: size :: rest =>
      rw [checkedReport?, report?]
      split
      · rename_i whole
        rw [slice_eq (Nat.zero_le _) whole.2, ok_bind, List.drop_zero]
      · rfl

def Registers.checkedOnCommand (registers : Registers) (command : Bytes) : Checked Registers := do
  let report ← Register.checkedReport? command
  .ok <| match report with
    | some (index, value) => { known := registers.known.insert index value }
    | none => registers

def ShutterTuning.checkedOnCommand (tuning : ShutterTuning) (command : Bytes) :
    Checked ShutterTuning := do
  let report ← Register.checkedReport? command
  .ok <| match report with
    | some (index, .word slatTime) => if index = slatTimeRegister then { slatTime } else tuning
    | _ => tuning

namespace Feature

def checkedOnCommand (command : Bytes) : Feature → Checked Feature
  | level state => .ok (level (state.onCommand command))
  | registers state => do
      let state ← state.checkedOnCommand command
      .ok (registers state)
  | identification state => .ok (identification (state.onCommand command))
  | shutter state => .ok (shutter (state.onCommand command))
  | shutterTuning state => do
      let state ← state.checkedOnCommand command
      .ok (shutterTuning state)

theorem checkedOnCommand_eq (command : Bytes) (feature : Feature) :
    feature.checkedOnCommand command = .ok (feature.onCommand command) := by
  cases feature with
  | level state | identification state | shutter state => rfl
  | registers state =>
      rw [checkedOnCommand, Registers.checkedOnCommand, Register.checkedReport?_eq]
      rfl
  | shutterTuning state =>
      rw [checkedOnCommand, ShutterTuning.checkedOnCommand, Register.checkedReport?_eq]
      rfl

end Feature

namespace Node

def checkedFollow (node : Node) (feature : Feature) (command : Bytes) :
    Checked (Feature × Node × List Bytes) := do
  let after ← feature.checkedOnCommand command
  .ok <| match feature.product? command with
    | some product =>
        (after, { node with model := some product.name }.specialise product,
          product.features.flatMap fun entry => entry.2.getCommands)
    | none => (after, node, [])

def checkedDispatch? (node : Node) (command : Bytes) : Checked (Option (Node × List Bytes)) :=
  match command.head? with
  | none => .ok none
  | some commandClass =>
      match node.features.find? commandClass with
      | none => .ok none
      | some feature => do
          let rest := { node with features := node.features.erase commandClass }
          let (feature, node, commands) ← rest.checkedFollow feature command
          .ok (some (node.installDefault commandClass feature, commands))

theorem checkedFollow_eq (node : Node) (feature : Feature) (command : Bytes) :
    node.checkedFollow feature command = .ok (node.follow feature command) := by
  rw [checkedFollow, Feature.checkedOnCommand_eq]
  unfold follow
  cases feature.product? command <;> rfl

theorem checkedDispatch?_eq (node : Node) (command : Bytes) :
    node.checkedDispatch? command = .ok (node.dispatch? command) := by
  unfold checkedDispatch? dispatch?
  cases command.head? with
  | none => rfl
  | some commandClass =>
      rw [Option.bind_some]
      dsimp only
      cases node.features.find? commandClass with
      | none => rfl
      | some feature =>
          dsimp only
          rw [checkedFollow_eq, ok_bind, Option.map_some]

end Node

end RadioGateway.ZWave
