import RadioGateway.Attributes
import RadioGateway.ZWave.CommandClass

/-!
# Registers

The configuration command class reads and writes numbered registers of one, two or four bytes. As
nothing is known about the registers of a device, only those that it has reported are tracked, under
the attribute names `config.0` to `config.255`.
-/

namespace RadioGateway.ZWave

/-- The value of a register, with its width. -/
inductive RegisterValue where
  | byte (value : UInt8)
  | word (value : UInt16)
  | long (value : UInt32)
  deriving DecidableEq, Repr

namespace RegisterValue

def size : RegisterValue → Byte
  | byte _ => 1
  | word _ => 2
  | long _ => 4

def bytes : RegisterValue → Bytes
  | byte value => [value]
  | word value => Bytes.ofWord value
  | long value => Bytes.ofLong value

def ofBytes? : Bytes → Option RegisterValue
  | [value] => some (byte value)
  | [high, low] => some (word (Bytes.word high low))
  | [first, second, third, fourth] => some (long (Bytes.long first second third fourth))
  | _ => none

theorem length_bytes (value : RegisterValue) : value.bytes.length = value.size.toNat := by
  cases value <;> rfl

theorem ofBytes?_bytes (value : RegisterValue) : ofBytes? value.bytes = some value := by
  cases value with
  | byte value => rfl
  | word value => exact congrArg (fun value => some (word value)) (Bytes.word_ofWord value)
  | long value => exact congrArg (fun value => some (long value)) (Bytes.long_ofLong value)

/-- The value under a name, in the width of the given one. -/
def requested? (attributes : Attributes) (name : String) : RegisterValue → Option RegisterValue
  | byte _ => (attributes.byte? name).map byte
  | word _ => (attributes.word? name).map word
  | long _ => (attributes.long? name).map long

def describe (attributes : Attributes) (name : String) : RegisterValue → Attributes
  | byte value => attributes.setByte name value
  | word value => attributes.setWord name value
  | long value => attributes.setLong name value

end RegisterValue

namespace Register

def setCommand (index : Byte) (value : RegisterValue) : Bytes :=
  CommandClass.configuration :: 0x04 :: index :: value.size :: value.bytes

def getCommand (index : Byte) : Bytes := [CommandClass.configuration, 0x05, index]

/-- Reads a report of a register. The bytes after the value do not matter. -/
def report? : Bytes → Option (Byte × RegisterValue)
  | _ :: function :: index :: size :: rest =>
      if function = 0x06 ∧ size.toNat ≤ rest.length then
        (RegisterValue.ofBytes? (rest.take size.toNat)).map (index, ·)
      else none
  | _ => none

def name (index : Byte) : String := "config." ++ Numeral.decimal index.toNat

end Register

structure Registers where
  known : SortedMap Byte RegisterValue := .empty
  deriving DecidableEq, Repr

namespace Registers

/-- Each known register that attributes ask for is written and read back. -/
def setCommands (registers : Registers) (attributes : Attributes) : List Bytes :=
  registers.known.toList.flatMap fun (index, value) =>
    match value.requested? attributes (Register.name index) with
    | some requested => [Register.setCommand index requested, Register.getCommand index]
    | none => []

def getCommands (registers : Registers) : List Bytes :=
  registers.known.keys.map Register.getCommand

def describe (registers : Registers) (attributes : Attributes) : Attributes :=
  registers.known.toList.foldl
    (fun attributes (index, value) => value.describe attributes (Register.name index)) attributes

def onCommand (registers : Registers) (command : Bytes) : Registers :=
  match Register.report? command with
  | some (index, value) => { known := registers.known.insert index value }
  | none => registers

end Registers

end RadioGateway.ZWave
