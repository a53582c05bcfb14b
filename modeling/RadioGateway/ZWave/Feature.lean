import RadioGateway.ZWave.Feature.Identification
import RadioGateway.ZWave.Feature.Level
import RadioGateway.ZWave.Feature.Shutter

/-!
# Features of a node

A node has one feature for each command class that is handled. Generic features serve any device of
a class; a known product brings features of its own, which take the place of the generic ones.
-/

namespace RadioGateway.ZWave

inductive Feature where
  | level (level : Level)
  | registers (registers : Registers)
  | identification (identification : Identification)
  | shutter (shutter : Shutter)
  | shutterTuning (tuning : ShutterTuning)
  deriving DecidableEq, Repr

namespace Feature

def generic? (commandClass : Byte) : Option Feature :=
  if commandClass = CommandClass.basic then some (.level {})
  else if commandClass = CommandClass.configuration then some (.registers {})
  else if commandClass = CommandClass.manufacturerSpecific then some (.identification {})
  else none

/-- Applies attributes: the new state, and the commands that the attributes ask for. -/
def set (attributes : Attributes) : Feature → Feature × List Bytes
  | level state => (level state, ((Level.requested? attributes).map Level.setCommand).toList)
  | registers state => (registers state, state.setCommands attributes)
  | identification state => (identification state, [])
  | shutter state => (shutter state, state.setCommands attributes)
  | shutterTuning state =>
      let (state, commands) := state.set attributes
      (shutterTuning state, commands)

/-- The commands that make the device report its state. -/
def getCommands : Feature → List Bytes
  | level _ => [Level.getCommand]
  | registers state => state.getCommands
  | identification _ => [Identity.getCommand]
  | shutter _ => [Shutter.getCommand]
  | shutterTuning _ => [ShutterTuning.getCommand]

def describe (feature : Feature) (attributes : Attributes) : Attributes :=
  match feature with
  | level state => state.describe attributes
  | registers state => state.describe attributes
  | identification state => state.describe attributes
  | shutter state => state.describe attributes
  | shutterTuning state => state.describe attributes

def onCommand (command : Bytes) : Feature → Feature
  | level state => level (state.onCommand command)
  | registers state => registers (state.onCommand command)
  | identification state => identification (state.onCommand command)
  | shutter state => shutter (state.onCommand command)
  | shutterTuning state => shutterTuning (state.onCommand command)

end Feature

/-- A product with features of its own, by command class. -/
structure Product where
  manufacturer : UInt16
  product : UInt16
  name : String
  features : List (Byte × Feature)
  deriving DecidableEq, Repr

namespace Product

def fgr222 : Product where
  manufacturer := 271
  product := 770
  name := "Fibaro FGR-222"
  features :=
    [(CommandClass.configuration, .shutterTuning {}),
      (CommandClass.manufacturerProprietary, .shutter {})]

def all : List Product := [fgr222]

def find? (manufacturer product : UInt16) : Option Product :=
  all.find? fun known => known.manufacturer = manufacturer ∧ known.product = product

end Product

/-- The known product that a command to this feature identifies. -/
def Feature.product? (command : Bytes) : Feature → Option Product
  | identification _ =>
      (Identity.report? command).bind fun identity =>
        Product.find? identity.manufacturer identity.product
  | _ => none

end RadioGateway.ZWave
