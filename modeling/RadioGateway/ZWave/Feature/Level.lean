import RadioGateway.Attributes
import RadioGateway.ZWave.CommandClass

/-!
# Levels

The basic command class switches a device on and off or sets its level. A level of 0 is off and 255
is on; every other level is a percentage.
-/

namespace RadioGateway.ZWave

structure Level where
  reported : Option Byte := none
  deriving DecidableEq, Repr

namespace Level

def off : Byte := 0x00
def on : Byte := 0xff

def setCommand (value : Byte) : Bytes := [CommandClass.basic, 0x01, value]

def getCommand : Bytes := [CommandClass.basic, 0x02]

/-- The level that attributes ask for; a percentage counts before on and off. -/
def requested? (attributes : Attributes) : Option Byte :=
  match attributes.percentage? "dim", attributes.state? "state" with
  | some dim, _ => some dim
  | none, some true => some on
  | none, some false => some off
  | none, none => none

def describe (level : Level) (attributes : Attributes) : Attributes :=
  match level.reported with
  | none => attributes
  | some value =>
      if value = off then attributes.setState "state" false
      else if value = on then attributes.setState "state" true
      else attributes.setPercentage "dim" value

def report? : Bytes → Option Byte
  | _ :: function :: value :: _ => if function = 0x03 then some value else none
  | _ => none

def onCommand (level : Level) (command : Bytes) : Level :=
  match report? command with
  | some value => { reported := some value }
  | none => level

end Level

end RadioGateway.ZWave
