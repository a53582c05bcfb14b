import RadioGateway.Bytes

/-!
# Command classes

The first byte of every command to or from a node names its class.
-/

namespace RadioGateway.ZWave.CommandClass

def basic : Byte := 0x20
def configuration : Byte := 0x70
def manufacturerSpecific : Byte := 0x72
def manufacturerProprietary : Byte := 0x91

/-- Stands in a list of classes between those that a node supports and those that it controls. -/
def mark : Byte := 0xef

end RadioGateway.ZWave.CommandClass
