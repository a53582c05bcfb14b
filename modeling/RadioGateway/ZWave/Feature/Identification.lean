import RadioGateway.Attributes
import RadioGateway.ZWave.CommandClass

/-!
# Identification

The manufacturer specific command class tells who made a device and which product it is.
-/

namespace RadioGateway.ZWave

structure Identity where
  manufacturer : UInt16
  product : UInt16
  id : UInt16
  deriving DecidableEq, Repr

namespace Identity

def getCommand : Bytes := [CommandClass.manufacturerSpecific, 0x04]

def report? : Bytes → Option Identity
  | _ :: function :: maker₁ :: maker₀ :: product₁ :: product₀ :: id₁ :: id₀ :: _ =>
      if function = 0x05 then
        some ⟨Bytes.word maker₁ maker₀, Bytes.word product₁ product₀, Bytes.word id₁ id₀⟩
      else none
  | _ => none

def describe (identity : Identity) (attributes : Attributes) : Attributes :=
  ((attributes.setWord "device.manufacturer" identity.manufacturer).setWord "device.product"
    identity.product).setWord "device.id" identity.id

end Identity

structure Identification where
  reported : Option Identity := none
  deriving DecidableEq, Repr

namespace Identification

def describe (identification : Identification) (attributes : Attributes) : Attributes :=
  match identification.reported with
  | some identity => identity.describe attributes
  | none => attributes

def onCommand (identification : Identification) (command : Bytes) : Identification :=
  match Identity.report? command with
  | some identity => { reported := some identity }
  | none => identification

end Identification

end RadioGateway.ZWave
