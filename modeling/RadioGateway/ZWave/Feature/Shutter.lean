import RadioGateway.ZWave.Feature.Registers

/-!
# Roller shutters with slats

The FGR-222 moves blinds and slats through a proprietary command. It ignores the slats when the
blinds are to close completely, so a closing that also turns the slats stops just short of it. The
time of a full turn of the slats stands in one configuration register, and a calibration starts when
another one is written.
-/

namespace RadioGateway.ZWave

structure Shutter where
  blinds : Byte := 0
  slat : Byte := 0
  deriving DecidableEq, Repr

namespace Shutter

/-- Every position command and report begins with these bytes. -/
def header : Bytes := [CommandClass.manufacturerProprietary, 0x01, 0x0f, 0x26]

def blindsFlag : Byte := 0x02

def slatFlag : Byte := 0x01

def setCommand (flags blinds slat : Byte) : Bytes := header ++ [0x01, flags, blinds, slat]

def getCommand : Bytes := header ++ [0x02, 0x02, 0x00, 0x00]

/-- The blinds are not closed completely together with a turn of the slats. -/
def nudge (blinds slat : Option Byte) : Option Byte :=
  match blinds, slat with
  | some blinds, some slat => some (if blinds = 0 ∧ 0 < slat then 1 else blinds)
  | blinds, _ => blinds

/-- One command sets every axis that attributes name; an axis that they do not name keeps its
position. -/
def setCommands (shutter : Shutter) (attributes : Attributes) : List Bytes :=
  let slat := attributes.percentage? "position.slat"
  let blinds := nudge (attributes.percentage? "position.blinds") slat
  let flags := (if blinds.isSome then blindsFlag else 0) ||| (if slat.isSome then slatFlag else 0)
  if flags = 0 then []
  else [setCommand flags (blinds.getD shutter.blinds) (slat.getD shutter.slat)]

def describe (shutter : Shutter) (attributes : Attributes) : Attributes :=
  (attributes.setByte "position.blinds" shutter.blinds).setByte "position.slat" shutter.slat

/-- Reads a report: its flags and the position of both axes. -/
def report? (command : Bytes) : Option (Byte × Byte × Byte) :=
  match command.take 4, command.drop 4 with
  | front, function :: flags :: blinds :: slat :: _ =>
      if front = header ∧ function = 0x03 then some (flags, blinds, slat) else none
  | _, _ => none

/-- A report changes the axes that it names. -/
def onCommand (shutter : Shutter) (command : Bytes) : Shutter :=
  match report? command with
  | some (flags, blinds, slat) =>
      { blinds := if flags &&& blindsFlag ≠ 0 then blinds else shutter.blinds
        slat := if flags &&& slatFlag ≠ 0 then slat else shutter.slat }
  | none => shutter

end Shutter

/-- The time of a full turn of the slats, in units of ten milliseconds. -/
structure ShutterTuning where
  slatTime : UInt16 := 0
  deriving DecidableEq, Repr

namespace ShutterTuning

def slatTimeRegister : Byte := 12

/-- The register that starts a calibration when 1 is written to it. -/
def calibrationRegister : Byte := 29

/-- A slat time is written and kept, as the device does not report it back. A calibration is started
only if no slat time is given. -/
def set (tuning : ShutterTuning) (attributes : Attributes) : ShutterTuning × List Bytes :=
  match attributes.word? "config.slatTime" with
  | some slatTime => ({ slatTime }, [Register.setCommand slatTimeRegister (.word slatTime)])
  | none =>
      if attributes.contains "config.calibrate" then
        (tuning, [Register.setCommand calibrationRegister (.byte 1)])
      else (tuning, [])

def getCommand : Bytes := Register.getCommand slatTimeRegister

def describe (tuning : ShutterTuning) (attributes : Attributes) : Attributes :=
  attributes.setWord "config.slatTime" tuning.slatTime

def onCommand (tuning : ShutterTuning) (command : Bytes) : ShutterTuning :=
  match Register.report? command with
  | some (index, .word slatTime) => if index = slatTimeRegister then { slatTime } else tuning
  | _ => tuning

end ShutterTuning

end RadioGateway.ZWave
