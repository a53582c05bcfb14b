import RadioGateway.CommandLine.Arguments
import RadioGateway.Configuration.Source

/-!
# Launching

The settings that a gateway starts with: those of the configuration file, with the device and the
port of the command line in their place.
-/

namespace RadioGateway.CommandLine

open RadioGateway.Configuration

/-- Settings with the device and the port of the command line. A device makes a network of its own
if none is configured. -/
def Arguments.override (arguments : Arguments) (settings : Settings) : Settings :=
  let zwave :=
    match arguments.device with
    | none => settings.zwave
    | some device =>
        match settings.zwave with
        | some configured => some { configured with device }
        | none => some { device }
  let port := arguments.port.getD settings.listen.port
  { settings with zwave, listen := { settings.listen with port } }

/-- The settings to start with, and what is logged on the way. A device on the command line is enough
to start without a file; a file that exists must be valid by itself. -/
def Arguments.settings (arguments : Arguments) (source : Source) :
    Except LoadFault Settings × List Notice :=
  let (loaded, notices) :=
    if arguments.device.isSome ∧ !source.exists? then (.ok {}, []) else Settings.load source
  match loaded with
  | .error fault => (.error fault, notices)
  | .ok settings => ((arguments.override settings).check, notices)

end RadioGateway.CommandLine
