import RadioGateway.CommandLine.Launch

/-!
# The command

Reads the arguments and the configuration file, and prints what the gateway would serve or why it
cannot start.
-/

namespace RadioGateway

open RadioGateway.CommandLine RadioGateway.Configuration RadioGateway.Link

namespace Command

def usage : String := "Usage: radio-gateway [OPTIONS] [DEVICE] [PORT]"

def help : List String :=
  ["HTTP gateway for Z-Wave and EnOcean devices", "", usage, "",
    "Arguments:",
    "  [DEVICE]  Z-Wave serial device, overrides [zwave] device",
    "  [PORT]    HTTP port, overrides the port of [server] listen", "",
    "Options:",
    "  -c, --config <CONFIG>  Configuration file [default: gateway.toml]",
    "  -h, --help             Print help",
    "  -V, --version          Print version"]

/-- What is wrong with the arguments; nothing for a flag that asks for information. -/
def complaint? : Interruption → Option String
  | .help => none
  | .version => none
  | .unknownArgument => some "unexpected argument"
  | .invalidPort => some "the port is no number below 65536"
  | .missingValue => some "the option needs a value"
  | .repeatedOption => some "the option cannot be used twice"
  | .unexpectedValue => some "the flag takes no value"

def errorNumber : IO.Error → UInt32
  | .alreadyExists _ number _ => number
  | .resourceBusy number _ => number
  | .resourceVanished number _ => number
  | .unsupportedOperation number _ => number
  | .hardwareFault number _ => number
  | .timeExpired number _ => number
  | .interrupted _ number _ => number
  | .noFileOrDirectory _ number _ => number
  | .invalidArgument _ number _ => number
  | .permissionDenied _ number _ => number
  | .inappropriateType _ number _ => number
  | .noSuchThing _ number _ => number
  | .otherError number _ => number
  | _ => 5

/-- The fault behind an error; its number may come with a minus sign. -/
def osFault (error : IO.Error) : OsFault := ⟨(errorNumber error).toInt32.toInt.natAbs⟩

/-- The faults that show that there is nothing at a path. -/
def absent (fault : OsFault) : Bool :=
  fault = .notFound || fault = .notADirectory || fault = .nameTooLong

def read (path : String) : IO Source := do
  if path.contains '\x00' then
    return { exists? := false, content := .error .nullInPath }
  try
    let content ← IO.FS.readBinFile path
    return { exists? := true, content := .ok content.toList }
  catch error =>
    let fault := osFault error
    return { exists? := !absent fault, content := .error (.system fault) }

/-- What a gateway with these settings would serve. -/
def summary (settings : Settings) : List String :=
  (settings.zwave.map fun zwave =>
      "Z-Wave: " ++ zwave.device ++ " @ " ++ toString zwave.baud ++ " baud").toList ++
    (settings.enocean.map fun enocean =>
      "EnOcean: " ++ enocean.device ++ " @ " ++ toString enocean.baud ++ " baud").toList ++
    ["Web API: http://" ++ settings.listen.toString]

end Command

end RadioGateway

open RadioGateway in
def main (arguments : List String) : IO UInt32 := do
  match CommandLine.Arguments.parse arguments with
  | .error .help =>
      Command.help.forM fun line => IO.println line
      return 0
  | .error .version =>
      IO.println "radio-gateway 0.1.0"
      return 0
  | .error interruption =>
      (Command.complaint? interruption).forM fun text => IO.eprintln ("error: " ++ text)
      IO.eprintln Command.usage
      return 2
  | .ok arguments =>
      let (result, notices) := arguments.settings (← Command.read arguments.config)
      notices.forM fun notice => IO.println notice.message
      match result with
      | .ok settings =>
          (Command.summary settings).forM fun line => IO.println line
          return 0
      | .error fault =>
          IO.eprintln ("Error: " ++ fault.message)
          return 1
