import RadioGateway.Configuration.Settings
import RadioGateway.Link.OsFault
import RadioGateway.Text.Utf8

/-!
# Configuration files

Loading settings from a file that may be missing, unreadable, no text, no document or not valid.
-/

namespace RadioGateway.Configuration

open RadioGateway.Link

inductive ReadFault where
  | system (fault : OsFault)
  | notText
  | nullInPath
  deriving DecidableEq, Repr

def ReadFault.message : ReadFault → String
  | system fault => fault.message
  | notText => "stream did not contain valid UTF-8"
  | nullInPath => "file name contained an unexpected NUL byte"

inductive LoadFault where
  | unreadable (fault : ReadFault)
  /-- The text is no document, or some value in it has the wrong type. -/
  | malformed
  | invalid (defect : Defect)
  deriving DecidableEq, Repr

def LoadFault.message : LoadFault → String
  | unreadable fault => "IO error: " ++ fault.message
  | malformed => "TOML parse error"
  | invalid defect => "invalid configuration: " ++ defect.message

inductive Notice where
  | invalidFile
  | unreadableFile
  deriving DecidableEq, Repr

def Notice.message : Notice → String
  | invalidFile => "Invalid config file"
  | unreadableFile => "Failed to read config file"

def Settings.check (settings : Settings) : Except LoadFault Settings :=
  match settings.defect? with
  | some defect => .error (.invalid defect)
  | none => .ok settings

def Settings.parse (text : String) : Except LoadFault Settings :=
  match Settings.ofString? text with
  | some settings => settings.check
  | none => .error .malformed

structure Source where
  exists? : Bool
  content : Except ReadFault Bytes

def Source.text (source : Source) : Except ReadFault String :=
  match source.content with
  | .error fault => .error fault
  | .ok bytes =>
      match Utf8.decode? bytes with
      | some text => .ok text
      | none => .error .notText

def Settings.load (source : Source) : Except LoadFault Settings × List Notice :=
  match source.text with
  | .error fault => (.error (.unreadable fault), [.unreadableFile])
  | .ok text =>
      match Settings.parse text with
      | .ok settings => (.ok settings, [])
      | .error fault => (.error fault, [.invalidFile])

end RadioGateway.Configuration
