import RadioGateway.Bytes
import RadioGateway.Configuration.LogLevel
import RadioGateway.Configuration.SocketAddress
import RadioGateway.Toml.Document

/-!
# Settings

What a gateway must know before it starts, with defaults for everything but the serial devices. At
least one network must be configured.
-/

namespace RadioGateway.Configuration

structure ZWaveSettings where
  device : String
  baud : Nat := 115200
  /-- How long a transmission may stay unacknowledged, in milliseconds. -/
  ackTimeout : Nat := 1500
  /-- How long an answer or a confirmation may take, in milliseconds. -/
  answerTimeout : Nat := 5000
  controller : Byte := 1
  deriving DecidableEq, Repr

structure EnOceanSettings where
  device : String
  baud : Nat := 57600
  responseTimeout : Nat := 1500
  deriving DecidableEq, Repr

def defaultListen : SocketAddress := ⟨.v4 #v[0, 0, 0, 0], 8080⟩

structure Settings where
  listen : SocketAddress := defaultListen
  level : String := "info"
  zwave : Option ZWaveSettings := none
  enocean : Option EnOceanSettings := none
  deriving DecidableEq, Repr

inductive Defect where
  | noNetwork
  | noZWaveDevice
  | zeroZWaveTimeout
  | noEnOceanDevice
  | zeroEnOceanTimeout
  | unknownLevel (level : String)
  deriving DecidableEq, Repr

namespace Defect

def message : Defect → String
  | noNetwork => "no [zwave] or [enocean] section"
  | noZWaveDevice => "zwave.device must not be empty"
  | zeroZWaveTimeout => "zwave timeouts must be > 0"
  | noEnOceanDevice => "enocean.device must not be empty"
  | zeroEnOceanTimeout => "enocean.response_timeout_ms must be > 0"
  | unknownLevel level => "unknown log level '" ++ level ++ "'"

end Defect

namespace Settings

def maxLevel? (settings : Settings) : Option LogLevel := LogLevel.ofString? settings.level

def zwaveDefect? (settings : ZWaveSettings) : Option Defect :=
  if settings.device = "" then some .noZWaveDevice
  else if settings.ackTimeout = 0 ∨ settings.answerTimeout = 0 then some .zeroZWaveTimeout
  else none

def enoceanDefect? (settings : EnOceanSettings) : Option Defect :=
  if settings.device = "" then some .noEnOceanDevice
  else if settings.responseTimeout = 0 then some .zeroEnOceanTimeout
  else none

def defect? (settings : Settings) : Option Defect :=
  if settings.zwave.isNone ∧ settings.enocean.isNone then some .noNetwork
  else
    ((settings.zwave.bind zwaveDefect?).or (settings.enocean.bind enoceanDefect?)).or
      (if settings.maxLevel?.isNone then some (.unknownLevel settings.level) else none)

end Settings

/-- A section of a document: a table with named fields, or the list of the fields in order. -/
inductive Section where
  | named (table : Toml.Table)
  | listed (items : List Toml.Value)

namespace Section

def ofValue? : Toml.Value → Option Section
  | .table form fields => some (.named { form, fields })
  | .array _ items => some (.listed items)
  | _ => none

/-- The value of the field with a name and a place in the order, if it is given. -/
def find? (fields : Section) (name : String) (place : Nat) : Option Toml.Value :=
  match fields with
  | named table => table.find? name
  | listed items => items[place]?

def read? {α : Type} (fields : Section) (name : String) (place : Nat)
    (ofValue? : Toml.Value → Option α) (default : Option α) : Option α :=
  match fields.find? name place with
  | some value => ofValue? value
  | none => default

end Section

namespace Settings

def text? : Toml.Value → Option String
  | .string text => some text
  | _ => none

def number? (bound : Nat) : Toml.Value → Option Nat
  | .integer number => if 0 ≤ number ∧ number < bound then some number.toNat else none
  | _ => none

def address? (value : Toml.Value) : Option SocketAddress :=
  (text? value).bind SocketAddress.ofString?

def zwave? (value : Toml.Value) : Option ZWaveSettings := do
  let fields ← Section.ofValue? value
  let device ← fields.read? "device" 0 text? none
  let defaults : ZWaveSettings := { device }
  let baud ← fields.read? "baud" 1 (number? UInt32.size) (some defaults.baud)
  let ackTimeout ← fields.read? "ack_timeout_ms" 2 (number? UInt64.size) (some defaults.ackTimeout)
  let answerTimeout ←
    fields.read? "response_timeout_ms" 3 (number? UInt64.size) (some defaults.answerTimeout)
  let controller ←
    fields.read? "controller_id" 4 (number? UInt8.size) (some defaults.controller.toNat)
  some { device, baud, ackTimeout, answerTimeout, controller := .ofNat controller }

def enocean? (value : Toml.Value) : Option EnOceanSettings := do
  let fields ← Section.ofValue? value
  let device ← fields.read? "device" 0 text? none
  let defaults : EnOceanSettings := { device }
  let baud ← fields.read? "baud" 1 (number? UInt32.size) (some defaults.baud)
  let responseTimeout ←
    fields.read? "response_timeout_ms" 2 (number? UInt64.size) (some defaults.responseTimeout)
  some { device, baud, responseTimeout }

/-- The only field of a section, or its default. -/
def single? {α : Type} (name : String) (ofValue? : Toml.Value → Option α) (default : α)
    (value : Toml.Value) : Option α :=
  (Section.ofValue? value).bind fun fields => fields.read? name 0 ofValue? (some default)

/-- The settings in a document, valid or not. Unknown keys do not count. -/
def ofTable? (table : Toml.Table) : Option Settings := do
  let defaults : Settings := {}
  let fields := Section.named table
  let listen ← fields.read? "server" 0 (single? "listen" address? defaults.listen)
    (some defaults.listen)
  let level ← fields.read? "logging" 1 (single? "level" text? defaults.level) (some defaults.level)
  let zwave ← fields.read? "zwave" 2 (fun value => (zwave? value).map some) (some none)
  let enocean ← fields.read? "enocean" 3 (fun value => (enocean? value).map some) (some none)
  some { listen, level, zwave, enocean }

def ofString? (text : String) : Option Settings := (Toml.parse? text).bind ofTable?

end Settings

end RadioGateway.Configuration
