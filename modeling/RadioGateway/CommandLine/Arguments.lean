import RadioGateway.Text.Numeral

/-!
# Command line arguments

Up to two positional arguments, the serial device and the port of the web interface, and an option
for the configuration file. A value is examined when the next argument that is neither the value of
an option nor unknown has been seen, so of two faults the earlier one need not win.
-/

namespace RadioGateway.CommandLine

structure Arguments where
  device : Option String := none
  port : Option UInt16 := none
  config : String := "gateway.toml"
  deriving DecidableEq, Repr

/-- Why there are no arguments to go on with. -/
inductive Interruption where
  | help
  | version
  | unknownArgument
  | invalidPort
  | missingValue
  | repeatedOption
  | unexpectedValue
  deriving DecidableEq, Repr

/-- An argument that has been taken in but not yet examined. -/
inductive Pending where
  | device (text : String)
  | port (text : String)
  | config (value : Option String)
  deriving DecidableEq, Repr

structure Reading where
  arguments : Arguments := {}
  hasConfig : Bool := false
  positionals : Nat := 0
  onlyPositionals : Bool := false
  pending : Option Pending := none

namespace Reading

/-- A port is written as a decimal number, with an optional sign. -/
def port? (text : String) : Option UInt16 :=
  (Numeral.readInteger? text).bind fun number =>
    if 0 ≤ number ∧ number < 65536 then some (.ofNat number.toNat) else none

def setConfig (reading : Reading) (path : String) : Except Interruption Reading :=
  if reading.hasConfig then .error .repeatedOption
  else .ok { reading with arguments.config := path, hasConfig := true }

def settle (reading : Reading) : Except Interruption Reading :=
  let settled := { reading with pending := none }
  match reading.pending with
  | none => .ok settled
  | some (.device text) => .ok { settled with arguments.device := some text }
  | some (.port text) =>
      match port? text with
      | some port => .ok { settled with arguments.port := some port }
      | none => .error .invalidPort
  | some (.config none) => .error .missingValue
  | some (.config (some path)) => settled.setConfig path

/-- Takes in the option with a value attached to it, or waits for its value. -/
def option (reading : Reading) (attached : Option String) : Except Interruption Reading := do
  let reading ← reading.settle
  match attached with
  | some path => reading.setConfig path
  | none => .ok { reading with pending := some (.config none) }

def stop (reading : Reading) (interruption : Interruption) : Except Interruption Reading := do
  let _ ← reading.settle
  .error interruption

/-- An argument with two dashes and a name, which may have a value behind an equals sign. -/
def long (reading : Reading) (name : List Char) : Except Interruption Reading :=
  let key := String.ofList (name.takeWhile (· ≠ '='))
  let value := (name.dropWhile (· ≠ '=')).tail?.map String.ofList
  if key = "config" then reading.option value
  else if key = "help" then
    if value.isSome then .error .unexpectedValue else reading.stop .help
  else if key = "version" then
    if value.isSome then .error .unexpectedValue else reading.stop .version
  else .error .unknownArgument

/-- An argument with one dash: a letter and what is attached to it. -/
def short (reading : Reading) (letter : Char) (attached : List Char) :
    Except Interruption Reading :=
  if letter = 'c' then
    reading.option <|
      match attached with
      | [] => none
      | '=' :: value => some (String.ofList value)
      | value => some (String.ofList value)
  else if letter = 'h' then reading.stop .help
  else if letter = 'V' then reading.stop .version
  else .error .unknownArgument

def positional (reading : Reading) (text : String) : Except Interruption Reading :=
  match reading.positionals with
  | 0 => reading.settle.map fun reading =>
      { reading with positionals := 1, pending := some (.device text) }
  | 1 => reading.settle.map fun reading =>
      { reading with positionals := 2, pending := some (.port text) }
  | _ => .error .unknownArgument

/-- An argument without dashes: the value that the option waits for, or a positional one. -/
def plain (reading : Reading) (text : String) : Except Interruption Reading :=
  match reading.pending with
  | some (.config none) => .ok { reading with pending := some (.config (some text)) }
  | _ => reading.positional text

def next (reading : Reading) (argument : String) : Except Interruption Reading :=
  if reading.onlyPositionals then reading.positional argument
  else
    match argument.toList with
    | ['-', '-'] => .ok { reading with onlyPositionals := true }
    | '-' :: '-' :: name => reading.long name
    | '-' :: letter :: attached => reading.short letter attached
    | _ => reading.plain argument

end Reading

def Arguments.parse (arguments : List String) : Except Interruption Arguments := do
  let reading ← arguments.foldlM Reading.next {}
  let reading ← reading.settle
  .ok reading.arguments

end RadioGateway.CommandLine
