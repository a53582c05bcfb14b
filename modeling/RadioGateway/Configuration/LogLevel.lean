import RadioGateway.Text.Numeral

/-!
# Log levels
-/

namespace RadioGateway.Configuration

inductive LogLevel where
  | error
  | warn
  | info
  | debug
  | trace
  deriving DecidableEq, Repr

namespace LogLevel

def name : LogLevel → String
  | error => "ERROR"
  | warn => "WARN"
  | info => "INFO"
  | debug => "DEBUG"
  | trace => "TRACE"

/-- The levels in the order of their numbers, which begin at one. -/
def all : List LogLevel := [error, warn, info, debug, trace]

/-- The numbers below this bound can be written at all. -/
def numberBound : Nat := UInt64.size

/-- A level is written as its number, or as its name in any letter case. -/
def ofString? (text : String) : Option LogLevel :=
  match Numeral.readUnsigned? 10 numberBound text with
  | some (number + 1) => all[number]?
  | _ => all.find? fun level => level.name = text.map Char.toUpper

end LogLevel

end RadioGateway.Configuration
