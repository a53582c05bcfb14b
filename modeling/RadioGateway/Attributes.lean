import RadioGateway.SortedMap
import RadioGateway.Text.Numeral

/-!
# Attributes

A node is described and controlled by named texts such as `state` or `position.blinds`. The typed
views below read the four value shapes of the device commands; a missing, malformed or too large
text reads as no value.
-/

namespace RadioGateway

/-- Named texts, in ascending order of their names. -/
abbrev Attributes := SortedMap String String

namespace Attributes

def state? (attributes : Attributes) (name : String) : Option Bool :=
  match attributes.find? name with
  | some "on" => some true
  | some "off" => some false
  | _ => none

def setState (attributes : Attributes) (name : String) (on : Bool) : Attributes :=
  attributes.insert name (if on then "on" else "off")

/-- The decimal number under a name: at most `width` digits, below `bound`. -/
def number? (width bound : Nat) (attributes : Attributes) (name : String) : Option Nat :=
  ((attributes.find? name).bind (Numeral.readDecimal? width)).filter (· < bound)

def setNumber (attributes : Attributes) (name : String) (number : Nat) : Attributes :=
  attributes.insert name (Numeral.decimal number)

def byte? (attributes : Attributes) (name : String) : Option UInt8 :=
  (number? 3 256 attributes name).map UInt8.ofNat

/-- A percentage has one or two digits. -/
def percentage? (attributes : Attributes) (name : String) : Option UInt8 :=
  (number? 2 100 attributes name).map UInt8.ofNat

def word? (attributes : Attributes) (name : String) : Option UInt16 :=
  (number? 5 65536 attributes name).map UInt16.ofNat

def long? (attributes : Attributes) (name : String) : Option UInt32 :=
  (number? 10 4294967296 attributes name).map UInt32.ofNat

def setByte (attributes : Attributes) (name : String) (value : UInt8) : Attributes :=
  attributes.setNumber name value.toNat

/-- Levels above 99 are written as 99. -/
def setPercentage (attributes : Attributes) (name : String) (value : UInt8) : Attributes :=
  attributes.setNumber name (min value.toNat 99)

def setWord (attributes : Attributes) (name : String) (value : UInt16) : Attributes :=
  attributes.setNumber name value.toNat

def setLong (attributes : Attributes) (name : String) (value : UInt32) : Attributes :=
  attributes.setNumber name value.toNat

theorem number?_setNumber {width bound number : Nat} (attributes : Attributes) (name : String)
    (positive : 0 < width) (fits : number < Nat.pow 10 width) (small : number < bound) :
    number? width bound (attributes.setNumber name number) name = some number := by
  simp [number?, setNumber, SortedMap.find?_insert, Numeral.readDecimal?_decimal positive fits,
    small]

end Attributes

end RadioGateway
