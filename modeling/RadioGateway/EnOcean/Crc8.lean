import RadioGateway.Bytes

/-!
# The check value of radio packets

Header and body of a packet each end with an eight-bit cyclic redundancy check over the polynomial
x⁸ + x² + x + 1. It is computed byte by byte from a table whose entries are computed bit by bit.
-/

namespace RadioGateway.EnOcean.Crc8

/-- The low part of the polynomial. -/
def polynomial : Byte := 0x07

/-- Multiplies a remainder by x. -/
def shift (remainder : Byte) : Byte :=
  if remainder &&& 0x80 ≠ 0 then (remainder <<< 1) ^^^ polynomial else remainder <<< 1

def shifts : Nat → Byte → Byte
  | 0, remainder => remainder
  | count + 1, remainder => shifts count (shift remainder)

/-- Takes in one more bit of the message, the most significant bit of a byte coming first. -/
def addBit (remainder : Byte) (bit : Bool) : Byte :=
  shift (remainder ^^^ if bit then 0x80 else 0)

def bits (byte : Byte) : List Bool :=
  (List.range 8).map fun place => byte.toNat.testBit (7 - place)

def bitwise (message : Bytes) : Byte := (message.flatMap bits).foldl addBit 0

/-- What a byte that leaves the remainder adds to it. -/
def table : Vector Byte 256 := .ofFn fun index => shifts 8 (.ofNat index.val)

def addByte (remainder byte : Byte) : Byte := table.get (remainder ^^^ byte).toFin

def checksum (message : Bytes) : Byte := message.foldl addByte 0

theorem addByte_eq (remainder byte : Byte) :
    addByte remainder byte = shifts 8 (remainder ^^^ byte) := by
  simp only [addByte, table, Vector.get, Vector.toArray_ofFn, Array.getElem_ofFn]
  exact congrArg (shifts 8) (UInt8.ofNat_toNat (x := remainder ^^^ byte))

/-- The check value can be computed without the table. -/
theorem checksum_eq (message : Bytes) :
    checksum message = message.foldl (fun remainder byte => shifts 8 (remainder ^^^ byte)) 0 :=
  congrArg (message.foldl · 0) (funext fun remainder => funext (addByte_eq remainder))

end RadioGateway.EnOcean.Crc8
