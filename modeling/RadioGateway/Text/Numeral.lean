/-!
# Numerals

Positional numerals in a given radix: reading digit strings, and writing numbers in decimal without
leading zeros or in hexadecimal with a fixed number of digits.
-/

namespace RadioGateway.Numeral

/-- The value of an ASCII digit or letter as a digit of `radix`, in either letter case. -/
def digit? (radix : Nat) (char : Char) : Option Nat :=
  let value :=
    if '0' ≤ char ∧ char ≤ '9' then some (char.toNat - '0'.toNat)
    else if 'a' ≤ char ∧ char ≤ 'z' then some (char.toNat - 'a'.toNat + 10)
    else if 'A' ≤ char ∧ char ≤ 'Z' then some (char.toNat - 'A'.toNat + 10)
    else none
  value.filter (· < radix)

/-- The number written by the digits in front of which `total` has been read. -/
def extend? (radix total : Nat) : List Char → Option Nat
  | [] => some total
  | char :: rest =>
      match digit? radix char with
      | some digit => extend? radix (total * radix + digit) rest
      | none => none

def read? (radix : Nat) (digits : List Char) : Option Nat :=
  if digits.isEmpty then none else extend? radix 0 digits

/-- Reads digits after an optional plus sign; the number must be below `bound`. -/
def readUnsigned? (radix bound : Nat) (text : String) : Option Nat :=
  let digits :=
    match text.toList with
    | '+' :: rest => rest
    | digits => digits
  (read? radix digits).filter (· < bound)

/-- Reads decimal digits after an optional sign. -/
def readInteger? (text : String) : Option Int :=
  match text.toList with
  | '-' :: digits => (read? 10 digits).map fun magnitude => -(magnitude : Int)
  | '+' :: digits => (read? 10 digits).map Int.ofNat
  | digits => (read? 10 digits).map Int.ofNat

/-- Reads between one and `width` decimal digits and nothing else. -/
def readDecimal? (width : Nat) (text : String) : Option Nat :=
  if text.toList.length ≤ width then read? 10 text.toList else none

def digitChar (digit : Nat) : Char :=
  if digit < 10 then Char.ofNat ('0'.toNat + digit) else Char.ofNat ('a'.toNat + (digit - 10))

def decimalDigits (number : Nat) : List Char :=
  if number < 10 then [digitChar number]
  else decimalDigits (number / 10) ++ [digitChar (number % 10)]

def decimal (number : Nat) : String := String.ofList (decimalDigits number)

/-- The lowest `width` hexadecimal digits of a number. -/
def hexDigits : Nat → Nat → List Char
  | 0, _ => []
  | width + 1, number => hexDigits width (number / 16) ++ [digitChar (number % 16)]

def hex (width number : Nat) : String := String.ofList (hexDigits width number)

def shortHexDigits (number : Nat) : List Char :=
  if number < 16 then [digitChar number]
  else shortHexDigits (number / 16) ++ [digitChar (number % 16)]

theorem extend?_append (radix total : Nat) (front back : List Char) :
    extend? radix total (front ++ back) =
      (extend? radix total front).bind fun value => extend? radix value back := by
  induction front generalizing total with
  | nil => rfl
  | cons char rest ih =>
      simp only [List.cons_append, extend?]
      cases digit? radix char with
      | none => rfl
      | some digit => exact ih _

theorem digit?_digitChar {digit : Nat} (small : digit < 10) : digit? 10 (digitChar digit) = some digit := by
  revert small
  revert digit
  decide

theorem decimalDigits_ne_nil (number : Nat) : decimalDigits number ≠ [] := by
  unfold decimalDigits
  split <;> simp

theorem extend?_decimalDigits (number : Nat) : extend? 10 0 (decimalDigits number) = some number := by
  fun_induction decimalDigits number with
  | case1 number small => simp [extend?, digit?_digitChar small]
  | case2 number large ih =>
      have small : number % 10 < 10 := Nat.mod_lt _ (by decide)
      simp only [extend?_append, ih, Option.bind_some, extend?, digit?_digitChar small]
      congr 1
      omega

/-- Decimal numerals read back. -/
theorem read?_decimalDigits (number : Nat) : read? 10 (decimalDigits number) = some number := by
  simp [read?, decimalDigits_ne_nil, extend?_decimalDigits]

theorem length_decimalDigits_le {number width : Nat} (positive : 0 < width)
    (small : number < Nat.pow 10 width) : (decimalDigits number).length ≤ width := by
  induction width generalizing number with
  | zero => contradiction
  | succ width ih =>
      have step : Nat.pow 10 (width + 1) = Nat.pow 10 width * 10 := rfl
      unfold decimalDigits
      split
      · simp
      · rename_i large
        have some : 0 < width := by
          cases width with
          | zero =>
              have one : Nat.pow 10 0 = 1 := rfl
              omega
          | succ width => omega
        have less : number / 10 < Nat.pow 10 width := by omega
        simpa using ih some less

/-- A number below the `width`-th power of ten reads back under the limit of `width` digits. -/
theorem readDecimal?_decimal {number width : Nat} (positive : 0 < width)
    (small : number < Nat.pow 10 width) : readDecimal? width (decimal number) = some number := by
  simp [readDecimal?, decimal, length_decimalDigits_le positive small, read?_decimalDigits]

end RadioGateway.Numeral
