import RadioGateway.Text.Numeral

/-!
# Dates and times in TOML

A moment is a date, a time, or both with an optional offset from universal time. Only its form is of
interest here: fixed numbers of digits, and values that a calendar and a clock can show.
-/

namespace RadioGateway.Toml.Moment

/-- The number that the first `count` characters denote, all of which must be digits. -/
def digits? (count : Nat) (text : List Char) : Option (Nat × List Char) :=
  if text.length < count then none
  else (Numeral.read? 10 (text.take count)).map (·, text.drop count)

def expect? (char : Char) : List Char → Option (List Char)
  | [] => none
  | first :: rest => if first = char then some rest else none

def isLeapYear (year : Nat) : Bool := year % 4 = 0 && (year % 100 ≠ 0 || year % 400 = 0)

def daysOfMonth (year month : Nat) : Nat :=
  if month = 2 then (if isLeapYear year then 29 else 28)
  else if month = 4 ∨ month = 6 ∨ month = 9 ∨ month = 11 then 30
  else 31

def date? (text : List Char) : Option (List Char) := do
  let (year, text) ← digits? 4 text
  let text ← expect? '-' text
  let (month, text) ← digits? 2 text
  let text ← expect? '-' text
  let (day, text) ← digits? 2 text
  if 1 ≤ month ∧ month ≤ 12 ∧ 1 ≤ day ∧ day ≤ daysOfMonth year month then some text else none

/-- What follows the fraction of a second, which may be missing. -/
def fraction? : List Char → Option (List Char)
  | '.' :: rest => if (rest.takeWhile Char.isDigit).isEmpty then none else some (rest.dropWhile Char.isDigit)
  | text => some text

/-- What follows a time; the sixtieth second is a leap second. -/
def time? (text : List Char) : Option (List Char) := do
  let (hour, text) ← digits? 2 text
  let text ← expect? ':' text
  let (minute, text) ← digits? 2 text
  let text ← expect? ':' text
  let (second, text) ← digits? 2 text
  if hour ≤ 23 ∧ minute ≤ 59 ∧ second ≤ 60 then fraction? text else none

/-- Whether a text is empty or an offset. -/
def isOffset : List Char → Bool
  | [] => true
  | sign :: rest =>
      if sign = 'Z' || sign = 'z' then rest.isEmpty
      else if sign = '+' || sign = '-' then
        (do
          let (hour, rest) ← digits? 2 rest
          let rest ← expect? ':' rest
          let (minute, rest) ← digits? 2 rest
          if hour ≤ 23 ∧ minute ≤ 59 then some rest else none) == some []
      else false

def isDate (text : List Char) : Bool := date? text == some []

def isMoment (text : List Char) : Bool :=
  match date? text with
  | some [] => true
  | some (separator :: rest) =>
      (separator = 'T' || separator = 't' || separator = ' ') &&
        ((time? rest).map isOffset).getD false
  | none => time? text == some []

end RadioGateway.Toml.Moment
