import RadioGateway.Toml.Moment
import RadioGateway.Toml.Spacing
import RadioGateway.Toml.Value

/-!
# Unquoted values in TOML

Booleans, integers, floats and moments. Digits may be grouped by underscores, each between two
digits. A decimal number has no leading zeros. An integer must fit into 128 bits and a float must
not be too large for a double.
-/

namespace RadioGateway.Toml

/-- The digits of a group without the underscores between them. -/
def ungroup? (radix : Nat) : List Char → Option (List Char)
  | [] => none
  | [char] => if (Numeral.digit? radix char).isSome then some [char] else none
  | char :: '_' :: rest =>
      if (Numeral.digit? radix char).isSome then (ungroup? radix rest).map (char :: ·) else none
  | char :: rest =>
      if (Numeral.digit? radix char).isSome then (ungroup? radix rest).map (char :: ·) else none

def grouped? (radix : Nat) (text : List Char) : Option Nat :=
  (ungroup? radix text).bind (Numeral.read? radix)

/-- The digits of a decimal number, which has no leading zero. -/
def wholeDigits? (text : List Char) : Option (List Char) :=
  (ungroup? 10 text).filter fun digits => digits.length = 1 || digits.head? ≠ some '0'

/-- Splits off a sign; `true` stands for a minus sign. -/
def splitSign : List Char → Bool × List Char
  | '-' :: rest => (true, rest)
  | '+' :: rest => (false, rest)
  | text => (false, text)

/-- Integers of up to 128 bits, signed or not. -/
def integerFits (number : Int) : Bool :=
  number.toNat < Nat.pow 2 128 && (-number).toNat ≤ Nat.pow 2 127

/-- A number with a radix mark has no sign. -/
def integer? : List Char → Option Int
  | '0' :: 'x' :: digits => (grouped? 16 digits).map Int.ofNat
  | '0' :: 'o' :: digits => (grouped? 8 digits).map Int.ofNat
  | '0' :: 'b' :: digits => (grouped? 2 digits).map Int.ofNat
  | text =>
      let (negative, digits) := splitSign text
      ((wholeDigits? digits).bind (Numeral.read? 10)).map fun magnitude =>
        if negative then -(magnitude : Int) else magnitude

/-- Whether `mantissa` times ten to the power of `exponent` rounds to a finite double. -/
def floatFits (mantissa : Nat) (exponent : Int) : Bool :=
  let size : Int := (Numeral.decimalDigits mantissa).length + exponent
  if mantissa = 0 || size < 300 then true
  else if size > 320 then false
  else
    let bound := Nat.pow 2 1024 - Nat.pow 2 970
    if 0 ≤ exponent then mantissa * Nat.pow 10 exponent.toNat < bound
    else mantissa < bound * Nat.pow 10 (-exponent).toNat

def exponent? (text : List Char) : Option Int :=
  let (negative, digits) := splitSign text
  (grouped? 10 digits).map fun magnitude => if negative then -(magnitude : Int) else magnitude

/-- Whether a text is the writing of a finite float: whole digits, then a fraction, an exponent or
both. -/
def isFiniteFloat (text : List Char) : Bool :=
  let unsigned := (splitSign text).2
  let mantissa := unsigned.takeWhile fun char => char ≠ 'e' && char ≠ 'E'
  let power := (unsigned.dropWhile fun char => char ≠ 'e' && char ≠ 'E').drop 1
  let whole := mantissa.takeWhile (· ≠ '.')
  let fraction := (mantissa.dropWhile (· ≠ '.')).drop 1
  let hasPower := mantissa.length < unsigned.length
  let hasFraction := whole.length < mantissa.length
  (hasPower || hasFraction) &&
    match wholeDigits? whole, if hasFraction then ungroup? 10 fraction else some [],
      if hasPower then exponent? power else some 0 with
    | some whole, some fraction, some power =>
        floatFits ((Numeral.read? 10 (whole ++ fraction)).getD 0) (power - fraction.length)
    | _, _, _ => false

def isSpecialFloat (text : List Char) : Bool :=
  let name := (splitSign text).2
  name = "inf".toList || name = "nan".toList

/-- Whether a character may stand in an unquoted value. -/
def isAtomChar (char : Char) : Bool :=
  char.isAlphanum || char = '_' || char = '-' || char = '+' || char = '.' || char = ':'

def atom? (text : List Char) : Option Value :=
  if text = "true".toList then some (.boolean true)
  else if text = "false".toList then some (.boolean false)
  else
    match integer? text with
    | some number => if integerFits number then some (.integer number) else none
    | none =>
        if isFiniteFloat text || isSpecialFloat text then some (.float (String.ofList text))
        else if Moment.isMoment text then some (.moment (String.ofList text))
        else none

/-- The unquoted text at the front. A date goes on over one blank if a digit follows it. -/
def splitAtom (text : List Char) : List Char × List Char :=
  let front := text.takeWhile isAtomChar
  let back := text.dropWhile isAtomChar
  match back with
  | ' ' :: digit :: rest =>
      if Moment.isDate front && digit.isDigit then
        let later := digit :: rest
        (front ++ ' ' :: later.takeWhile isAtomChar, later.dropWhile isAtomChar)
      else (front, back)
  | _ => (front, back)

def scalarValue? (text : List Char) : Option (Value × List Char) :=
  let (atom, rest) := splitAtom text
  (atom? atom).map (·, rest)

end RadioGateway.Toml
