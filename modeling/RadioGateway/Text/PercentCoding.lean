import RadioGateway.Text.Numeral
import RadioGateway.Text.Utf8

/-!
# Percent coding and form fields

Percent-decoding of octet strings, and the form encoding of lists of name and value: fields joined
by `&`, name and value separated by `=`, a space written as `+`.
-/

namespace RadioGateway.PercentCoding

/-- Replaces each percent sign followed by two hexadecimal digits by the octet they denote; any other
percent sign stays. -/
def decode : Bytes → Bytes
  | 0x25 :: high :: low :: rest =>
      match Numeral.digit? 16 (Char.ofNat high.toNat), Numeral.digit? 16 (Char.ofNat low.toNat) with
      | some highDigit, some lowDigit => .ofNat (highDigit * 16 + lowDigit) :: decode rest
      | _, _ => 0x25 :: decode (high :: low :: rest)
  | byte :: rest => byte :: decode rest
  | [] => []

def parts (separator : Byte) : Bytes → List Bytes
  | [] => [[]]
  | byte :: rest =>
      if byte = separator then [] :: parts separator rest
      else
        match parts separator rest with
        | [] => [[byte]]
        | first :: others => (byte :: first) :: others

def decodeText (bytes : Bytes) : String :=
  Utf8.decodeLenient (decode (bytes.map fun byte => if byte = 0x2b then 0x20 else byte))

/-- The name and value of one field; a field without an equals sign has the empty value. -/
def decodeField (field : Bytes) : String × String :=
  (decodeText (field.takeWhile (· ≠ 0x3d)), decodeText ((field.dropWhile (· ≠ 0x3d)).drop 1))

/-- The names and values of a form in order; empty fields are skipped. -/
def decodeForm (text : String) : List (String × String) :=
  ((parts 0x26 (Utf8.encode text)).filter (!·.isEmpty)).map decodeField

/-- Whether an octet stands for itself in a form. -/
def isLiteral (byte : Byte) : Bool :=
  (0x30 ≤ byte && byte ≤ 0x39) || (0x41 ≤ byte && byte ≤ 0x5a) || (0x61 ≤ byte && byte ≤ 0x7a) ||
    byte == 0x2a || byte == 0x2d || byte == 0x2e || byte == 0x5f

def encodeByte (byte : Byte) : List Char :=
  if isLiteral byte then [Char.ofNat byte.toNat]
  else if byte = 0x20 then ['+']
  else '%' :: (Numeral.hexDigits 2 byte.toNat).map Char.toUpper

def encodeText (text : String) : String :=
  String.ofList ((Utf8.encode text).flatMap encodeByte)

def encodeForm (fields : List (String × String)) : String :=
  String.intercalate "&" (fields.map fun field => encodeText field.1 ++ "=" ++ encodeText field.2)

end RadioGateway.PercentCoding
