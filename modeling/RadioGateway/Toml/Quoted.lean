import RadioGateway.Text.Numeral
import RadioGateway.Toml.Spacing

/-!
# Quoted texts in TOML

Texts between double quotes know escapes, texts between apostrophes do not. Either mark three times
opens a text that may run over several lines; up to two marks may stand directly before its end.
-/

namespace RadioGateway.Toml

/-- The character with a hexadecimal number, unless it is a surrogate or beyond the last one. -/
def scalar? (digits : List Char) : Option Char :=
  (Numeral.read? 16 digits).bind fun number =>
    if number < 0xd800 ∨ (0xdfff < number ∧ number < 0x110000) then some (Char.ofNat number) else none

def numbered? (count : Nat) (text : List Char) : Option (Char × List Char) :=
  if text.length < count then none
  else (scalar? (text.take count)).map (·, text.drop count)

theorem length_numbered? {count : Nat} {text rest : List Char} {char : Char}
    (found : numbered? count text = some (char, rest)) : rest.length ≤ text.length := by
  unfold numbered? at found
  split at found
  · cases found
  · obtain ⟨_, _, equal⟩ := Option.map_eq_some_iff.1 found
    cases equal
    simp

/-- The character that an escape stands for, read after the backslash. -/
def escape? : List Char → Option (Char × List Char)
  | 'b' :: rest => some ('\x08', rest)
  | 't' :: rest => some ('\t', rest)
  | 'n' :: rest => some ('\n', rest)
  | 'f' :: rest => some ('\x0c', rest)
  | 'r' :: rest => some ('\r', rest)
  | '"' :: rest => some ('"', rest)
  | '\\' :: rest => some ('\\', rest)
  | 'u' :: rest => numbered? 4 rest
  | 'U' :: rest => numbered? 8 rest
  | _ => none

theorem length_escape? {text rest : List Char} {char : Char}
    (found : escape? text = some (char, rest)) : rest.length < text.length := by
  unfold escape? at found
  split at found <;> grind [→ length_numbered?]

/-- The text up to the closing double quote, and what follows it. -/
def basic? (text : List Char) : Option (List Char × List Char) :=
  match text with
  | [] => none
  | '"' :: rest => some ([], rest)
  | '\\' :: rest =>
      match found : escape? rest with
      | none => none
      | some (char, later) =>
          have := length_escape? found
          (basic? later).map fun (chars, after) => (char :: chars, after)
  | char :: rest =>
      if isText char then (basic? rest).map fun (chars, after) => (char :: chars, after) else none
termination_by text.length
decreasing_by all_goals simp only [List.length_cons]; omega

/-- The text up to the closing apostrophe, and what follows it. -/
def literal? : List Char → Option (List Char × List Char)
  | [] => none
  | '\'' :: rest => some ([], rest)
  | char :: rest =>
      if isText char then (literal? rest).map fun (chars, after) => (char :: chars, after) else none

def endsLine (text : List Char) : Bool := (afterNewline? (skipBlanks text)).isSome

/-- The text up to three double quotes, and what follows them. A backslash at the end of a line joins
it with the next character that is neither blank nor line end; `joining` says that this is going
on. -/
def basicLines? (joining : Bool) (text : List Char) : Option (List Char × List Char) :=
  match text with
  | '"' :: '"' :: '"' :: '"' :: '"' :: rest => some (['"', '"'], rest)
  | '"' :: '"' :: '"' :: '"' :: rest => some (['"'], rest)
  | '"' :: '"' :: '"' :: rest => some ([], rest)
  | '\\' :: rest =>
      if endsLine rest then basicLines? true rest
      else
        match found : escape? rest with
        | none => none
        | some (char, later) =>
            have := length_escape? found
            (basicLines? false later).map fun (chars, after) => (char :: chars, after)
  | '\r' :: '\n' :: rest =>
      if joining then basicLines? true rest
      else (basicLines? false rest).map fun (chars, after) => ('\n' :: chars, after)
  | char :: rest =>
      if joining && (isBlank char || char = '\n') then basicLines? true rest
      else if isText char || char = '\n' then
        (basicLines? false rest).map fun (chars, after) => (char :: chars, after)
      else none
  | [] => none
termination_by text.length
decreasing_by all_goals simp only [List.length_cons]; omega

def literalLines? : List Char → Option (List Char × List Char)
  | '\'' :: '\'' :: '\'' :: '\'' :: '\'' :: rest => some (['\'', '\''], rest)
  | '\'' :: '\'' :: '\'' :: '\'' :: rest => some (['\''], rest)
  | '\'' :: '\'' :: '\'' :: rest => some ([], rest)
  | '\r' :: '\n' :: rest => (literalLines? rest).map fun (chars, after) => ('\n' :: chars, after)
  | char :: rest =>
      if isText char || char = '\n' then
        (literalLines? rest).map fun (chars, after) => (char :: chars, after)
      else none
  | [] => none

/-- A line end directly after the opening marks does not belong to the text. -/
def afterOpening (text : List Char) : List Char := (afterNewline? text).getD text

def quotedLine? : List Char → Option (String × List Char)
  | '"' :: rest => (basic? rest).map fun (chars, after) => (String.ofList chars, after)
  | '\'' :: rest => (literal? rest).map fun (chars, after) => (String.ofList chars, after)
  | _ => none

def quoted? : List Char → Option (String × List Char)
  | '"' :: '"' :: '"' :: rest =>
      (basicLines? false (afterOpening rest)).map fun (chars, after) => (String.ofList chars, after)
  | '\'' :: '\'' :: '\'' :: rest =>
      (literalLines? (afterOpening rest)).map fun (chars, after) => (String.ofList chars, after)
  | text => quotedLine? text

end RadioGateway.Toml
