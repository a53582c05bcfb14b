import RadioGateway.Text.Numeral

/-!
# Socket addresses

The text of an address with a port: four decimal parts, or groups of hexadecimal digits in brackets,
in which one run of zero groups may be left out and the last two groups may be written like four
decimal parts. The text that is written has the longest run of zeros left out, the first of several.
-/

namespace RadioGateway.Configuration

inductive HostAddress where
  | v4 (parts : Vector UInt8 4)
  | v6 (groups : Vector UInt16 8) (scope : UInt32)
  deriving DecidableEq, Repr

structure SocketAddress where
  host : HostAddress
  port : UInt16
  deriving DecidableEq, Repr

namespace SocketAddress

/-- A number at the front of a text: at least one digit and at most `width`, below `bound`. -/
def number? (radix bound : Nat) (width : Option Nat) (leadingZeros : Bool) (text : List Char) :
    Option (Nat × List Char) :=
  let digits := text.takeWhile fun char => (Numeral.digit? radix char).isSome
  let fits := (width.map fun width => decide (digits.length ≤ width)).getD true
  let starts := leadingZeros || digits.length ≤ 1 || digits.head? ≠ some '0'
  if fits && starts then
    ((Numeral.read? radix digits).filter (· < bound)).map (·, text.drop digits.length)
  else none

/-- What follows a character that must stand at the front. -/
def expect? (char : Char) : List Char → Option (List Char)
  | [] => none
  | first :: rest => if first = char then some rest else none

/-- Four decimal parts without leading zeros. -/
def parts? (text : List Char) : Option (Vector UInt8 4 × List Char) := do
  let (first, text) ← number? 10 256 (some 3) false text
  let text ← expect? '.' text
  let (second, text) ← number? 10 256 (some 3) false text
  let text ← expect? '.' text
  let (third, text) ← number? 10 256 (some 3) false text
  let text ← expect? '.' text
  let (fourth, text) ← number? 10 256 (some 3) false text
  some (#v[.ofNat first, .ofNat second, .ofNat third, .ofNat fourth], text)

def port? (text : List Char) : Option (UInt16 × List Char) := do
  let text ← expect? ':' text
  let (port, text) ← number? 10 65536 none true text
  some (.ofNat port, text)

structure Groups where
  groups : List UInt16
  /-- Whether the last two are written like four decimal parts. -/
  endsInParts : Bool := false
  rest : List Char

/-- At most `room` groups joined by colons; `first` says that no group stands before them. -/
def groups (first : Bool) : (room : Nat) → List Char → Groups
  | 0, text => { groups := [], rest := text }
  | room + 1, text =>
      let separated := if first then some text else expect? ':' text
      let four := if room = 0 then none else separated.bind parts?
      match four with
      | some (parts, rest) =>
          let pair (high low : UInt8) : UInt16 := .ofNat (high.toNat * 256 + low.toNat)
          { groups := [pair parts[0] parts[1], pair parts[2] parts[3]], endsInParts := true, rest }
      | none =>
          match separated.bind (number? 16 65536 (some 4) true) with
          | none => { groups := [], rest := text }
          | some (group, rest) =>
              let later := groups false room rest
              { later with groups := .ofNat group :: later.groups }

/-- The eight groups made of those before and those behind a gap. -/
def fill (front back : List UInt16) : Vector UInt16 8 :=
  .ofFn fun place =>
    (front ++ List.replicate (8 - front.length - back.length) 0 ++ back).getD place.val 0

/-- Eight groups; a double colon stands for at least one zero group. -/
def eight? (text : List Char) : Option (Vector UInt16 8 × List Char) :=
  let front := groups true 8 text
  if front.groups.length = 8 then some (fill front.groups [], front.rest)
  else if front.endsInParts then none
  else
    match front.rest with
    | ':' :: ':' :: rest =>
        let back := groups true (7 - front.groups.length) rest
        some (fill front.groups back.groups, back.rest)
    | _ => none

/-- The number of the scope behind a percent sign; zero if there is none. -/
def scope (text : List Char) : UInt32 × List Char :=
  match (expect? '%' text).bind (number? 10 4294967296 none true) with
  | some (number, rest) => (.ofNat number, rest)
  | none => (0, text)

def v4? (text : List Char) : Option (SocketAddress × List Char) := do
  let (parts, text) ← parts? text
  let (port, text) ← port? text
  some ({ host := .v4 parts, port }, text)

def v6? (text : List Char) : Option (SocketAddress × List Char) := do
  let text ← expect? '[' text
  let (groups, text) ← eight? text
  let (scope, text) := scope text
  let text ← expect? ']' text
  let (port, text) ← port? text
  some ({ host := .v6 groups scope, port }, text)

def ofString? (text : String) : Option SocketAddress :=
  match (v4? text.toList).or (v6? text.toList) with
  | some (address, []) => some address
  | _ => none

structure Run where
  start : Nat
  length : Nat
  deriving DecidableEq, Repr

/-- The longest run of zeros in a list whose first element has the number `start`, the first of
several. -/
def longestRun (start : Nat) : List UInt16 → Run
  | [] => ⟨start, 0⟩
  | group :: rest =>
      let later := longestRun (start + 1) rest
      let here := ((group :: rest).takeWhile (· = 0)).length
      if later.length ≤ here then ⟨start, here⟩ else later

def joinGroups (groups : List UInt16) : String :=
  String.intercalate ":" (groups.map fun group => String.ofList (Numeral.shortHexDigits group.toNat))

def joinParts (parts : List Nat) : String :=
  String.intercalate "." (parts.map Numeral.decimal)

/-- The text of eight groups. An address that stands for four decimal parts shows them. -/
def eightText (groups : List UInt16) : String :=
  match groups with
  | [0, 0, 0, 0, 0, 0xffff, high, low] =>
      "::ffff:" ++
        joinParts [high.toNat / 256, high.toNat % 256, low.toNat / 256, low.toNat % 256]
  | _ =>
      let run := longestRun 0 groups
      if 1 < run.length then
        joinGroups (groups.take run.start) ++ "::" ++ joinGroups (groups.drop (run.start + run.length))
      else joinGroups groups

def hostText : HostAddress → String
  | .v4 parts => joinParts (parts.toList.map UInt8.toNat)
  | .v6 groups scope =>
      "[" ++ eightText groups.toList ++
        (if scope = 0 then "" else "%" ++ Numeral.decimal scope.toNat) ++ "]"

def toString (address : SocketAddress) : String :=
  hostText address.host ++ ":" ++ Numeral.decimal address.port.toNat

end SocketAddress

end RadioGateway.Configuration
