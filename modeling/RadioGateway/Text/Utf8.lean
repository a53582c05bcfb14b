import RadioGateway.Bytes

/-!
# UTF-8

Octet strings are split into encoded characters and ill-formed stretches. A stretch is as long as
the longest beginning of a well-formed character at that place, and at least one octet. Strict
decoding refuses ill-formed stretches; lenient decoding writes one replacement character for each.
-/

namespace RadioGateway.Utf8

/-- What must follow the first octet of a character: how many octets, and the range of the first of
them. -/
structure Followers where
  count : Nat
  low : Byte
  high : Byte

def followers? (lead : Byte) : Option Followers :=
  if lead ≤ 0x7f then some ⟨0, 0x80, 0xbf⟩
  else if lead < 0xc2 then none
  else if lead ≤ 0xdf then some ⟨1, 0x80, 0xbf⟩
  else if lead = 0xe0 then some ⟨2, 0xa0, 0xbf⟩
  else if lead = 0xed then some ⟨2, 0x80, 0x9f⟩
  else if lead ≤ 0xef then some ⟨2, 0x80, 0xbf⟩
  else if lead = 0xf0 then some ⟨3, 0x90, 0xbf⟩
  else if lead ≤ 0xf3 then some ⟨3, 0x80, 0xbf⟩
  else if lead = 0xf4 then some ⟨3, 0x80, 0x8f⟩
  else none

/-- The octets at the front of `bytes` that continue a character, at most as many as it needs. -/
def continuation : Followers → Bytes → Bytes
  | ⟨0, _, _⟩, _ => []
  | ⟨_ + 1, _, _⟩, [] => []
  | ⟨count + 1, low, high⟩, byte :: rest =>
      if low ≤ byte ∧ byte ≤ high then byte :: continuation ⟨count, 0x80, 0xbf⟩ rest else []

/-- The payload bits of the first octet of a character with `count` followers. -/
def leadBits (count : Nat) (lead : Byte) : Nat :=
  match count with
  | 0 => lead.toNat
  | 1 => lead.toNat % 32
  | 2 => lead.toNat % 16
  | _ => lead.toNat % 8

def character (lead : Byte) (tail : Bytes) : Char :=
  Char.ofNat (tail.foldl (fun total byte => total * 64 + byte.toNat % 64) (leadBits tail.length lead))

/-- The characters of an octet string; `none` stands for an ill-formed stretch. -/
def scan : Bytes → List (Option Char)
  | [] => []
  | lead :: rest =>
      match followers? lead with
      | none => none :: scan rest
      | some needed =>
          let tail := continuation needed rest
          let char := if tail.length = needed.count then some (character lead tail) else none
          char :: scan (rest.drop tail.length)
termination_by bytes => bytes.length
decreasing_by all_goals simp only [List.length_cons, List.length_drop]; omega

def decode? (bytes : Bytes) : Option String :=
  ((scan bytes).mapM id).map String.ofList

/-- The text of any octet string, with a replacement character for each ill-formed stretch. -/
def decodeLenient (bytes : Bytes) : String :=
  String.ofList ((scan bytes).map (·.getD '\uFFFD'))

def encode (text : String) : Bytes :=
  text.toList.flatMap String.utf8EncodeChar

end RadioGateway.Utf8
