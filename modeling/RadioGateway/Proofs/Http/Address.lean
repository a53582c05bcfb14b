import RadioGateway.Http.Gateway

/-!
# Addresses in paths

A hexadecimal numeral consists of characters that a path shows as they are. So an address that is
written with eight digits is read back as the same address when it stands in a path.
-/

namespace RadioGateway

namespace Numeral

theorem digit?_hexDigit {digit : Nat} (small : digit < 16) :
    digit? 16 (digitChar digit) = some digit := by
  revert small
  revert digit
  decide

/-- Hexadecimal digits are read back, as far as they were written. -/
theorem extend?_hexDigits (width number : Nat) :
    extend? 16 0 (hexDigits width number) = some (number % Nat.pow 16 width) := by
  induction width generalizing number with
  | zero => simp [hexDigits, extend?, Nat.mod_one]
  | succ width ih =>
      have small : number % 16 < 16 := Nat.mod_lt _ (by decide)
      rw [hexDigits, extend?_append, ih, Option.bind_some]
      simp only [extend?, digit?_hexDigit small]
      have step : Nat.pow 16 (width + 1) = 16 * Nat.pow 16 width := Nat.mul_comm ..
      rw [step, Nat.mod_mul]
      congr 1
      omega

theorem mem_hexDigits {width number : Nat} {char : Char} (member : char ∈ hexDigits width number) :
    ∃ digit < 16, char = digitChar digit := by
  induction width generalizing number with
  | zero => cases member
  | succ width ih =>
      rcases List.mem_append.mp member with front | last
      · exact ih front
      · exact ⟨_, Nat.mod_lt _ (by decide), List.mem_singleton.mp last⟩

/-- A numeral of some width is the number that was written, if it has so many digits. -/
theorem readUnsigned?_hex {width bound number : Nat} (positive : 0 < width)
    (fits : number < Nat.pow 16 width) (small : number < bound) :
    readUnsigned? 16 bound (hex width number) = some number := by
  have unsigned : ∀ digit < 16, digitChar digit ≠ '+' := by decide
  have written : hexDigits width number ≠ [] := by
    cases width with
    | zero => cases positive
    | succ width => simp [hexDigits]
  have read : read? 16 (hexDigits width number) = some number := by
    rw [read?, if_neg (by simpa using written), extend?_hexDigits, Nat.mod_eq_of_lt fits]
  rw [readUnsigned?, hex, String.toList_ofList]
  split
  · rename_i rest same
    have signed : '+' ∈ hexDigits width number := by
      rw [same]
      exact List.mem_cons_self
    obtain ⟨digit, below, equal⟩ := mem_hexDigits signed
    exact absurd equal.symm (unsigned digit below)
  · simp [read, small]

end Numeral

/-- Whether a character stands in a path as one octet and for itself. -/
def Plain (char : Char) : Prop :=
  String.utf8EncodeChar char = [.ofNat char.toNat] ∧ char.toNat < 128 ∧ char ≠ '%'

theorem plain_digitChar {digit : Nat} (small : digit < 16) : Plain (Numeral.digitChar digit) := by
  unfold Plain
  revert small
  revert digit
  decide

def octets (text : List Char) : Bytes := text.map fun char => .ofNat char.toNat

section Octets

variable {text : List Char} (plain : ∀ char ∈ text, Plain char)

include plain

theorem encode_of_plain : Utf8.encode (String.ofList text) = octets text := by
  rw [Utf8.encode, String.toList_ofList, octets, List.map_eq_flatMap, List.flatMap, List.flatMap]
  exact congrArg List.flatten (List.map_congr_left fun char member => (plain char member).1)

theorem percentDecode_of_plain : PercentCoding.decode (octets text) = octets text := by
  induction text with
  | nil => rfl
  | cons char rest ih =>
      rw [List.forall_mem_cons] at plain
      obtain ⟨⟨_, ascii, other⟩, plain⟩ := plain
      have apart : (UInt8.ofNat char.toNat) ≠ 0x25 := by
        intro same
        have number := congrArg UInt8.toNat same
        rw [UInt8.toNat_ofNat', Nat.mod_eq_of_lt (by omega)] at number
        exact other (Char.toNat_inj.mp number)
      rw [octets, List.map_cons, PercentCoding.decode]
      · exact congrArg _ (ih plain)
      · exact fun high low later same _ => apart same

theorem scan_of_plain : Utf8.scan (octets text) = text.map some := by
  induction text with
  | nil => rw [octets, List.map_nil, Utf8.scan, List.map_nil]
  | cons char rest ih =>
      rw [List.forall_mem_cons] at plain
      obtain ⟨⟨_, ascii, _⟩, plain⟩ := plain
      have number : (UInt8.ofNat char.toNat).toNat = char.toNat := by
        rw [UInt8.toNat_ofNat', Nat.mod_eq_of_lt (by omega)]
      have single : Utf8.followers? (UInt8.ofNat char.toNat) = some ⟨0, 0x80, 0xbf⟩ := by
        have low : UInt8.ofNat char.toNat ≤ 0x7f := by
          rw [UInt8.le_iff_toNat_le, number]
          exact Nat.le_of_lt_succ ascii
        rw [Utf8.followers?, if_pos low]
      rw [octets, List.map_cons, Utf8.scan]
      simp only [single, Utf8.continuation, List.length_nil, List.drop_zero, if_true]
      have later : Utf8.scan (rest.map fun char => .ofNat char.toNat) = rest.map some := ih plain
      rw [later, Utf8.character]
      simp [Utf8.leadBits, number, Char.ofNat_toNat]

/-- A path segment of plain characters is the text that it shows. -/
theorem decodeSegment?_of_plain :
    Http.Target.decodeSegment? (String.ofList text) = some (String.ofList text) := by
  have whole : (text.map some).mapM id = some text := by
    rw [List.mapM_map, show (id ∘ some : Char → Option Char) = fun char => pure char from rfl,
      List.mapM_pure, List.map_id']
    rfl
  rw [Http.Target.decodeSegment?, encode_of_plain plain, percentDecode_of_plain plain, Utf8.decode?,
    scan_of_plain plain, whole, Option.map_some]

end Octets

/-- An address that is written with eight hexadecimal digits is read back from a path. -/
theorem Http.nodeNumber?_hex (address : UInt32) :
    Http.nodeNumber? 16 (Numeral.hex 8 address.toNat) = some address := by
  have plain : ∀ char ∈ Numeral.hexDigits 8 address.toNat, Plain char := by
    intro char member
    obtain ⟨digit, small, rfl⟩ := Numeral.mem_hexDigits member
    exact plain_digitChar small
  have segment : Target.decodeSegment? (Numeral.hex 8 address.toNat) =
      some (Numeral.hex 8 address.toNat) := decodeSegment?_of_plain plain
  rw [nodeNumber?, segment, Option.bind_some,
    Numeral.readUnsigned?_hex (by decide) address.toNat_lt address.toNat_lt, Option.map_some,
    UInt32.ofNat_toNat]

end RadioGateway
