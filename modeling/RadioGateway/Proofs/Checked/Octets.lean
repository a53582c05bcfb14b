import RadioGateway.Proofs.Checked.Decimal
import RadioGateway.Proofs.Text.Decimal
import RadioGateway.Text.Utf8

/-!
# Checked numbers in octets

On a machine a text is a string of octets, its length is the number of them, and a number is read
octet by octet. Outside ASCII a character has several octets. As none of them is a digit, a reader
of octets and a reader of characters give the same number.
-/

namespace RadioGateway.Numeral

open Checked

/-- The number written by the octets in front of which `total` has been read. -/
def octetsExtend? (total : Nat) : Bytes → Checked (Option Nat)
  | [] => .ok (some total)
  | octet :: rest =>
      if 0x30 ≤ octet ∧ octet ≤ 0x39 then do
        let digit ← subtract octet.toNat 0x30
        let tenfold ← multiply 64 total 10
        let sum ← add 64 tenfold digit
        octetsExtend? sum rest
      else .ok none

def octetsReadDecimal? (width : Nat) (text : String) : Checked (Option Nat) :=
  let octets := Utf8.encode text
  if octets.isEmpty ∨ width < octets.length then .ok none else octetsExtend? 0 octets

/-- ASCII is encoded as itself, and anything else begins with an octet that is not ASCII. -/
theorem utf8EncodeChar_cases (char : Char) :
    (∃ octet, String.utf8EncodeChar char = [octet] ∧ octet.toNat = char.toNat) ∨
      128 ≤ char.toNat ∧
        ∃ lead rest, String.utf8EncodeChar char = lead :: rest ∧ 128 ≤ lead.toNat := by
  have code : char.val.toNat = char.toNat := rfl
  have octet {number : Nat} (small : number < 256) : (UInt8.ofNat number).toNat = number :=
    UInt8.toNat_ofNat_of_lt' small
  unfold String.utf8EncodeChar
  simp only [code]
  split
  · exact .inl ⟨_, rfl, octet (by omega)⟩
  · refine .inr ⟨by omega, ?_⟩
    split
    · exact ⟨_, _, rfl, by rw [octet (by omega)]; omega⟩
    · split
      · exact ⟨_, _, rfl, by rw [octet (by omega)]; omega⟩
      · exact ⟨_, _, rfl, by rw [octet (by omega)]; omega⟩

theorem utf8EncodeChar_digit {char : Char} (digit : '0' ≤ char ∧ char ≤ '9') :
    ∃ octet : Byte, String.utf8EncodeChar char = [octet] ∧ octet.toNat = char.toNat ∧
      0x30 ≤ octet ∧ octet ≤ 0x39 := by
  have first : 48 ≤ char.toNat := digit.1
  have last : char.toNat ≤ 57 := digit.2
  obtain ⟨octet, alone, value⟩ | ⟨large, -⟩ := utf8EncodeChar_cases char
  · rw [← value] at first last
    exact ⟨octet, alone, value, UInt8.le_iff_toNat_le.mpr first, UInt8.le_iff_toNat_le.mpr last⟩
  · omega

theorem utf8EncodeChar_other {char : Char} (other : ¬ ('0' ≤ char ∧ char ≤ '9')) :
    ∃ (lead : Byte) (rest : Bytes), String.utf8EncodeChar char = lead :: rest ∧
      ¬ (0x30 ≤ lead ∧ lead ≤ 0x39) := by
  obtain ⟨octet, alone, value⟩ | ⟨-, lead, rest, several, large⟩ := utf8EncodeChar_cases char
  · refine ⟨octet, [], alone, fun digit => other ⟨?_, ?_⟩⟩
    · have first : 48 ≤ octet.toNat := UInt8.le_iff_toNat_le.mp digit.1
      rw [value] at first
      exact first
    · have last : octet.toNat ≤ 57 := UInt8.le_iff_toNat_le.mp digit.2
      rw [value] at last
      exact last
  · refine ⟨lead, rest, several, fun digit => ?_⟩
    have last : lead.toNat ≤ 57 := UInt8.le_iff_toNat_le.mp digit.2
    omega

theorem length_le_length_encode (text : String) : text.length ≤ (Utf8.encode text).length := by
  rw [← String.length_toList, Utf8.encode]
  induction text.toList with
  | nil => rfl
  | cons char rest ih =>
      have some : 0 < (String.utf8EncodeChar char).length :=
        List.length_pos_of_ne_nil String.utf8EncodeChar_ne_nil
      rw [List.flatMap_cons, List.length_append, List.length_cons]
      omega

theorem length_encode_of_digits {text : String}
    (digits : ∀ char ∈ text.toList, '0' ≤ char ∧ char ≤ '9') :
    (Utf8.encode text).length = text.length := by
  rw [← String.length_toList, Utf8.encode]
  generalize text.toList = chars at digits
  induction chars with
  | nil => rfl
  | cons char rest ih =>
      rw [List.forall_mem_cons] at digits
      obtain ⟨octet, alone, -⟩ := utf8EncodeChar_digit digits.1
      rw [List.flatMap_cons, List.length_append, List.length_cons, alone, ih digits.2,
        List.length_singleton, Nat.add_comm]

/-- Octets are read as the characters that they encode. -/
theorem octetsExtend?_flatMap (total : Nat) (chars : List Char) :
    octetsExtend? total (chars.flatMap String.utf8EncodeChar) = checkedExtend? total chars := by
  induction chars generalizing total with
  | nil => rfl
  | cons char rest ih =>
      rw [List.flatMap_cons, checkedExtend?]
      by_cases decimal : '0' ≤ char ∧ char ≤ '9'
      · obtain ⟨octet, alone, value, digit⟩ := utf8EncodeChar_digit decimal
        rw [alone, List.singleton_append, octetsExtend?, if_pos digit, if_pos decimal, value]
        simp only [ih]
        rfl
      · obtain ⟨lead, others, several, foreign⟩ := utf8EncodeChar_other decimal
        rw [several, List.cons_append, octetsExtend?, if_neg foreign, if_neg decimal]

/-- Octets and characters give the same number, and no word on the way is too narrow. -/
theorem octetsReadDecimal?_eq {width : Nat} (narrow : width < 20) (text : String) :
    octetsReadDecimal? width text = .ok (readDecimal? width text) := by
  have least := length_le_length_encode text
  unfold octetsReadDecimal?
  dsimp only
  split
  · rename_i refused
    rw [List.isEmpty_iff_length_eq_zero] at refused
    cases read : readDecimal? width text with
    | none => rfl
    | some number =>
        -- A text with more octets than characters is no numeral, so no limit was passed.
        have denotes := (readDecimal?_eq_some_iff ..).mp read
        have same := length_encode_of_digits denotes.digits
        have few := denotes.few
        have nonempty := denotes.nonempty
        omega
  · rename_i accepted
    rw [List.isEmpty_iff_length_eq_zero, not_or] at accepted
    have few : text.toList.length ≤ width := by
      rw [String.length_toList]
      omega
    have nonempty : ¬ text.toList.isEmpty := by
      intro empty
      rw [List.isEmpty_iff] at empty
      exact accepted.1 (by rw [Utf8.encode, empty]; rfl)
    rw [readDecimal?, if_pos few, read?, if_neg nonempty]
    rw [Utf8.encode, octetsExtend?_flatMap]
    exact checkedExtend?_eq (show 0 < 10 ^ 0 by decide) (by omega)

end RadioGateway.Numeral
