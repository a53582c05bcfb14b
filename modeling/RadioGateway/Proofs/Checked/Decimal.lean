import RadioGateway.Proofs.Checked.Machine
import RadioGateway.Attributes

/-!
# Checked numbers in attributes

The number under a name is read digit by digit into a word of 64 bits. As the number of digits is
limited before the first of them is read, the word is never too narrow.
-/

namespace RadioGateway

open Checked

namespace Numeral

/-- The number written by the digits in front of which `total` has been read. -/
def checkedExtend? (total : Nat) : List Char → Checked (Option Nat)
  | [] => .ok (some total)
  | char :: rest =>
      if '0' ≤ char ∧ char ≤ '9' then do
        let digit ← subtract char.toNat '0'.toNat
        let tenfold ← multiply 64 total 10
        let sum ← add 64 tenfold digit
        checkedExtend? sum rest
      else .ok none

def checkedReadDecimal? (width : Nat) (text : String) : Checked (Option Nat) :=
  if text.toList.length ≤ width then
    if text.toList.isEmpty then .ok none else checkedExtend? 0 text.toList
  else .ok none

theorem digit?_ten (char : Char) :
    digit? 10 char = if '0' ≤ char ∧ char ≤ '9' then some (char.toNat - '0'.toNat) else none := by
  unfold digit?
  by_cases decimal : '0' ≤ char ∧ char ≤ '9'
  · have last : char.toNat ≤ '9'.toNat := decimal.2
    have small : char.toNat - '0'.toNat < 10 := by
      have nine : '9'.toNat = 57 := rfl
      have zero : '0'.toNat = 48 := rfl
      omega
    simp only [if_pos decimal, Option.filter_some, decide_eq_true small, if_true]
  · have letter (number : Nat) : Option.filter (· < 10) (some (number + 10)) = none := by simp
    simp only [if_neg decimal]
    split
    · exact letter _
    · split
      · exact letter _
      · rfl

/-- As long as fewer than twenty digits are read, every number on the way fits its word. -/
theorem checkedExtend?_eq {count total : Nat} {digits : List Char} (small : total < 10 ^ count)
    (few : count + digits.length < 20) :
    checkedExtend? total digits = .ok (extend? 10 total digits) := by
  induction digits generalizing count total with
  | nil => rfl
  | cons char rest ih =>
      rw [List.length_cons] at few
      rw [checkedExtend?, extend?, digit?_ten]
      by_cases decimal : '0' ≤ char ∧ char ≤ '9'
      · have first : '0'.toNat ≤ char.toNat := decimal.1
        have last : char.toNat ≤ '9'.toNat := decimal.2
        have nine : '9'.toNat = '0'.toNat + 9 := rfl
        have later : total * 10 + (char.toNat - '0'.toNat) < 10 ^ (count + 1) := by
          rw [Nat.pow_succ]
          omega
        have wide : 10 ^ (count + 1) ≤ 10 ^ 19 := Nat.pow_le_pow_right (by decide) (by omega)
        have narrow : 10 ^ 19 < 2 ^ 64 := by decide
        rw [if_pos decimal, if_pos decimal, subtract_eq first, ok_bind,
          multiply_eq (by omega), ok_bind, add_eq (by omega), ok_bind]
        exact ih later (by omega)
      · rw [if_neg decimal, if_neg decimal]

theorem checkedReadDecimal?_eq {width : Nat} (narrow : width < 20) (text : String) :
    checkedReadDecimal? width text = .ok (readDecimal? width text) := by
  unfold checkedReadDecimal? readDecimal? read?
  split
  · rename_i short
    split
    · rfl
    · exact checkedExtend?_eq (show 0 < 10 ^ 0 by decide) (by omega)
  · rfl

end Numeral

namespace Attributes

def checkedNumber? (width bound : Nat) (attributes : Attributes) (name : String) :
    Checked (Option Nat) :=
  match attributes.find? name with
  | none => .ok none
  | some text => do
      let number ← Numeral.checkedReadDecimal? width text
      .ok (number.filter (· < bound))

def checkedByte? (attributes : Attributes) (name : String) : Checked (Option UInt8) := do
  let number ← checkedNumber? 3 256 attributes name
  .ok (number.map .ofNat)

def checkedPercentage? (attributes : Attributes) (name : String) : Checked (Option UInt8) := do
  let number ← checkedNumber? 2 100 attributes name
  .ok (number.map .ofNat)

def checkedWord? (attributes : Attributes) (name : String) : Checked (Option UInt16) := do
  let number ← checkedNumber? 5 65536 attributes name
  .ok (number.map .ofNat)

def checkedLong? (attributes : Attributes) (name : String) : Checked (Option UInt32) := do
  let number ← checkedNumber? 10 4294967296 attributes name
  .ok (number.map .ofNat)

variable (attributes : Attributes) (name : String)

theorem checkedNumber?_eq {width : Nat} (narrow : width < 20) (bound : Nat) :
    checkedNumber? width bound attributes name = .ok (number? width bound attributes name) := by
  unfold checkedNumber? number?
  cases attributes.find? name with
  | none => rfl
  | some text =>
      dsimp only
      rw [Numeral.checkedReadDecimal?_eq narrow, ok_bind, Option.bind_some]

theorem checkedByte?_eq : attributes.checkedByte? name = .ok (attributes.byte? name) := by
  rw [checkedByte?, checkedNumber?_eq attributes name (by decide)]
  rfl

theorem checkedPercentage?_eq :
    attributes.checkedPercentage? name = .ok (attributes.percentage? name) := by
  rw [checkedPercentage?, checkedNumber?_eq attributes name (by decide)]
  rfl

theorem checkedWord?_eq : attributes.checkedWord? name = .ok (attributes.word? name) := by
  rw [checkedWord?, checkedNumber?_eq attributes name (by decide)]
  rfl

theorem checkedLong?_eq : attributes.checkedLong? name = .ok (attributes.long? name) := by
  rw [checkedLong?, checkedNumber?_eq attributes name (by decide)]
  rfl

end Attributes

end RadioGateway
