import Mathlib.Data.Nat.Digits.Lemmas
import RadioGateway.Proofs.Checked.Decimal

/-!
# Decimal numerals

A decimal numeral is a text of digits and nothing else. The reader accepts the numerals of limited
length, and the writer gives the numeral of a number that has no leading zeros.
-/

namespace RadioGateway.Numeral

def digitValue (char : Char) : Nat := char.toNat - '0'.toNat

/-- Whether a text of at most `width` decimal digits denotes a number. -/
structure Denotes (width : Nat) (text : String) (number : Nat) : Prop where
  digits : ∀ char ∈ text.toList, '0' ≤ char ∧ char ≤ '9'
  nonempty : 1 ≤ text.length
  few : text.length ≤ width
  value : Nat.ofDigits 10 (text.toList.reverse.map digitValue) = number

theorem digitValue_lt {char : Char} (digit : '0' ≤ char ∧ char ≤ '9') : digitValue char < 10 := by
  have last : char.toNat ≤ '9'.toNat := digit.2
  have nine : '9'.toNat = '0'.toNat + 9 := rfl
  rw [digitValue]
  omega

theorem digitChar_digitValue {char : Char} (digit : '0' ≤ char ∧ char ≤ '9') :
    digitChar (digitValue char) = char := by
  have first : '0'.toNat ≤ char.toNat := digit.1
  rw [digitChar, if_pos (digitValue_lt digit), digitValue, Nat.add_sub_cancel' first,
    Char.ofNat_toNat]

theorem extend?_eq_some_iff (total number : Nat) (chars : List Char) :
    extend? 10 total chars = some number ↔ (∀ char ∈ chars, '0' ≤ char ∧ char ≤ '9') ∧
      total * 10 ^ chars.length + Nat.ofDigits 10 (chars.reverse.map digitValue) = number := by
  induction chars generalizing total with
  | nil => simp [extend?]
  | cons char rest ih =>
      have value : Nat.ofDigits 10 ((char :: rest).reverse.map digitValue) =
          Nat.ofDigits 10 (rest.reverse.map digitValue) + 10 ^ rest.length * digitValue char := by
        rw [List.reverse_cons, List.map_append, Nat.ofDigits_append, List.map_singleton,
          Nat.ofDigits_singleton, List.length_map, List.length_reverse]
      rw [extend?, digit?_ten, List.forall_mem_cons, value, List.length_cons, Nat.pow_succ]
      by_cases digit : '0' ≤ char ∧ char ≤ '9'
      · have sum : (total * 10 + digitValue char) * 10 ^ rest.length +
            Nat.ofDigits 10 (rest.reverse.map digitValue) =
          total * (10 ^ rest.length * 10) + (Nat.ofDigits 10 (rest.reverse.map digitValue) +
            10 ^ rest.length * digitValue char) := by ring
        rw [if_pos digit, and_iff_right digit, ← sum]
        exact ih (total * 10 + digitValue char)
      · rw [if_neg digit]
        simp [digit]

theorem readDecimal?_eq_some_iff (width : Nat) (text : String) (number : Nat) :
    readDecimal? width text = some number ↔ Denotes width text number := by
  have length : text.toList.length = text.length := String.length_toList
  have empty : text.toList.isEmpty ↔ text.length = 0 := by
    rw [List.isEmpty_iff_length_eq_zero, length]
  unfold readDecimal? read?
  constructor
  · intro read
    split at read
    · split at read
      · cases read
      · rename_i few nonempty
        obtain ⟨digits, value⟩ := (extend?_eq_some_iff ..).mp read
        rw [empty] at nonempty
        rw [Nat.zero_mul, Nat.zero_add] at value
        exact ⟨digits, Nat.pos_of_ne_zero nonempty, length ▸ few, value⟩
    · cases read
  · rintro ⟨digits, nonempty, few, value⟩
    rw [if_pos (length ▸ few), if_neg (by rw [empty]; omega), extend?_eq_some_iff, Nat.zero_mul,
      Nat.zero_add]
    exact ⟨digits, value⟩

theorem Denotes.lt {width number : Nat} {text : String} (denotes : Denotes width text number) :
    number < 10 ^ width := by
  have small : ∀ digit ∈ text.toList.reverse.map digitValue, digit < 10 := by
    intro digit member
    obtain ⟨char, found, rfl⟩ := List.mem_map.mp member
    exact digitValue_lt (denotes.digits char (List.mem_reverse.mp found))
  have bound := Nat.ofDigits_lt_base_pow_length (by decide) small
  rw [denotes.value, List.length_map, List.length_reverse, String.length_toList] at bound
  exact Nat.lt_of_lt_of_le bound (Nat.pow_le_pow_right (by decide) denotes.few)

/-- The digits that are left when leading zeros are taken off, but for the last digit. -/
def withoutZeros (text : String) : String :=
  match text.toList.dropWhile (· = '0') with
  | [] => "0"
  | digits => String.ofList digits

theorem extend?_dropWhile (chars : List Char) :
    extend? 10 0 (chars.dropWhile (· = '0')) = extend? 10 0 chars := by
  induction chars with
  | nil => rfl
  | cons char rest ih =>
      by_cases zero : char = '0'
      · subst zero
        rw [List.dropWhile_cons_of_pos (by simp), ih]
        rfl
      · rw [List.dropWhile_cons_of_neg (by simpa using zero)]

/-- Digits that do not begin with a zero are those that a number is written with. -/
theorem decimalDigits_of_extend? {chars : List Char} {number : Nat} (nonempty : chars ≠ [])
    (lead : chars.head? ≠ some '0') (read : extend? 10 0 chars = some number) :
    decimalDigits number = chars ∧ number ≠ 0 := by
  -- The writer takes the last digit off first, so the reader is followed from the end too.
  induction chars using List.reverseRecOn generalizing number with
  | nil => exact absurd rfl nonempty
  | append_singleton front last ih =>
      rw [extend?_append] at read
      obtain ⟨before, first, second⟩ := Option.bind_eq_some_iff.mp read
      obtain ⟨digits, value⟩ := (extend?_eq_some_iff ..).mp second
      have digit := digits last (List.mem_singleton.mpr rfl)
      have below := digitValue_lt digit
      have written := digitChar_digitValue digit
      rw [List.length_singleton, List.reverse_singleton, List.map_singleton,
        Nat.ofDigits_singleton, Nat.pow_one] at value
      by_cases alone : front = []
      · subst alone
        cases first
        rw [Nat.zero_mul, Nat.zero_add] at value
        subst value
        refine ⟨by rw [decimalDigits, if_pos below, written, List.nil_append], fun zero => lead ?_⟩
        rw [List.nil_append, List.head?_cons, ← written, zero]
        rfl
      · rw [List.head?_append_of_ne_nil _ alone] at lead
        obtain ⟨spelled, positive⟩ := ih alone lead first
        have large : ¬ number < 10 := by omega
        have tens : number / 10 = before := by omega
        have ones : number % 10 = digitValue last := by omega
        refine ⟨?_, by omega⟩
        rw [decimalDigits, if_neg large, tens, ones, spelled, written]

/-- A number that was read is written without leading zeros. -/
theorem Denotes.decimal_eq {width number : Nat} {text : String}
    (denotes : Denotes width text number) : decimal number = withoutZeros text := by
  have read : extend? 10 0 (text.toList.dropWhile (· = '0')) = some number := by
    rw [extend?_dropWhile, extend?_eq_some_iff, Nat.zero_mul, Nat.zero_add]
    exact ⟨denotes.digits, denotes.value⟩
  rw [decimal, Numeral.withoutZeros]
  split
  · rename_i zeros
    rw [zeros] at read
    cases read
    rw [decimalDigits, if_pos (by decide)]
    rfl
  · rename_i nonempty
    have lead : (text.toList.dropWhile (· = '0')).head? ≠ some '0' := by
      intro zero
      have kept := List.head?_dropWhile_not (fun char : Char => decide (char = '0')) text.toList
      rw [zero] at kept
      simp at kept
    rw [(decimalDigits_of_extend? nonempty lead read).1]

theorem Denotes.withoutZeros {width number : Nat} {text : String}
    (denotes : Denotes width text number) : Denotes width (withoutZeros text) number := by
  have positive : 0 < width := Nat.lt_of_lt_of_le denotes.nonempty denotes.few
  rw [← denotes.decimal_eq, ← readDecimal?_eq_some_iff]
  exact readDecimal?_decimal positive denotes.lt

end RadioGateway.Numeral
