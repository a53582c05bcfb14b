import Mathlib.Algebra.Field.ZMod
import Mathlib.Algebra.Polynomial.Div
import Mathlib.Tactic.ComputeDegree
import Mathlib.Tactic.LinearCombination
import RadioGateway.Proofs.EnOcean.Remainder

/-!
# Check values as remainders of polynomials

A message spells a polynomial over the field of two elements, its first bit being the highest
coefficient. The check value spells the remainder that is left when this polynomial, eight places
further up, is divided by the generator.
-/

namespace RadioGateway.EnOcean.Crc8

open Polynomial

noncomputable def coefficient (bit : Bool) : (ZMod 2)[X] := if bit then 1 else 0

/-- The polynomial with the given coefficients, the highest first. -/
noncomputable def ofBits (bits : List Bool) : (ZMod 2)[X] :=
  bits.foldl (fun sum bit => sum * X + coefficient bit) 0

noncomputable def ofByte (byte : Byte) : (ZMod 2)[X] := ofBits (bits byte)

noncomputable def ofBytes (message : Bytes) : (ZMod 2)[X] := ofBits (message.flatMap bits)

noncomputable def generator : (ZMod 2)[X] := X ^ 8 + X ^ 2 + X + 1

theorem coefficient_false : coefficient false = 0 := rfl

theorem coefficient_xor (left right : Bool) :
    coefficient (left ^^ right) = coefficient left + coefficient right := by
  have two : (1 : (ZMod 2)[X]) + 1 = 0 := CharTwo.add_self_eq_zero 1
  cases left <;> cases right <;> simp [coefficient, two]

theorem ofBits_concat (front : List Bool) (bit : Bool) :
    ofBits (front ++ [bit]) = ofBits front * X + coefficient bit := by
  rw [ofBits, List.foldl_append, List.foldl_cons, List.foldl_nil, ofBits]

theorem ofBits_append (front back : List Bool) :
    ofBits (front ++ back) = ofBits front * X ^ back.length + ofBits back := by
  induction back using List.reverseRecOn with
  | nil => simp [ofBits]
  | append_singleton back bit ih =>
      rw [← List.append_assoc, ofBits_concat, ih, ofBits_concat, List.length_append,
        List.length_singleton]
      ring

theorem ofBits_cons (bit : Bool) (rest : List Bool) :
    ofBits (bit :: rest) = coefficient bit * X ^ rest.length + ofBits rest := by
  have single : ofBits [bit] = coefficient bit := by simp [ofBits]
  rw [← List.singleton_append, ofBits_append, single]

theorem coeff_ofBits (bits : List Bool) (place : Nat) :
    (ofBits bits).coeff place = if bits.reverse[place]? = some true then 1 else 0 := by
  induction bits using List.reverseRecOn generalizing place with
  | nil => simp [ofBits]
  | append_singleton front bit ih =>
      rw [ofBits_concat, coeff_add, List.reverse_append, List.reverse_singleton,
        List.singleton_append]
      cases place with
      | zero => cases bit <;> simp [coefficient]
      | succ place =>
          rw [coeff_mul_X, ih, List.getElem?_cons_succ]
          cases bit <;> simp [coefficient, coeff_one]

theorem degree_ofBits_lt (bits : List Bool) : (ofBits bits).degree < bits.length := by
  rw [degree_lt_iff_coeff_zero]
  intro place beyond
  have nothing : bits.reverse[place]? = none :=
    List.getElem?_eq_none (by rw [List.length_reverse]; exact beyond)
  rw [coeff_ofBits, nothing]
  rfl

/-- Bits of one number are the coefficients of one polynomial. -/
theorem ofBits_inj {left right : List Bool} (same : left.length = right.length)
    (equal : ofBits left = ofBits right) : left = right := by
  apply List.reverse_injective
  apply List.ext_getElem
  · rw [List.length_reverse, List.length_reverse, same]
  · intro place before behind
    have coefficients := congrArg (coeff · place) equal
    simp only [coeff_ofBits, List.getElem?_eq_getElem before, List.getElem?_eq_getElem behind,
      Option.some_inj] at coefficients
    cases first : left.reverse[place] <;> cases second : right.reverse[place] <;>
      simp_all

theorem ofNat_bits (byte : Byte) :
    UInt8.ofNat ((bits byte).foldl (fun number bit => 2 * number + bit.toNat) 0) = byte := by
  revert byte
  apply forall_byte
  decide +kernel

theorem ofByte_inj {left right : Byte} (equal : ofByte left = ofByte right) : left = right := by
  have same : bits left = bits right := ofBits_inj (by rw [length_bits, length_bits]) equal
  rw [← ofNat_bits left, same, ofNat_bits]

theorem degree_ofByte_lt (byte : Byte) : (ofByte byte).degree < 8 := by
  have small := degree_ofBits_lt (bits byte)
  rw [length_bits] at small
  exact small

theorem ofByte_zero : ofByte 0 = 0 := by
  have clear : bits 0 = .replicate 8 false := by decide
  simp [ofByte, clear, ofBits, coefficient]

theorem ofBits_xor {left right : List Bool} (same : left.length = right.length) :
    ofBits (List.zipWith (· ^^ ·) left right) = ofBits left + ofBits right := by
  induction left generalizing right with
  | nil =>
      cases right with
      | nil => simp [ofBits]
      | cons bit rest => cases same
  | cons first left ih =>
      cases right with
      | nil => cases same
      | cons second right =>
          have length : left.length = right.length := Nat.succ.inj same
          rw [List.zipWith_cons_cons, ofBits_cons, ofBits_cons, ofBits_cons, ih length,
            List.length_zipWith, length, Nat.min_self, coefficient_xor]
          ring

/-- Bits that are masked by one bit are multiplied by it. -/
theorem ofBits_mask (mask : Bool) (bits : List Bool) :
    ofBits (bits.map (mask && ·)) = coefficient mask * ofBits bits := by
  induction bits with
  | nil => simp [ofBits]
  | cons bit rest ih =>
      rw [List.map_cons, ofBits_cons, ih, ofBits_cons, List.length_map]
      cases mask <;> simp [coefficient]

/-! ## Division -/

theorem monic_generator : generator.Monic := by
  unfold generator
  monicity!

theorem degree_generator : generator.degree = 8 := by
  unfold generator
  compute_degree!

theorem ofBits_polynomial : ofBits (bits polynomial) = X ^ 2 + X + 1 := by
  have spelled : bits polynomial = [false, false, false, false, false, true, true, true] := by
    decide
  rw [spelled]
  simp [ofBits, coefficient]
  ring

/-- The bits move up by one place, and the polynomial is added if the bit that is moved out differs
from the one that comes in. -/
theorem bits_addBit (remainder : Byte) (bit : Bool) :
    bits (addBit remainder bit) = List.zipWith (· ^^ ·) ((bits remainder).tail ++ [false])
      ((bits polynomial).map (((bits remainder).headD false ^^ bit) && ·)) := by
  revert remainder
  apply forall_byte
  cases bit <;> decide +kernel

/-- To take in a bit is to multiply by X and to add the bit eight places up. -/
theorem dvd_addBit (remainder : Byte) (bit : Bool) :
    generator ∣ ofByte (addBit remainder bit) -
      (ofByte remainder * X + coefficient bit * X ^ 8) := by
  have length := length_bits remainder
  rw [ofByte, ofByte, bits_addBit]
  cases split : bits remainder with
  | nil => simp [split] at length
  | cons lead rest =>
      have seven : rest.length = 7 := by
        rw [split] at length
        exact Nat.succ.inj length
      have two : (2 : (ZMod 2)[X]) = 0 := CharTwo.two_eq_zero
      -- The generator fits once if the bit that moves out and the one that comes in differ.
      refine ⟨coefficient lead + coefficient bit, ?_⟩
      rw [List.tail_cons, List.headD_cons, ofBits_xor (by simp [seven, length_bits]),
        ofBits_concat, coefficient_false, ofBits_mask, ofBits_polynomial, coefficient_xor,
        ofBits_cons, seven, generator]
      linear_combination (-(coefficient lead + coefficient bit) * X ^ 8) * two

theorem dvd_foldl_addBit (remainder : Byte) (message : List Bool) :
    generator ∣ ofByte (message.foldl addBit remainder) -
      (ofByte remainder * X ^ message.length + ofBits message * X ^ 8) := by
  induction message generalizing remainder with
  | nil => simp [ofBits]
  | cons bit rest ih =>
      have first := (dvd_addBit remainder bit).mul_right (X ^ rest.length)
      have both := dvd_add (ih (addBit remainder bit)) first
      rw [List.foldl_cons, ofBits_cons, List.length_cons]
      convert both using 1
      ring

/-- The check value spells the remainder. -/
theorem ofByte_checksum (message : Bytes) :
    ofByte (checksum message) = ofBytes message * X ^ 8 %ₘ generator := by
  have divides := dvd_foldl_addBit 0 (message.flatMap bits)
  rw [ofByte_zero, zero_mul, zero_add] at divides
  have reduced : ofByte (checksum message) %ₘ generator = ofByte (checksum message) := by
    rw [modByMonic_eq_self_iff monic_generator, degree_generator]
    exact degree_ofByte_lt _
  rw [← reduced, checksum_eq_bitwise]
  exact modByMonic_eq_of_dvd_sub monic_generator divides

theorem shifts_inj {count : Nat} {left right : Byte} (same : shifts count left = shifts count right) :
    left = right := by
  rw [← UInt8.xor_eq_zero_iff, ← shifts_xor, shifts_eq_zero_iff] at same
  exact UInt8.xor_eq_zero_iff.mp same

theorem addByte_eq_addByte_iff {left right byte other : Byte} :
    addByte left byte = addByte right other ↔ left ^^^ byte = right ^^^ other := by
  rw [addByte_eq, addByte_eq]
  exact ⟨shifts_inj, congrArg (shifts 8)⟩

/-- Different remainders stay different, whatever message follows. -/
theorem foldl_addByte_inj {left right : Byte} {message : Bytes}
    (same : message.foldl addByte left = message.foldl addByte right) : left = right := by
  induction message generalizing left right with
  | nil => exact same
  | cons byte rest ih =>
      rw [List.foldl_cons, List.foldl_cons] at same
      exact (UInt8.xor_left_inj byte).mp (addByte_eq_addByte_iff.mp (ih same))

/-- No two messages that differ in one byte have the same check value. -/
theorem checksum_change {front back : Bytes} {byte other : Byte} (changed : other ≠ byte) :
    checksum (front ++ other :: back) ≠ checksum (front ++ byte :: back) := by
  intro same
  simp only [checksum, List.foldl_append, List.foldl_cons] at same
  have added := addByte_eq_addByte_iff.mp (foldl_addByte_inj same)
  exact changed ((UInt8.xor_right_inj _).mp added)

/-- The check value, which is computed byte by byte from a table, is that of the division bit by bit:
the one byte that spells the remainder of the message, eight places further up, by
x⁸ + x² + x + 1. So it is linear in the message, a message is divided without remainder together with
its check value and with no other byte, and every change of a single byte changes it. -/
theorem check_value_is_remainder :
    (∀ message, checksum message = bitwise message) ∧
    (∀ message value, checksum message = value ↔
      ofByte value = ofBytes message * X ^ 8 %ₘ (X ^ 8 + X ^ 2 + X + 1)) ∧
    (∀ left right : Bytes, left.length = right.length →
      checksum (List.zipWith (· ^^^ ·) left right) = checksum left ^^^ checksum right) ∧
    (∀ message last, checksum (message ++ [last]) = 0 ↔ last = checksum message) ∧
    ∀ front back byte other, other ≠ byte →
      checksum (front ++ other :: back) ≠ checksum (front ++ byte :: back) := by
  refine ⟨checksum_eq_bitwise, fun message value => ⟨?_, fun spelled => ?_⟩,
    fun left right same => checksum_xor same, fun message last => ?_,
    fun front back byte other changed => checksum_change changed⟩
  · rintro rfl
    exact ofByte_checksum message
  · exact ofByte_inj ((ofByte_checksum message).trans spelled.symm)
  · rw [checksum_concat_eq_zero_iff, eq_comm]

/-- The header of a question for the first sender address, and one for a command of another kind. -/
theorem check_value_of_header :
    let header : Bytes := [0x00, 0x01, 0x00, 0x05]
    let other : Bytes := [0x00, 0x01, 0x00, 0x06]
    bitwise header = 0x70 ∧ checksum header = 0x70 ∧
      ofByte 0x70 = ofBytes header * X ^ 8 %ₘ (X ^ 8 + X ^ 2 + X + 1) ∧
      checksum (header ++ [0x70]) = 0 ∧
      (header.length = other.length ∧
        checksum (List.zipWith (· ^^^ ·) header other) = checksum header ^^^ checksum other) ∧
      ((0x06 : Byte) ≠ 0x05 ∧ checksum other ≠ checksum header) := by
  intro header other
  have divided : bitwise header = 0x70 := by decide +kernel
  have different : (0x06 : Byte) ≠ 0x05 := by decide
  obtain ⟨serial, spelled, linear, appended, changed⟩ := check_value_is_remainder
  have value : checksum header = 0x70 := (serial header).trans divided
  exact ⟨divided, value, (spelled header 0x70).mp value,
    (appended header 0x70).mpr value.symm, ⟨rfl, linear header other rfl⟩,
    different, changed [0x00, 0x01, 0x00] [] 0x05 0x06 different⟩

end RadioGateway.EnOcean.Crc8
