import RadioGateway.EnOcean.Crc8

/-!
# Remainders

A check value is the remainder of a division of polynomials over the field of two elements. So it is
linear in the message, it can be computed bit by bit, and no message whose bits lie close together
is divided without remainder.
-/

namespace RadioGateway.EnOcean.Crc8

/-- What holds of every number below 256 holds of every byte. -/
theorem forall_byte {holds : Byte → Prop} (all : ∀ index : Fin 256, holds (.ofFin index))
    (byte : Byte) : holds byte := all byte.toFin

/-- The bit that is moved out comes back at the three places of the polynomial. -/
theorem shift_eq (remainder : Byte) :
    shift remainder = (remainder <<< 1) ^^^
      ((remainder >>> 7) ^^^ ((remainder >>> 7) <<< 1) ^^^ ((remainder >>> 7) <<< 2)) := by
  revert remainder
  apply forall_byte
  decide +kernel

theorem shift_xor (left right : Byte) : shift (left ^^^ right) = shift left ^^^ shift right := by
  simp only [shift_eq, UInt8.shiftLeft_xor, UInt8.shiftRight_xor]
  ac_rfl

theorem shifts_xor (count : Nat) (left right : Byte) :
    shifts count (left ^^^ right) = shifts count left ^^^ shifts count right := by
  induction count generalizing left right with
  | zero => rfl
  | succ count ih => rw [shifts, shift_xor, ih, shifts, shifts]

theorem shift_eq_zero_iff (remainder : Byte) : shift remainder = 0 ↔ remainder = 0 := by
  revert remainder
  apply forall_byte
  decide +kernel

theorem shifts_eq_zero_iff (count : Nat) (remainder : Byte) :
    shifts count remainder = 0 ↔ remainder = 0 := by
  induction count generalizing remainder with
  | zero => rfl
  | succ count ih => rw [shifts, ih, shift_eq_zero_iff]

/-- Two messages of one length are divided together. -/
theorem foldl_addByte_xor (remainder other : Byte) {left right : Bytes}
    (same : left.length = right.length) :
    (List.zipWith (· ^^^ ·) left right).foldl addByte (remainder ^^^ other) =
      left.foldl addByte remainder ^^^ right.foldl addByte other := by
  induction left generalizing remainder other right with
  | nil =>
      cases right with
      | nil => rfl
      | cons byte rest => cases same
  | cons first left ih =>
      cases right with
      | nil => cases same
      | cons second right =>
          have step : addByte (remainder ^^^ other) (first ^^^ second) =
              addByte remainder first ^^^ addByte other second := by
            rw [addByte_eq, addByte_eq, addByte_eq, ← shifts_xor]
            congr 1
            ac_rfl
          rw [List.zipWith_cons_cons, List.foldl_cons, step, ih _ _ (Nat.succ.inj same),
            List.foldl_cons, List.foldl_cons]

/-- The check value is linear in the message. -/
theorem checksum_xor {left right : Bytes} (same : left.length = right.length) :
    checksum (List.zipWith (· ^^^ ·) left right) = checksum left ^^^ checksum right :=
  foldl_addByte_xor 0 0 same

/-- A message is divided without remainder together with its check value, and with no other byte. -/
theorem checksum_concat_eq_zero_iff (message : Bytes) (last : Byte) :
    checksum (message ++ [last]) = 0 ↔ checksum message = last := by
  rw [checksum, List.foldl_append, List.foldl_cons, List.foldl_nil, addByte_eq,
    shifts_eq_zero_iff, UInt8.xor_eq_zero_iff, checksum]

theorem addBit_eq (remainder : Byte) (bit : Bool) :
    addBit remainder bit = shift remainder ^^^ addBit 0 bit := by
  rw [addBit, addBit, shift_xor, UInt8.zero_xor]

/-- A remainder and further bits are divided apart from each other. -/
theorem foldl_addBit (remainder : Byte) (bits : List Bool) :
    bits.foldl addBit remainder = shifts bits.length remainder ^^^ bits.foldl addBit 0 := by
  induction bits generalizing remainder with
  | nil => exact UInt8.xor_zero.symm
  | cons bit bits ih =>
      rw [List.foldl_cons, ih, addBit_eq, shifts_xor, List.length_cons, shifts, List.foldl_cons,
        ih (addBit 0 bit), UInt8.xor_assoc]

theorem length_bits (byte : Byte) : (bits byte).length = 8 := by
  rw [bits, List.length_map, List.length_range]

theorem foldl_bits (remainder byte : Byte) :
    (bits byte).foldl addBit remainder = addByte remainder byte := by
  have alone : (bits byte).foldl addBit 0 = shifts 8 byte := by
    revert byte
    apply forall_byte
    decide +kernel
  rw [foldl_addBit, alone, length_bits, addByte_eq, shifts_xor]

/-- The check value is the remainder of long division. -/
theorem checksum_eq_bitwise (message : Bytes) : checksum message = bitwise message := by
  rw [checksum, bitwise, List.foldl_flatMap]
  simp only [foldl_bits]

/-- Whether all bits that are set lie within eight places. -/
def Confined (bits : List Bool) : Prop :=
  ∃ first, ∀ place, bits[place]? = some true → first ≤ place ∧ place < first + 8

theorem Confined.part {front middle back : List Bool}
    (confined : Confined (front ++ middle ++ back)) : Confined middle := by
  obtain ⟨first, within⟩ := confined
  refine ⟨first - front.length, fun place set => ?_⟩
  obtain ⟨bound, _⟩ := List.getElem?_eq_some_iff.mp set
  have there : (front ++ middle ++ back)[front.length + place]? = some true := by
    rw [List.append_assoc, List.getElem?_append_right (Nat.le_add_right _ _),
      Nat.add_sub_cancel_left, List.getElem?_append_left bound]
    exact set
  have bounds := within _ there
  omega

/-- At most eight bits between others that are not set lie close together. -/
theorem Confined.of_few {front middle back : List Bool} (before : true ∉ front)
    (behind : true ∉ back) (few : middle.length ≤ 8) : Confined (front ++ middle ++ back) := by
  refine ⟨front.length, fun place set => ?_⟩
  rw [List.append_assoc, List.getElem?_append, List.getElem?_append] at set
  split at set
  · exact absurd (List.mem_of_getElem? set) before
  · split at set
    · omega
    · exact absurd (List.mem_of_getElem? set) behind

/-- Bits that are not set multiply the remainder by x. -/
theorem foldl_unset {bits : List Bool} (unset : true ∉ bits) (remainder : Byte) :
    bits.foldl addBit remainder = shifts bits.length remainder := by
  induction bits generalizing remainder with
  | nil => rfl
  | cons bit bits ih =>
      rw [List.mem_cons, not_or] at unset
      have clear : bit = false := Bool.eq_false_iff.mpr (Ne.symm unset.1)
      rw [List.foldl_cons, ih unset.2, clear, addBit, List.length_cons, shifts]
      exact congrArg (fun same => shifts bits.length (shift same)) UInt8.xor_zero

theorem foldl_eight {bits : List Bool} (eight : bits.length = 8)
    (divides : bits.foldl addBit 0 = 0) : true ∉ bits := by
  have all : ∀ a b c d e f g h : Bool,
      [a, b, c, d, e, f, g, h].foldl addBit 0 = 0 → true ∉ [a, b, c, d, e, f, g, h] := by
    decide +kernel
  match bits, eight with
  | [a, b, c, d, e, f, g, h], _ => exact all a b c d e f g h divides

/-- At most eight bits, one of which is set, leave a remainder: bits that are not set fill them
up. -/
theorem foldl_few {bits : List Bool} (few : bits.length ≤ 8) (divides : bits.foldl addBit 0 = 0) :
    true ∉ bits := by
  let fill : List Bool := .replicate (8 - bits.length) false
  have eight : (bits ++ fill).length = 8 := by
    rw [List.length_append, List.length_replicate]
    omega
  have unset : true ∉ fill := by
    intro set
    cases (List.mem_replicate.mp set).2
  have filled : (bits ++ fill).foldl addBit 0 = 0 := by
    rw [List.foldl_append, divides, foldl_unset unset, shifts_eq_zero_iff]
  exact fun set => foldl_eight eight filled (List.mem_append_left _ set)

theorem foldl_confined {bits : List Bool} (confined : Confined bits)
    (divides : bits.foldl addBit 0 = 0) : true ∉ bits := by
  obtain ⟨first, within⟩ := confined
  have before : true ∉ bits.take first := by
    intro set
    obtain ⟨place, set⟩ := List.mem_iff_getElem?.mp set
    rw [List.getElem?_take] at set
    split at set
    · have bounds := within place set
      omega
    · cases set
  have behind : true ∉ (bits.drop first).drop 8 := by
    intro set
    obtain ⟨place, set⟩ := List.mem_iff_getElem?.mp set
    rw [List.getElem?_drop, List.getElem?_drop] at set
    have bounds := within _ set
    omega
  have split : bits =
      bits.take first ++ ((bits.drop first).take 8 ++ (bits.drop first).drop 8) := by
    rw [List.take_append_drop, List.take_append_drop]
  -- What stands before the bits leaves the remainder at zero, what stands behind keeps it from it.
  rw [split, List.foldl_append, foldl_unset before, (shifts_eq_zero_iff _ _).mpr rfl,
    List.foldl_append, foldl_unset behind, shifts_eq_zero_iff] at divides
  have inside := foldl_few (List.length_take_le 8 _) divides
  rw [split, List.mem_append, List.mem_append]
  rintro (set | set | set)
  · exact before set
  · exact inside set
  · exact behind set

end RadioGateway.EnOcean.Crc8
