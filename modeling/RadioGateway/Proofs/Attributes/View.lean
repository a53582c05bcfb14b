import Mathlib.Data.Option.Basic
import RadioGateway.Proofs.Checked.Octets

/-!
# Typed views of numbers

There are four typed views of the numbers among attributes. They differ in how many digits they
read, in the largest number that they have, and in how a number gets from the word that it is read
in into the narrower word of a value. What a view reads and writes is shown once for all of them.
-/

namespace RadioGateway.Attributes

open Checked Numeral

theorem number?_eq_some_iff (width bound : Nat) (attributes : Attributes) (name : String)
    (number : Nat) :
    number? width bound attributes name = some number ↔
      ∃ text, attributes.find? name = some text ∧ Denotes width text number ∧ number < bound := by
  simp only [number?, Option.filter_eq_some_iff, Option.bind_eq_some_iff, decide_eq_true_eq,
    readDecimal?_eq_some_iff, ← exists_and_right, and_assoc]

inductive Narrowing where
  | refuse
  | trust

/-- The word of so many bits for a number. Where a number is wrongly taken to fit, its upper bits
would be lost. -/
def Narrowing.word? (bits number : Nat) : Narrowing → Checked (Option Nat)
  | .refuse => .ok ((some number).filter (· < 2 ^ bits))
  | .trust => do
      let word ← fit bits number
      .ok (some word)

/-- A typed view of the numbers among attributes. -/
structure View (α : Type) where
  width : Nat
  maximum : Nat
  bits : Nat
  narrowing : Narrowing := .refuse
  get? : Attributes → String → Option α
  set : Attributes → String → α → Attributes
  /-- The value that is written for a value. -/
  written : α → α := id
  toNat : α → Nat
  ofNat : Nat → α
  get?_eq : ∀ attributes name,
    get? attributes name = (number? width (maximum + 1) attributes name).map ofNat := by
      intros; rfl
  set_eq : ∀ attributes name value,
    set attributes name value = attributes.setNumber name (toNat (written value)) := by
      intros; rfl
  ofNat_toNat : ∀ value, ofNat (toNat value) = value
  toNat_ofNat : ∀ number ≤ maximum, toNat (ofNat number) = number
  written_le : ∀ value, toNat (written value) ≤ maximum
  written_eq : ∀ value, toNat value ≤ maximum → written value = value := by intros; rfl
  width_pos : 0 < width := by decide
  width_lt : width < 20 := by decide
  maximum_lt : maximum < 10 ^ width := by decide
  word?_eq : ∀ number < 10 ^ width,
    narrowing.word? bits number = .ok ((some number).filter (· < maximum + 1)) := by intros; rfl

namespace View

theorem toNat_min (value limit : UInt8) : (min value limit).toNat = min value.toNat limit.toNat :=
  apply_ite UInt8.toNat (value ≤ limit) value limit

/-- Percentages have no more than two digits, and every number of two digits fits a byte. -/
def percentage : View UInt8 where
  width := 2
  maximum := 99
  bits := 8
  narrowing := .trust
  get? := Attributes.percentage?
  set := setPercentage
  written value := min value 99
  toNat := UInt8.toNat
  ofNat := UInt8.ofNat
  set_eq attributes name value := by
    rw [toNat_min]
    rfl
  ofNat_toNat _ := UInt8.ofNat_toNat
  toNat_ofNat number small := UInt8.toNat_ofNat_of_lt' (Nat.lt_of_le_of_lt small (by decide))
  written_le value := by
    rw [toNat_min]
    exact Nat.min_le_right ..
  written_eq value small := by
    rw [← UInt8.toNat_inj, toNat_min]
    exact Nat.min_eq_left small
  word?_eq number small := by
    have fits : number < 2 ^ 8 := Nat.lt_trans small (by decide)
    have filtered : (some number).filter (· < 99 + 1) = some number :=
      if_pos (decide_eq_true small)
    rw [Narrowing.word?, fit, if_pos fits, ok_bind, filtered]

def byte : View UInt8 where
  width := 3
  maximum := 255
  bits := 8
  get? := Attributes.byte?
  set := setByte
  toNat := UInt8.toNat
  ofNat := UInt8.ofNat
  ofNat_toNat _ := UInt8.ofNat_toNat
  toNat_ofNat _ small := UInt8.toNat_ofNat_of_lt' (Nat.lt_succ_of_le small)
  written_le value := Nat.le_of_lt_succ value.toNat_lt

def word : View UInt16 where
  width := 5
  maximum := 65535
  bits := 16
  get? := Attributes.word?
  set := setWord
  toNat := UInt16.toNat
  ofNat := UInt16.ofNat
  ofNat_toNat _ := UInt16.ofNat_toNat
  toNat_ofNat _ small := UInt16.toNat_ofNat_of_lt' (Nat.lt_succ_of_le small)
  written_le value := Nat.le_of_lt_succ value.toNat_lt

def long : View UInt32 where
  width := 10
  maximum := 4294967295
  bits := 32
  get? := Attributes.long?
  set := setLong
  toNat := UInt32.toNat
  ofNat := UInt32.ofNat
  ofNat_toNat _ := UInt32.ofNat_toNat
  toNat_ofNat _ small := UInt32.toNat_ofNat_of_lt' (Nat.lt_succ_of_le small)
  written_le value := Nat.le_of_lt_succ value.toNat_lt

variable {α β : Type} (view : View α) (attributes : Attributes) (name : String)

/-- The number that a machine reads, octet by octet and then into a narrower word. -/
def checkedGet? : Checked (Option Nat) :=
  match attributes.find? name with
  | none => .ok none
  | some text => do
      match ← octetsReadDecimal? view.width text with
      | none => .ok none
      | some number => view.narrowing.word? view.bits number

/-- What a view reads and writes. -/
structure Faithful : Prop where
  reads : ∀ attributes name value, view.get? attributes name = some value ↔
    ∃ text, attributes.find? name = some text ∧ Denotes view.width text (view.toNat value) ∧
      view.toNat value ≤ view.maximum
  /-- A machine reads the same number, and every word is wide enough. -/
  machine : ∀ attributes name,
    view.checkedGet? attributes name = .ok ((view.get? attributes name).map view.toNat)
  returns : ∀ attributes name value,
    view.get? (view.set attributes name value) name = some (view.written value)
  others : ∀ attributes name value other, other ≠ name →
    (view.set attributes name value).find? other = attributes.find? other
  /-- Writing what was read takes leading zeros off the text. -/
  rewrites : ∀ attributes name value text, attributes.find? name = some text →
    view.get? attributes name = some value →
    (view.set attributes name value).find? name = some (withoutZeros text) ∧
      Denotes view.width (withoutZeros text) (view.toNat value)

theorem map_get? : (view.get? attributes name).map view.toNat =
    number? view.width (view.maximum + 1) attributes name := by
  rw [view.get?_eq]
  cases read : number? view.width (view.maximum + 1) attributes name with
  | none => rfl
  | some number =>
      obtain ⟨text, -, -, small⟩ := (number?_eq_some_iff ..).mp read
      rw [Option.map_some, Option.map_some, view.toNat_ofNat number (Nat.le_of_lt_succ small)]

theorem get?_eq_some_iff (value : α) : view.get? attributes name = some value ↔
    ∃ text, attributes.find? name = some text ∧ Denotes view.width text (view.toNat value) ∧
      view.toNat value ≤ view.maximum := by
  have injective : Function.Injective view.toNat :=
    Function.LeftInverse.injective view.ofNat_toNat
  rw [← (Option.map_injective injective).eq_iff, Option.map_some, map_get?, number?_eq_some_iff]
  simp only [Nat.lt_succ_iff]

theorem checkedGet?_eq : view.checkedGet? attributes name =
    .ok ((view.get? attributes name).map view.toNat) := by
  rw [map_get?, checkedGet?, number?]
  cases attributes.find? name with
  | none => rfl
  | some text =>
      dsimp only
      rw [octetsReadDecimal?_eq view.width_lt, ok_bind, Option.bind_some]
      cases read : readDecimal? view.width text with
      | none => rfl
      | some number =>
          exact view.word?_eq number ((readDecimal?_eq_some_iff ..).mp read).lt

theorem find?_set (value : α) (other : String) : (view.set attributes name value).find? other =
    if other = name then some (decimal (view.toNat (view.written value)))
    else attributes.find? other := by
  rw [view.set_eq, setNumber, SortedMap.find?_insert]

theorem get?_set (value : α) :
    view.get? (view.set attributes name value) name = some (view.written value) := by
  have small := view.written_le value
  rw [view.get?_eq, view.set_eq, number?_setNumber attributes name view.width_pos
    (Nat.lt_of_le_of_lt small view.maximum_lt) (Nat.lt_succ_of_le small), Option.map_some,
    view.ofNat_toNat]

theorem find?_set_of_get? {value : α} {text : String} (found : attributes.find? name = some text)
    (read : view.get? attributes name = some value) :
    (view.set attributes name value).find? name = some (withoutZeros text) ∧
      Denotes view.width (withoutZeros text) (view.toNat value) := by
  obtain ⟨same, known, denotes, small⟩ := (view.get?_eq_some_iff ..).mp read
  rw [found] at known
  cases known
  rw [find?_set, if_pos rfl, view.written_eq value small, denotes.decimal_eq]
  exact ⟨rfl, denotes.withoutZeros⟩

theorem faithful : view.Faithful where
  reads := view.get?_eq_some_iff
  machine := view.checkedGet?_eq
  returns := view.get?_set
  others attributes name value other different := by rw [find?_set, if_neg different]
  rewrites attributes name _ _ found read := view.find?_set_of_get? attributes name found read

/-- A wider view reads the numbers of a narrower one. -/
theorem number?_of_narrow {width bound wider further : Nat} (digits : width ≤ wider)
    (larger : bound ≤ further) {number : Nat}
    (read : number? width bound attributes name = some number) :
    number? wider further attributes name = some number := by
  obtain ⟨text, found, denotes, small⟩ := (number?_eq_some_iff ..).mp read
  rw [number?_eq_some_iff]
  exact ⟨text, found, { denotes with few := Nat.le_trans denotes.few digits },
    Nat.lt_of_lt_of_le small larger⟩

/-- The numbers that the views read under a name, from the narrowest view to the widest. -/
def readings : List (Option Nat) :=
  [(attributes.percentage? name).map UInt8.toNat, (attributes.byte? name).map UInt8.toNat,
    (attributes.word? name).map UInt16.toNat, (attributes.long? name).map UInt32.toNat]

theorem pairwise_readings : (readings attributes name).Pairwise fun narrow wide =>
    ∀ number, narrow = some number → wide = some number := by
  have percentages : (attributes.percentage? name).map UInt8.toNat =
    number? 2 100 attributes name := percentage.map_get? attributes name
  have bytes : (attributes.byte? name).map UInt8.toNat =
    number? 3 256 attributes name := byte.map_get? attributes name
  have words : (attributes.word? name).map UInt16.toNat =
    number? 5 65536 attributes name := word.map_get? attributes name
  have longs : (attributes.long? name).map UInt32.toNat =
    number? 10 4294967296 attributes name := long.map_get? attributes name
  have widening : [(2, 100), (3, 256), (5, 65536), (10, 4294967296)].Pairwise
      fun narrow wide : Nat × Nat => narrow.1 ≤ wide.1 ∧ narrow.2 ≤ wide.2 := by decide
  rw [readings, percentages, bytes, words, longs]
  exact List.Pairwise.map (fun limits : Nat × Nat => number? limits.1 limits.2 attributes name)
    (fun _ _ wider _ => number?_of_narrow attributes name wider.1 wider.2) widening

end View

/-- Every view reads what texts of digits denote and writes numbers without leading zeros, and what
one view reads is read by every wider one. -/
theorem views_read_and_write_numbers :
    View.percentage.Faithful ∧ View.byte.Faithful ∧ View.word.Faithful ∧ View.long.Faithful ∧
      ∀ (attributes : Attributes) (name : String), (View.readings attributes name).Pairwise
        fun narrow wide => ∀ number, narrow = some number → wide = some number :=
  ⟨View.percentage.faithful, View.byte.faithful, View.word.faithful, View.long.faithful,
    View.pairwise_readings⟩

/-- Leading zeros count as digits. -/
example :
    (percentage? (.insert .empty "level" "007") "level", byte? (.insert .empty "level" "007") "level")
      = (none, some 7) := by
  decide

end RadioGateway.Attributes
