import Mathlib.Data.Nat.Bitwise
import RadioGateway.Bytes

/-!
# Programs that check what they do

On a machine, a program looks up elements by their place, cuts pieces out of buffers and computes
with words of limited width. Where there is no such element or no such piece, or where a number is
too large for its word, it stops. A program that can stop is written here with all its checks. To
show that it never does is to show that it gives what the same program without checks gives.
-/

namespace RadioGateway

/-- Why a program stops. -/
inductive Panic where
  | place (place length : Nat)
  | piece (start stop length : Nat)
  | overflow
  deriving DecidableEq, Repr

/-- What a program gives that may stop instead. -/
abbrev Checked (α : Type) := Except Panic α

namespace Checked

variable {α β σ : Type}

@[simp]
theorem ok_bind (value : α) (rest : α → Checked β) :
    ((.ok value : Checked α) >>= rest) = rest value := rfl

def get (list : List α) (place : Nat) : Checked α :=
  match list[place]? with
  | some element => .ok element
  | none => .error (.place place list.length)

def slice (list : List α) (start stop : Nat) : Checked (List α) :=
  if start ≤ stop ∧ stop ≤ list.length then .ok ((list.take stop).drop start)
  else .error (.piece start stop list.length)

theorem get_eq {list : List α} {place : Nat} {element : α} (found : list[place]? = some element) :
    get list place = .ok element := by
  rw [get, found]

theorem get_append (front : List α) (element : α) (behind : List α) {place : Nat}
    (before : front.length = place) : get (front ++ element :: behind) place = .ok element :=
  get_eq (by simp [← before])

theorem slice_eq {list : List α} {start stop : Nat} (ordered : start ≤ stop)
    (within : stop ≤ list.length) : slice list start stop = .ok ((list.take stop).drop start) :=
  if_pos ⟨ordered, within⟩

/-- A piece that is all there between what stands before and behind it. -/
theorem slice_append (front piece behind : List α) {start stop : Nat}
    (before : front.length = start) (whole : front.length + piece.length = stop) :
    slice (front ++ piece ++ behind) start stop = .ok piece := by
  have stops : (front ++ piece).length = stop := by rw [List.length_append, whole]
  rw [slice_eq (by omega) (by rw [List.length_append]; omega), List.take_left' stops,
    List.drop_left' before]

example : slice [1, 2] 1 3 = .error (.piece 1 3 2) := rfl

/-- A number in a word of so many bits. -/
def fit (bits number : Nat) : Checked Nat :=
  if number < 2 ^ bits then .ok number else .error .overflow

def add (bits left right : Nat) : Checked Nat := fit bits (left + right)

def multiply (bits left right : Nat) : Checked Nat := fit bits (left * right)

/-- There are no words for negative numbers. -/
def subtract (left right : Nat) : Checked Nat :=
  if right ≤ left then .ok (left - right) else .error .overflow

/-- Signed words reach as far below zero as they do not above. -/
def negate (bits : Nat) (number : Int) : Checked Int :=
  if -number < 2 ^ (bits - 1) then .ok (-number) else .error .overflow

def bit (place : Nat) : Checked Byte :=
  if place < 8 then .ok (.ofNat (2 ^ place)) else .error .overflow

def shiftRight (byte : Byte) (count : Nat) : Checked Byte :=
  if count < 8 then .ok (byte >>> .ofNat count) else .error .overflow

theorem add_eq {bits left right : Nat} (fits : left + right < 2 ^ bits) :
    add bits left right = .ok (left + right) :=
  if_pos fits

theorem multiply_eq {bits left right : Nat} (fits : left * right < 2 ^ bits) :
    multiply bits left right = .ok (left * right) :=
  if_pos fits

theorem subtract_eq {left right : Nat} (less : right ≤ left) :
    subtract left right = .ok (left - right) :=
  if_pos less

theorem negate_eq {bits : Nat} {number : Int} (fits : -number < 2 ^ (bits - 1)) :
    negate bits number = .ok (-number) :=
  if_pos fits

theorem bit_eq {place : Nat} (inside : place < 8) : bit place = .ok (.ofNat (2 ^ place)) :=
  if_pos inside

theorem mapM_eq {step : α → Checked β} {plain : α → β} {list : List α}
    (agrees : ∀ element ∈ list, step element = .ok (plain element)) :
    list.mapM step = .ok (list.map plain) := by
  induction list with
  | nil => rfl
  | cons element rest ih =>
      rw [List.forall_mem_cons] at agrees
      rw [List.mapM_cons, agrees.1, ih agrees.2]
      rfl

/-- A loop does not stop if no round does, provided that every round keeps what the next one needs.
-/
theorem foldlM_eq (Holds : σ → Prop) {step : σ → α → Checked σ} {plain : σ → α → σ}
    (round : ∀ state element, Holds state →
      step state element = .ok (plain state element) ∧ Holds (plain state element))
    {state : σ} (holds : Holds state) (list : List α) :
    list.foldlM step state = .ok (list.foldl plain state) ∧ Holds (list.foldl plain state) := by
  induction list generalizing state with
  | nil => exact ⟨rfl, holds⟩
  | cons element rest ih =>
      obtain ⟨agrees, kept⟩ := round state element holds
      rw [List.foldlM_cons, agrees]
      exact ih kept

end Checked

end RadioGateway
