/-!
# Bytes

Octet strings, and the two- and four-byte big-endian numbers that device commands and telegrams
carry.
-/

namespace RadioGateway

abbrev Byte := UInt8

abbrev Bytes := List Byte

namespace Bytes

/-- The number that a big-endian octet string denotes. -/
def value (bytes : Bytes) : Nat :=
  bytes.foldl (fun total byte => total * 256 + byte.toNat) 0

def word (high low : Byte) : UInt16 := .ofNat (high.toNat * 256 + low.toNat)

def ofWord (number : UInt16) : Bytes :=
  [.ofNat (number.toNat / 256), .ofNat number.toNat]

def long (first second third fourth : Byte) : UInt32 :=
  .ofNat (((first.toNat * 256 + second.toNat) * 256 + third.toNat) * 256 + fourth.toNat)

def ofLong (number : UInt32) : Bytes :=
  [.ofNat (number.toNat / 16777216), .ofNat (number.toNat / 65536),
    .ofNat (number.toNat / 256), .ofNat number.toNat]

theorem toNat_word (high low : Byte) : (word high low).toNat = high.toNat * 256 + low.toNat := by
  have := high.toNat_lt
  have := low.toNat_lt
  rw [word, UInt16.toNat_ofNat']
  omega

theorem toNat_long (first second third fourth : Byte) :
    (long first second third fourth).toNat =
      ((first.toNat * 256 + second.toNat) * 256 + third.toNat) * 256 + fourth.toNat := by
  have := first.toNat_lt
  have := second.toNat_lt
  have := third.toNat_lt
  have := fourth.toNat_lt
  rw [long, UInt32.toNat_ofNat']
  omega

theorem word_ofWord (number : UInt16) :
    word (.ofNat (number.toNat / 256)) (.ofNat number.toNat) = number := by
  have := number.toNat_lt
  apply UInt16.toNat.inj
  rw [toNat_word, UInt8.toNat_ofNat', UInt8.toNat_ofNat']
  omega

theorem ofWord_word (high low : Byte) : ofWord (word high low) = [high, low] := by
  have := high.toNat_lt
  have := low.toNat_lt
  simp only [ofWord, toNat_word, List.cons.injEq, and_true]
  constructor <;> apply UInt8.toNat.inj <;> rw [UInt8.toNat_ofNat'] <;> omega

theorem long_ofLong (number : UInt32) :
    long (.ofNat (number.toNat / 16777216)) (.ofNat (number.toNat / 65536))
      (.ofNat (number.toNat / 256)) (.ofNat number.toNat) = number := by
  have := number.toNat_lt
  apply UInt32.toNat.inj
  rw [toNat_long]
  simp only [UInt8.toNat_ofNat']
  omega

theorem ofLong_long (first second third fourth : Byte) :
    ofLong (long first second third fourth) = [first, second, third, fourth] := by
  have := first.toNat_lt
  have := second.toNat_lt
  have := third.toNat_lt
  have := fourth.toNat_lt
  simp only [ofLong, toNat_long, List.cons.injEq, and_true]
  refine ⟨?_, ?_, ?_, ?_⟩ <;> apply UInt8.toNat.inj <;> rw [UInt8.toNat_ofNat'] <;> omega

end Bytes

end RadioGateway
