/-
The one's-complement checksum: the bytes are read as big-endian 16-bit
words, a last single byte being the high half of a word padded with
zero; the words are added, the carries out of the low sixteen bits are
folded back in until none is left, and the complement is the checksum.

The accumulator is 32 bits wide. A frame body has at most 65539 bytes,
so its words never overflow it.
-/
import FlashLink.Word

namespace FlashLink.OnesSum

/-- `sum` plus the words of a byte list. -/
def addWords (sum : UInt32) : Bytes → UInt32
  | [] => sum
  | [hi] => sum + (Word.ofBytes16 hi 0).toUInt32
  | hi :: lo :: rest => addWords (sum + (Word.ofBytes16 hi lo).toUInt32) rest

/-- The low half of an accumulator plus its carries. -/
def fold (sum : UInt32) : UInt32 := (sum &&& (0xFFFF : UInt32)) + (sum >>> 16)

/-- In numbers, a fold is remainder plus quotient by 2^16: a 32-bit
accumulator cannot overflow in it. -/
theorem toNat_fold (sum : UInt32) :
    (fold sum).toNat = sum.toNat % 65536 + sum.toNat / 65536 := by
  have h := sum.toNat_lt
  simp only [fold, UInt32.toNat_add, UInt32.toNat_and, UInt32.toNat_shiftRight]
  have e1 : (0xFFFF : UInt32).toNat = 2 ^ 16 - 1 := rfl
  have e2 : (16 : UInt32).toNat % 32 = 16 := rfl
  rw [e1, e2, Nat.and_two_pow_sub_one_eq_mod, Nat.shiftRight_eq_div_pow]
  omega

/-- The accumulator with every carry folded into the low half. -/
def foldCarries (sum : UInt32) : UInt16 :=
  if sum.toNat < 65536 then sum.toUInt16 else foldCarries (fold sum)
  termination_by sum.toNat
  decreasing_by rw [toNat_fold]; omega

/-- The checksum of a byte list. -/
def onesSum (bytes : Bytes) : UInt16 := ~~~ foldCarries (addWords 0 bytes)

end FlashLink.OnesSum
