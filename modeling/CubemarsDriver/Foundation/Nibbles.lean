import Mathlib.Data.Nat.Bitwise
import Mathlib.Tactic.NormNum

/-! # Bytes and nibbles of machine words

The shifts, masks and disjunctions of bit packing as arithmetic on the numbers
the words stand for.  A disjunction is a sum where the shifted operand leaves
room for the other one.
-/

namespace Foundation

theorem toNat_shiftLeft_or {width : Nat} (high low : BitVec width) (count : Nat)
    (room : high.toNat * 2 ^ count < 2 ^ width) (fits : low.toNat < 2 ^ count) :
    (high <<< count ||| low).toNat = high.toNat * 2 ^ count + low.toNat := by
  rw [BitVec.toNat_or, BitVec.toNat_shiftLeft, Nat.shiftLeft_eq, Nat.mod_eq_of_lt room,
    ← Nat.shiftLeft_eq, ← Nat.shiftLeft_add_eq_or_of_lt fits]

theorem toNat_and_mask {width : Nat} (word : BitVec width) (count : Nat) (narrow : count ≤ width) :
    (word &&& BitVec.ofNat width (2 ^ count - 1)).toNat = word.toNat % 2 ^ count := by
  have mask : (2 ^ count - 1) % 2 ^ width = 2 ^ count - 1 := by
    apply Nat.mod_eq_of_lt
    exact Nat.lt_of_lt_of_le (Nat.sub_lt (Nat.two_pow_pos count) (by decide))
      (Nat.pow_le_pow_right (by decide) narrow)
  rw [BitVec.toNat_and, BitVec.toNat_ofNat, mask, Nat.and_two_pow_sub_one_eq_mod]

theorem toNat_shiftRight {width : Nat} (word : BitVec width) (count : Nat) :
    (word >>> count).toNat = word.toNat / 2 ^ count := by
  rw [BitVec.toNat_ushiftRight, Nat.shiftRight_eq_div_pow]

section Packing

variable (word next : BitVec 16)

theorem toNat_highByte : ((word >>> 8).setWidth 8).toNat = word.toNat / 256 := by
  have bound := word.isLt
  rw [BitVec.toNat_setWidth, toNat_shiftRight]
  omega

theorem toNat_lowByte : ((word &&& 0xFF#16).setWidth 8).toNat = word.toNat % 256 := by
  have masked : (word &&& 0xFF#16).toNat = word.toNat % 256 := toNat_and_mask word 8 (by decide)
  rw [BitVec.toNat_setWidth, masked]
  omega

/-- The upper eight bits of a twelve-bit field. -/
theorem toNat_upperEight (twelve : word.toNat < 4096) :
    ((word >>> 4).setWidth 8).toNat = word.toNat / 16 := by
  rw [BitVec.toNat_setWidth, toNat_shiftRight]
  omega

/-- The lower nibble of one field and the upper nibble of a twelve-bit field share a byte. -/
theorem toNat_sharedByte (twelve : next.toNat < 4096) :
    ((((word &&& 0xF#16) <<< 4) ||| (next >>> 8)).setWidth 8).toNat =
      word.toNat % 16 * 16 + next.toNat / 256 := by
  have masked : (word &&& 0xF#16).toNat = word.toNat % 16 := toNat_and_mask word 4 (by decide)
  have shifted : (next >>> 8).toNat = next.toNat / 256 := toNat_shiftRight next 8
  rw [BitVec.toNat_setWidth,
    toNat_shiftLeft_or _ _ 4 (by rw [masked]; omega) (by rw [shifted]; omega), masked, shifted]
  omega

end Packing

section Unpacking

variable (high low : BitVec 8)

theorem toNat_joinBytes :
    ((high.setWidth 16 <<< 8) ||| low.setWidth 16).toNat = high.toNat * 256 + low.toNat := by
  have highBound := high.isLt
  have lowBound := low.isLt
  have highWide : (high.setWidth 16).toNat = high.toNat := by rw [BitVec.toNat_setWidth]; omega
  have lowWide : (low.setWidth 16).toNat = low.toNat := by rw [BitVec.toNat_setWidth]; omega
  rw [toNat_shiftLeft_or _ _ 8 (by rw [highWide]; omega) (by rw [lowWide]; omega), highWide, lowWide]
  rfl

theorem toNat_joinUpperNibble :
    ((high.setWidth 16 <<< 4) ||| (low >>> 4).setWidth 16).toNat =
      high.toNat * 16 + low.toNat / 16 := by
  have highBound := high.isLt
  have lowBound := low.isLt
  have highWide : (high.setWidth 16).toNat = high.toNat := by rw [BitVec.toNat_setWidth]; omega
  have nibble : ((low >>> 4).setWidth 16).toNat = low.toNat / 16 := by
    rw [BitVec.toNat_setWidth, toNat_shiftRight]
    omega
  rw [toNat_shiftLeft_or _ _ 4 (by rw [highWide]; omega) (by rw [nibble]; omega), highWide, nibble]
  rfl

theorem toNat_joinLowerNibble :
    (((high &&& 0xF#8).setWidth 16 <<< 8) ||| low.setWidth 16).toNat =
      high.toNat % 16 * 256 + low.toNat := by
  have lowBound := low.isLt
  have masked : (high &&& 0xF#8).toNat = high.toNat % 16 := toNat_and_mask high 4 (by decide)
  have nibble : ((high &&& 0xF#8).setWidth 16).toNat = high.toNat % 16 := by
    rw [BitVec.toNat_setWidth, masked]
    omega
  have lowWide : (low.setWidth 16).toNat = low.toNat := by rw [BitVec.toNat_setWidth]; omega
  rw [toNat_shiftLeft_or _ _ 8 (by rw [nibble]; omega) (by rw [lowWide]; omega), nibble, lowWide]
  rfl

end Unpacking

end Foundation
