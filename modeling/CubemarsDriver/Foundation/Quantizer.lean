import Mathlib.Algebra.Order.Floor.Ring
import Mathlib.Algebra.Order.Field.Basic
import Mathlib.Tactic.Linarith
import Mathlib.Tactic.FieldSimp
import Mathlib.Tactic.Ring

/-! # Uniform quantisation of a range

A quantiser cuts the range `[lo, hi]` into equal cells and sends a value to the
index of its cell; a dequantiser spreads the indices over the range in equal
steps.  The error bounds are exact and depend only on how many cells and steps
the two halves use.
-/

namespace Foundation.Quantizer

variable {K : Type*} [Field K] [LinearOrder K] [IsStrictOrderedRing K] [FloorRing K]
variable {lo hi x : K} {cells steps : Nat}

/-- The index of the cell of `x` when `[lo, hi]` is cut into `cells` cells. -/
def level (cells : Nat) (lo hi x : K) : Nat := ⌊(x - lo) / (hi - lo) * cells⌋₊

/-- The value of a level when `[lo, hi]` is spanned by `steps` steps. -/
def levelValue (steps : Nat) (lo hi : K) (index : Nat) : K := index * (hi - lo) / steps + lo

def stepSize (steps : Nat) (lo hi : K) : K := (hi - lo) / steps

omit [FloorRing K] in
theorem fraction_nonneg (range : lo < hi) (above : lo ≤ x) : 0 ≤ (x - lo) / (hi - lo) :=
  div_nonneg (sub_nonneg.mpr above) (sub_pos.mpr range).le

omit [FloorRing K] in
theorem fraction_le_one (range : lo < hi) (below : x ≤ hi) : (x - lo) / (hi - lo) ≤ 1 := by
  rw [div_le_one (sub_pos.mpr range)]
  exact sub_le_sub_right below lo

omit [FloorRing K] in
theorem fraction_lt_one (range : lo < hi) (below : x < hi) : (x - lo) / (hi - lo) < 1 := by
  rw [div_lt_one (sub_pos.mpr range)]
  exact sub_lt_sub_right below lo

theorem level_le (range : lo < hi) (below : x ≤ hi) : level cells lo hi x ≤ cells := by
  apply Nat.floor_le_of_le
  exact mul_le_of_le_one_left (Nat.cast_nonneg cells) (fraction_le_one range below)

theorem level_lt (range : lo < hi) (above : lo ≤ x) (below : x < hi) (some : 0 < cells) :
    level cells lo hi x < cells := by
  have positive : (0 : K) < cells := Nat.cast_pos.mpr some
  rw [level, Nat.floor_lt (mul_nonneg (fraction_nonneg range above) positive.le)]
  exact mul_lt_of_lt_one_left positive (fraction_lt_one range below)

/-- The upper end of the range falls past the last cell. -/
theorem level_top (range : lo < hi) : level cells lo hi hi = cells := by
  rw [level, div_self (sub_pos.mpr range).ne', one_mul, Nat.floor_natCast]

theorem level_lt_iff (range : lo < hi) (above : lo ≤ x) (below : x ≤ hi) (some : 0 < cells) :
    level cells lo hi x < cells ↔ x < hi := by
  constructor
  · intro inside
    rcases below.lt_or_eq with less | rfl
    · exact less
    · exact absurd (level_top range) inside.ne
  · intro less
    exact level_lt range above less some

omit [LinearOrder K] [IsStrictOrderedRing K] [FloorRing K] in
/-- A value is its fraction of the range. -/
theorem eq_fraction (range : hi - lo ≠ 0) : x = (x - lo) / (hi - lo) * (hi - lo) + lo := by
  rw [div_mul_cancel₀ _ range, sub_add_cancel]

theorem level_fraction_le (range : lo < hi) (above : lo ≤ x) :
    (level cells lo hi x : K) ≤ (x - lo) / (hi - lo) * cells :=
  Nat.floor_le (mul_nonneg (fraction_nonneg range above) (Nat.cast_nonneg cells))

omit [IsStrictOrderedRing K] in
theorem fraction_lt_level_succ : (x - lo) / (hi - lo) * cells < (level cells lo hi x : K) + 1 :=
  Nat.lt_floor_add_one _

/-- The levels up to that of a value are those whose values it has reached. -/
theorem le_level_iff (range : lo < hi) (above : lo ≤ x) (some : 0 < cells) {index : Nat} :
    index ≤ level cells lo hi x ↔ levelValue cells lo hi index ≤ x := by
  have width := sub_pos.mpr range
  have positive : (0 : K) < cells := Nat.cast_pos.mpr some
  have nonneg := mul_nonneg (fraction_nonneg range above) positive.le
  rw [level, Nat.le_floor_iff nonneg, levelValue, ← le_sub_iff_add_le, div_le_iff₀ positive,
    div_mul_eq_mul_div, le_div_iff₀ width]

/-- A value has a level from the value of that level on, and up to that of the next. -/
theorem level_eq_iff (range : lo < hi) (above : lo ≤ x) (some : 0 < cells) {index : Nat} :
    level cells lo hi x = index ↔
      levelValue cells lo hi index ≤ x ∧ x < levelValue cells lo hi (index + 1) := by
  rw [← le_level_iff range above some, ← not_le, ← le_level_iff range above some]
  omega

omit [LinearOrder K] [IsStrictOrderedRing K] [FloorRing K] in
theorem levelValue_top [CharZero K] (some : 0 < cells) : levelValue cells lo hi cells = hi := by
  have nonzero : (cells : K) ≠ 0 := Nat.cast_ne_zero.mpr some.ne'
  rw [levelValue, mul_div_cancel_left₀ _ nonzero, sub_add_cancel]

/-- A value that is limited to the range has reached a level above the lowest one if it has
without the limit. -/
theorem levelValue_le_limited (range : lo < hi) (some : 0 < cells) {index : Nat} (bound : index ≤ cells)
    (positive : 0 < index) :
    levelValue cells lo hi index ≤ min (max lo x) hi ↔ levelValue cells lo hi index ≤ x := by
  have width := sub_pos.mpr range
  have cellsPositive : (0 : K) < cells := Nat.cast_pos.mpr some
  have indexPositive : (0 : K) < index := Nat.cast_pos.mpr positive
  have within : (index : K) ≤ cells := Nat.cast_le.mpr bound
  have above : lo < levelValue cells lo hi index := by
    rw [levelValue]
    have step := div_pos (mul_pos indexPositive width) cellsPositive
    linarith
  have below : levelValue cells lo hi index ≤ hi := by
    rw [levelValue, ← le_sub_iff_add_le, div_le_iff₀ cellsPositive, mul_comm (hi - lo)]
    exact mul_le_mul_of_nonneg_right within width.le
  rw [le_min_iff, le_max_iff]
  constructor
  · intro reached
    exact reached.1.resolve_left (not_le.mpr above)
  · intro reached
    exact ⟨.inr reached, below⟩

/-- Dequantising over as many steps as there are cells never overshoots. -/
theorem levelValue_level_le (range : lo < hi) (above : lo ≤ x) (some : 0 < cells) :
    levelValue cells lo hi (level cells lo hi x) ≤ x := by
  have width := sub_pos.mpr range
  have positive : (0 : K) < cells := Nat.cast_pos.mpr some
  have low : (level cells lo hi x : K) ≤ _ := level_fraction_le range above
  have scaled : (level cells lo hi x : K) * (hi - lo) / cells ≤ (x - lo) / (hi - lo) * (hi - lo) := by
    rw [div_le_iff₀ positive]
    calc (level cells lo hi x : K) * (hi - lo)
        ≤ (x - lo) / (hi - lo) * cells * (hi - lo) := mul_le_mul_of_nonneg_right low width.le
      _ = (x - lo) / (hi - lo) * (hi - lo) * cells := by ring
  rw [div_mul_cancel₀ _ width.ne'] at scaled
  rw [levelValue]
  linarith

/-- … and stays less than one step below the value. -/
theorem lt_levelValue_level_add_step (range : lo < hi) (some : 0 < cells) :
    x < levelValue cells lo hi (level cells lo hi x) + stepSize cells lo hi := by
  have width := sub_pos.mpr range
  have positive : (0 : K) < cells := Nat.cast_pos.mpr some
  have high : _ < (level cells lo hi x : K) + 1 := fraction_lt_level_succ
  have scaled : (x - lo) / (hi - lo) * (hi - lo) <
      ((level cells lo hi x : K) + 1) * (hi - lo) / cells := by
    rw [lt_div_iff₀ positive]
    calc (x - lo) / (hi - lo) * (hi - lo) * cells
        = (x - lo) / (hi - lo) * cells * (hi - lo) := by ring
      _ < ((level cells lo hi x : K) + 1) * (hi - lo) := mul_lt_mul_of_pos_right high width
  rw [div_mul_cancel₀ _ width.ne', add_one_mul, add_div] at scaled
  rw [levelValue, stepSize]
  linarith

/-- A matched quantiser and dequantiser differ by less than one step. -/
theorem abs_levelValue_level_sub_lt (range : lo < hi) (above : lo ≤ x) (some : 0 < cells) :
    |levelValue cells lo hi (level cells lo hi x) - x| < stepSize cells lo hi := by
  have low := levelValue_level_le range above some
  have high := lt_levelValue_level_add_step (x := x) range some
  rw [abs_lt]
  constructor <;> linarith

/-- A quantiser that uses one cell more than its dequantiser has steps still
differs by less than one step, as long as the value is below the upper end. -/
theorem abs_levelValue_level_succ_sub_lt (range : lo < hi) (above : lo ≤ x) (below : x < hi)
    (some : 0 < steps) :
    |levelValue steps lo hi (level (steps + 1) lo hi x) - x| < stepSize steps lo hi := by
  have width := sub_pos.mpr range
  have positive : (0 : K) < steps := Nat.cast_pos.mpr some
  have fractionLow := fraction_nonneg range above
  have fractionHigh := fraction_lt_one range below
  have low : (level (steps + 1) lo hi x : K) ≤ _ := level_fraction_le range above
  have high : _ < (level (steps + 1) lo hi x : K) + 1 := fraction_lt_level_succ
  push_cast at low high
  set fraction := (x - lo) / (hi - lo) with fractionEq
  set index : K := (level (steps + 1) lo hi x : K) with indexEq
  have value : x = fraction * (hi - lo) + lo := eq_fraction width.ne'
  have difference : levelValue steps lo hi (level (steps + 1) lo hi x) - x =
      (index - fraction * steps) * (hi - lo) / steps := by
    rw [levelValue, ← indexEq, value]
    field_simp
    ring
  rw [difference, stepSize, abs_div, abs_mul, abs_of_pos width, abs_of_pos positive]
  apply div_lt_div_of_pos_right _ positive
  apply mul_lt_of_lt_one_left width
  rw [abs_lt]
  constructor <;> linarith

end Foundation.Quantizer
