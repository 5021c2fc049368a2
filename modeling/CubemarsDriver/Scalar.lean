import Mathlib.Data.Rat.Floor

namespace CubemarsDriver

/-! # Arithmetic on `float` and `double`

The driver's arithmetic is written once, over any type with these operations.
Over `ℚ` it is exact; rounding is not modelled, and `float` and `double` are
the same type. -/

class Scalar (K : Type) extends Add K, Sub K, Mul K, Div K, Neg K, LT K, LE K where
  /-- A literal of the source. -/
  ofRat : ℚ → K
  /-- Conversion to an integer, towards zero. -/
  truncate : K → Int
  decidableLT : DecidableLT K
  decidableLE : DecidableLE K

instance instDecidableLTOfScalar [Scalar K] : DecidableLT K := Scalar.decidableLT

instance instDecidableLEOfScalar [Scalar K] : DecidableLE K := Scalar.decidableLE

/-- The functions of `<cmath>` that the friction model calls. -/
class Libm (K : Type) where
  tanh : K → K
  exp : K → K
  pow : K → K → K
  fabs : K → K

/-- The functions at rest, where their values are rational. -/
@[reducible] def libmAtRest : Libm ℚ where
  tanh _ := 0
  exp _ := 1
  pow _ _ := 0
  fabs x := if x < 0 then -x else x

instance : Scalar ℚ where
  ofRat value := value
  truncate value := if value < 0 then ⌈value⌉ else ⌊value⌋
  decidableLT := inferInstance
  decidableLE := inferInstance

/-- `std::to_string`. -/
class StdToString (K : Type) where
  stdToString : K → String

/-- Six digits after the point. -/
instance instStdToStringRat : StdToString ℚ where
  stdToString value :=
    let micros := ⌊(if value < 0 then -value else value) * 10 ^ 6 + 1 / 2⌋.toNat
    let fraction := toString (micros % 10 ^ 6)
    (if value < 0 then "-" else "") ++ toString (micros / 10 ^ 6) ++ "." ++
      String.ofList (List.replicate (6 - fraction.length) '0') ++ fraction

namespace Scalar

variable {K : Type} [Scalar K]

def zero : K := ofRat 0

def one : K := ofRat 1

/-- `fmaxf`: the larger argument, or the other one if an argument is not a number. -/
def fmax (left right : K) : K :=
  if left ≤ left then if left < right then right else left else right

/-- `fminf`, likewise. -/
def fmin (left right : K) : K :=
  if left ≤ left then if right < left then right else left else right

/-- `fminf(fmaxf(lower, value), upper)`. -/
def clamp (lower upper value : K) : K := fmin (fmax lower value) upper

theorem clamp_rat (lower upper value : ℚ) :
    clamp lower upper value = min (max lower value) upper := by
  have larger : fmax lower value = max lower value := by
    change (if lower ≤ lower then if lower < value then value else lower else value) = _
    rw [if_pos le_rfl]
    split
    · rw [max_eq_right (le_of_lt ‹_›)]
    · rw [max_eq_left (not_lt.mp ‹_›)]
  rw [clamp, larger]
  change (if max lower value ≤ max lower value then
    if upper < max lower value then upper else max lower value else upper) = _
  rw [if_pos le_rfl]
  split
  · rw [min_eq_right (le_of_lt ‹_›)]
  · rw [min_eq_left (not_lt.mp ‹_›)]

theorem truncate_rat_of_nonneg {value : ℚ} (nonneg : 0 ≤ value) :
    truncate value = (⌊value⌋₊ : Int) := by
  change (if value < 0 then ⌈value⌉ else ⌊value⌋) = _
  rw [if_neg (not_lt.mpr nonneg), Int.natCast_floor_eq_floor nonneg]

end Scalar

end CubemarsDriver
