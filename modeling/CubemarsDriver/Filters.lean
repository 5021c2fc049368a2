import CubemarsDriver.Scalar

namespace CubemarsDriver

/-! # The filters of the joint states -/

variable {K : Type}

/-- Position-only alpha-beta filter, assuming constant velocity between updates. -/
structure AlphaBetaFilter (K : Type) where
  alpha : K
  beta : K
  x : K
  v : K
  initialized : Bool
deriving DecidableEq

namespace AlphaBetaFilter

variable [Scalar K]

def create (alpha beta : K) : AlphaBetaFilter K where
  alpha
  beta
  x := Scalar.zero
  v := Scalar.zero
  initialized := false

def update (filter : AlphaBetaFilter K) (measurement dt : K) : AlphaBetaFilter K :=
  if ¬ filter.initialized ∨ dt ≤ Scalar.zero then
    { filter with x := measurement, v := Scalar.zero, initialized := true }
  else
    let xPred := filter.x + filter.v * dt
    let residual := measurement - xPred
    { filter with
      x := xPred + filter.alpha * residual
      v := filter.v + filter.beta / dt * residual }

end AlphaBetaFilter

/-- Streaming median filter for outlier rejection. -/
structure MedianFilter (K : Type) where
  buffer : List K
  idx : Nat
  filled : Nat
  size : Nat
deriving DecidableEq

namespace MedianFilter

variable [Scalar K]

def create (size : Nat) : MedianFilter K where
  buffer := List.replicate size Scalar.zero
  idx := 0
  filled := 0
  size

/-- The element `std::nth_element` puts at `filled / 2`. -/
def median (values : List K) : Option K :=
  (values.mergeSort fun left right => ¬ right < left)[values.length / 2]?

/-- `none` where the source would access an element that does not exist. -/
def update (filter : MedianFilter K) (value : K) : Option (K × MedianFilter K) :=
  if filter.size ≤ 1 then some (value, filter)
  else if filter.idx < filter.buffer.length then
    let buffer := filter.buffer.set filter.idx value
    let filled := if filter.filled < filter.size then filter.filled + 1 else filter.filled
    (median (buffer.take filled)).map fun middle =>
      (middle, { filter with buffer, filled, idx := (filter.idx + 1) % filter.size })
  else none

def resize (_ : MedianFilter K) (size : Nat) : MedianFilter K := create size

/-- The next value has a place in the buffer. -/
def Ready (filter : MedianFilter K) : Prop :=
  1 < filter.size → filter.buffer.length = filter.size ∧ filter.idx < filter.size

theorem create_ready (size : Nat) : (create size : MedianFilter K).Ready := by
  intro large
  exact ⟨List.length_replicate, Nat.zero_lt_of_lt large⟩

theorem median_exists {values : List K} (some : values ≠ []) :
    ∃ middle, median values = Option.some middle := by
  have size := List.length_pos_iff.mpr some
  have bound : values.length / 2 < (values.mergeSort fun left right => ¬ right < left).length := by
    rw [List.length_mergeSort]
    omega
  exact ⟨_, List.getElem?_eq_getElem bound⟩

theorem update_ready {filter : MedianFilter K} (ready : filter.Ready) (value : K) :
    ∃ result after, filter.update value = some (result, after) ∧ after.Ready := by
  rw [update]
  split
  · exact ⟨value, filter, rfl, ready⟩
  · rename_i large
    obtain ⟨length, idx⟩ := ready (by omega)
    have bound : filter.idx < filter.buffer.length := by omega
    rw [if_pos bound]
    obtain ⟨middle, found⟩ : ∃ middle, median ((filter.buffer.set filter.idx value).take
        (if filter.filled < filter.size then filter.filled + 1 else filter.filled)) =
          some middle := by
      apply median_exists
      rw [← List.length_pos_iff, List.length_take, List.length_set]
      split <;> omega
    simp only [found, Option.map_some]
    refine ⟨_, _, rfl, fun _ => ⟨?_, Nat.mod_lt _ (by omega)⟩⟩
    rw [List.length_set]
    exact length

end MedianFilter

structure MovingAverage (K : Type) where
  buffersize : Nat
  index : Nat
  buffer : List K
  val : K
deriving DecidableEq

namespace MovingAverage

variable [Scalar K]

def create (buffersize : Nat) : MovingAverage K where
  buffersize
  index := 0
  buffer := []
  val := Scalar.zero

/-- `none` where the source would access an element that does not exist. -/
def update (filter : MovingAverage K) (value : K) : Option (K × MovingAverage K) :=
  if filter.buffer.length = filter.buffersize then
    match filter.buffer[filter.index]? with
    | none => none
    | some oldest =>
        let val := filter.val - oldest + value
        some (val / Scalar.ofRat filter.buffersize, { filter with
          buffer := filter.buffer.set filter.index value
          val
          index := (filter.index + 1) % filter.buffersize })
  else if 0 < filter.buffer.length then
    let buffer := filter.buffer ++ [value]
    let val := filter.val + value
    some (val / Scalar.ofRat buffer.length, { filter with buffer, val })
  else some (value, { filter with buffer := filter.buffer ++ [value], val := value })

/-- The oldest value has a place in the buffer. -/
def Ready (filter : MovingAverage K) : Prop := filter.index < filter.buffersize

theorem update_ready {filter : MovingAverage K} (ready : filter.Ready) (value : K) :
    ∃ result after, filter.update value = some (result, after) ∧ after.Ready := by
  rw [update]
  split
  · rename_i full
    have bound : filter.index < filter.buffer.length := by rw [full]; exact ready
    simp only [List.getElem?_eq_getElem bound]
    exact ⟨_, _, rfl, Nat.mod_lt _ (Nat.zero_lt_of_lt ready)⟩
  · split
    · exact ⟨_, _, rfl, ready⟩
    · exact ⟨_, _, rfl, ready⟩

def uintModulus : Nat := 2 ^ 32

/-- The difference `index_ - size` is one of unsigned integers. -/
def resize (filter : MovingAverage K) (size : Nat) : MovingAverage K :=
  let length := filter.buffer.length
  if size = filter.buffersize then filter
  else if size = length then { filter with buffersize := size }
  else if length < size then
    { filter with
      buffer := filter.buffer.rotate filter.index, index := 0, buffersize := size }
  else
    let offset := (filter.index + uintModulus - size) % uintModulus % length
    let buffer := (filter.buffer.rotate offset).take size
    { filter with
      buffer, index := 0, val := buffer.foldl (fun sum value => sum + value) Scalar.zero }

end MovingAverage

end CubemarsDriver
