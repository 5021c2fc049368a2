import CubemarsDriver.Filters.MovingAverage

namespace CubemarsDriver

open Foundation

/-! # The moving average as a window of samples

The reference keeps the samples in a list, oldest first: a new one is appended,
the oldest are dropped beyond the size, and a resize changes the size alone. -/

structure FifoWindow (K : Type) where
  size : Nat
  samples : List K

namespace FifoWindow

variable {K : Type}

def create (size : Nat) : FifoWindow K := ⟨size, []⟩

def push (window : FifoWindow K) (value : K) : FifoWindow K :=
  { window with samples := (window.samples ++ [value]).rtake window.size }

def resize (window : FifoWindow K) (size : Nat) : FifoWindow K := { window with size }

/-- No resize goes below one or below the samples in the window. -/
def Admits : FifoWindow K → List (FilterCall K) → Prop
  | _, [] => True
  | window, .update value :: rest => (window.push value).Admits rest
  | window, .resize size :: rest =>
      1 ≤ size ∧ window.samples.length ≤ size ∧ (window.resize size).Admits rest

variable [Field K]

def mean (window : FifoWindow K) : K := window.samples.sum / window.samples.length

/-- The means after the updates of a sequence of calls. -/
def means : FifoWindow K → List (FilterCall K) → List K
  | _, [] => []
  | window, .update value :: rest => (window.push value).mean :: (window.push value).means rest
  | window, .resize size :: rest => (window.resize size).means rest

end FifoWindow

namespace MovingAverage

/-- What the updates of a sequence of calls return. -/
def results {K : Type} [Scalar K] : MovingAverage K → List (FilterCall K) → Option (List K)
  | _, [] => some []
  | filter, .update value :: rest =>
      (filter.update value).bind fun (result, after) =>
        (after.results rest).map (result :: ·)
  | filter, .resize size :: rest => (filter.resize size).results rest

/-- A filter that holds the samples of a window and their sum. -/
structure Represents (filter : MovingAverage ℚ) (window : FifoWindow ℚ) : Prop where
  sound : filter.Sound
  held : filter.held = window.samples
  size : filter.buffersize = window.size
  positive : 0 < window.size
  val : filter.val = window.samples.sum

variable {filter : MovingAverage ℚ} {window : FifoWindow ℚ} {size : Nat}

theorem create_represents (positive : 1 ≤ size) :
    (create size : MovingAverage ℚ).Represents (.create size) where
  sound := create_sound size
  held := rfl
  size := rfl
  positive := positive
  val := rfl

namespace Represents

theorem length (represents : filter.Represents window) :
    filter.buffer.length = window.samples.length := by
  rw [← length_held, represents.held]

/-- The running sum, as long as the buffer grows. -/
theorem append (represents : filter.Represents window) (value : ℚ)
    (short : filter.buffer.length ≠ filter.buffersize) {after : MovingAverage ℚ}
    (updated : Updated filter value after) (val : after.val = filter.val + value) :
    after.Represents (window.push value) ∧
      after.val / after.buffer.length = (window.push value).mean := by
  have held : after.held = (window.push value).samples := by
    rw [updated.held, represents.held, represents.size, FifoWindow.push]
  have room : window.samples.length < window.size := by
    have bound := represents.sound.room
    rw [← represents.length, ← represents.size]
    omega
  have sum : after.val = (window.push value).samples.sum := by
    rw [val, represents.val, FifoWindow.push, rtake_concat_room room, List.sum_append,
      List.sum_singleton]
  refine ⟨⟨updated.sound, held, updated.buffersize.trans represents.size, represents.positive,
    sum⟩, ?_⟩
  rw [FifoWindow.mean, sum, ← length_held, held]

/-- An update of the filter returns the mean of the window it represents afterwards. -/
theorem update (represents : filter.Represents window) (value : ℚ) :
    ∃ after, filter.update value = some ((window.push value).mean, after) ∧
      after.Represents (window.push value) := by
  by_cases full : filter.buffer.length = filter.buffersize
  · have positive : 0 < filter.buffersize := represents.size ▸ represents.positive
    have bound : filter.index < filter.buffer.length := by
      rcases represents.sound.index with start | ring
      · omega
      · exact ring.1
    have found := List.getElem?_eq_getElem bound
    have run : filter.update value = some
        ((filter.val - filter.buffer[filter.index] + value) / (filter.buffersize : ℚ), {
          filter with
          buffer := filter.buffer.set filter.index value
          val := filter.val - filter.buffer[filter.index] + value
          index := (filter.index + 1) % filter.buffersize }) := by
      rw [MovingAverage.update, if_pos full, found]
      rfl
    have updated := update_spec represents.sound run
    have size : window.samples.length = window.size := by
      rw [← represents.length, full, represents.size]
    have split : window.samples = filter.buffer[filter.index] :: window.samples.tail := by
      have head : window.samples.head? = some filter.buffer[filter.index] := by
        rw [← represents.held, MovingAverage.held, List.head?_rotate bound, found]
      rw [List.eq_cons_of_mem_head? head, List.tail_cons]
    have samples : (window.push value).samples = window.samples.tail ++ [value] :=
      rtake_concat_full size represents.positive
    have sum : filter.val - filter.buffer[filter.index] + value =
        (window.push value).samples.sum := by
      rw [represents.val, samples, List.sum_append, List.sum_singleton]
      nth_rewrite 1 [split]
      rw [List.sum_cons]
      ring
    have count : (window.push value).samples.length = window.size := by
      rw [FifoWindow.push, length_rtake, List.length_append, size, List.length_singleton]
      omega
    refine ⟨_, run.trans ?_, updated.sound, ?_, represents.size, represents.positive, sum⟩
    · rw [sum, FifoWindow.mean, count, represents.size]
    · rw [updated.held, represents.held, represents.size, FifoWindow.push]
  · by_cases filled : 0 < filter.buffer.length
    · have run : filter.update value = some
          ((filter.val + value) / ((filter.buffer ++ [value]).length : ℚ),
            { filter with buffer := filter.buffer ++ [value], val := filter.val + value }) := by
        rw [MovingAverage.update, if_neg full, if_pos filled]
        rfl
      have both := represents.append value full (update_spec represents.sound run) rfl
      exact ⟨_, run.trans (by rw [← both.2]), both.1⟩
    · have empty : filter.buffer = [] := List.length_eq_zero_iff.mp (by omega)
      have run : filter.update value = some
          (value, { filter with buffer := filter.buffer ++ [value], val := value }) := by
        rw [MovingAverage.update, if_neg full, if_neg filled]
      have zero : filter.val = 0 := by
        have none : window.samples = [] :=
          List.length_eq_zero_iff.mp (by rw [← represents.length, empty, List.length_nil])
        rw [represents.val, none, List.sum_nil]
      have both := represents.append value full (update_spec represents.sound run)
        (by rw [zero, zero_add])
      refine ⟨_, run.trans ?_, both.1⟩
      rw [← both.2]
      simp [empty]

theorem resize (represents : filter.Represents window) (positive : 1 ≤ size)
    (enough : window.samples.length ≤ size) :
    (filter.resize size).Represents (window.resize size) := by
  rw [← represents.length] at enough
  obtain ⟨sound, buffersize, held, val⟩ := resize_keeps represents.sound enough
  exact ⟨sound, held.trans represents.held, buffersize, positive, val.trans represents.val⟩

theorem results (represents : filter.Represents window) {calls : List (FilterCall ℚ)}
    (admitted : window.Admits calls) : filter.results calls = some (window.means calls) := by
  induction calls generalizing filter window with
  | nil => rfl
  | cons call rest ih =>
      cases call with
      | update value =>
          obtain ⟨after, run, pushed⟩ := represents.update value
          have later := ih pushed admitted
          rw [MovingAverage.results, run, Option.bind_some]
          simp only [later, Option.map_some, FifoWindow.means]
      | resize size =>
          obtain ⟨positive, enough, remaining⟩ := admitted
          rw [MovingAverage.results, ih (represents.resize positive enough) remaining]
          rfl

end Represents

/-- With exact arithmetic and without a resize below the samples held, the filter
computes the means of the reference window. -/
theorem results_eq_means {size : Nat} (positive : 1 ≤ size) {calls : List (FilterCall ℚ)}
    (admitted : (FifoWindow.create size).Admits calls) :
    (create size).results calls = some ((FifoWindow.create size).means calls) :=
  (create_represents positive).results admitted

/-- A ring of two samples wraps and grows to three. -/
theorem results_eq_means_growing :
    (create 2 : MovingAverage ℚ).results
      [.update 1, .update 3, .update 5, .resize 3, .update 7, .update 9] =
        some [1, 2, 4, 5, 7] := by
  have admitted : (FifoWindow.create (K := ℚ) 2).Admits
      [.update 1, .update 3, .update 5, .resize 3, .update 7, .update 9] := by
    simp [FifoWindow.create, FifoWindow.Admits, FifoWindow.push, List.rtake]
  rw [results_eq_means (by decide) admitted]
  decide +kernel

end MovingAverage

end CubemarsDriver
