import CubemarsDriver.Filters
import CubemarsDriver.Foundation.Interleaving
import CubemarsDriver.Foundation.RingBuffer

namespace CubemarsDriver

open Foundation

/-! # The moving average

The buffer of the filter first grows and then becomes a ring.  In both phases
it holds samples in the order of their arrival, up to a rotation. -/

/-- A call of the filter. -/
inductive FilterCall (K : Type) where
  | update (value : K)
  | resize (size : Nat)
deriving DecidableEq

namespace MovingAverage

variable {K : Type} [Scalar K]
variable {filter after : MovingAverage K} {value result : K} {size : Nat}

def call (filter : MovingAverage K) : FilterCall K → Option (MovingAverage K)
  | .update value => (filter.update value).map Prod.snd
  | .resize size => some (filter.resize size)

/-- The samples of the filter, oldest first. -/
def held (filter : MovingAverage K) : List K := filter.buffer.rotate filter.index

/-- The buffer has its size, and only a full one is used as a ring. -/
structure Sound (filter : MovingAverage K) : Prop where
  room : filter.buffer.length ≤ filter.buffersize
  index : filter.index = 0 ∨
    filter.index < filter.buffer.length ∧ filter.buffer.length = filter.buffersize

omit [Scalar K] in
@[simp] theorem length_held (filter : MovingAverage K) :
    filter.held.length = filter.buffer.length := List.length_rotate ..

theorem create_sound (buffersize : Nat) : (create buffersize : MovingAverage K).Sound :=
  ⟨Nat.zero_le _, .inl rfl⟩

omit [Scalar K] in
/-- While the buffer grows it is in order. -/
theorem Sound.growing (sound : filter.Sound) (short : filter.buffer.length ≠ filter.buffersize) :
    filter.index = 0 ∧ filter.held = filter.buffer := by
  have start : filter.index = 0 := sound.index.resolve_right fun ring => short ring.2
  exact ⟨start, by rw [held, start, List.rotate_zero]⟩

/-- What an update does to the samples: the new one is appended, and the oldest
one dropped if there is no room. -/
structure Updated (filter : MovingAverage K) (value : K) (after : MovingAverage K) : Prop where
  sound : after.Sound
  buffersize : after.buffersize = filter.buffersize
  held : after.held = (filter.held ++ [value]).rtake filter.buffersize

omit [Scalar K] in
theorem Updated.of_append (sound : filter.Sound)
    (short : filter.buffer.length ≠ filter.buffersize)
    (buffer : after.buffer = filter.buffer ++ [value]) (index : after.index = filter.index)
    (buffersize : after.buffersize = filter.buffersize) : Updated filter value after := by
  obtain ⟨start, inOrder⟩ := sound.growing short
  have room := sound.room
  have length : after.buffer.length = filter.buffer.length + 1 := by
    rw [buffer, List.length_append, List.length_singleton]
  constructor
  case sound => exact ⟨by omega, .inl (index.trans start)⟩
  case buffersize => exact buffersize
  case held =>
    have inside : filter.held.length < filter.buffersize := by
      rw [length_held]
      omega
    rw [rtake_concat_room inside, inOrder, MovingAverage.held, buffer, index, start,
      List.rotate_zero]

theorem update_spec (sound : filter.Sound) (updated : filter.update value = some (result, after)) :
    Updated filter value after := by
  rw [update] at updated
  by_cases full : filter.buffer.length = filter.buffersize
  · rw [if_pos full] at updated
    cases found : filter.buffer[filter.index]? with
    | none => simp [found] at updated
    | some oldest =>
        simp only [found, Option.some.injEq, Prod.mk.injEq] at updated
        obtain ⟨_, rfl⟩ := updated
        have bound := (List.getElem?_eq_some_iff.mp found).1
        have positive : 0 < filter.buffersize := by omega
        constructor
        case sound =>
          refine ⟨by simpa using sound.room, .inr ⟨?_, by simpa using full⟩⟩
          rw [List.length_set, full]
          exact Nat.mod_lt _ positive
        case buffersize => rfl
        case held =>
          rw [rtake_concat_full (by rw [length_held, full]) positive, held, held, ← full]
          exact rotate_set bound
  · rw [if_neg full] at updated
    split at updated <;> cases updated <;> exact .of_append sound full rfl rfl rfl

omit [Scalar K] in
theorem Updated.length (updated : Updated filter value after) :
    after.buffer.length = min filter.buffersize (filter.buffer.length + 1) := by
  rw [← length_held, updated.held, length_rtake, List.length_append, length_held,
    List.length_singleton]

theorem Sound.update_exists (sound : filter.Sound) (positive : 0 < filter.buffersize)
    (value : K) : ∃ result after, filter.update value = some (result, after) := by
  have ready : filter.Ready := by
    unfold Ready
    rcases sound.index with start | ring <;> omega
  obtain ⟨result, after, updated, _⟩ := update_ready ready value
  exact ⟨result, after, updated⟩

/-- Resizing to no less than the samples held keeps them. -/
theorem resize_keeps (sound : filter.Sound) (enough : filter.buffer.length ≤ size) :
    (filter.resize size).Sound ∧ (filter.resize size).buffersize = size ∧
      (filter.resize size).held = filter.held ∧ (filter.resize size).val = filter.val := by
  rw [resize]
  by_cases same : size = filter.buffersize
  · rw [if_pos same]
    exact ⟨sound, same.symm, rfl, rfl⟩
  rw [if_neg same]
  by_cases exact : size = filter.buffer.length
  · rw [if_pos exact]
    refine ⟨⟨enough, ?_⟩, rfl, rfl, rfl⟩
    exact sound.index.imp_right fun ring => ⟨ring.1, exact.symm⟩
  · rw [if_neg exact, if_pos (show filter.buffer.length < size by omega)]
    refine ⟨⟨by simpa using enough, .inl rfl⟩, rfl, ?_, rfl⟩
    simp only [held, List.rotate_zero]

/-- The place from which a shrinking resize keeps samples. -/
def shrinkOffset (filter : MovingAverage K) (size : Nat) : Nat :=
  (filter.index + uintModulus - size) % uintModulus % filter.buffer.length

/-- Resizing to less than the samples held keeps as many of them, and the size of the buffer. -/
theorem resize_shrinks (sound : filter.Sound) (shrinks : size < filter.buffer.length) :
    (filter.resize size).Sound ∧ (filter.resize size).buffersize = filter.buffersize ∧
      (filter.resize size).buffer =
        (filter.buffer.rotate (filter.shrinkOffset size)).take size ∧
      (filter.resize size).index = 0 ∧
      (filter.resize size).val =
        (filter.resize size).buffer.foldl (fun sum value => sum + value) Scalar.zero := by
  have room := sound.room
  rw [resize, if_neg (by omega), if_neg (by omega), if_neg (by omega)]
  have small : size ≤ filter.buffersize := by omega
  exact ⟨⟨(List.length_take_le size _).trans small, .inl rfl⟩, rfl, rfl, rfl, rfl⟩

theorem length_shrunk (sound : filter.Sound) (shrinks : size < filter.buffer.length) :
    (filter.resize size).buffer.length = size := by
  rw [(resize_shrinks sound shrinks).2.2.1, List.length_take, List.length_rotate]
  omega

theorem call_sound (sound : filter.Sound) {request : FilterCall K}
    (called : filter.call request = some after) : after.Sound := by
  cases request with
  | update value =>
      obtain ⟨⟨result, after⟩, updated, rfl⟩ := Option.map_eq_some_iff.mp called
      exact (update_spec sound updated).sound
  | resize size =>
      cases called
      by_cases shrinks : size < filter.buffer.length
      · exact (resize_shrinks sound shrinks).1
      · exact (resize_keeps sound (Nat.le_of_not_lt shrinks)).1

/-- After a resize there is room for as many samples as were asked for. -/
theorem resize_room (sound : filter.Sound) (size : Nat) :
    (filter.resize size).Sound ∧ size ≤ (filter.resize size).buffersize := by
  by_cases shrinks : size < filter.buffer.length
  · obtain ⟨soundAfter, buffersize, _⟩ := resize_shrinks sound shrinks
    have room := sound.room
    exact ⟨soundAfter, by omega⟩
  · obtain ⟨soundAfter, buffersize, _⟩ := resize_keeps sound (Nat.le_of_not_lt shrinks)
    exact ⟨soundAfter, by omega⟩

/-- The places of the buffer that an update reads and replaces. -/
def accessed (filter : MovingAverage K) : List Nat :=
  if filter.buffer.length = filter.buffersize then [filter.index] else []

/-- What an update divides by: the index it advances, or the sum of the samples. -/
def divisors (filter : MovingAverage K) : List Nat :=
  if filter.buffer.length = filter.buffersize then [filter.buffersize]
  else if 0 < filter.buffer.length then [filter.buffer.length + 1]
  else []

/-- An update accesses existing places only, and divides by no zero. -/
structure UpdateSafe (filter : MovingAverage K) : Prop where
  accessed : ∀ place ∈ filter.accessed, place < filter.buffer.length
  divisors : ∀ divisor ∈ filter.divisors, divisor ≠ 0

theorem update_isSome_iff : (filter.update value).isSome = true ↔
    ∀ place ∈ filter.accessed, place < filter.buffer.length := by
  rw [update, accessed]
  by_cases full : filter.buffer.length = filter.buffersize
  · rw [if_pos full, if_pos full]
    cases found : filter.buffer[filter.index]? with
    | none => simpa using found
    | some oldest => simpa using (List.getElem?_eq_some_iff.mp found).1
  · rw [if_neg full, if_neg full]
    split <;> simp

omit [Scalar K] in
theorem Sound.updateSafe (sound : filter.Sound) (positive : 0 < filter.buffersize) :
    filter.UpdateSafe := by
  constructor
  case accessed =>
    intro place member
    rw [accessed] at member
    split at member
    · obtain rfl := List.mem_singleton.mp member
      rcases sound.index with start | ring
      · omega
      · exact ring.1
    · cases member
  case divisors =>
    intro divisor member
    rw [divisors] at member
    split at member
    · obtain rfl := List.mem_singleton.mp member
      omega
    · split at member
      · obtain rfl := List.mem_singleton.mp member
        omega
      · cases member

end MovingAverage

end CubemarsDriver
