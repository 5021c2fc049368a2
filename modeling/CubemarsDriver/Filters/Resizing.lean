import CubemarsDriver.Filters.MovingAverage

namespace CubemarsDriver

open Foundation

/-! # Shrinking a moving average at run time

The place from which a shrinking resize keeps samples is a difference of
unsigned integers.  If it wraps, the place is off by `2 ^ 32` before it is
reduced modulo the number of samples held. -/

namespace MovingAverage

variable {K : Type} [Scalar K]
variable {filter after : MovingAverage K} {size : Nat}

/-- The kept samples are the recent ones: the difference does not wrap, or every
one of them is the same as the one `2 ^ 32` places further round the ring. -/
def Aligned (filter : MovingAverage K) (size : Nat) : Prop :=
  size ≤ filter.index ∨
    ∀ place, filter.held.length - size ≤ place → place < filter.held.length →
      filter.held[(place + uintModulus) % filter.held.length]? = filter.held[place]?

omit [Scalar K] in
/-- Wrapping does no harm if the number of samples divides `2 ^ 32`. -/
theorem aligned_of_dvd (divides : filter.buffer.length ∣ uintModulus) : filter.Aligned size := by
  refine .inr fun place _ below => ?_
  rw [length_held] at below ⊢
  obtain ⟨turns, exact⟩ := divides
  rw [exact, Nat.add_mul_mod_self_left, Nat.mod_eq_of_lt below]

omit [Scalar K] in
/-- The buffer, rotated by the place a shrink computes, in the order of arrival. -/
theorem rotate_shrinkOffset (sound : filter.Sound) (shrinks : size < filter.buffer.length)
    (unsigned : filter.buffersize < uintModulus) :
    filter.buffer.rotate (filter.shrinkOffset size) =
      filter.held.rotate (filter.held.length - size +
        if size ≤ filter.index then 0 else uintModulus) := by
  have room := sound.room
  have index : filter.index ≤ filter.buffer.length := by
    rcases sound.index with start | ring <;> omega
  have turned : ∀ count, filter.held.rotate count = filter.buffer.rotate (filter.index + count) :=
    fun count => List.rotate_rotate ..
  rw [turned, length_held, shrinkOffset, List.rotate_mod]
  by_cases ahead : size ≤ filter.index
  · have difference : (filter.index + uintModulus - size) % uintModulus = filter.index - size := by
      rw [show filter.index + uintModulus - size = filter.index - size + uintModulus by omega,
        Nat.add_mod_right, Nat.mod_eq_of_lt (by omega)]
    have place : filter.index + (filter.buffer.length - size + 0) =
        filter.index - size + filter.buffer.length := by omega
    rw [difference, if_pos ahead, place, ← List.rotate_mod filter.buffer (_ + _),
      Nat.add_mod_right, List.rotate_mod]
  · have difference : (filter.index + uintModulus - size) % uintModulus =
        filter.index + uintModulus - size := Nat.mod_eq_of_lt (by omega)
    have place : filter.index + (filter.buffer.length - size + uintModulus) =
        filter.index + uintModulus - size + filter.buffer.length := by omega
    rw [difference, if_neg ahead, place, ← List.rotate_mod filter.buffer (_ + _),
      Nat.add_mod_right, List.rotate_mod]

/-- What a shrink leaves are the recent samples exactly if it is aligned. -/
theorem shrunk_eq_recent_iff (sound : filter.Sound) (shrinks : size < filter.buffer.length)
    (unsigned : filter.buffersize < uintModulus) :
    (filter.resize size).buffer = filter.held.rtake size ↔ filter.Aligned size := by
  have within : size ≤ filter.held.length := by
    rw [length_held]
    exact shrinks.le
  rw [(resize_shrinks sound shrinks).2.2.1, rotate_shrinkOffset sound shrinks unsigned,
    take_rotate_iff _ within, Aligned]
  by_cases ahead : size ≤ filter.index
  · simp only [ahead, if_true, true_or, iff_true, Nat.add_zero]
    intro place _ below
    rw [Nat.mod_eq_of_lt below]
  · simp only [ahead, if_false, false_or]

/-- The new samples of a sequence of calls, oldest first. -/
def samples : List (FilterCall K) → List K
  | [] => []
  | .update value :: rest => value :: samples rest
  | .resize _ :: rest => samples rest

/-- The sizes are unsigned integers, and a resize below the samples held is aligned. -/
def AlignedCall (filter : MovingAverage K) : FilterCall K → Prop
  | .update _ => True
  | .resize size =>
      size < uintModulus ∧ (size < filter.buffer.length → filter.Aligned size)

/-- The samples held are the last ones of all samples so far. -/
structure Recent (filter : MovingAverage K) (arrived : List K) : Prop where
  sound : filter.Sound
  unsigned : filter.buffersize < uintModulus
  held : filter.held = arrived.rtake filter.held.length

theorem Recent.after_call {arrived : List K} (recent : filter.Recent arrived) {request : FilterCall K}
    (aligned : filter.AlignedCall request) (called : filter.call request = some after) :
    after.Recent (arrived ++ samples [request]) := by
  have sound := call_sound recent.sound called
  have count : filter.held.length ≤ arrived.length := by
    have length := congrArg List.length recent.held
    rw [length_rtake] at length
    omega
  cases request with
  | update value =>
      obtain ⟨⟨result, after⟩, run, rfl⟩ := Option.map_eq_some_iff.mp called
      have updated := update_spec recent.sound run
      refine ⟨sound, updated.buffersize ▸ recent.unsigned, ?_⟩
      have grown : after.held = (arrived ++ [value]).rtake
          (min filter.buffersize (filter.held.length + 1)) := by
        rw [updated.held, recent.held, length_rtake, Nat.min_eq_left count,
          ← List.rtake_concat_succ, rtake_rtake]
      rw [length_held, updated.length, ← length_held]
      exact grown
  | resize size =>
      cases called
      rw [samples, samples, List.append_nil]
      by_cases shrinks : size < filter.buffer.length
      · obtain ⟨_, buffersize, _, index, _⟩ := resize_shrinks recent.sound shrinks
        refine ⟨sound, buffersize ▸ recent.unsigned, ?_⟩
        have kept := (shrunk_eq_recent_iff recent.sound shrinks recent.unsigned).mpr
          (aligned.2 shrinks)
        have within : size ≤ filter.held.length := by
          rw [length_held]
          exact shrinks.le
        rw [length_held, length_shrunk recent.sound shrinks, MovingAverage.held, index,
          List.rotate_zero, kept, recent.held, rtake_rtake, Nat.min_eq_left within]
      · obtain ⟨_, buffersize, held, _⟩ :=
          resize_keeps recent.sound (Nat.le_of_not_lt shrinks)
        refine ⟨sound, by rw [buffersize]; exact aligned.1, ?_⟩
        rw [held]
        exact recent.held

theorem Recent.after_run {arrived : List K} {calls : List (FilterCall K)}
    (recent : filter.Recent arrived) (aligned : EveryStep call AlignedCall filter calls)
    (run : runSteps call filter calls = some after) : after.Recent (arrived ++ samples calls) := by
  induction calls generalizing filter arrived with
  | nil =>
      cases run
      rwa [samples, List.append_nil]
  | cons request rest ih =>
      obtain ⟨next, called, remaining⟩ := runSteps_cons.mp run
      have later := ih (recent.after_call aligned.1 called) (aligned.2 next called) remaining
      have split : samples (request :: rest) = samples [request] ++ samples rest := by
        cases request <;> rfl
      rwa [split, ← List.append_assoc]

/-- After calls whose shrinks were aligned, a shrink leaves the most recent
samples in the order of their arrival, and their sum, exactly if it is aligned. -/
theorem shrink_keeps_recent_iff {window : Nat} {calls : List (FilterCall K)}
    (unsigned : window < uintModulus)
    (aligned : EveryStep call AlignedCall (create window) calls)
    (run : runSteps call (create window) calls = some filter)
    (shrinks : size < filter.buffer.length) :
    ((filter.resize size).held = (samples calls).rtake size ∧
      (filter.resize size).val =
        ((samples calls).rtake size).foldl (fun sum value => sum + value) Scalar.zero) ↔
      filter.Aligned size := by
  have start : (create window : MovingAverage K).Recent [] :=
    ⟨create_sound window, unsigned, rfl⟩
  have recent : filter.Recent (samples calls) := start.after_run aligned run
  obtain ⟨_, _, _, index, val⟩ := resize_shrinks recent.sound shrinks
  have within : size ≤ filter.held.length := by
    rw [length_held]
    exact shrinks.le
  have held : (filter.resize size).held = (filter.resize size).buffer := by
    rw [MovingAverage.held, index, List.rotate_zero]
  have last : filter.held.rtake size = (samples calls).rtake size := by
    rw [recent.held, rtake_rtake, Nat.min_eq_left within]
  rw [← shrunk_eq_recent_iff recent.sound shrinks recent.unsigned, held, val, last]
  exact ⟨fun both => both.1, fun same => ⟨same, by rw [same]⟩⟩

/-- A ring of four that has wrapped once. -/
theorem shrink_keeps_recent_iff_four : ∃ filter : MovingAverage ℚ,
    runSteps call (create 4) [.update 1, .update 2, .update 3, .update 4, .update 5] =
      some filter ∧ (filter.resize 2).held = [4, 5] := by
  obtain ⟨filter, run⟩ : ∃ filter : MovingAverage ℚ, runSteps call (create 4)
      [.update 1, .update 2, .update 3, .update 4, .update 5] = some filter := ⟨_, rfl⟩
  have four : filter.buffer.length = 4 := by
    cases run
    rfl
  have aligned : filter.Aligned 2 := aligned_of_dvd (by rw [four]; decide)
  have kept := (shrink_keeps_recent_iff (by decide) (by simp [EveryStep, AlignedCall]) run
    (by rw [four]; decide)).mpr aligned
  exact ⟨filter, run, kept.1⟩

/-- Three samples in a ring of three that has not wrapped: shrinking it to two
keeps the newest and the oldest one. -/
theorem shrink_loses_recent :
    ¬ ∀ (window size : Nat) (calls : List (FilterCall ℚ)) (filter : MovingAverage ℚ),
      window < uintModulus → runSteps call (create window) calls = some filter →
      size < filter.buffer.length →
      (filter.resize size).held = (samples calls).rtake size ∧
        (filter.resize size).val =
          ((samples calls).rtake size).foldl (fun sum value => sum + value) Scalar.zero := by
  intro claim
  have kept := (claim 3 2 [.update 1, .update 2, .update 3] _ (by decide) rfl (by decide)).1
  revert kept
  decide +kernel

/-- The filter together with the last request: its size, and how many samples
the filter held when it was made. -/
structure Tracked (K : Type) where
  filter : MovingAverage K
  requested : Nat
  heldThen : Nat

/-- The constructor requests a size of a filter without samples. -/
def Tracked.start (window : Nat) : Tracked K := ⟨create window, window, 0⟩

def tracked (state : Tracked K) (request : FilterCall K) : Option (Tracked K) :=
  (state.filter.call request).map fun after =>
    match request with
    | .update _ => { state with filter := after }
    | .resize size => ⟨after, size, state.filter.held.length⟩

/-- After the call the filter holds no more samples than requested. -/
def HeldWithin (state : Tracked K) (request : FilterCall K) : Prop :=
  ∀ next, tracked state request = some next → next.filter.held.length ≤ next.requested

/-- No update comes while the last request was below the samples held at that time. -/
def UpdatedInSize (state : Tracked K) : FilterCall K → Prop
  | .update _ => ¬ state.requested < state.heldThen
  | .resize _ => True

/-- A request below the samples held then is forgotten: the buffer keeps its size
and grows back to it.  Every other request sets the size of the buffer. -/
structure Tracks (state : Tracked K) : Prop where
  sound : state.filter.Sound
  size : state.heldThen ≤ state.requested ∧ state.filter.buffersize = state.requested ∨
    state.requested < state.heldThen ∧ state.requested < state.filter.buffersize ∧
      state.requested ≤ state.filter.buffer.length

theorem Tracks.after_call {state next : Tracked K} (tracks : Tracks state)
    {request : FilterCall K} (called : tracked state request = some next) : Tracks next := by
  obtain ⟨after, run, rfl⟩ := Option.map_eq_some_iff.mp called
  have room := tracks.sound.room
  cases request with
  | update value =>
      refine ⟨call_sound tracks.sound run, ?_⟩
      obtain ⟨⟨result, after⟩, updated, rfl⟩ := Option.map_eq_some_iff.mp run
      have effect := update_spec tracks.sound updated
      have length := effect.length
      have buffersize := effect.buffersize
      rcases tracks.size with served | forgotten
      · exact .inl ⟨served.1, buffersize.trans served.2⟩
      · refine .inr ⟨forgotten.1, ?_, ?_⟩ <;> dsimp only at length buffersize ⊢ <;> omega
  | resize size =>
      refine ⟨call_sound tracks.sound run, ?_⟩
      cases run
      by_cases shrinks : size < state.filter.buffer.length
      · have buffersize := (resize_shrinks tracks.sound shrinks).2.1
        have below : size < (state.filter.resize size).buffersize := by
          rw [buffersize]
          omega
        refine .inr ⟨?_, below, (length_shrunk tracks.sound shrinks).ge⟩
        rwa [length_held]
      · have enough := Nat.le_of_not_lt shrinks
        refine .inl ⟨?_, (resize_keeps tracks.sound enough).2.1⟩
        rwa [length_held]

/-- A call leaves at most the requested samples exactly if it is no update of a
filter that has forgotten the last request. -/
theorem Tracks.heldWithin_iff {state : Tracked K} (tracks : Tracks state)
    (request : FilterCall K) : HeldWithin state request ↔ UpdatedInSize state request := by
  have room := tracks.sound.room
  cases request with
  | update value =>
      constructor
      · intro within forgotten
        have shrunk := (tracks.size.resolve_left fun served => by omega).2
        obtain ⟨result, after, updated⟩ :=
          tracks.sound.update_exists (Nat.zero_lt_of_lt shrunk.1) value
        have bound := within { state with filter := after }
          (by rw [tracked, MovingAverage.call, updated]; rfl)
        rw [length_held, (update_spec tracks.sound updated).length] at bound
        dsimp only at bound
        omega
      · intro inSize next called
        obtain ⟨_, run, rfl⟩ := Option.map_eq_some_iff.mp called
        obtain ⟨⟨result, after⟩, updated, rfl⟩ := Option.map_eq_some_iff.mp run
        have served := (tracks.size.resolve_right fun forgotten => inSize forgotten.1).2
        rw [length_held, (update_spec tracks.sound updated).length, served]
        exact Nat.min_le_left _ _
  | resize size =>
      refine iff_of_true ?_ trivial
      intro next called
      obtain ⟨_, run, rfl⟩ := Option.map_eq_some_iff.mp called
      cases run
      rw [length_held]
      by_cases shrinks : size < state.filter.buffer.length
      · exact (length_shrunk tracks.sound shrinks).le
      · obtain ⟨sound, buffersize, _⟩ := resize_keeps tracks.sound (Nat.le_of_not_lt shrinks)
        exact sound.room.trans buffersize.le

/-- In every run, the filter holds at most as many samples as requested after
every call exactly if no update comes while the last request was below the
samples held at that time. -/
theorem held_within_requested_iff (window : Nat) (calls : List (FilterCall K)) :
    EveryStep tracked HeldWithin (.start window) calls ↔
      EveryStep tracked UpdatedInSize (.start window) calls :=
  everyStep_congr Tracks (fun _ _ _ tracks called => tracks.after_call called)
    (fun _ request tracks => tracks.heldWithin_iff request)
    ⟨create_sound window, .inl ⟨Nat.zero_le _, rfl⟩⟩

/-- Shrunk from five to two while it held three samples, the filter averages
over three samples again after the next update. -/
theorem held_beyond_requested :
    ¬ ∀ (window : Nat) (calls : List (FilterCall ℚ)),
      EveryStep tracked HeldWithin (.start window) calls := by
  intro claim
  have all := claim 5 [.update 1, .update 2, .update 3, .resize 2, .update 4]
  have last := ((((all.2 _ rfl).2 _ rfl).2 _ rfl).2 _ rfl).1 _ rfl
  exact absurd last (by decide)

end MovingAverage

end CubemarsDriver
