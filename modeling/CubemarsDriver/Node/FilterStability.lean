import CubemarsDriver.Foundation.Descent
import CubemarsDriver.Node.Constraints

namespace CubemarsDriver

open Foundation Filter Topology

/-! # Stability of the alpha-beta filter

The gains that the runtime validator admits make the filter forget any initial
state when it follows a joint that moves at constant velocity. -/

/-- The arithmetic of the driver over the reals. -/
noncomputable instance instScalarReal : Scalar ℝ where
  ofRat value := value
  truncate value := if value < 0 then ⌈value⌉ else ⌊value⌋
  decidableLT := inferInstance
  decidableLE := inferInstance

namespace AlphaBetaFilter

/-- The filter after a number of updates with the positions of a joint that starts
at `start` and moves at `velocity`. -/
noncomputable def following (filter : AlphaBetaFilter ℝ) (start velocity dt : ℝ) :
    ℕ → AlphaBetaFilter ℝ
  | 0 => filter
  | count + 1 =>
      (filter.following start velocity dt count).update
        (start + velocity * ((count + 1 : ℕ) * dt)) dt

noncomputable def positionError (filter : AlphaBetaFilter ℝ) (start velocity dt : ℝ)
    (count : ℕ) : ℝ :=
  start + velocity * (count * dt) - (filter.following start velocity dt count).x

noncomputable def velocityError (filter : AlphaBetaFilter ℝ) (start velocity dt : ℝ)
    (count : ℕ) : ℝ :=
  velocity - (filter.following start velocity dt count).v

/-- The residual of the next update. -/
noncomputable def nextResidual (filter : AlphaBetaFilter ℝ) (start velocity dt : ℝ)
    (count : ℕ) : ℝ :=
  filter.positionError start velocity dt count + dt * filter.velocityError start velocity dt count

variable {filter : AlphaBetaFilter ℝ} {start velocity dt : ℝ} {count : ℕ}

theorem update_gains (filter : AlphaBetaFilter ℝ) (measurement dt : ℝ) :
    (filter.update measurement dt).alpha = filter.alpha ∧
      (filter.update measurement dt).beta = filter.beta := by
  unfold update
  split <;> exact ⟨rfl, rfl⟩

theorem update_initialized (filter : AlphaBetaFilter ℝ) (measurement dt : ℝ) :
    (filter.update measurement dt).initialized = true := by
  unfold update
  split
  · rfl
  · rename_i running
    exact not_not.mp (not_or.mp running).1

theorem following_gains (filter : AlphaBetaFilter ℝ) (start velocity dt : ℝ) (count : ℕ) :
    (filter.following start velocity dt count).alpha = filter.alpha ∧
      (filter.following start velocity dt count).beta = filter.beta := by
  induction count with
  | zero => exact ⟨rfl, rfl⟩
  | succ count ih =>
      obtain ⟨alpha, beta⟩ := update_gains (filter.following start velocity dt count)
        (start + velocity * ((count + 1 : ℕ) * dt)) dt
      exact ⟨alpha.trans ih.1, beta.trans ih.2⟩

theorem update_running (measurement : ℝ) (initialized : filter.initialized = true)
    (positive : 0 < dt) :
    (filter.update measurement dt).x =
        filter.x + filter.v * dt + filter.alpha * (measurement - (filter.x + filter.v * dt)) ∧
      (filter.update measurement dt).v =
        filter.v + filter.beta / dt * (measurement - (filter.x + filter.v * dt)) := by
  have running : ¬ (¬ filter.initialized = true ∨ dt ≤ (Scalar.zero : ℝ)) := by
    rintro (fresh | stopped)
    · exact fresh initialized
    · have zero : (Scalar.zero : ℝ) = 0 := Rat.cast_zero
      rw [zero] at stopped
      exact absurd stopped (not_le.mpr positive)
  rw [update, if_neg running]
  exact ⟨rfl, rfl⟩

/-- What an update of a running filter does to its errors. -/
theorem errors_step (start velocity : ℝ) (positive : 0 < dt)
    (running : (filter.following start velocity dt count).initialized = true) :
    filter.positionError start velocity dt (count + 1) =
        (1 - filter.alpha) * filter.nextResidual start velocity dt count ∧
      dt * filter.velocityError start velocity dt (count + 1) =
        dt * filter.velocityError start velocity dt count -
          filter.beta * filter.nextResidual start velocity dt count := by
  obtain ⟨position, speed⟩ :=
    update_running (start + velocity * ((count + 1 : ℕ) * dt)) running positive
  obtain ⟨alpha, beta⟩ := following_gains filter start velocity dt count
  have nonzero : dt ≠ 0 := positive.ne'
  simp only [positionError, velocityError, nextResidual, following, position, speed, alpha, beta]
  constructor
  · push_cast
    ring
  · push_cast
    field_simp
    ring

theorem following_initialized (filter : AlphaBetaFilter ℝ) (start velocity dt : ℝ) (count : ℕ) :
    (filter.following start velocity dt (count + 1)).initialized = true :=
  update_initialized _ _ _

/-- The predicted position error and the scaled velocity error follow the
second-order recurrence from the first update on. -/
theorem residual_tendsto_zero (constrained : Node.FilterConstrained filter.alpha filter.beta)
    (positive : 0 < dt) (start velocity : ℝ) :
    Tendsto (filter.nextResidual start velocity dt) atTop (𝓝 0) ∧
      Tendsto (fun count => dt * filter.velocityError start velocity dt count) atTop (𝓝 0) := by
  have zero : (Scalar.zero : ℝ) = 0 := Rat.cast_zero
  have one : (Scalar.one : ℝ) = 1 := Rat.cast_one
  have two : (Scalar.ofRat 2 : ℝ) = 2 := Rat.cast_ofNat 2
  have alphaPositive : 0 < filter.alpha := zero ▸ constrained.alphaPositive
  have alphaBounded : filter.alpha ≤ 1 := one ▸ constrained.alphaBounded
  have betaPositive : 0 < filter.beta := zero ▸ constrained.betaPositive
  have betaBounded : filter.beta < 2 * filter.alpha := two ▸ constrained.betaBounded
  have steps := fun count => errors_step start velocity positive
    (following_initialized filter start velocity dt count)
  have residualStep : ∀ count, filter.nextResidual start velocity dt (count + 1 + 1) =
      (1 - filter.alpha - filter.beta) * filter.nextResidual start velocity dt (count + 1) +
        dt * filter.velocityError start velocity dt (count + 1) := by
    intro count
    rw [nextResidual, (steps count).1, (steps count).2]
    ring
  obtain ⟨residuals, drifts⟩ := recurrence_tendsto_zero
    (fun count => filter.nextResidual start velocity dt (count + 1))
    (fun count => dt * filter.velocityError start velocity dt (count + 1))
    alphaPositive betaPositive (by linarith) residualStep fun count => (steps count).2
  exact ⟨(tendsto_add_atTop_iff_nat 1).mp residuals, (tendsto_add_atTop_iff_nat 1).mp drifts⟩

/-- Without an error there is none after an update. -/
theorem errors_kept_zero (positive : 0 < dt)
    (running : (filter.following start velocity dt count).initialized = true)
    (position : filter.positionError start velocity dt count = 0)
    (speed : filter.velocityError start velocity dt count = 0) :
    filter.positionError start velocity dt (count + 1) = 0 ∧
      filter.velocityError start velocity dt (count + 1) = 0 := by
  have residual : filter.nextResidual start velocity dt count = 0 := by
    rw [nextResidual, position, speed, mul_zero, add_zero]
  obtain ⟨positionStep, velocityStep⟩ := errors_step start velocity positive running
  rw [residual, mul_zero] at positionStep velocityStep
  rw [speed, mul_zero, sub_zero] at velocityStep
  exact ⟨positionStep, (mul_eq_zero.mp velocityStep).resolve_left positive.ne'⟩

/-- With admitted gains, the errors of the filter tend to zero from any state,
and an estimate without error keeps none. -/
theorem errors_tendsto_zero (constrained : Node.FilterConstrained filter.alpha filter.beta)
    (positive : 0 < dt) (start velocity : ℝ) :
    Tendsto (filter.positionError start velocity dt) atTop (𝓝 0) ∧
    Tendsto (filter.velocityError start velocity dt) atTop (𝓝 0) ∧
    ∀ since, (filter.following start velocity dt since).initialized = true →
      filter.positionError start velocity dt since = 0 →
      filter.velocityError start velocity dt since = 0 →
      ∀ later, filter.positionError start velocity dt (since + later) = 0 ∧
        filter.velocityError start velocity dt (since + later) = 0 := by
  obtain ⟨residuals, drifts⟩ :=
    residual_tendsto_zero constrained positive start velocity
  refine ⟨?position, ?velocity, ?kept⟩
  case position =>
    have steps : ∀ count, filter.positionError start velocity dt (count + 2) =
        (1 - filter.alpha) * filter.nextResidual start velocity dt (count + 1) := fun count =>
      (errors_step start velocity positive (following_initialized filter start velocity dt count)).1
    rw [← tendsto_add_atTop_iff_nat 2]
    simp only [steps]
    have scaled := ((tendsto_add_atTop_iff_nat 1).mpr residuals).const_mul (1 - filter.alpha)
    rwa [mul_zero] at scaled
  case velocity =>
    have divided := drifts.div_const dt
    simpa [mul_div_cancel_left₀ _ positive.ne'] using divided
  case kept =>
    intro since running position speed later
    have all : (filter.following start velocity dt (since + later)).initialized = true ∧
        filter.positionError start velocity dt (since + later) = 0 ∧
        filter.velocityError start velocity dt (since + later) = 0 := by
      induction later with
      | zero => exact ⟨running, position, speed⟩
      | succ later ih =>
          obtain ⟨runningNow, positionNow, speedNow⟩ := ih
          exact ⟨following_initialized .., errors_kept_zero positive runningNow positionNow speedNow⟩
    exact all.2

/-- The default gains, from a filter that has not seen the joint. -/
theorem errors_tendsto_zero_default :
    Tendsto ((create 0.85 0.005 : AlphaBetaFilter ℝ).positionError 1 2 0.01) atTop (𝓝 0) := by
  have constrained : Node.FilterConstrained (create 0.85 0.005 : AlphaBetaFilter ℝ).alpha
      (create 0.85 0.005 : AlphaBetaFilter ℝ).beta := by
    constructor <;> simp only [create, Scalar.zero, Scalar.one, Scalar.ofRat] <;> norm_num
  exact (errors_tendsto_zero constrained (by norm_num) 1 2).1

end AlphaBetaFilter

end CubemarsDriver
