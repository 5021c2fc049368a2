import Mathlib.Analysis.SpecificLimits.Basic
import Mathlib.Analysis.SpecialFunctions.Sqrt
import Mathlib.Tactic.Linarith

/-! # Descent

A quantity that is never negative and loses a part of a square at every step
forces the squared sequence to zero.  This settles the second-order recurrence of
a predictor that corrects a position and a velocity by the same residual.
-/

namespace Foundation

open Filter Topology

variable {energy : ℕ → ℝ} {residual : ℕ → ℝ} {rate : ℝ}

theorem tendsto_zero_of_descent (positive : 0 < rate) (bounded : ∀ n, 0 ≤ energy n)
    (descends : ∀ n, energy (n + 1) + rate * residual n ^ 2 ≤ energy n) :
    Tendsto residual atTop (𝓝 0) := by
  have decreasing : Antitone energy := by
    apply antitone_nat_of_succ_le
    intro n
    have loss : 0 ≤ rate * residual n ^ 2 := mul_nonneg positive.le (sq_nonneg _)
    linarith [descends n]
  have below : BddBelow (Set.range energy) := by
    refine ⟨0, ?_⟩
    rintro _ ⟨n, rfl⟩
    exact bounded n
  have limit := tendsto_atTop_ciInf decreasing below
  have losses : Tendsto (fun n => (energy n - energy (n + 1)) / rate) atTop (𝓝 0) := by
    have next := (tendsto_add_atTop_iff_nat 1).mpr limit
    simpa using (limit.sub next).div_const rate
  have squares : Tendsto (fun n => residual n ^ 2) atTop (𝓝 0) := by
    refine squeeze_zero (fun n => sq_nonneg _) (fun n => ?_) losses
    rw [le_div_iff₀ positive]
    linarith [descends n]
  have sizes : Tendsto (fun n => |residual n|) atTop (𝓝 0) := by
    have roots := (Real.continuous_sqrt.tendsto 0).comp squares
    simpa [Function.comp_def, Real.sqrt_sq_eq_abs] using roots
  exact tendsto_zero_iff_abs_tendsto_zero _ |>.mpr sizes

section Recurrence

variable {alpha beta : ℝ}

/-- A quadratic form of the residual and the drift that every step decreases. -/
noncomputable def recurrenceEnergy (alpha beta residual drift : ℝ) : ℝ :=
  2 * beta * (residual - drift / 2) ^ 2 + (2 - alpha - beta / 2) * drift ^ 2

theorem recurrenceEnergy_nonneg (betaPositive : 0 < beta) (stable : alpha + beta / 2 < 2)
    (residual drift : ℝ) : 0 ≤ recurrenceEnergy alpha beta residual drift := by
  have first : 0 ≤ 2 * beta * (residual - drift / 2) ^ 2 :=
    mul_nonneg (by linarith) (sq_nonneg _)
  have second : 0 ≤ (2 - alpha - beta / 2) * drift ^ 2 :=
    mul_nonneg (by linarith) (sq_nonneg _)
  exact add_nonneg first second

theorem recurrenceEnergy_step (alpha beta residual drift : ℝ) :
    recurrenceEnergy alpha beta ((1 - alpha - beta) * residual + drift) (drift - beta * residual) +
        alpha * beta * (4 - 2 * alpha - beta) * residual ^ 2 =
      recurrenceEnergy alpha beta residual drift := by
  unfold recurrenceEnergy
  ring

/-- The residual and the drift tend to zero for all gains of the stable region. -/
theorem recurrence_tendsto_zero (residual drift : ℕ → ℝ) (alphaPositive : 0 < alpha)
    (betaPositive : 0 < beta) (stable : alpha + beta / 2 < 2)
    (residualStep : ∀ n, residual (n + 1) = (1 - alpha - beta) * residual n + drift n)
    (driftStep : ∀ n, drift (n + 1) = drift n - beta * residual n) :
    Tendsto residual atTop (𝓝 0) ∧ Tendsto drift atTop (𝓝 0) := by
  have rate : 0 < alpha * beta * (4 - 2 * alpha - beta) :=
    mul_pos (mul_pos alphaPositive betaPositive) (by linarith)
  have residuals : Tendsto residual atTop (𝓝 0) := by
    apply tendsto_zero_of_descent rate
      (fun n => recurrenceEnergy_nonneg betaPositive stable (residual n) (drift n))
    intro n
    rw [residualStep, driftStep, recurrenceEnergy_step]
  refine ⟨residuals, ?_⟩
  have difference : drift = fun n => residual (n + 1) - (1 - alpha - beta) * residual n := by
    funext n
    rw [residualStep]
    ring
  have next := (tendsto_add_atTop_iff_nat 1).mpr residuals
  rw [difference]
  simpa using next.sub (residuals.const_mul (1 - alpha - beta))

end Recurrence

end Foundation
