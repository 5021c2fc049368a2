import Mathlib.Data.List.Basic

/-! # Runs of interleaved atomic steps

A concurrent system is given by its partial step function: an action names the
thread that moves and the choice the environment makes, and `none` means that
the action is not enabled (a blocked lock, a join that waits).  A run is a list
of actions, so every order of the threads' steps is a run.
-/

namespace Foundation

variable {State Action : Type}

/-- Perform the actions in order; `none` if one of them is not enabled. -/
def runSteps (step : State → Action → Option State) : State → List Action → Option State
  | state, [] => some state
  | state, action :: rest =>
      match step state action with
      | some next => runSteps step next rest
      | none => none

/-- Every step of the run satisfies `allowed` in the state it is taken from. -/
def EveryStep (step : State → Action → Option State) (allowed : State → Action → Prop) :
    State → List Action → Prop
  | _, [] => True
  | state, action :: rest =>
      allowed state action ∧ ∀ next, step state action = some next → EveryStep step allowed next rest

variable {step : State → Action → Option State} {allowed : State → Action → Prop}
variable {start middle finish : State} {action : Action} {first rest actions : List Action}

@[simp] theorem runSteps_nil : runSteps step start [] = some start := rfl

theorem runSteps_cons : runSteps step start (action :: rest) = some finish ↔
    ∃ next, step start action = some next ∧ runSteps step next rest = some finish := by
  cases taken : step start action <;> simp [runSteps, taken]

theorem runSteps_append : runSteps step start (first ++ rest) = some finish ↔
    ∃ middle, runSteps step start first = some middle ∧
      runSteps step middle rest = some finish := by
  induction first generalizing start with
  | nil => simp
  | cons action first ih =>
      simp only [List.cons_append, runSteps_cons, ih]
      constructor
      · rintro ⟨next, taken, middle, before, after⟩
        exact ⟨middle, ⟨next, taken, before⟩, after⟩
      · rintro ⟨middle, ⟨next, taken, before⟩, after⟩
        exact ⟨next, taken, middle, before, after⟩

theorem EveryStep.append_left (all : EveryStep step allowed start (first ++ rest)) :
    EveryStep step allowed start first := by
  induction first generalizing start with
  | nil => trivial
  | cons action first ih => exact ⟨all.1, fun next taken => ih (all.2 next taken)⟩

theorem EveryStep.append (all : EveryStep step allowed start first)
    (others : ∀ middle, runSteps step start first = some middle → EveryStep step allowed middle rest) :
    EveryStep step allowed start (first ++ rest) := by
  induction first generalizing start with
  | nil => exact others start rfl
  | cons action first ih =>
      refine ⟨all.1, fun next taken => ih (all.2 next taken) fun middle run => ?_⟩
      exact others middle (runSteps_cons.mpr ⟨next, taken, run⟩)

theorem everyStep_true : EveryStep step (fun _ _ => True) start actions := by
  induction actions generalizing start with
  | nil => trivial
  | cons action rest ih => exact ⟨trivial, fun _ _ => ih⟩

theorem everyStep_of_mem {admitted : Action → Prop} (all : ∀ action ∈ actions, admitted action) :
    EveryStep step (fun _ => admitted) start actions := by
  induction actions generalizing start with
  | nil => trivial
  | cons action rest ih =>
      exact ⟨all action List.mem_cons_self, fun _ _ => ih fun other member => all other (.tail _ member)⟩

/-- Two conditions on steps that agree wherever an invariant holds. -/
theorem everyStep_congr {other : State → Action → Prop} (invariant : State → Prop)
    (kept : ∀ state action next, invariant state → step state action = some next → invariant next)
    (same : ∀ state action, invariant state → (allowed state action ↔ other state action))
    (initial : invariant start) :
    EveryStep step allowed start actions ↔ EveryStep step other start actions := by
  induction actions generalizing start with
  | nil => exact Iff.rfl
  | cons action rest ih =>
      apply and_congr (same start action initial)
      apply forall_congr'
      intro next
      apply forall_congr'
      intro taken
      exact ih (kept start action next initial taken)

/-- The invariant rule: what holds initially and is kept by every allowed step
holds at the end of every run of allowed steps. -/
theorem invariant_of_run {invariant : State → Prop}
    (kept : ∀ state action next, invariant state → allowed state action →
      step state action = some next → invariant next)
    (initial : invariant start) (all : EveryStep step allowed start actions)
    (run : runSteps step start actions = some finish) : invariant finish := by
  induction actions generalizing start with
  | nil =>
      cases run
      exact initial
  | cons action rest ih =>
      obtain ⟨next, taken, remaining⟩ := runSteps_cons.mp run
      exact ih (kept start action next initial all.1 taken) (all.2 next taken) remaining

section Events

variable {Event : Type} {observe : State → Action → Option Event}

/-- What is observed of the steps of a run, in order. -/
def eventsAlong (step : State → Action → Option State) (observe : State → Action → Option Event) :
    State → List Action → List Event
  | _, [] => []
  | state, action :: rest =>
      (observe state action).toList ++ ((step state action).map fun next =>
        eventsAlong step observe next rest).getD []

/-- The invariant rule for what holds of a state and of the events that have led to it. -/
theorem invariant_of_events {invariant : State → List Event → Prop} {past : List Event}
    (kept : ∀ state past action next, invariant state past → allowed state action →
      step state action = some next → invariant next (past ++ (observe state action).toList))
    (initial : invariant start past) (all : EveryStep step allowed start actions)
    (run : runSteps step start actions = some finish) :
    invariant finish (past ++ eventsAlong step observe start actions) := by
  induction actions generalizing start past with
  | nil =>
      cases run
      rw [eventsAlong, List.append_nil]
      exact initial
  | cons action rest ih =>
      obtain ⟨next, taken, remaining⟩ := runSteps_cons.mp run
      rw [eventsAlong, taken, Option.map_some, Option.getD_some, ← List.append_assoc]
      exact ih (kept start past action next initial all.1 taken) (all.2 next taken) remaining

end Events

end Foundation
