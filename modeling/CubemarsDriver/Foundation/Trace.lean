import Mathlib.Data.List.Basic

/-! # Traces

What has happened since an event, and what has to have happened before one. -/

namespace Foundation

variable {ε : Type} {reset event : ε → Prop} {condition : List ε → Prop}
variable {trace more : List ε} {last : ε}

/-- An event of one kind, and none of the other kind since. -/
def OccursSince (reset event : ε → Prop) (trace : List ε) : Prop :=
  ∃ earlier occurrence later, trace = earlier ++ occurrence :: later ∧ event occurrence ∧
    ∀ other ∈ later, ¬ reset other

theorem OccursSince.append (occurs : OccursSince reset event trace)
    (quiet : ∀ other ∈ more, ¬ reset other) : OccursSince reset event (trace ++ more) := by
  obtain ⟨earlier, occurrence, later, rfl, happened, since⟩ := occurs
  refine ⟨earlier, occurrence, later ++ more, by simp, happened, fun other member => ?_⟩
  rcases List.mem_append.mp member with old | new
  · exact since other old
  · exact quiet other new

theorem occursSince_concat (happens : event last) : OccursSince reset event (trace ++ [last]) :=
  ⟨trace, last, [], rfl, happens, by simp⟩

/-- Every event of a kind happens when a condition on the trace before it holds. -/
def Precedes (condition : List ε → Prop) (event : ε → Prop) (trace : List ε) : Prop :=
  ∀ earlier occurrence later, trace = earlier ++ occurrence :: later → event occurrence →
    condition earlier

theorem precedes_nil : Precedes condition event [] := by
  intro earlier occurrence later split
  cases earlier <;> cases split

theorem Precedes.concat (precedes : Precedes condition event trace)
    (holds : event last → condition trace) : Precedes condition event (trace ++ [last]) := by
  intro earlier occurrence later split happens
  rcases List.eq_nil_or_concat later with rfl | ⟨rest, final, rfl⟩
  · obtain ⟨rfl, same⟩ := List.append_inj' split rfl
    cases same
    exact holds happens
  · rw [List.concat_eq_append, ← List.cons_append, ← List.append_assoc] at split
    exact precedes earlier occurrence rest (List.append_inj' split rfl).1 happens

theorem Precedes.append (precedes : Precedes condition event trace)
    (none : ∀ other ∈ more, ¬ event other) : Precedes condition event (trace ++ more) := by
  induction more generalizing trace with
  | nil => rwa [List.append_nil]
  | cons first rest ih =>
      rw [List.append_cons]
      refine ih (precedes.concat fun happens => ?_) fun other member =>
        none other (List.mem_cons_of_mem first member)
      exact absurd happens (none first List.mem_cons_self)

section Passes

variable {σ : Type} {next : σ → ε → σ} {holds : σ → Prop} {state : σ} {events : List ε}

/-- Every state that the events lead through satisfies the condition. -/
def Passes (next : σ → ε → σ) (holds : σ → Prop) : σ → List ε → Prop
  | state, [] => holds state
  | state, event :: rest => holds state ∧ Passes next holds (next state event) rest

theorem Passes.first (passes : Passes next holds state events) : holds state := by
  cases events with
  | nil => exact passes
  | cons event rest => exact passes.1

theorem Passes.finish (passes : Passes next holds state events) : holds (events.foldl next state) := by
  induction events generalizing state with
  | nil => exact passes
  | cons event rest ih => exact ih passes.2

theorem Passes.append {more : List ε} (passes : Passes next holds state events)
    (passesMore : Passes next holds (events.foldl next state) more) :
    Passes next holds state (events ++ more) := by
  induction events generalizing state with
  | nil => exact passesMore
  | cons event rest ih => exact ⟨passes.1, ih passes.2 passesMore⟩

/-- Events without an effect. -/
theorem passes_of_kept (kept : ∀ event ∈ events, next state event = state) (holding : holds state) :
    events.foldl next state = state ∧ Passes next holds state events := by
  induction events with
  | nil => exact ⟨rfl, holding⟩
  | cons event rest ih =>
      have same := kept event List.mem_cons_self
      obtain ⟨reached, passes⟩ := ih fun other member => kept other (List.mem_cons_of_mem event member)
      rw [List.foldl_cons, Passes, same]
      exact ⟨reached, holding, passes⟩

end Passes

section Replays

variable {σ : Type} {next : σ → ε → σ} {allows : σ → ε → Prop} {state middle final : σ}
variable {events more : List ε}

/-- Every event is allowed where it happens, and they lead from one state to the other. -/
def Replays (allows : σ → ε → Prop) (next : σ → ε → σ) : σ → List ε → σ → Prop
  | state, [], final => state = final
  | state, event :: rest, final => allows state event ∧ Replays allows next (next state event) rest final

theorem Replays.append (first : Replays allows next state events middle)
    (rest : Replays allows next middle more final) : Replays allows next state (events ++ more) final := by
  induction events generalizing state with
  | nil =>
      cases first
      exact rest
  | cons event events ih => exact ⟨first.1, ih first.2⟩

/-- A part of the state that events change and allow on its own. -/
theorem Replays.map {τ : Type} {part : σ → τ} {nextPart : τ → ε → τ} {allowsPart : τ → ε → Prop}
    (replays : Replays allows next state events final)
    (allowed : ∀ state event, allows state event → allowsPart (part state) event)
    (follows : ∀ state event, part (next state event) = nextPart (part state) event) :
    Replays allowsPart nextPart (part state) events (part final) := by
  induction events generalizing state with
  | nil => exact congrArg part replays
  | cons event events ih =>
      refine ⟨allowed state event replays.1, ?_⟩
      rw [← follows]
      exact ih replays.2

end Replays

end Foundation
