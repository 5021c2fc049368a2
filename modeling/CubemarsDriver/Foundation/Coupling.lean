import CubemarsDriver.Foundation.Path

/-! # One path from two states

The runs of a path from two states are coupled if they end alike: both return the
same value, throw the same exception or are undefined.  Where they end, the states
are related again. -/

namespace Foundation.Path

variable {σ ε α β : Type}

/-- How two runs that end alike leave their states related. -/
def Outcome.Relates (after raised : σ → σ → Prop) (left right : σ) : Outcome ε α → Prop
  | .returned _ => after left right
  | .thrown _ => raised left right
  | .undefined => True

def Couples (before : σ → σ → Prop) (path : Path σ ε α) (after raised : σ → σ → Prop) : Prop :=
  ∀ state state', before state state' → ∃ outcome left right, path.run state = (outcome, left) ∧
    path.run state' = (outcome, right) ∧ Outcome.Relates after raised left right outcome

namespace Couples

variable {before middle after raised : σ → σ → Prop} {path : Path σ ε α}

theorem same_outcome (couples : Couples before path after raised) {state state' : σ}
    (related : before state state') : (path.run state).1 = (path.run state').1 := by
  obtain ⟨outcome, left, right, run, run', _⟩ := couples state state' related
  rw [run, run']

theorem consequence {stronger weaker weakerRaised : σ → σ → Prop}
    (couples : Couples before path after raised)
    (strengthen : ∀ state state', stronger state state' → before state state')
    (weaken : ∀ state state', after state state' → weaker state state')
    (weakenRaised : ∀ state state', raised state state' → weakerRaised state state') :
    Couples stronger path weaker weakerRaised := by
  intro state state' related
  obtain ⟨outcome, left, right, run, run', ends⟩ := couples state state' (strengthen _ _ related)
  refine ⟨outcome, left, right, run, run', ?_⟩
  cases outcome with
  | returned value => exact weaken _ _ ends
  | thrown exception => exact weakenRaised _ _ ends
  | undefined => trivial

theorem pure (value : α) : Couples before (Pure.pure value : Path σ ε α) before raised :=
  fun state state' related => ⟨.returned value, state, state', rfl, rfl, related⟩

theorem throw (exception : ε) : Couples raised (Path.throw exception : Path σ ε α) after raised :=
  fun state state' related => ⟨.thrown exception, state, state', rfl, rfl, related⟩

theorem read {component : σ → α}
    (same : ∀ state state', before state state' → component state = component state') :
    Couples before (Path.read component : Path σ ε α) before raised :=
  fun state state' related =>
    ⟨.returned (component state), state, state', rfl, by rw [same _ _ related, read_run], related⟩

theorem update {change : σ → σ}
    (related : ∀ state state', before state state' → after (change state) (change state')) :
    Couples before (Path.update change : Path σ ε Unit) after raised :=
  fun state state' both => ⟨.returned (), change state, change state', rfl, rfl, related _ _ both⟩

theorem element {found : σ → Option α}
    (same : ∀ state state', before state state' → found state = found state') :
    Couples before (Path.element found : Path σ ε α) before raised := by
  intro state state' related
  cases there : found state with
  | none =>
      exact ⟨.undefined, state, state', element_none there,
        element_none ((same _ _ related).symm.trans there), trivial⟩
  | some value =>
      exact ⟨.returned value, state, state', element_some there,
        element_some ((same _ _ related).symm.trans there), related⟩

theorem updateDefined {change : σ → Option σ}
    (related : ∀ state state', before state state' →
      Option.Rel after (change state) (change state')) :
    Couples before (Path.updateDefined change : Path σ ε Unit) after raised := by
  intro state state' both
  have changes := related state state' both
  cases changed : change state with
  | none =>
      rw [changed] at changes
      cases changed' : change state' with
      | none =>
          exact ⟨.undefined, state, state', updateDefined_none changed, updateDefined_none changed',
            trivial⟩
      | some other =>
          rw [changed'] at changes
          cases changes
  | some left =>
      rw [changed] at changes
      cases changed' : change state' with
      | none =>
          rw [changed'] at changes
          cases changes
      | some right =>
          rw [changed'] at changes
          cases changes with
          | some ends =>
              exact ⟨.returned (), left, right, updateDefined_some changed,
                updateDefined_some changed', ends⟩

/-- The rest of a path goes on with a value that its first part can return. -/
theorem bind_reached {next : α → Path σ ε β} (first : Couples before path middle raised)
    (rest : ∀ value, (∃ state ended, path.run state = (.returned value, ended)) →
      Couples middle (next value) after raised) :
    Couples before (path >>= next) after raised := by
  intro state state' related
  obtain ⟨outcome, left, right, run, run', ends⟩ := first state state' related
  cases outcome with
  | returned value =>
      rw [bind_returned run, bind_returned run']
      exact rest value ⟨state, left, run⟩ left right ends
  | thrown exception => exact ⟨_, left, right, bind_thrown run, bind_thrown run', ends⟩
  | undefined => exact ⟨_, left, right, bind_undefined run, bind_undefined run', trivial⟩

theorem bind {next : α → Path σ ε β} (first : Couples before path middle raised)
    (rest : ∀ value, Couples middle (next value) after raised) :
    Couples before (path >>= next) after raised := bind_reached first fun value _ => rest value

/-- What is read may differ if the rest of the path does not tell the values apart. -/
theorem read_indistinct {component : σ → α} {next : α → Path σ ε β}
    (same : ∀ state state', before state state' → next (component state) = next (component state'))
    (rest : ∀ value, Couples before (next value) after raised) :
    Couples before (Path.read component >>= next) after raised := by
  intro state state' related
  rw [read_bind, read_bind, same state state' related]
  exact rest _ state state' related

theorem attempt (couples : Couples before path after after) :
    Couples before (Path.attempt path) after raised := by
  intro state state' related
  obtain ⟨outcome, left, right, run, run', ends⟩ := couples state state' related
  cases outcome with
  | returned value => exact ⟨_, left, right, attempt_returned run, attempt_returned run', ends⟩
  | thrown exception => exact ⟨_, left, right, attempt_thrown run, attempt_thrown run', ends⟩
  | undefined => exact ⟨_, left, right, attempt_undefined run, attempt_undefined run', trivial⟩

theorem tryCatch {handler : ε → Path σ ε α} (body : Couples before path after middle)
    (handled : ∀ exception, Couples middle (handler exception) after raised) :
    Couples before (Path.tryCatch path handler) after raised := by
  intro state state' related
  obtain ⟨outcome, left, right, run, run', ends⟩ := body state state' related
  cases outcome with
  | returned value => exact ⟨_, left, right, tryCatch_returned run, tryCatch_returned run', ends⟩
  | thrown exception =>
      rw [tryCatch_thrown run, tryCatch_thrown run']
      exact handled exception left right ends
  | undefined => exact ⟨_, left, right, tryCatch_undefined run, tryCatch_undefined run', trivial⟩

theorem ite {condition : Prop} [Decidable condition] {otherwise : Path σ ε α}
    (isTrue : condition → Couples before path after raised)
    (isFalse : ¬ condition → Couples before otherwise after raised) :
    Couples before (if condition then path else otherwise) after raised := by
  split
  · exact isTrue ‹_›
  · exact isFalse ‹_›

theorem when {condition : Prop} [Decidable condition] {path : Path σ ε Unit}
    (isTrue : condition → Couples before path before raised) :
    Couples before (Path.when condition path) before raised := ite isTrue fun _ => pure ()

theorem loopBelow {size : σ → Nat} {body : Nat → Path σ ε Unit}
    (sized : ∀ state state', before state state' → size state = size state')
    (step : ∀ index, Couples before (body index) before raised) :
    Couples before (Path.loopBelow size body) before raised := by
  suffices rest : ∀ fuel index, Couples before (loopFrom size body fuel index) before raised from
    bind (read sized) fun fuel => rest fuel 0
  intro fuel
  induction fuel with
  | zero => exact fun _ => pure ()
  | succ fuel ih =>
      intro index
      exact bind (read sized) fun _ => ite (fun _ => bind (step index) fun _ => ih (index + 1))
        fun _ => pure ()

end Couples

end Foundation.Path
