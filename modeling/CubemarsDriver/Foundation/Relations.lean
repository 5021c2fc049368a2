import CubemarsDriver.Foundation.Path
import Mathlib.Order.Defs.Unbundled

/-! # Paths that relate states

A path evolves its state along a relation if the states before and after it are
related however it ends, and it simulates another path if both end alike from
related states and leave related states. -/

namespace Foundation.Path

variable {σ τ ε α β γ : Type}

def Evolves (relation : σ → σ → Prop) (path : Path σ ε α) : Prop :=
  ∀ state, relation state (path.run state).2

namespace Evolves

variable {relation : σ → σ → Prop} {path : Path σ ε α} {state after : σ}

theorem of_run (evolves : Evolves relation path) {outcome : Outcome ε α}
    (run : path.run state = (outcome, after)) : relation state after := by
  have related := evolves state
  rwa [run] at related

theorem update {change : σ → σ} (related : ∀ state, relation state (change state)) :
    Evolves relation (Path.update change : Path σ ε Unit) := related

theorem weaken {weaker : σ → σ → Prop} (evolves : Evolves relation path)
    (implies : ∀ before after, relation before after → weaker before after) :
    Evolves weaker path := fun state => implies _ _ (evolves state)

theorem attempt (evolves : Evolves relation path) : Evolves relation (Path.attempt path) := by
  intro state
  have related := evolves state
  cases run : path.run state with
  | mk outcome after =>
      rw [run] at related
      cases outcome <;> simpa only [Path.attempt, run] using related

theorem ite {condition : Prop} [Decidable condition] {otherwise : Path σ ε α}
    (isTrue : condition → Evolves relation path)
    (isFalse : ¬ condition → Evolves relation otherwise) :
    Evolves relation (if condition then path else otherwise) := by
  split
  · exact isTrue ‹_›
  · exact isFalse ‹_›

section Preorder

variable [IsPreorder σ relation]

theorem pure (value : α) : Evolves relation (Pure.pure value : Path σ ε α) := refl_of relation

theorem throw (exception : ε) : Evolves relation (Path.throw exception : Path σ ε α) :=
  refl_of relation

theorem read (component : σ → α) : Evolves relation (Path.read component : Path σ ε α) :=
  refl_of relation

theorem element (found : σ → Option α) : Evolves relation (Path.element found : Path σ ε α) := by
  intro state
  rw [element_run]
  cases found state <;> exact refl_of relation state

theorem updateDefined {change : σ → Option σ}
    (related : ∀ state after, change state = some after → relation state after) :
    Evolves relation (Path.updateDefined change : Path σ ε Unit) := by
  intro state
  rw [updateDefined_run]
  cases changed : change state with
  | none => exact refl_of relation state
  | some after => exact related state after changed

/-- An update that is defined where it finds something. -/
theorem updateFound {found : σ → Option α} {change : σ → α → σ}
    (related : ∀ state value, relation state (change state value)) :
    Evolves relation
      (Path.updateDefined fun state => (found state).map (change state) : Path σ ε Unit) := by
  refine updateDefined fun state after changed => ?_
  obtain ⟨value, _, rfl⟩ := Option.map_eq_some_iff.mp changed
  exact related state value

/-- The rest of a path goes on with a value that its first part can return. -/
theorem bind_reached {next : α → Path σ ε β} (first : Evolves relation path)
    (rest : ∀ value, (∃ state after, path.run state = (.returned value, after)) →
      Evolves relation (next value)) : Evolves relation (path >>= next) := by
  intro state
  have before := first state
  rw [bind_run]
  cases run : path.run state with
  | mk outcome middle =>
      rw [run] at before
      cases outcome with
      | returned value => exact trans_of relation before (rest value ⟨state, middle, run⟩ middle)
      | thrown exception => exact before
      | undefined => exact before

theorem bind {next : α → Path σ ε β} (first : Evolves relation path)
    (rest : ∀ value, Evolves relation (next value)) : Evolves relation (path >>= next) :=
  bind_reached first fun value _ => rest value

theorem tryCatch {handler : ε → Path σ ε α} (body : Evolves relation path)
    (handled : ∀ exception, Evolves relation (handler exception)) :
    Evolves relation (Path.tryCatch path handler) :=
  bind (attempt body) fun
    | .ok _ => pure _
    | .error exception => handled exception

theorem when {condition : Prop} [Decidable condition] {path : Path σ ε Unit}
    (isTrue : condition → Evolves relation path) : Evolves relation (Path.when condition path) :=
  ite isTrue fun _ => pure ()

theorem forEach {ι : Type} {body : ι → Path σ ε Unit} (step : ∀ item, Evolves relation (body item))
    (items : List ι) : Evolves relation (Path.forEach body items) := by
  induction items with
  | nil => exact pure ()
  | cons item rest ih => exact bind (step item) fun _ => ih

theorem loopBelow {size : σ → Nat} {body : Nat → Path σ ε Unit}
    (step : ∀ index, Evolves relation (body index)) :
    Evolves relation (Path.loopBelow size body) := by
  suffices rest : ∀ fuel index, Evolves relation (loopFrom size body fuel index) by
    intro state
    exact rest (size state) 0 state
  intro fuel
  induction fuel with
  | zero => exact fun _ => pure ()
  | succ fuel ih =>
      intro index
      exact bind (read size) fun _ => ite (fun _ => bind (step index) fun _ => ih (index + 1))
        fun _ => pure ()

end Preorder

end Evolves

def Unchanged (component : σ → γ) (before after : σ) : Prop := component after = component before

instance (component : σ → γ) : IsPreorder σ (Unchanged component) where
  refl _ := rfl
  trans _ _ _ first second := Eq.trans second first

/-- The path leaves a component alone, however it ends. -/
abbrev Preserves (component : σ → γ) (path : Path σ ε α) : Prop := Evolves (Unchanged component) path

theorem Preserves.of_run {component : σ → γ} {path : Path σ ε α} {state after : σ}
    {outcome : Outcome ε α} (preserves : Preserves component path)
    (run : path.run state = (outcome, after)) : component after = component state := by
  have unchanged : Unchanged component state after := Evolves.of_run preserves run
  exact unchanged

/-- A sequence either ends with its first part, which left the component alone, or goes on. -/
theorem Preserves.bind_cases {component : σ → γ} {path : Path σ ε α} {next : α → Path σ ε β}
    {state after : σ} {outcome : Outcome ε β} (preserves : Preserves component path)
    (run : (path >>= next).run state = (outcome, after)) :
    (component after = component state ∧ ∀ value, outcome ≠ .returned value) ∨
      ∃ value middle, path.run state = (.returned value, middle) ∧
        (next value).run middle = (outcome, after) := by
  cases first : path.run state with
  | mk ended middle =>
      cases ended with
      | returned value => exact .inr ⟨value, middle, rfl, by rwa [bind_returned first] at run⟩
      | thrown exception =>
          rw [bind_thrown first, Prod.mk.injEq] at run
          obtain ⟨rfl, rfl⟩ := run
          exact .inl ⟨preserves.of_run first, nofun⟩
      | undefined =>
          rw [bind_undefined first, Prod.mk.injEq] at run
          obtain ⟨rfl, rfl⟩ := run
          exact .inl ⟨preserves.of_run first, nofun⟩

def Implied (fact : σ → Prop) (before after : σ) : Prop := fact before → fact after

instance (fact : σ → Prop) : IsPreorder σ (Implied fact) where
  refl _ := id
  trans _ _ _ first second := second ∘ first

/-- The path keeps a fact true, however it ends. -/
abbrev Maintains (fact : σ → Prop) (path : Path σ ε α) : Prop := Evolves (Implied fact) path

theorem Maintains.of_run {fact : σ → Prop} {path : Path σ ε α} {state after : σ}
    {outcome : Outcome ε α} (maintains : Maintains fact path)
    (run : path.run state = (outcome, after)) (holds : fact state) : fact after :=
  Evolves.of_run maintains run holds

/-- What a path ensures however it ends. -/
theorem Ensures.holds_after {pre fact : σ → Prop} {path : Path σ ε α} {state : σ}
    (rule : Ensures pre path (fun _ => fact) (fun _ => fact)) (holds : pre state) :
    fact (path.run state).2 := by
  rcases rule.returns_or_throws holds with ⟨_, _, run, ends⟩ | ⟨_, _, run, ends⟩
  · rw [run]
    exact ends
  · rw [run]
    exact ends

/-- Both paths end alike from related states, in related states. -/
def Simulates (relation : σ → τ → Prop) (path : Path σ ε α) (other : Path τ ε α) : Prop :=
  ∀ state state', relation state state' →
    (path.run state).1 = (other.run state').1 ∧
      relation (path.run state).2 (other.run state').2

namespace Simulates

variable {relation : σ → τ → Prop} {path : Path σ ε α} {other : Path τ ε α}
variable {state after : σ} {state' : τ}

theorem of_run (simulates : Simulates relation path other) (related : relation state state')
    {outcome : Outcome ε α} (run : path.run state = (outcome, after)) :
    ∃ after', other.run state' = (outcome, after') ∧ relation after after' := by
  obtain ⟨same, relatedAfter⟩ := simulates state state' related
  rw [run] at same relatedAfter
  exact ⟨_, Prod.ext same.symm rfl, relatedAfter⟩

theorem to_run (simulates : Simulates relation path other) (related : relation state state')
    {outcome : Outcome ε α} {after' : τ} (run : other.run state' = (outcome, after')) :
    ∃ after, path.run state = (outcome, after) ∧ relation after after' := by
  obtain ⟨same, relatedAfter⟩ := simulates state state' related
  rw [run] at same relatedAfter
  exact ⟨_, Prod.ext same rfl, relatedAfter⟩

theorem pure (value : α) :
    Simulates relation (Pure.pure value : Path σ ε α) (Pure.pure value : Path τ ε α) :=
  fun _ _ related => ⟨rfl, related⟩

theorem bind {next : α → Path σ ε β} {next' : α → Path τ ε β}
    (first : Simulates relation path other)
    (rest : ∀ value, Simulates relation (next value) (next' value)) :
    Simulates relation (path >>= next) (other >>= next') := by
  intro state state' related
  cases run : path.run state with
  | mk outcome middle =>
      obtain ⟨middle', run', relatedMiddle⟩ := first.of_run related run
      cases outcome with
      | returned value =>
          rw [bind_returned run, bind_returned run']
          exact rest value middle middle' relatedMiddle
      | thrown exception =>
          rw [bind_thrown run, bind_thrown run']
          exact ⟨rfl, relatedMiddle⟩
      | undefined =>
          rw [bind_undefined run, bind_undefined run']
          exact ⟨rfl, relatedMiddle⟩

/-- A step the other path does not make. -/
theorem silent {step : Path σ ε Unit}
    (returns : ∀ state state', relation state state' →
      ∃ after, step.run state = (.returned (), after) ∧ relation after state') :
    Simulates relation step (Pure.pure () : Path τ ε Unit) := by
  intro state state' related
  obtain ⟨after, run, relatedAfter⟩ := returns state state' related
  rw [run]
  exact ⟨rfl, relatedAfter⟩

/-- A first step the other path does not make. -/
theorem preceded {step : Path σ ε β} {next : β → Path σ ε α}
    (returns : ∀ state state', relation state state' →
      ∃ value after, step.run state = (.returned value, after) ∧ relation after state' ∧
        Simulates relation (next value) other) :
    Simulates relation (step >>= next) other := by
  intro state state' related
  obtain ⟨value, after, run, relatedAfter, rest⟩ := returns state state' related
  rw [bind_returned run]
  exact rest after state' relatedAfter

theorem skip {step : Path σ ε Unit} {next : Unit → Path σ ε α}
    (first : Simulates relation step (Pure.pure () : Path τ ε Unit))
    (rest : Simulates relation (next ()) other) : Simulates relation (step >>= next) other := by
  refine preceded fun state state' related => ?_
  obtain ⟨after, run, relatedAfter⟩ := first.to_run related rfl
  exact ⟨(), after, run, relatedAfter, rest⟩

/-- A last step the other path does not make. -/
theorem followed {path : Path σ ε Unit} {other : Path τ ε Unit} {next : Unit → Path σ ε Unit}
    (first : Simulates relation path other)
    (rest : Simulates relation (next ()) (Pure.pure () : Path τ ε Unit)) :
    Simulates relation (path >>= next) other := by
  intro state state' related
  cases run : path.run state with
  | mk outcome middle =>
      obtain ⟨middle', run', relatedMiddle⟩ := first.of_run related run
      rw [run']
      cases outcome with
      | returned value =>
          rw [bind_returned run]
          exact rest middle middle' relatedMiddle
      | thrown exception =>
          rw [bind_thrown run]
          exact ⟨rfl, relatedMiddle⟩
      | undefined =>
          rw [bind_undefined run]
          exact ⟨rfl, relatedMiddle⟩

/-- Loops over as many items as the related states agree on. -/
theorem loopBelow {size : σ → Nat} {size' : τ → Nat} {body : Nat → Path σ ε Unit}
    {body' : Nat → Path τ ε Unit} (count : Nat)
    (sized : ∀ state state', relation state state' → size state = count ∧ size' state' = count)
    (step : ∀ index, index < count → Simulates relation (body index) (body' index)) :
    Simulates relation (Path.loopBelow size body) (Path.loopBelow size' body') := by
  suffices rest : ∀ fuel index,
      Simulates relation (loopFrom size body fuel index) (loopFrom size' body' fuel index) by
    intro state state' related
    have start : size state = size' state' :=
      (sized state state' related).1.trans (sized state state' related).2.symm
    rw [show Path.loopBelow size body = Path.read size >>= fun fuel => loopFrom size body fuel 0
        from rfl, read_bind, start]
    exact rest (size' state') 0 state state' related
  intro fuel
  induction fuel with
  | zero => exact fun _ => pure ()
  | succ fuel ih =>
      intro index state state' related
      obtain ⟨sizeEq, sizeEq'⟩ := sized state state' related
      by_cases more : index < count
      · rw [loopFrom_succ (sizeEq.symm ▸ more), loopFrom_succ (sizeEq'.symm ▸ more)]
        exact bind (step index more) (fun _ => ih (index + 1)) state state' related
      · rw [loopFrom_done (by omega), loopFrom_done (by omega)]
        exact ⟨rfl, related⟩

end Simulates

end Foundation.Path
