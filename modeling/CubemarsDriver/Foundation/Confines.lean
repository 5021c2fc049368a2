import CubemarsDriver.Foundation.Relations

/-! # Pre- and postconditions of paths that may be undefined

`Confines always pre path post raised` says that from every state with `always` and
`pre` the path keeps `always` however it ends, returns only with `post` and throws
only with `raised`. -/

namespace Foundation.Path

variable {σ ε α β γ ι : Type}

def Confines (always pre : σ → Prop) (path : Path σ ε α) (post : α → σ → Prop)
    (raised : σ → Prop) : Prop :=
  ∀ state, always state → pre state → always (path.run state).2 ∧
    match path.run state with
    | (.returned value, after) => post value after
    | (.thrown _, after) => raised after
    | (.undefined, _) => True

namespace Confines

variable {always pre pre' raised raised' : σ → Prop} {path : Path σ ε α}
variable {post post' : α → σ → Prop} {state after : σ}

theorem always_after (confined : Confines always pre path post raised) (kept : always state)
    (holds : pre state) : always (path.run state).2 := (confined state kept holds).1

theorem of_returned (confined : Confines always pre path post raised) (kept : always state)
    (holds : pre state) {value : α} (run : path.run state = (.returned value, after)) :
    always after ∧ post value after := by
  have ends := confined state kept holds
  rwa [run] at ends

theorem of_thrown (confined : Confines always pre path post raised) (kept : always state)
    (holds : pre state) {exception : ε} (run : path.run state = (.thrown exception, after)) :
    always after ∧ raised after := by
  have ends := confined state kept holds
  rwa [run] at ends

theorem of_undefined (confined : Confines always pre path post raised) (kept : always state)
    (holds : pre state) (run : path.run state = (.undefined, after)) : always after := by
  have ends := (confined state kept holds).1
  rwa [run] at ends

theorem consequence (confined : Confines always pre path post raised)
    (strengthen : ∀ state, pre' state → pre state)
    (weaken : ∀ value state, post value state → post' value state)
    (weakenRaised : ∀ state, raised state → raised' state) :
    Confines always pre' path post' raised' := by
  intro state kept holds
  have ends := confined state kept (strengthen state holds)
  cases run : path.run state with
  | mk outcome after =>
      rw [run] at ends
      cases outcome with
      | returned value => exact ⟨ends.1, weaken value after ends.2⟩
      | thrown exception => exact ⟨ends.1, weakenRaised after ends.2⟩
      | undefined => exact ends

theorem strengthen_pre (confined : Confines always pre path post raised)
    (strengthen : ∀ state, pre' state → pre state) : Confines always pre' path post raised :=
  confined.consequence strengthen (fun _ _ => id) fun _ => id

theorem weaken_post (confined : Confines always pre path post raised)
    (weaken : ∀ value state, post value state → post' value state) :
    Confines always pre path post' raised :=
  confined.consequence (fun _ => id) weaken fun _ => id

/-- A second fact about the same path, on whatever state it ends in. -/
theorem and (confined : Confines always pre path post raised)
    (also : Confines (fun _ => True) pre' path post' raised') :
    Confines always (fun state => pre state ∧ pre' state) path
      (fun value state => post value state ∧ post' value state)
      (fun state => raised state ∧ raised' state) := by
  intro state kept holds
  have ends := confined state kept holds.1
  have alsoEnds := (also state trivial holds.2).2
  cases run : path.run state with
  | mk outcome after =>
      rw [run] at ends alsoEnds
      cases outcome with
      | returned value => exact ⟨ends.1, ends.2, alsoEnds⟩
      | thrown exception => exact ⟨ends.1, ends.2, alsoEnds⟩
      | undefined => exact ends

/-- The path is followed from one state. -/
theorem from_state {start : σ} (confined : Confines always pre path post raised)
    (kept : always start) (holds : pre start) : Confines always (· = start) path
      (fun value after => post value after ∧ path.run start = (.returned value, after)) raised := by
  rintro state _ rfl
  have ends := confined state kept holds
  cases run : path.run state with
  | mk outcome after =>
      rw [run] at ends
      cases outcome with
      | returned value => exact ⟨ends.1, ends.2, rfl⟩
      | thrown exception => exact ends
      | undefined => exact ends

theorem pure (value : α) :
    Confines always (post value) (Pure.pure value : Path σ ε α) post raised :=
  fun _ kept holds => ⟨kept, holds⟩

theorem throw (exception : ε) :
    Confines always raised (Path.throw exception : Path σ ε α) post raised :=
  fun _ kept holds => ⟨kept, holds⟩

theorem bind {middle : α → σ → Prop} {next : α → Path σ ε β} {post : β → σ → Prop}
    (first : Confines always pre path middle raised)
    (rest : ∀ value, Confines always (middle value) (next value) post raised) :
    Confines always pre (path >>= next) post raised := by
  intro state kept holds
  cases run : path.run state with
  | mk outcome after =>
      cases outcome with
      | returned value =>
          obtain ⟨keptAfter, holdsAfter⟩ := first.of_returned kept holds run
          rw [bind_returned run]
          exact rest value after keptAfter holdsAfter
      | thrown exception =>
          rw [bind_thrown run]
          exact first.of_thrown kept holds run
      | undefined =>
          rw [bind_undefined run]
          exact ⟨first.of_undefined kept holds run, trivial⟩

theorem read (component : σ → α) : Confines always pre (Path.read component : Path σ ε α)
    (fun value state => pre state ∧ component state = value) raised :=
  fun _ kept holds => ⟨kept, holds, rfl⟩

theorem element (found : σ → Option α) : Confines always pre (Path.element found : Path σ ε α)
    (fun value state => pre state ∧ found state = some value) raised := by
  intro state kept holds
  rw [element_run]
  cases found : found state with
  | some value => exact ⟨kept, holds, found⟩
  | none => exact ⟨kept, trivial⟩

theorem update {change : σ → σ} {post : Unit → σ → Prop}
    (changes : ∀ state, always state → pre state → always (change state) ∧ post () (change state)) :
    Confines always pre (Path.update change : Path σ ε Unit) post raised := changes

theorem updateDefined {change : σ → Option σ} {post : Unit → σ → Prop}
    (changes : ∀ state after, always state → pre state → change state = some after →
      always after ∧ post () after) :
    Confines always pre (Path.updateDefined change : Path σ ε Unit) post raised := by
  intro state kept holds
  rw [updateDefined_run]
  cases changed : change state with
  | some after => exact changes state after kept holds changed
  | none => exact ⟨kept, trivial⟩

theorem attempt {post : Except ε α → σ → Prop}
    (body : Confines always pre path (fun value => post (.ok value))
      (fun state => ∀ exception, post (.error exception) state)) :
    Confines always pre (Path.attempt path) post raised := by
  intro state kept holds
  cases run : path.run state with
  | mk outcome after =>
      cases outcome with
      | returned value =>
          rw [attempt_returned run]
          exact body.of_returned kept holds run
      | thrown exception =>
          rw [attempt_thrown run]
          obtain ⟨keptAfter, caught⟩ := body.of_thrown kept holds run
          exact ⟨keptAfter, caught exception⟩
      | undefined =>
          rw [attempt_undefined run]
          exact ⟨body.of_undefined kept holds run, trivial⟩

theorem tryCatch {caught : σ → Prop} {handler : ε → Path σ ε α}
    (body : Confines always pre path post caught)
    (handled : ∀ exception, Confines always caught (handler exception) post raised) :
    Confines always pre (Path.tryCatch path handler) post raised := by
  intro state kept holds
  cases run : path.run state with
  | mk outcome after =>
      cases outcome with
      | returned value =>
          rw [tryCatch_returned run]
          exact body.of_returned kept holds run
      | thrown exception =>
          rw [tryCatch_thrown run]
          obtain ⟨keptAfter, holdsAfter⟩ := body.of_thrown kept holds run
          exact handled exception after keptAfter holdsAfter
      | undefined =>
          rw [tryCatch_undefined run]
          exact ⟨body.of_undefined kept holds run, trivial⟩

theorem ite {condition : Prop} [Decidable condition] {otherwise : Path σ ε α}
    (isTrue : condition → Confines always pre path post raised)
    (isFalse : ¬ condition → Confines always pre otherwise post raised) :
    Confines always pre (if condition then path else otherwise) post raised := by
  split
  · exact isTrue ‹_›
  · exact isFalse ‹_›

theorem when {condition : Prop} [Decidable condition] {path : Path σ ε Unit}
    (isTrue : condition → Confines always pre path (fun _ => pre) raised) :
    Confines always pre (Path.when condition path) (fun _ => pre) raised :=
  ite isTrue fun _ _ kept holds => ⟨kept, holds⟩

/-- The invariant rule for a loop. -/
theorem loopBelow {size : σ → Nat} {body : Nat → Path σ ε Unit}
    (step : ∀ index, Confines always pre (body index) (fun _ => pre) raised) :
    Confines always pre (Path.loopBelow size body) (fun _ => pre) raised := by
  suffices rest : ∀ fuel index,
      Confines always pre (loopFrom size body fuel index) (fun _ => pre) raised by
    intro state
    exact rest (size state) 0 state
  intro fuel
  induction fuel with
  | zero => exact fun _ _ kept holds => ⟨kept, holds⟩
  | succ fuel ih =>
      intro index
      refine bind (read size) fun _ => ite (fun _ => ?_) fun _ => ?_
      · exact bind ((step index).strengthen_pre fun _ => And.left) fun _ => ih (index + 1)
      · exact fun _ kept holds => ⟨kept, holds.1⟩

/-- The invariant rule for a loop whose body keeps the size it iterates over. -/
theorem loopCount {size : σ → Nat} {body : Nat → Path σ ε Unit} (count : Nat)
    (invariant : Nat → σ → Prop)
    (sized : ∀ index state, invariant index state → size state = count)
    (step : ∀ index, Confines always (invariant index) (body index)
      (fun _ => invariant (index + 1)) raised) :
    Confines always (invariant 0) (Path.loopBelow size body) (fun _ => invariant count) raised := by
  suffices rest : ∀ fuel index, index + fuel = count →
      Confines always (invariant index) (loopFrom size body fuel index)
        (fun _ => invariant count) raised by
    intro state kept holds
    exact rest (size state) 0 (by rw [Nat.zero_add, sized 0 state holds]) state kept holds
  intro fuel
  induction fuel with
  | zero =>
      intro index total state kept holds
      rw [← total]
      exact ⟨kept, holds⟩
  | succ fuel ih =>
      intro index total state kept holds
      rw [loopFrom_succ (show index < size state by rw [sized index state holds]; omega)]
      exact bind (step index) (fun _ => ih (index + 1) (by omega)) state kept holds

theorem forEach {body : ι → Path σ ε Unit} (items : List ι)
    (step : ∀ item ∈ items, Confines always pre (body item) (fun _ => pre) raised) :
    Confines always pre (Path.forEach body items) (fun _ => pre) raised := by
  induction items with
  | nil => exact fun _ kept holds => ⟨kept, holds⟩
  | cons item rest ih =>
      exact bind (step item List.mem_cons_self) fun _ =>
        ih fun other member => step other (List.mem_cons_of_mem item member)

/-- A path along a relation keeps what the relation keeps. -/
theorem of_related {relation : σ → σ → Prop} (evolves : Evolves relation path)
    (alwaysOf : ∀ before after, relation before after → always before → always after)
    (preOf : ∀ before after, relation before after → pre before → pre after) :
    Confines always pre path (fun _ => pre) pre := by
  intro state kept holds
  have related := evolves state
  refine ⟨alwaysOf _ _ related kept, ?_⟩
  have holdsAfter := preOf _ _ related holds
  cases run : path.run state with
  | mk outcome after =>
      rw [run] at holdsAfter
      cases outcome with
      | returned value => exact holdsAfter
      | thrown exception => exact holdsAfter
      | undefined => trivial

theorem of_preserves {component : σ → γ} (preserves : Preserves component path)
    (alwaysOf : ∀ before after, component after = component before → always before → always after)
    (preOf : ∀ before after, component after = component before → pre before → pre after) :
    Confines always pre path (fun _ => pre) pre := of_related preserves alwaysOf preOf

theorem of_evolves {relation : σ → σ → Prop} [IsPreorder σ relation] {start : σ}
    (evolves : Evolves relation path) :
    Confines (relation start) (fun _ => True) path (fun _ _ => True) fun _ => True :=
  (of_related evolves (fun _ _ related reached => trans_of relation reached related)
    fun _ _ _ => id)

/-- After a path, it has run from a state with its precondition. -/
theorem of_run (keeps : ∀ state, always state → pre state → always (path.run state).2)
    (throws : ∀ state, always state → pre state → ∀ exception after,
      path.run state = (.thrown exception, after) → raised after) :
    Confines always pre path (fun value after => ∃ before, always before ∧ pre before ∧
      path.run before = (.returned value, after)) raised := by
  intro state kept holds
  refine ⟨keeps state kept holds, ?_⟩
  cases run : path.run state with
  | mk outcome after =>
      cases outcome with
      | returned value => exact ⟨state, kept, holds, run⟩
      | thrown exception => exact throws state kept holds exception after run
      | undefined => trivial

theorem anything : Confines (fun _ => True) pre path (fun _ _ => True) fun _ => True := by
  intro state _ _
  cases run : path.run state with
  | mk outcome after => cases outcome <;> exact ⟨trivial, trivial⟩

end Confines

abbrev Catches (path : Path σ ε α) : Prop :=
  Confines (fun _ => True) (fun _ => True) path (fun _ _ => True) fun _ => False

namespace Catches

variable {path : Path σ ε α} {state after : σ}

theorem not_thrown (catches : Catches path) {exception : ε} :
    path.run state ≠ (.thrown exception, after) := fun run =>
  (catches.of_thrown trivial trivial run).2

/-- What a path throws that begins with one that throws nothing comes after that one. -/
theorem thrown_after (catches : Catches path) {next : α → Path σ ε β} {exception : ε}
    (run : (path >>= next).run state = (.thrown exception, after)) : ∃ value middle,
      path.run state = (.returned value, middle) ∧ (next value).run middle = (.thrown exception, after) := by
  cases first : path.run state with
  | mk outcome middle =>
      cases outcome with
      | returned value =>
          rw [Path.bind_returned first] at run
          exact ⟨value, middle, rfl, run⟩
      | thrown raised => exact absurd first catches.not_thrown
      | undefined =>
          rw [Path.bind_undefined first] at run
          cases run

theorem pure (value : α) : Catches (Pure.pure value : Path σ ε α) :=
  fun _ _ _ => ⟨trivial, trivial⟩

theorem read (component : σ → α) : Catches (Path.read component : Path σ ε α) :=
  (Confines.read component).weaken_post fun _ _ _ => trivial

theorem element (found : σ → Option α) : Catches (Path.element found : Path σ ε α) :=
  (Confines.element found).weaken_post fun _ _ _ => trivial

theorem update (change : σ → σ) : Catches (Path.update change : Path σ ε Unit) :=
  Confines.update fun _ _ _ => ⟨trivial, trivial⟩

theorem updateDefined (change : σ → Option σ) : Catches (Path.updateDefined change : Path σ ε Unit) :=
  Confines.updateDefined fun _ _ _ _ _ => ⟨trivial, trivial⟩

theorem attempt (path : Path σ ε α) : Catches (Path.attempt path) :=
  Confines.attempt (Confines.anything.consequence (fun _ => id) (fun _ _ => id) fun _ _ _ => trivial)

theorem tryCatch {handler : ε → Path σ ε α} (handled : ∀ exception, Catches (handler exception)) :
    Catches (Path.tryCatch path handler) := Confines.tryCatch Confines.anything handled

end Catches

end Foundation.Path
