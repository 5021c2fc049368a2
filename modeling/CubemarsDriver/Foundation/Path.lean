import Mathlib.Data.Nat.Init

/-! # Paths through imperative code

A `Path` is one sequential execution: it transforms a state and ends by
returning, by throwing, or in undefined behaviour.  The state reached is kept
in all three cases, because an exception does not roll back the effects that
came before it.  Undefined behaviour is not an exception: no handler sees it.
-/

namespace Foundation

inductive Outcome (ε α : Type) where
  | returned (value : α)
  | thrown (exception : ε)
  | undefined
deriving DecidableEq, Repr

structure Path (σ ε α : Type) where
  run : σ → Outcome ε α × σ

namespace Path

variable {σ ε α β γ ι : Type}

protected def pure (value : α) : Path σ ε α where
  run state := (.returned value, state)

protected def bind (path : Path σ ε α) (next : α → Path σ ε β) : Path σ ε β where
  run state :=
    match path.run state with
    | (.returned value, after) => (next value).run after
    | (.thrown exception, after) => (.thrown exception, after)
    | (.undefined, after) => (.undefined, after)

instance : Monad (Path σ ε) where
  pure := Path.pure
  bind := Path.bind

/-- Read a component of the state. -/
def read (component : σ → α) : Path σ ε α where
  run state := (.returned (component state), state)

def update (change : σ → σ) : Path σ ε Unit where
  run state := (.returned (), change state)

def throw (exception : ε) : Path σ ε α where
  run state := (.thrown exception, state)

/-- An access that is defined only where it finds something. -/
def element (found : σ → Option α) : Path σ ε α where
  run state :=
    match found state with
    | some value => (.returned value, state)
    | none => (.undefined, state)

/-- An update that is defined only where it succeeds. -/
def updateDefined (change : σ → Option σ) : Path σ ε Unit where
  run state :=
    match change state with
    | some after => (.returned (), after)
    | none => (.undefined, state)

/-- `if (condition) path;`. -/
def when (condition : Prop) [Decidable condition] (path : Path σ ε Unit) : Path σ ε Unit :=
  if condition then path else pure ()

/-- A `try` block whose exceptions become values for the handler. -/
def attempt (path : Path σ ε α) : Path σ ε (Except ε α) where
  run state :=
    match path.run state with
    | (.returned value, after) => (.returned (.ok value), after)
    | (.thrown exception, after) => (.returned (.error exception), after)
    | (.undefined, after) => (.undefined, after)

/-- `try path catch handler`. -/
def tryCatch (path : Path σ ε α) (handler : ε → Path σ ε α) : Path σ ε α := do
  match ← attempt path with
  | .ok value => pure value
  | .error exception => handler exception

/-- The indexed loop `for (i = index; i < size; i++) body`.  The size is read
again before every iteration, since a body may shrink what it iterates over.
`fuel` bounds the iterations and is chosen as the size at the loop's entry. -/
def loopFrom (size : σ → Nat) (body : Nat → Path σ ε Unit) : Nat → Nat → Path σ ε Unit
  | 0, _ => pure ()
  | fuel + 1, index => do
      if index < (← read size) then
        body index
        loopFrom size body fuel (index + 1)

def loopBelow (size : σ → Nat) (body : Nat → Path σ ε Unit) : Path σ ε Unit := do
  loopFrom size body (← read size) 0

/-- The range loop `for (item : items) body`. -/
def forEach (body : ι → Path σ ε Unit) : List ι → Path σ ε Unit
  | [] => pure ()
  | item :: rest => do
      body item
      forEach body rest

section Evaluation

variable {path : Path σ ε α} {next : α → Path σ ε β} {state after : σ}

@[simp] theorem pure_run (value : α) :
    (pure value : Path σ ε α).run state = (.returned value, state) := rfl

@[simp] theorem read_run (component : σ → α) :
    (read component : Path σ ε α).run state = (.returned (component state), state) := rfl

@[simp] theorem update_run (change : σ → σ) :
    (update change : Path σ ε Unit).run state = (.returned (), change state) := rfl

@[simp] theorem throw_run (exception : ε) :
    (throw exception : Path σ ε α).run state = (.thrown exception, state) := rfl

theorem bind_run : (path >>= next).run state =
    match path.run state with
    | (.returned value, after) => (next value).run after
    | (.thrown exception, after) => (.thrown exception, after)
    | (.undefined, after) => (.undefined, after) := rfl

theorem bind_returned {value : α} (ends : path.run state = (.returned value, after)) :
    (path >>= next).run state = (next value).run after := by
  rw [bind_run, ends]

theorem bind_thrown {exception : ε} (ends : path.run state = (.thrown exception, after)) :
    (path >>= next).run state = (.thrown exception, after) := by
  rw [bind_run, ends]

theorem bind_undefined (ends : path.run state = (.undefined, after)) :
    (path >>= next).run state = (.undefined, after) := by
  rw [bind_run, ends]

/-- A sequence that returns went through both of its parts. -/
theorem bind_run_returned {value : β} : (path >>= next).run state = (.returned value, after) ↔
    ∃ result middle, path.run state = (.returned result, middle) ∧
      (next result).run middle = (.returned value, after) := by
  constructor
  · intro run
    cases first : path.run state with
    | mk outcome middle =>
        cases outcome with
        | returned result => exact ⟨result, middle, rfl, by rwa [bind_returned first] at run⟩
        | thrown exception => simp [bind_thrown first] at run
        | undefined => simp [bind_undefined first] at run
  · rintro ⟨result, middle, first, second⟩
    rw [bind_returned first, second]

theorem lawfulMonad : LawfulMonad (Path σ ε) := LawfulMonad.mk' _
  (fun path => by
    change Path.bind path (fun value => Path.pure value) = path
    cases path with
    | mk run =>
        rw [Path.bind, Path.mk.injEq]
        funext state
        dsimp only
        rcases run state with ⟨_ | _ | _, _⟩ <;> rfl)
  (fun _ _ => rfl)
  (fun path next last => by
    change Path.bind (Path.bind path next) last = Path.bind path fun value => Path.bind (next value) last
    rw [Path.bind, Path.bind, Path.mk.injEq]
    funext state
    dsimp only [Path.bind]
    rcases path.run state with ⟨_ | _ | _, _⟩ <;> rfl)

@[simp] theorem read_bind (component : σ → α) :
    ((read component : Path σ ε α) >>= next).run state = (next (component state)).run state := rfl

@[simp] theorem update_bind (change : σ → σ) (next : Unit → Path σ ε β) :
    ((update change : Path σ ε Unit) >>= next).run state = (next ()).run (change state) := rfl

@[simp] theorem pure_bind_run (value : α) :
    ((pure value : Path σ ε α) >>= next).run state = (next value).run state := rfl

@[simp] theorem throw_bind (exception : ε) :
    ((throw exception : Path σ ε α) >>= next).run state = (.thrown exception, state) := rfl

theorem element_bind (found : σ → Option α) :
    ((element found : Path σ ε α) >>= next).run state =
      match found state with
      | some value => (next value).run state
      | none => (.undefined, state) := by
  simp only [bind_run, element]
  cases found state <;> rfl

theorem updateDefined_bind (change : σ → Option σ) (next : Unit → Path σ ε β) :
    ((updateDefined change : Path σ ε Unit) >>= next).run state =
      match change state with
      | some after => (next ()).run after
      | none => (.undefined, state) := by
  simp only [bind_run, updateDefined]
  cases change state <;> rfl

theorem element_run (found : σ → Option α) : (element found : Path σ ε α).run state =
      match found state with
      | some value => (.returned value, state)
      | none => (.undefined, state) := rfl

theorem updateDefined_run (change : σ → Option σ) :
    (updateDefined change : Path σ ε Unit).run state =
      match change state with
      | some after => (.returned (), after)
      | none => (.undefined, state) := rfl

theorem element_some {found : σ → Option α} {value : α} (present : found state = some value) :
    (element found : Path σ ε α).run state = (.returned value, state) := by
  simp only [element, present]

theorem element_none {found : σ → Option α} (absent : found state = none) :
    (element found : Path σ ε α).run state = (.undefined, state) := by
  simp only [element, absent]

theorem updateDefined_some {change : σ → Option σ} (succeeds : change state = some after) :
    (updateDefined change : Path σ ε Unit).run state = (.returned (), after) := by
  simp only [updateDefined, succeeds]

theorem element_run_returned {found : σ → Option α} {value : α} :
    (element found : Path σ ε α).run state = (.returned value, after) ↔
      found state = some value ∧ after = state := by
  rw [element_run]
  cases found state <;> simp [eq_comm]

theorem updateDefined_run_returned {change : σ → Option σ} {value : Unit} :
    (updateDefined change : Path σ ε Unit).run state = (.returned value, after) ↔
      change state = some after := by
  rw [updateDefined_run]
  cases change state <;> simp

theorem updateDefined_none {change : σ → Option σ} (fails : change state = none) :
    (updateDefined change : Path σ ε Unit).run state = (.undefined, state) := by
  simp only [updateDefined, fails]

theorem attempt_returned {value : α} (ends : path.run state = (.returned value, after)) :
    (attempt path).run state = (.returned (.ok value), after) := by
  simp only [attempt, ends]

theorem attempt_thrown {exception : ε} (ends : path.run state = (.thrown exception, after)) :
    (attempt path).run state = (.returned (.error exception), after) := by
  simp only [attempt, ends]

theorem attempt_undefined (ends : path.run state = (.undefined, after)) :
    (attempt path).run state = (.undefined, after) := by
  simp only [attempt, ends]

theorem attempt_run_ok {value : α} :
    (attempt path).run state = (.returned (.ok value), after) ↔
      path.run state = (.returned value, after) := by
  cases run : path.run state with
  | mk outcome middle =>
      cases outcome with
      | returned result => simp [attempt_returned run]
      | thrown exception => simp [attempt_thrown run]
      | undefined => simp [attempt_undefined run]

theorem attempt_run_error {exception : ε} :
    (attempt path).run state = (.returned (.error exception), after) ↔
      path.run state = (.thrown exception, after) := by
  cases run : path.run state with
  | mk outcome middle =>
      cases outcome with
      | returned result => simp [attempt_returned run]
      | thrown exception => simp [attempt_thrown run]
      | undefined => simp [attempt_undefined run]

theorem tryCatch_returned {handler : ε → Path σ ε α} {value : α}
    (ends : path.run state = (.returned value, after)) :
    (tryCatch path handler).run state = (.returned value, after) := by
  rw [tryCatch, bind_returned (attempt_returned ends)]
  rfl

theorem tryCatch_thrown {handler : ε → Path σ ε α} {exception : ε}
    (ends : path.run state = (.thrown exception, after)) :
    (tryCatch path handler).run state = (handler exception).run after := by
  rw [tryCatch, bind_returned (attempt_thrown ends)]

theorem tryCatch_undefined {handler : ε → Path σ ε α}
    (ends : path.run state = (.undefined, after)) :
    (tryCatch path handler).run state = (.undefined, after) := by
  rw [tryCatch, bind_undefined (attempt_undefined ends)]

theorem tryCatch_run_returned {handler : ε → Path σ ε α} {value : α} :
    (tryCatch path handler).run state = (.returned value, after) ↔
      path.run state = (.returned value, after) ∨ ∃ exception middle,
        path.run state = (.thrown exception, middle) ∧
          (handler exception).run middle = (.returned value, after) := by
  cases run : path.run state with
  | mk outcome middle =>
      cases outcome with
      | returned result => simp [tryCatch_returned run]
      | thrown exception =>
          rw [tryCatch_thrown run]
          constructor
          · exact fun handled => .inr ⟨exception, middle, rfl, handled⟩
          · rintro (impossible | ⟨_, _, same, handled⟩)
            · cases impossible
            · cases same
              exact handled
      | undefined => simp [tryCatch_undefined run]

@[simp] theorem loopFrom_zero (size : σ → Nat) (body : Nat → Path σ ε Unit) (index : Nat) :
    (loopFrom size body 0 index).run state = (.returned (), state) := rfl

theorem loopFrom_done {size : σ → Nat} {body : Nat → Path σ ε Unit} {fuel index : Nat}
    (done : size state ≤ index) : (loopFrom size body fuel index).run state = (.returned (), state) := by
  cases fuel with
  | zero => rfl
  | succ fuel => rw [loopFrom, read_bind, if_neg (Nat.not_lt.mpr done), pure_run]

theorem loopFrom_succ {size : σ → Nat} {body : Nat → Path σ ε Unit} {fuel index : Nat}
    (more : index < size state) :
    (loopFrom size body (fuel + 1) index).run state =
      (body index >>= fun _ => loopFrom size body fuel (index + 1)).run state := by
  rw [loopFrom, read_bind, if_pos more]

/-- The invariant rule for a loop that is known to have returned. -/
theorem loopBelow_returned {size : σ → Nat} {body : Nat → Path σ ε Unit}
    (invariant : Nat → σ → Prop)
    (step : ∀ index before after, invariant index before → index < size before →
      (body index).run before = (.returned (), after) → invariant (index + 1) after)
    (initial : invariant 0 state) (run : (loopBelow size body).run state = (.returned (), after)) :
    ∃ index, invariant index after ∧ (index = size state ∨ size after ≤ index) := by
  suffices rest : ∀ fuel index before, invariant index before → index + fuel = size state →
      (loopFrom size body fuel index).run before = (.returned (), after) →
      ∃ index, invariant index after ∧ (index = size state ∨ size after ≤ index) by
    exact rest (size state) 0 state initial (Nat.zero_add _) run
  intro fuel
  induction fuel with
  | zero =>
      intro index before holds total run
      cases run
      exact ⟨index, holds, .inl total⟩
  | succ fuel ih =>
      intro index before holds total run
      by_cases more : index < size before
      · rw [loopFrom_succ more, bind_run_returned] at run
        obtain ⟨_, middle, first, rest⟩ := run
        exact ih (index + 1) middle (step index before middle holds more first) (by omega) rest
      · rw [loopFrom_done (Nat.not_lt.mp more)] at run
        cases run
        exact ⟨index, holds, .inr (Nat.not_lt.mp more)⟩

end Evaluation

/-- From every state satisfying `pre` the path is defined, and it returns only
with `post` and throws only with `raised`. -/
def Ensures (pre : σ → Prop) (path : Path σ ε α) (post : α → σ → Prop)
    (raised : ε → σ → Prop) : Prop :=
  ∀ state, pre state →
    match path.run state with
    | (.returned value, after) => post value after
    | (.thrown exception, after) => raised exception after
    | (.undefined, _) => False

namespace Ensures

variable {pre pre' : σ → Prop} {post post' : α → σ → Prop} {raised raised' : ε → σ → Prop}
variable {path : Path σ ε α} {state after : σ}

theorem returns_or_throws (rule : Ensures pre path post raised) (holds : pre state) :
    (∃ value after, path.run state = (.returned value, after) ∧ post value after) ∨
      ∃ exception after, path.run state = (.thrown exception, after) ∧ raised exception after := by
  have ends := rule state holds
  cases run : path.run state with
  | mk outcome after =>
      rw [run] at ends
      cases outcome with
      | returned value => exact .inl ⟨value, after, rfl, ends⟩
      | thrown exception => exact .inr ⟨exception, after, rfl, ends⟩
      | undefined => exact ends.elim

theorem returns (rule : Ensures pre path post (fun _ _ => False)) (holds : pre state) :
    ∃ value after, path.run state = (.returned value, after) ∧ post value after := by
  rcases rule.returns_or_throws holds with found | ⟨_, _, _, impossible⟩
  · exact found
  · exact impossible.elim

theorem of_runs (runs : ∀ state, pre state →
    ∃ value after, path.run state = (.returned value, after) ∧ post value after) :
    Ensures pre path post raised := by
  intro state holds
  obtain ⟨value, after, run, ends⟩ := runs state holds
  rw [run]
  exact ends

theorem of_returned (rule : Ensures pre path post raised) (holds : pre state) {value : α}
    (run : path.run state = (.returned value, after)) : post value after := by
  have ends := rule state holds
  rw [run] at ends
  exact ends

theorem of_thrown (rule : Ensures pre path post raised) (holds : pre state) {exception : ε}
    (run : path.run state = (.thrown exception, after)) : raised exception after := by
  have ends := rule state holds
  rw [run] at ends
  exact ends

theorem consequence (rule : Ensures pre path post raised)
    (strengthen : ∀ state, pre' state → pre state)
    (weaken : ∀ value state, post value state → post' value state)
    (weakenRaised : ∀ exception state, raised exception state → raised' exception state) :
    Ensures pre' path post' raised' := by
  intro state holds
  rcases rule.returns_or_throws (strengthen state holds) with
    ⟨value, after, run, ends⟩ | ⟨exception, after, run, ends⟩
  · rw [run]; exact weaken value after ends
  · rw [run]; exact weakenRaised exception after ends

theorem strengthen_pre (rule : Ensures pre path post raised)
    (strengthen : ∀ state, pre' state → pre state) : Ensures pre' path post raised :=
  rule.consequence strengthen (fun _ _ => id) (fun _ _ => id)

theorem weaken_post (rule : Ensures pre path post raised)
    (weaken : ∀ value state, post value state → post' value state) :
    Ensures pre path post' raised :=
  rule.consequence (fun _ => id) weaken (fun _ _ => id)

theorem pure (value : α) : Ensures (post value) (Pure.pure value : Path σ ε α) post raised :=
  fun _ holds => holds

theorem bind {middle : α → σ → Prop} {next : α → Path σ ε β} {post : β → σ → Prop}
    (first : Ensures pre path middle raised)
    (rest : ∀ value, Ensures (middle value) (next value) post raised) :
    Ensures pre (path >>= next) post raised := by
  intro state holds
  rcases first.returns_or_throws holds with
    ⟨value, after, run, ends⟩ | ⟨exception, after, run, ends⟩
  · rw [bind_returned run]; exact rest value after ends
  · rw [bind_thrown run]; exact ends

theorem read (component : σ → α) :
    Ensures (fun state => post (component state) state) (Path.read component) post raised :=
  fun _ holds => holds

/-- What is read is known about the state it was read from. -/
theorem readBind {component : σ → α} {next : α → Path σ ε β} {post : β → σ → Prop}
    (rest : ∀ value, Ensures (fun state => pre state ∧ component state = value) (next value)
      post raised) :
    Ensures pre (Path.read component >>= next) post raised := by
  intro state holds
  rw [read_bind]
  exact rest (component state) state ⟨holds, rfl⟩

/-- A read whose value does not matter. -/
theorem anyRead {component : σ → α} {next : α → Path σ ε β} {post : β → σ → Prop}
    (rest : ∀ value, Ensures pre (next value) post raised) :
    Ensures pre (Path.read component >>= next) post raised :=
  fun state holds => rest (component state) state holds

theorem update (change : σ → σ) {post : Unit → σ → Prop} :
    Ensures (fun state => post () (change state)) (Path.update change) post raised :=
  fun _ holds => holds

/-- An update that keeps what is known. -/
theorem updateBind {change : σ → σ} {next : Unit → Path σ ε β} {post : β → σ → Prop}
    (kept : ∀ state, pre state → pre (change state)) (rest : Ensures pre (next ()) post raised) :
    Ensures pre (Path.update change >>= next) post raised :=
  fun state holds => rest (change state) (kept state holds)

theorem throw (exception : ε) :
    Ensures (raised exception) (Path.throw exception : Path σ ε α) post raised :=
  fun _ holds => holds

theorem element {found : σ → Option α}
    (present : ∀ state, pre state → ∃ value, found state = some value ∧ post value state) :
    Ensures pre (Path.element found) post raised := by
  intro state holds
  obtain ⟨value, lookup, ends⟩ := present state holds
  rw [element_some lookup]
  exact ends

theorem elementBind {found : σ → Option α} {next : α → Path σ ε β} {post : β → σ → Prop}
    (present : ∀ state, pre state → ∃ value, found state = some value)
    (rest : ∀ value, Ensures (fun state => pre state ∧ found state = some value) (next value)
      post raised) :
    Ensures pre (Path.element found >>= next) post raised :=
  bind (element fun state holds => (present state holds).imp fun _ lookup => ⟨lookup, holds, lookup⟩)
    rest

theorem updateDefined {change : σ → Option σ} {post : Unit → σ → Prop}
    (succeeds : ∀ state, pre state → ∃ after, change state = some after ∧ post () after) :
    Ensures pre (Path.updateDefined change) post raised := by
  intro state holds
  obtain ⟨after, changed, ends⟩ := succeeds state holds
  rw [updateDefined_some changed]
  exact ends

theorem attempt {post : Except ε α → σ → Prop}
    (rule : Ensures pre path (fun value => post (.ok value))
      (fun exception => post (.error exception))) :
    Ensures pre (Path.attempt path) post raised := by
  intro state holds
  rcases rule.returns_or_throws holds with
    ⟨value, after, run, ends⟩ | ⟨exception, after, run, ends⟩
  · rw [attempt_returned run]; exact ends
  · rw [attempt_thrown run]; exact ends

theorem tryCatch {caught : ε → σ → Prop} {handler : ε → Path σ ε α}
    (body : Ensures pre path post caught)
    (handled : ∀ exception, Ensures (caught exception) (handler exception) post raised) :
    Ensures pre (Path.tryCatch path handler) post raised := by
  intro state holds
  rcases body.returns_or_throws holds with
    ⟨value, after, run, ends⟩ | ⟨exception, after, run, ends⟩
  · rw [tryCatch_returned run]; exact ends
  · rw [tryCatch_thrown run]; exact handled exception after ends

theorem ite {condition : Prop} [Decidable condition] {otherwise : Path σ ε α}
    (isTrue : condition → Ensures pre path post raised)
    (isFalse : ¬ condition → Ensures pre otherwise post raised) :
    Ensures pre (if condition then path else otherwise) post raised := by
  split
  · exact isTrue ‹_›
  · exact isFalse ‹_›

theorem when {condition : Prop} [Decidable condition] {path : Path σ ε Unit}
    {post : Unit → σ → Prop} (isTrue : condition → Ensures pre path post raised)
    (isFalse : ¬ condition → ∀ state, pre state → post () state) :
    Ensures pre (Path.when condition path) post raised :=
  ite isTrue isFalse

/-- The invariant rule for a loop whose body keeps the size it iterates over. -/
theorem loopBelow {size : σ → Nat} {body : Nat → Path σ ε Unit} (count : Nat)
    (invariant : Nat → σ → Prop)
    (sized : ∀ index state, invariant index state → size state = count)
    (step : ∀ index, index < count →
      Ensures (invariant index) (body index) (fun _ => invariant (index + 1)) raised) :
    Ensures (invariant 0) (Path.loopBelow size body) (fun _ => invariant count) raised := by
  suffices rest : ∀ fuel index, index + fuel = count →
      Ensures (invariant index) (loopFrom size body fuel index)
        (fun _ => invariant count) raised by
    intro state holds
    exact rest (size state) 0 (by rw [Nat.zero_add, sized 0 state holds]) state holds
  intro fuel
  induction fuel with
  | zero =>
      intro index total state holds
      have finished : index = count := by omega
      subst finished
      exact holds
  | succ fuel ih =>
      intro index total state holds
      have bound : index < count := by omega
      have more : index < size state := by rw [sized index state holds]; exact bound
      rw [loopFrom_succ more]
      exact bind (step index bound) (fun _ => ih (index + 1) (by omega)) state holds

/-- The invariant rule for a loop whose body may change the size it iterates over. -/
theorem loopWithin {size : σ → Nat} {body : Nat → Path σ ε Unit} {invariant : σ → Prop}
    (step : ∀ index, Ensures (fun state => invariant state ∧ index < size state) (body index)
      (fun _ => invariant) raised) :
    Ensures invariant (Path.loopBelow size body) (fun _ => invariant) raised := by
  suffices rest : ∀ fuel index,
      Ensures invariant (loopFrom size body fuel index) (fun _ => invariant) raised by
    intro state holds
    exact rest (size state) 0 state holds
  intro fuel
  induction fuel with
  | zero => exact fun _ _ holds => holds
  | succ fuel ih =>
      intro index state holds
      by_cases more : index < size state
      · rw [loopFrom_succ more]
        exact bind (step index) (fun _ => ih (index + 1)) state ⟨holds, more⟩
      · rw [loopFrom_done (Nat.not_lt.mp more)]
        exact holds

theorem forEach {body : ι → Path σ ε Unit} {items : List ι} (invariant : σ → Prop)
    (step : ∀ item ∈ items, Ensures invariant (body item) (fun _ => invariant) raised) :
    Ensures invariant (Path.forEach body items) (fun _ => invariant) raised := by
  induction items with
  | nil => exact fun _ holds => holds
  | cons item rest ih =>
      exact bind (step item List.mem_cons_self)
        (fun _ => ih fun other member => step other (List.mem_cons_of_mem item member))

end Ensures

/-- The path is defined where the invariant holds and keeps it, whether it
returns or throws. -/
def Keeps (invariant : σ → Prop) (path : Path σ ε α) : Prop :=
  Ensures invariant path (fun _ => invariant) (fun _ => invariant)

namespace Keeps

variable {invariant : σ → Prop} {path : Path σ ε α}

theorem pure (value : α) : Keeps invariant (Pure.pure value : Path σ ε α) := fun _ holds => holds

theorem throw (exception : ε) : Keeps invariant (Path.throw exception : Path σ ε α) :=
  fun _ holds => holds

theorem read (component : σ → α) : Keeps invariant (Path.read component : Path σ ε α) :=
  fun _ holds => holds

theorem update {change : σ → σ} (kept : ∀ state, invariant state → invariant (change state)) :
    Keeps invariant (Path.update change : Path σ ε Unit) := kept

theorem bind {next : α → Path σ ε β} (first : Keeps invariant path)
    (rest : ∀ value, Keeps invariant (next value)) : Keeps invariant (path >>= next) :=
  Ensures.bind first rest

theorem element {found : σ → Option α}
    (present : ∀ state, invariant state → ∃ value, found state = some value) :
    Keeps invariant (Path.element found : Path σ ε α) :=
  Ensures.element fun state holds => (present state holds).imp fun _ lookup => ⟨lookup, holds⟩

theorem updateDefined {change : σ → Option σ}
    (kept : ∀ state, invariant state → ∃ after, change state = some after ∧ invariant after) :
    Keeps invariant (Path.updateDefined change : Path σ ε Unit) := Ensures.updateDefined kept

theorem attempt (kept : Keeps invariant path) : Keeps invariant (Path.attempt path) :=
  Ensures.attempt kept

theorem tryCatch {handler : ε → Path σ ε α} (body : Keeps invariant path)
    (handled : ∀ exception, Keeps invariant (handler exception)) :
    Keeps invariant (Path.tryCatch path handler) := Ensures.tryCatch body handled

theorem ite {condition : Prop} [Decidable condition] {otherwise : Path σ ε α}
    (isTrue : condition → Keeps invariant path) (isFalse : ¬ condition → Keeps invariant otherwise) :
    Keeps invariant (if condition then path else otherwise) := Ensures.ite isTrue isFalse

theorem when {condition : Prop} [Decidable condition] {path : Path σ ε Unit}
    (isTrue : condition → Keeps invariant path) : Keeps invariant (Path.when condition path) :=
  ite isTrue fun _ => pure ()

theorem loopBelow {size : σ → Nat} {body : Nat → Path σ ε Unit}
    (step : ∀ index, Ensures (fun state => invariant state ∧ index < size state) (body index)
      (fun _ => invariant) (fun _ => invariant)) :
    Keeps invariant (Path.loopBelow size body) := Ensures.loopWithin step

theorem forEach {body : ι → Path σ ε Unit} {items : List ι}
    (step : ∀ item ∈ items, Keeps invariant (body item)) :
    Keeps invariant (Path.forEach body items) := by
  induction items with
  | nil => exact pure ()
  | cons item rest ih =>
      exact bind (step item List.mem_cons_self)
        (fun _ => ih fun other member => step other (List.mem_cons_of_mem item member))

end Keeps

end Path

end Foundation
