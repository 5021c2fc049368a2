import CubemarsDriver.Node.Activation

namespace CubemarsDriver.Node

open Foundation Can

/-! # Requests for a cleanup

A comm thread that gives up while the node is not active requests a cleanup; the
supervisor takes the request and carries it out on the executor.  The callbacks of
the executor exclude each other, but the comm threads go on until they are joined. -/

variable {K : Type}

/-- A transition of the operator. -/
inductive Transition (K : Type) where
  | configure (assignment : Assignment K) (bus : Bus) (now : Int)
  | cleanup
  | activate
  | deactivate

namespace Transition

def start : Transition K → Lifecycle
  | .configure .. => .unconfigured
  | .cleanup => .inactive
  | .activate => .inactive
  | .deactivate => .active

def goal : Transition K → Lifecycle
  | .configure .. => .inactive
  | .cleanup => .unconfigured
  | .activate => .active
  | .deactivate => .inactive

/-- The callback joins the comm threads. -/
def joins : Transition K → Bool
  | .cleanup => true
  | _ => false

/-- The callback starts a configuration. -/
def configures : Transition K → Bool
  | .configure .. => true
  | _ => false

variable [Scalar K]

def callback : Transition K → NodePath K CallbackReturn
  | .configure assignment bus now => onConfigure assignment bus now
  | .cleanup => onCleanup
  | .activate => onActivate
  | .deactivate => onDeactivate

/-- What is left of a transition once it has begun. -/
def rest (transition : Transition K) : NodePath K Unit := do
  let result ← Path.tryCatch transition.callback fun _ => pure .error
  settle transition.start transition.goal result

theorem transition_run {node : Node K} (transition : Transition K)
    (possible : node.lifecycle = transition.start) :
    (Node.transition transition.start transition.goal transition.callback).run node =
      transition.rest.run { node with lifecycle := .inTransition } := by
  rw [Node.transition, Path.read_bind, Path.when, if_pos possible]
  rfl

end Transition

/-- What the executor is doing. -/
inductive Executor (K : Type) where
  | idle
  | carryingOut
  | inTransition (transition : Transition K)

/-- A node, the threads about to request a cleanup, and the configurations in which the
standing request was raised and the last one was taken. -/
structure Supervised (K : Type) where
  node : Node K
  executor : Executor K := .idle
  pending : List Nat := []
  configuration : Nat := 0
  raisedIn : Nat := 0
  takenIn : Nat := 0

inductive SupervisedAction (K : Type) where
  | jointCmd (command : JointCommand K) (cmdRxNs now : Int)
  | start (transition : Transition K)
  | finish
  | tick
  | carryOut
  | giveUp (canInterface : Nat)
  | raise (canInterface : Nat)

namespace Supervised

def withNode (state : Supervised K) (node : Node K) : Supervised K := { state with node }

/-- The supervisor finds the flag set or not; in either case it is not set afterwards. -/
def take (state : Supervised K) : Supervised K :=
  if state.node.cleanupRequested then
    { state with
      node := { state.node with cleanupRequested := false }
      executor := .carryingOut
      takenIn := state.raisedIn }
  else state

/-- `cleanup()` begins or is refused. -/
def carryOut (state : Supervised K) : Supervised K :=
  if state.node.lifecycle = .inactive then
    { state with
      node := { state.node with lifecycle := .inTransition }
      executor := .inTransition .cleanup }
  else { state with executor := .idle }

def raise (state : Supervised K) (canInterface : Nat) : Supervised K :=
  { state with
    node := { state.node with cleanupRequested := true }
    pending := state.pending.erase canInterface
    raisedIn := state.configuration }

def finished (state : Supervised K) (transition : Transition K) (after : Node K) : Supervised K :=
  { state with
    node := after
    executor := .idle
    configuration :=
      if transition.configures ∧ after.lifecycle = .inactive then state.configuration + 1
      else state.configuration }

variable [Scalar K] [StdToString K] [Libm K]

/-- A fatal error in a comm thread that has not been joined. -/
def giveUp (state : Supervised K) (canInterface : Nat) : Supervised K :=
  if state.node.lifecycle = .active then state.withNode state.node.deactivated
  else { state with pending := canInterface :: state.pending }

def step (state : Supervised K) : SupervisedAction K → Option (Supervised K)
  | .jointCmd command cmdRxNs now =>
      match state.executor with
      | .idle => (operate state.node (.jointCmd command cmdRxNs now)).map state.withNode
      | _ => none
  | .start transition =>
      match state.executor with
      | .idle =>
          if state.node.lifecycle = transition.start then
            some { state with
              node := { state.node with lifecycle := .inTransition }
              executor := .inTransition transition }
          else none
      | _ => none
  | .finish =>
      match state.executor with
      | .inTransition transition =>
          -- a join waits for a thread that is about to raise its request
          if transition.joins → state.pending = [] then
            match transition.rest.run state.node with
            | (.returned _, after) => some (state.finished transition after)
            | _ => none
          else none
      | _ => none
  | .tick =>
      match state.executor with
      | .idle => if state.node.supervisorTimer then some state.take else none
      | _ => none
  | .carryOut =>
      match state.executor with
      | .carryingOut => some state.carryOut
      | _ => none
  | .giveUp canInterface =>
      if state.node.commThreads[canInterface]?.any CommThread.joinable ∧
          canInterface ∉ state.pending then
        some (state.giveUp canInterface)
      else none
  | .raise canInterface =>
      if canInterface ∈ state.pending then some (state.raise canInterface) else none

variable {state next : Supervised K} {action : SupervisedAction K}

/-- Undisturbed, the steps of the supervisor are its callback. -/
theorem supervisorCallback_steps {after : Node K} (idle : state.executor = .idle)
    (timer : state.node.supervisorTimer = true) (joined : state.pending = [])
    (run : supervisorCallback.run state.node = (.returned (), after)) :
    ∃ actions finish, runSteps step state actions = some finish ∧ finish.node = after ∧
      finish.executor = .idle := by
  have tick : state.step .tick = some state.take := by simp only [step, idle, timer, if_true]
  rw [supervisorCallback, Path.read_bind, Path.update_bind, Path.when] at run
  by_cases requested : state.node.cleanupRequested = true
  · rw [if_pos requested] at run
    have carryOut : state.take.step .carryOut = some state.take.carryOut := by
      simp only [take, requested, if_true, step]
    obtain ⟨possible, rfl⟩ | ⟨inactive, _⟩ := transition_returned run
    · -- the request is consumed and the cleanup refused
      have refused : state.node.lifecycle ≠ .inactive := possible
      refine ⟨[.tick, .carryOut], _, runSteps_cons.mpr ⟨_, tick, runSteps_cons.mpr
        ⟨_, carryOut, rfl⟩⟩, ?_⟩
      simp [Supervised.carryOut, take, requested, refused]
    · have inactive : state.node.lifecycle = .inactive := inactive
      have possible : ({ state.node with cleanupRequested := false } : Node K).lifecycle =
          (Transition.cleanup : Transition K).start := inactive
      have rest := (Transition.transition_run _ possible).symm.trans run
      have finish : state.take.carryOut.step .finish =
          some (state.take.carryOut.finished .cleanup after) := by
        have busy : state.take.carryOut = { state.take with
            node := { state.node with cleanupRequested := false, lifecycle := .inTransition }
            executor := .inTransition .cleanup } := by
          simp [Supervised.carryOut, take, requested, inactive]
        have joinedStill : state.take.pending = [] := by
          simp only [take, requested, if_true, joined]
        rw [busy]
        simp only [step, joinedStill, implies_true, if_true, rest]
      exact ⟨[.tick, .carryOut, .finish], _, runSteps_cons.mpr ⟨_, tick, runSteps_cons.mpr
        ⟨_, carryOut, runSteps_cons.mpr ⟨_, finish, rfl⟩⟩⟩, rfl, rfl⟩
  · rw [if_neg requested] at run
    cases run
    refine ⟨[.tick], _, runSteps_cons.mpr ⟨_, tick, rfl⟩, ?_⟩
    have absent : state.node.cleanupRequested = false := by simpa using requested
    simp only [take, absent, Bool.false_eq_true, if_false, idle, and_true]
    rw [← absent]

/-- A request is raised only where the supervisor can carry it out next, in an inactive
node or one that is being deactivated, and no transition leaves the inactive state
while a request stands. -/
def RequestsAwaited (state : Supervised K) : SupervisedAction K → Prop
  | .raise _ => state.executor = .idle ∧ state.node.lifecycle = .inactive ∨
      state.executor = .inTransition .deactivate
  | .start transition =>
      transition.start = .inactive → state.node.cleanupRequested = false
  | _ => True

structure Current (state : Supervised K) : Prop where
  standing : state.node.cleanupRequested = true → state.raisedIn = state.configuration ∧
    (state.executor = .idle ∧ state.node.lifecycle = .inactive ∨
      state.executor = .inTransition .deactivate)
  taken : state.executor = .carryingOut → state.node.cleanupRequested = false ∧
    state.takenIn = state.configuration

omit [StdToString K] [Libm K] in
theorem rest_keeps_request (transition : Transition K) :
    Path.Preserves Node.cleanupRequested transition.rest := by
  have passive {α : Type} {path : NodePath K α} (passive : Passive path) :
      Path.Preserves Node.cleanupRequested path :=
    passive.weaken fun _ _ same => congrArg Gate.cleanupRequested same
  have callback : Path.Preserves Node.cleanupRequested transition.callback := by
    cases transition with
    | configure assignment bus now => exact passive onConfigure_passive
    | cleanup => exact passive onCleanup_passive
    | activate => exact onActivate_evolves fun _ => rfl
    | deactivate =>
        refine Path.Evolves.bind (Path.Evolves.update fun _ => rfl) fun _ => ?_
        exact Path.Evolves.bind (Path.Evolves.update fun _ => rfl) fun _ => Path.Evolves.pure _
  refine Path.Evolves.bind (Path.Evolves.tryCatch callback fun _ => Path.Evolves.pure _)
    fun result => ?_
  cases result with
  | success => exact Path.Evolves.update fun _ => rfl
  | failure => exact Path.Evolves.update fun _ => rfl
  | error =>
      refine Path.Evolves.bind (passive (onError_passive _)) fun handled => ?_
      cases handled <;> exact Path.Evolves.update fun _ => rfl

omit [StdToString K] [Libm K] in
theorem deactivate_rest {node after : Node K} {result : Unit}
    (run : (Transition.deactivate : Transition K).rest.run node = (.returned result, after)) :
    after.lifecycle = .inactive := by
  cases run
  rfl

omit [Scalar K] [StdToString K] [Libm K] in
/-- While nothing stands and nothing is in hand there is nothing to keep. -/
theorem Current.of_quiet (none : next.node.cleanupRequested = false)
    (free : next.executor ≠ .carryingOut) : Current next where
  standing requested := by
    rw [none] at requested
    cases requested
  taken busy := absurd busy free

theorem step_current (current : Current state) (allowed : RequestsAwaited state action)
    (taken : state.step action = some next) : Current next := by
  cases action with
  | jointCmd command cmdRxNs now =>
      simp only [step] at taken
      split at taken
      · rename_i idle
        obtain ⟨after, moved, rfl⟩ := Option.map_eq_some_iff.mp taken
        have same : (Operation.jointCmd command cmdRxNs now).Changes state.node after.gate :=
          Operation.changes (operate_some.mp moved).2
        have flag : after.cleanupRequested = state.node.cleanupRequested :=
          congrArg Gate.cleanupRequested same
        have lifecycle : after.lifecycle = state.node.lifecycle := congrArg Gate.lifecycle same
        constructor
        · simpa only [withNode, flag, lifecycle] using current.standing
        · simpa only [withNode, flag] using current.taken
      · cases taken
  | start transition =>
      simp only [step] at taken
      split at taken
      · rename_i idle
        split at taken
        · rename_i possible
          cases taken
          refine Current.of_quiet ?_ nofun
          by_contra requested
          have requested : state.node.cleanupRequested = true := by simpa using requested
          obtain ⟨_, ⟨_, inactive⟩ | deactivating⟩ := current.standing requested
          · -- a request stands only in an inactive node, which no transition leaves
            rw [allowed (possible.symm.trans inactive)] at requested
            cases requested
          · cases idle.symm.trans deactivating
        · cases taken
      · cases taken
  | finish =>
      simp only [step] at taken
      split at taken
      · rename_i transition busy
        split at taken
        · split at taken
          · rename_i result after run
            cases taken
            have flag : after.cleanupRequested = state.node.cleanupRequested :=
              (rest_keeps_request transition).of_run run
            refine ⟨fun requested => ?_, nofun⟩
            obtain ⟨same, ⟨idle, _⟩ | deactivating⟩ := current.standing (flag ▸ requested)
            · cases busy.symm.trans idle
            · cases busy.symm.trans deactivating
              refine ⟨?_, .inl ⟨rfl, deactivate_rest run⟩⟩
              simpa [finished, Transition.configures] using same
          · cases taken
        · cases taken
      · cases taken
  | tick =>
      simp only [step] at taken
      split at taken
      · rename_i idle
        split at taken
        · cases taken
          rw [take]
          split
          · rename_i requested
            exact ⟨nofun, fun _ => ⟨rfl, (current.standing requested).1⟩⟩
          · exact current
        · cases taken
      · cases taken
  | carryOut =>
      simp only [step] at taken
      split at taken
      · rename_i busy
        cases taken
        have flag := (current.taken busy).1
        rw [carryOut]
        split
        · exact Current.of_quiet flag nofun
        · exact Current.of_quiet flag nofun
      · cases taken
  | giveUp canInterface =>
      simp only [step] at taken
      split at taken
      · cases taken
        rw [giveUp]
        split
        · rename_i active
          refine ⟨fun requested => ?_, current.taken⟩
          obtain ⟨same, ⟨_, inactive⟩ | deactivating⟩ := current.standing requested
          · cases active.symm.trans inactive
          · exact ⟨same, .inr deactivating⟩
        · exact ⟨current.standing, current.taken⟩
      · cases taken
  | raise canInterface =>
      simp only [step] at taken
      split at taken
      · cases taken
        refine ⟨fun _ => ⟨rfl, allowed⟩, fun busy => ?_⟩
        obtain ⟨idle, _⟩ | deactivating := allowed
        · cases idle.symm.trans busy
        · cases deactivating.symm.trans busy
      · cases taken

/-- Where requests are awaited, the supervisor cleans up the configuration in which the
request was raised, and takes no request that it cannot carry out. -/
theorem requests_are_current {start : Node K} {actions : List (SupervisedAction K)}
    (constructed : Constructed start) (all : EveryStep step RequestsAwaited { node := start } actions)
    (run : runSteps step { node := start } actions = some state) :
    (∀ next, state.step .carryOut = some next → state.takenIn = state.configuration) ∧
      ∀ next, state.step .tick = some next → state.node.cleanupRequested = true →
        state.node.lifecycle = .inactive := by
  have current : Current state := by
    refine invariant_of_run (fun _ _ _ => step_current) ?_ all run
    exact Current.of_quiet constructed.cleanupRequested nofun
  constructor
  · intro next taken
    simp only [step] at taken
    split at taken
    · exact (current.taken ‹_›).2
    · cases taken
  · intro next taken requested
    simp only [step] at taken
    split at taken
    · rename_i idle
      obtain ⟨_, ⟨_, inactive⟩ | deactivating⟩ := current.standing requested
      · exact inactive
      · cases idle.symm.trans deactivating
    · cases taken

section Example

attribute [local instance] libmAtRest

def startLeg : SupervisedAction ℚ := .start (.configure (legAssignment []) legBus 0)

/-- The leg is configured, and its comm thread is about to request a cleanup. -/
def failingLeg : List (SupervisedAction ℚ) := [startLeg, .finish, .giveUp 0]

def Executor.isIdle : Executor ℚ → Bool
  | .idle => true
  | _ => false

theorem failingLeg_inactive {state : Supervised ℚ}
    (run : runSteps step { node := freshNode } failingLeg = some state) :
    state.executor = .idle ∧ state.node.lifecycle = .inactive := by
  have observed : (runSteps step { node := freshNode } failingLeg).map
      (fun state => (Executor.isIdle state.executor, state.node.lifecycle)) =
        some (true, .inactive) := by decide +kernel
  rw [run, Option.map_some, Option.some.injEq, Prod.mk.injEq] at observed
  obtain ⟨idle, inactive⟩ := observed
  cases executor : state.executor with
  | idle => exact ⟨rfl, inactive⟩
  | carryingOut => simp [executor, Executor.isIdle] at idle
  | inTransition transition => simp [executor, Executor.isIdle] at idle

theorem failingLeg_awaited :
    EveryStep step RequestsAwaited { node := freshNode } (failingLeg ++ [.raise 0, .tick]) := by
  refine ⟨nofun, fun started taken => ⟨trivial, fun configured taken' => ⟨trivial,
    fun failing taken'' => ⟨.inl (failingLeg_inactive ?_), fun _ _ => ⟨trivial, fun _ _ => trivial⟩⟩⟩⟩⟩
  exact runSteps_cons.mpr ⟨started, taken, runSteps_cons.mpr ⟨configured, taken',
    runSteps_cons.mpr ⟨failing, taken'', rfl⟩⟩⟩

theorem requests_are_current_leg : ∃ state next,
    runSteps step { node := freshNode } (failingLeg ++ [.raise 0, .tick]) = some state ∧
    state.step .carryOut = some next ∧ state.takenIn = state.configuration := by
  obtain ⟨next, there⟩ : ∃ next, (runSteps step { node := freshNode }
      (failingLeg ++ [.raise 0, .tick])).bind (fun state => state.step .carryOut) = some next :=
    Option.isSome_iff_exists.mp (by decide +kernel)
  obtain ⟨state, run, taken⟩ := Option.bind_eq_some_iff.mp there
  exact ⟨state, next, run, taken,
    (requests_are_current freshNode_constructed failingLeg_awaited run).1 next taken⟩

/-- A request outlives its configuration, and the supervisor cleans up the next one. -/
theorem request_outlives_configuration : ∃ state next,
    runSteps step { node := freshNode } (failingLeg ++ [.raise 0, .start .cleanup, .finish,
      startLeg, .finish, .tick]) = some state ∧
    state.step .carryOut = some next ∧ state.takenIn = 1 ∧ state.configuration = 2 := by
  have observed : (runSteps step { node := freshNode } (failingLeg ++ [.raise 0, .start .cleanup,
      .finish, startLeg, .finish, .tick])).bind (fun state => (state.step .carryOut).map fun _ =>
        (state.takenIn, state.configuration)) = some (1, 2) := by decide +kernel
  obtain ⟨state, run, observed⟩ := Option.bind_eq_some_iff.mp observed
  obtain ⟨next, taken, same⟩ := Option.map_eq_some_iff.mp observed
  exact ⟨state, next, run, taken, Prod.mk.inj same⟩

end Example

end Supervised

end CubemarsDriver.Node
