import CubemarsDriver.Node.Operations

namespace CubemarsDriver.Node

open Foundation Can

/-! # Activation and the watchdog

`msg_received_` decides whether the node may be activated and whether the watchdog
lets it stay active.  A monitor keeps the history the flag stands for. -/

variable {K : Type}

/-- A joint command whose arrays have the length of the configuration. -/
def Operation.validCommand (node : Node K) : Operation K → Bool
  | .jointCmd command _ _ => decide (command.Sized node.jointMsgLength)
  | _ => false

def Operation.isTick : Operation K → Bool
  | .watchdogTimer => true
  | _ => false

section Flags

variable [Scalar K] [StdToString K] [Libm K] {node after : Node K} {operation : Operation K}

/-- Where the flag of an inactive node comes from. -/
theorem inactive_of_operate (moved : operate node operation = some after)
    (inactive : after.lifecycle = .inactive) (flag : after.msgReceived = true) :
    node.lifecycle = .unconfigured ∧ node.msgReceived = true ∨ node.lifecycle = .inactive ∧
      (node.msgReceived = true ∨ operation.validCommand node = true) := by
  have changes := Operation.changes (operate_some.mp moved).2
  cases operation <;>
    simp only [Operation.Changes, Gate.Leaves, Gate.activated, Gate.deactivated, gate,
      Gate.mk.injEq, Operation.validCommand] at changes ⊢ <;> grind

/-- How a node comes to be active, and what happens to the flag while it is. -/
theorem active_of_operate (moved : operate node operation = some after)
    (active : after.lifecycle = .active) :
    node.lifecycle = .inactive ∧ node.msgReceived = true ∧ after.msgReceived = true ∧
        operation.isTick = false ∨
      node.lifecycle = .active ∧ after.msgReceived =
        (!operation.isTick && (node.msgReceived || operation.validCommand node)) := by
  have changes := Operation.changes (operate_some.mp moved).2
  cases operation <;>
    simp only [Operation.Changes, Gate.Leaves, Gate.activated, Gate.deactivated, gate,
      Gate.mk.injEq, Operation.validCommand, Operation.isTick] at changes ⊢ <;> grind

end Flags

/-- A node with the history of its commands. -/
structure Monitored (K : Type) where
  node : Node K
  /-- a valid command since the node was last configured or deactivated -/
  received : Bool := false
  /-- a valid command since the last tick of the watchdog -/
  arrived : Bool := false
  /-- a tick of the watchdog since the last activation -/
  ticked : Bool := false

namespace Monitored

def advance (state : Monitored K) (operation : Operation K) (after : Node K) : Monitored K where
  node := after
  received :=
    if state.node.lifecycle ≠ .inactive ∧ after.lifecycle = .inactive then false
    else state.received || operation.validCommand state.node
  arrived := !operation.isTick && (state.arrived || operation.validCommand state.node)
  ticked :=
    if state.node.lifecycle ≠ .active ∧ after.lifecycle = .active then false
    else state.ticked || operation.isTick

variable [Scalar K] [StdToString K] [Libm K]

def step (state : Monitored K) (operation : Operation K) : Option (Monitored K) :=
  (operate state.node operation).map (state.advance operation)

variable {state next : Monitored K} {operation : Operation K}

theorem step_some : state.step operation = some next ↔
    ∃ after, operate state.node operation = some after ∧ next = state.advance operation after := by
  rw [step, Option.map_eq_some_iff]
  exact exists_congr fun after => and_congr_right fun _ => eq_comm

/-- A configuration that succeeds starts without a command on record. -/
def ConfiguredUnreceived (state : Monitored K) (operation : Operation K) : Prop :=
  ∀ after, operate state.node operation = some after → state.node.lifecycle = .unconfigured →
    after.lifecycle = .inactive → state.node.msgReceived = false

/-- The flag of an inactive node stands for a command of its configuration. -/
def Recorded (state : Monitored K) : Prop :=
  state.node.lifecycle = .inactive → state.node.msgReceived = true → state.received = true

theorem step_recorded (recorded : Recorded state) (allowed : ConfiguredUnreceived state operation)
    (taken : state.step operation = some next) : Recorded next := by
  obtain ⟨after, moved, rfl⟩ := step_some.mp taken
  intro inactive flag
  obtain ⟨unconfigured, same⟩ | ⟨was, kept⟩ := inactive_of_operate moved inactive flag
  · -- the flag of an earlier configuration
    rw [allowed after moved unconfigured inactive] at same
    cases same
  · simp only [advance, was, ne_eq, not_true_eq_false, false_and, if_false, Bool.or_eq_true]
    exact kept.imp_left (recorded was)

/-- Where every configuration starts without a command on record, the node is activated
only after a command that fits its configuration. -/
theorem activation_follows_command {start : Node K} {operations : List (Operation K)}
    (constructed : Constructed start)
    (all : EveryStep step ConfiguredUnreceived { node := start } operations)
    (run : runSteps step { node := start } operations = some state)
    (taken : state.step operation = some next) (before : state.node.lifecycle ≠ .active)
    (activated : next.node.lifecycle = .active) : state.received = true := by
  have recorded : Recorded state := by
    refine invariant_of_run (fun _ _ _ => step_recorded) (fun inactive => ?_) all run
    rw [constructed.lifecycle] at inactive
    cases inactive
  obtain ⟨after, moved, rfl⟩ := step_some.mp taken
  obtain ⟨inactive, flag, _⟩ | ⟨was, _⟩ := active_of_operate moved activated
  · exact recorded inactive flag
  · exact absurd was before

/-- The flag of an active node: a command since the last tick, or no tick yet. -/
def Watched (state : Monitored K) : Prop :=
  state.node.lifecycle = .active → state.node.msgReceived = (!state.ticked || state.arrived)

theorem step_watched (watched : Watched state) (taken : state.step operation = some next) :
    Watched next := by
  obtain ⟨after, moved, rfl⟩ := step_some.mp taken
  intro active
  have becameActive : after.lifecycle = .active := active
  obtain ⟨inactive, _, flag, notTick⟩ | ⟨was, flag⟩ := active_of_operate moved active
  · have becomes : state.node.lifecycle ≠ .active := by
      rw [inactive]
      decide
    simp [advance, becomes, becameActive, flag]
  · simp only [advance, was, ne_eq, not_true_eq_false, false_and, if_false] at flag ⊢
    rw [flag, watched was]
    cases operation.isTick <;> simp [Bool.or_assoc]

/-- A tick of the watchdog ends the activation if no valid command arrived since the
last tick, and only then. -/
theorem watchdog_follows_commands {start : Node K} {operations : List (Operation K)}
    (constructed : Constructed start)
    (run : runSteps step { node := start } operations = some state)
    (tick : state.step .watchdogTimer = some next) :
    (state.ticked = true → state.arrived = false → next.node.lifecycle ≠ .active) ∧
      (state.node.lifecycle = .active → state.ticked = false ∨ state.arrived = true →
        next.node.lifecycle = .active) := by
  have watched : Watched state := by
    refine invariant_of_run (fun _ _ _ holds _ => step_watched holds) (fun active => ?_)
      everyStep_true run
    rw [constructed.lifecycle] at active
    cases active
  obtain ⟨after, moved, rfl⟩ := step_some.mp tick
  have lifecycle : after.lifecycle = (if state.node.msgReceived then state.node.gate
      else state.node.gate.deactivated).lifecycle :=
    congrArg Gate.lifecycle (Operation.changes (operate_some.mp moved).2 :)
  constructor
  · intro ticked absent active
    have was : state.node.lifecycle = .active := by
      obtain ⟨_, _, _, notTick⟩ | ⟨was, _⟩ := active_of_operate moved active
      · cases notTick
      · exact was
    have flag : state.node.msgReceived = false := by
      rw [watched was, ticked, absent]
      rfl
    rw [flag, if_neg Bool.false_ne_true, Gate.deactivated,
      if_pos (show state.node.gate.lifecycle = .active from was)] at lifecycle
    cases lifecycle.symm.trans active
  · intro was arrived
    have flag : state.node.msgReceived = true := by
      rw [watched was]
      obtain first | arrived := arrived
      · simp [first]
      · simp [arrived]
    rw [flag, if_pos rfl] at lifecycle
    exact lifecycle.trans was

section Example

attribute [local instance] libmAtRest

/-- The first joint of the leg alone. -/
def hipAssignment : Assignment ℚ :=
  exampleAssignment ["hip"] (exampleDefinition "hip" 1 "AK80-6" [])

def configureLeg : Operation ℚ := .configure (legAssignment []) legBus 0
def configureHip : Operation ℚ := .configure hipAssignment legBus 0
def commandJoints (count : Nat) : Operation ℚ := .jointCmd (exampleCommand count) 0 0

/-- A run, one more step, and what is observed of both states. -/
theorem run_and_step {operations : List (Operation ℚ)} {operation : Operation ℚ} {α : Type}
    {observe : Monitored ℚ → Monitored ℚ → α} {value : α}
    (observed : ((runSteps step { node := freshNode } operations).bind fun state =>
      (state.step operation).map (observe state)) = some value) :
    ∃ state next, runSteps step { node := freshNode } operations = some state ∧
      state.step operation = some next ∧ observe state next = value := by
  obtain ⟨state, run, observed⟩ := Option.bind_eq_some_iff.mp observed
  obtain ⟨next, taken, same⟩ := Option.map_eq_some_iff.mp observed
  exact ⟨state, next, run, taken, same⟩

theorem activation_follows_command_leg : ∃ state next,
    runSteps step { node := freshNode } [configureLeg, commandJoints 2] = some state ∧
    state.step .activate = some next ∧ next.node.lifecycle = .active ∧ state.received = true := by
  have observed : ((runSteps step { node := freshNode } [configureLeg, commandJoints 2]).bind
      fun state => (state.step .activate).map fun next =>
        (state.node.lifecycle, next.node.lifecycle)) = some (.inactive, .active) := by
    decide +kernel
  obtain ⟨state, next, run, taken, lifecycles⟩ := run_and_step observed
  obtain ⟨inactive, active⟩ := Prod.mk.inj lifecycles
  have allowed : EveryStep step ConfiguredUnreceived { node := freshNode }
      [configureLeg, commandJoints 2] := by
    refine ⟨fun _ _ _ _ => rfl, fun configured taken => ⟨fun _ _ unconfigured _ => ?_, fun _ _ => trivial⟩⟩
    have inactive : (step { node := freshNode } configureLeg).map
        (fun next => next.node.lifecycle) = some .inactive := by decide +kernel
    rw [taken, Option.map_some, Option.some.injEq, unconfigured] at inactive
    cases inactive
  exact ⟨state, next, run, taken, active, activation_follows_command freshNode_constructed allowed
    run taken (by rw [inactive]; decide) active⟩

/-- A command for two joints activates the node with the one joint it has since then. -/
theorem activated_without_command : ∃ state next,
    runSteps step { node := freshNode }
      [configureLeg, commandJoints 2, .cleanup, configureHip] = some state ∧
    state.step .activate = some next ∧ state.node.lifecycle = .inactive ∧
    next.node.lifecycle = .active ∧ state.received = false := by
  have observed : ((runSteps step { node := freshNode }
      [configureLeg, commandJoints 2, .cleanup, configureHip]).bind
      fun state => (state.step .activate).map fun next =>
        (state.node.lifecycle, next.node.lifecycle, state.received)) =
      some (.inactive, .active, false) := by decide +kernel
  obtain ⟨state, next, run, taken, same⟩ := run_and_step observed
  simp only [Prod.mk.injEq] at same
  exact ⟨state, next, run, taken, same⟩

/-- The second tick ends the activation. -/
theorem watchdog_follows_commands_leg : ∃ state next,
    runSteps step { node := freshNode }
      [configureLeg, commandJoints 2, .activate, .watchdogTimer] = some state ∧
    state.step .watchdogTimer = some next ∧ state.node.lifecycle = .active ∧
    next.node.lifecycle ≠ .active := by
  have observed : ((runSteps step { node := freshNode }
      [configureLeg, commandJoints 2, .activate, .watchdogTimer]).bind
      fun state => (state.step .watchdogTimer).map fun _ =>
        (state.ticked, state.arrived, state.node.lifecycle)) =
      some (true, false, .active) := by decide +kernel
  obtain ⟨state, next, run, tick, same⟩ := run_and_step observed
  simp only [Prod.mk.injEq] at same
  obtain ⟨ticked, absent, active⟩ := same
  exact ⟨state, next, run, tick, active,
    (watchdog_follows_commands freshNode_constructed run tick).1 ticked absent⟩

end Example

end Monitored

end CubemarsDriver.Node
