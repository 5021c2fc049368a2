import CubemarsDriver.Node.Retained
import CubemarsDriver.Node.Supervisor

namespace CubemarsDriver.Node

open Foundation Can

/-! # The command in force

A callback of the executor stores the commands of the topic after it has found the node
active, a deactivation stores a damping command before it makes the node inactive.  The
callbacks of the executor exclude each other, but a comm thread may deactivate the node at
any time. -/

variable {K : Type}

/-- Where the stored command comes from. -/
inductive CommandSource where
  | nowhere
  | configuration
  | deactivation
  | topic
deriving DecidableEq

theorem Transition.start_ne (transition : Transition K) : transition.start ≠ .inTransition := by
  cases transition <;> nofun

/-- Who has called `deactivate()`. -/
inductive Caller where
  | executor
  | commThread (canInterface : Nat)
deriving DecidableEq

/-- What the executor is doing.  A command is accepted once the node has been found active. -/
inductive ExecutorStep (K : Type) where
  | idle
  | accepted (command : JointCommand K) (cmdRxNs : Int)
  | inTransition (transition : Transition K)
  | deactivating

/-- A deactivation under way, before and after the store of its damping command. -/
structure Deactivation where
  caller : Caller
  stored : Bool := false
deriving DecidableEq

structure Commanded (K : Type) where
  node : Node K
  executor : ExecutorStep K := .idle
  deactivation : Option Deactivation := none
  source : CommandSource := .nowhere

inductive CommandStep (K : Type) where
  | receive (command : JointCommand K) (cmdRxNs : Int)
  | storeCommand
  | start (transition : Transition K)
  | finish
  | tick
  | setParameters (order : IterationOrder (String × PerJointUpdate K)) (batch : List (Parameter K))
  | deactivate (caller : Caller)
  | storeDamping
  | deactivated

namespace Commanded

/-- The command that a cycle of the interface loads, and where it comes from. -/
def loaded (state : Commanded K) (canInterface : Nat) : Option (JointCommand K × CommandSource) :=
  if state.node.commThreads[canInterface]?.any CommThread.running then
    state.node.jointCmdPtr.map fun command => (command, state.source)
  else none

/-- `joint_cmd_msg_callback` up to its read of the lifecycle state. -/
def receive (state : Commanded K) (command : JointCommand K) (cmdRxNs : Int) : Commanded K :=
  if command.Sized state.node.jointMsgLength then
    { state with
      node := { state.node with msgReceived := true }
      executor := if state.node.lifecycle = .active then .accepted command cmdRxNs else .idle }
  else state

/-- `deactivate()` begins or is refused. -/
def beginDeactivation (state : Commanded K) (caller : Caller) : Commanded K :=
  if state.node.lifecycle = .active then
    { state with
      node := { state.node with lifecycle := .inTransition }
      executor := if caller = .executor then .deactivating else state.executor
      deactivation := some { caller } }
  else state

/-- The watchdog deactivates a node that has received no command. -/
def tick (state : Commanded K) : Commanded K :=
  if state.node.msgReceived then
    { state with node := { state.node with msgReceived := false } }
  else state.beginDeactivation .executor

/-- The end of `on_deactivate` and of its transition. -/
def endDeactivation (state : Commanded K) (caller : Caller) : Commanded K :=
  { state with
    node := { state.node with watchdogTimer := false, msgReceived := false, lifecycle := .inactive }
    executor := if caller = .executor then .idle else state.executor
    deactivation := none }

def finished (state : Commanded K) (transition : Transition K) (after : Node K) : Commanded K :=
  { state with
    node := after
    executor := .idle
    source := if transition.configures then .configuration else state.source }

variable [Scalar K] [StdToString K] [Libm K]

def step (state : Commanded K) : CommandStep K → Option (Commanded K)
  | .receive command cmdRxNs =>
      match state.executor with
      | .idle => if state.node.jointCmdSub then some (state.receive command cmdRxNs) else none
      | _ => none
  | .storeCommand =>
      match state.executor with
      | .accepted command cmdRxNs => some { state with
          node := Node.storeCommand command cmdRxNs state.node
          executor := .idle
          source := .topic }
      | _ => none
  | .start transition =>
      match state.executor, transition with
      | .idle, .deactivate => none
      | .idle, transition =>
          if state.node.lifecycle = transition.start then
            some { state with
              node := { state.node with lifecycle := .inTransition }
              executor := .inTransition transition }
          else none
      | _, _ => none
  | .finish =>
      match state.executor with
      | .inTransition transition =>
          match transition.rest.run state.node with
          | (.returned _, after) => some (state.finished transition after)
          | _ => none
      | _ => none
  | .tick =>
      match state.executor with
      | .idle => if state.node.watchdogTimer then some state.tick else none
      | _ => none
  | .setParameters order batch =>
      match state.executor with
      | .idle => (operate state.node (.setParameters order batch)).map fun node => { state with node }
      | _ => none
  | .deactivate .executor =>
      match state.executor with
      | .idle => some (state.beginDeactivation .executor)
      | _ => none
  | .deactivate (.commThread canInterface) =>
      if state.node.commThreads[canInterface]?.any CommThread.joinable then
        some (state.beginDeactivation (.commThread canInterface))
      else none
  | .storeDamping =>
      match state.deactivation with
      | some ⟨caller, false⟩ => some { state with
          node := state.node.storeDamping
          deactivation := some ⟨caller, true⟩
          source := .deactivation }
      | _ => none
  | .deactivated =>
      match state.deactivation with
      | some ⟨caller, true⟩ => some (state.endDeactivation caller)
      | _ => none

section Callbacks

variable {state : Commanded K}

theorem jointCmdMsgCallback_steps {command : JointCommand K} {cmdRxNs now : Int}
    {published : Option K} {after : Node K} (idle : state.executor = .idle)
    (subscribed : state.node.jointCmdSub = true)
    (run : (jointCmdMsgCallback command cmdRxNs now).run state.node = (.returned published, after)) :
    ∃ actions finish, runSteps step state actions = some finish ∧ finish.node = after ∧
      finish.executor = .idle := by
  have received : state.step (.receive command cmdRxNs) = some (state.receive command cmdRxNs) := by
    simp only [step, idle, subscribed, if_true]
  rw [jointCmdMsgCallback, Path.read_bind] at run
  by_cases sized : command.Sized state.node.jointMsgLength
  · rw [if_pos sized, Path.update_bind, Path.read_bind, Path.when] at run
    by_cases active : state.node.lifecycle = .active
    · have found : ({ state.node with msgReceived := true } : Node K).lifecycle = .active := active
      rw [if_pos found, Path.update_bind] at run
      cases run
      let accepted : Commanded K := { state with
        node := { state.node with msgReceived := true }
        executor := .accepted command cmdRxNs }
      have accepts : state.receive command cmdRxNs = accepted := by
        simp only [receive, sized, active, if_true, accepted]
      rw [accepts] at received
      let stored : Commanded K := { accepted with
        node := Node.storeCommand command cmdRxNs accepted.node
        executor := .idle
        source := .topic }
      have stores : accepted.step .storeCommand = some stored := rfl
      exact ⟨[.receive command cmdRxNs, .storeCommand], stored,
        runSteps_cons.mpr ⟨accepted, received, runSteps_cons.mpr ⟨stored, stores, rfl⟩⟩, rfl, rfl⟩
    · have found : ({ state.node with msgReceived := true } : Node K).lifecycle ≠ .active := active
      rw [if_neg found] at run
      cases run
      refine ⟨[.receive command cmdRxNs], _, runSteps_cons.mpr ⟨_, received, rfl⟩, ?_, ?_⟩
      · simp only [receive, sized, if_true]
      · simp only [receive, sized, active, if_true, if_false]
  · rw [if_neg sized] at run
    cases run
    refine ⟨[.receive command cmdRxNs], _, runSteps_cons.mpr ⟨_, received, rfl⟩, ?_, ?_⟩
    · simp only [receive, sized, if_false]
    · simp only [receive, sized, if_false, idle]

/-- A comm thread deactivates the node in three steps. -/
theorem deactivate_steps {canInterface : Nat}
    (joinable : state.node.commThreads[canInterface]?.any CommThread.joinable = true)
    (active : state.node.lifecycle = .active) :
    ∃ finish, runSteps step state [.deactivate (.commThread canInterface), .storeDamping,
        .deactivated] = some finish ∧
      finish.node = (deactivate.run state.node).2 ∧ finish.executor = state.executor := by
  let begun : Commanded K := { state with
    node := { state.node with lifecycle := .inTransition }
    deactivation := some ⟨.commThread canInterface, false⟩ }
  have begins : state.step (.deactivate (.commThread canInterface)) = some begun := by
    simp only [step, joinable, if_true, beginDeactivation, active, reduceCtorEq, if_false, begun]
  let stored : Commanded K := { begun with
    node := begun.node.storeDamping
    deactivation := some ⟨.commThread canInterface, true⟩
    source := .deactivation }
  have stores : begun.step .storeDamping = some stored := rfl
  have ends : stored.step .deactivated = some (stored.endDeactivation (.commThread canInterface)) := rfl
  refine ⟨_, runSteps_cons.mpr ⟨begun, begins, runSteps_cons.mpr ⟨stored, stores,
    runSteps_cons.mpr ⟨_, ends, rfl⟩⟩⟩, ?_, rfl⟩
  rw [deactivate_run, if_pos active]
  rfl

end Callbacks

/-- No damping command is stored while a joint command that was accepted has not been. -/
def Undisturbed (state : Commanded K) : CommandStep K → Prop
  | .storeDamping => ∀ command cmdRxNs, state.executor ≠ .accepted command cmdRxNs
  | _ => True

/-- The command of `on_configure`, or one of `on_deactivate`. -/
def Rested (state : Commanded K) : Prop :=
  let length := state.node.jointMsgLength
  state.source = .configuration ∧ state.node.jointCmdPtr = some (zeroCommand length) ∨
    state.source = .deactivation ∧ ∃ damping, state.node.jointCmdPtr =
      some { (zeroCommand length : JointCommand K) with kd := List.replicate length damping }

structure Undriven (state : Commanded K) : Prop where
  inactive : state.node.lifecycle = .inactive → Rested state
  activating : state.executor = .inTransition .activate → Rested state
  accepted : ∀ command cmdRxNs, state.executor = .accepted command cmdRxNs →
    state.node.lifecycle = .active ∨ ∃ caller, state.deactivation = some ⟨caller, false⟩
  deactivating : ∀ deactivation, state.deactivation = some deactivation →
    state.node.lifecycle = .inTransition ∧ (deactivation.stored = true → Rested state)
  inTransition : ∀ transition, state.executor = .inTransition transition →
    state.node.lifecycle = .inTransition ∧ state.deactivation = none ∧ transition ≠ .deactivate

section Steps

variable {state next : Commanded K}

omit [StdToString K] [Libm K] in
theorem Rested.of_same (rested : Rested state) (source : next.source = state.source)
    (command : next.node.jointCmdPtr = state.node.jointCmdPtr)
    (length : next.node.jointMsgLength = state.node.jointMsgLength) : Rested next := by
  unfold Rested at rested ⊢
  rwa [source, command, length]

omit [StdToString K] [Libm K] in
/-- While a joint command is accepted nothing else is stored. -/
theorem Undriven.unstored (undriven : Undriven state) {command : JointCommand K} {cmdRxNs : Int}
    (accepted : state.executor = .accepted command cmdRxNs) :
    state.node.lifecycle ≠ .inactive ∧
      ∀ deactivation, state.deactivation = some deactivation → deactivation.stored = false := by
  rcases undriven.accepted command cmdRxNs accepted with active | ⟨caller, begun⟩
  · constructor
    · rw [active]
      decide
    · intro deactivation underWay
      have transition := (undriven.deactivating deactivation underWay).1
      rw [active] at transition
      cases transition
  · constructor
    · rw [(undriven.deactivating _ begun).1]
      decide
    · intro deactivation underWay
      rw [begun] at underWay
      cases underWay
      rfl

omit [StdToString K] [Libm K] in
theorem receive_undriven (undriven : Undriven state) (command : JointCommand K) (cmdRxNs : Int) :
    Undriven (state.receive command cmdRxNs) := by
  unfold receive
  split
  · constructor
    case inactive => exact fun inactive => (undriven.inactive inactive).of_same rfl rfl rfl
    case activating =>
      intro activating
      split at activating <;> cases activating
    case accepted =>
      intro other otherRxNs accepted
      split at accepted
      · exact .inl ‹_›
      · cases accepted
    case deactivating =>
      intro deactivation underWay
      obtain ⟨transition, rested⟩ := undriven.deactivating deactivation underWay
      exact ⟨transition, fun stored => (rested stored).of_same rfl rfl rfl⟩
    case inTransition =>
      intro transition busy
      split at busy <;> cases busy
  · exact undriven

omit [StdToString K] [Libm K] in
theorem beginDeactivation_undriven (undriven : Undriven state) (caller : Caller) :
    Undriven (state.beginDeactivation caller) := by
  unfold beginDeactivation
  split
  next active =>
    have free (transition : Transition K) : state.executor ≠ .inTransition transition := by
      intro busy
      have started := (undriven.inTransition transition busy).1
      rw [active] at started
      cases started
    have kept (transition : Transition K) :
        (if caller = .executor then .deactivating else state.executor) ≠
          ExecutorStep.inTransition transition := by
      split
      · nofun
      · exact free transition
    constructor
    case inactive => nofun
    case activating => exact fun activating => absurd activating (kept _)
    case accepted => exact fun _ _ _ => .inr ⟨caller, rfl⟩
    case deactivating =>
      rintro deactivation ⟨⟩
      exact ⟨rfl, nofun⟩
    case inTransition => exact fun transition busy => absurd busy (kept transition)
  next => exact undriven

omit [StdToString K] [Libm K] in
theorem endDeactivation_undriven (undriven : Undriven state) {caller : Caller}
    (stored : state.deactivation = some ⟨caller, true⟩) : Undriven (state.endDeactivation caller) := by
  obtain ⟨transition, rested⟩ := undriven.deactivating _ stored
  have free (other : Transition K) : state.executor ≠ .inTransition other := by
    intro busy
    rw [(undriven.inTransition other busy).2.1] at stored
    cases stored
  have kept (other : Transition K) :
      (if caller = .executor then .idle else state.executor) ≠ ExecutorStep.inTransition other := by
    split
    · nofun
    · exact free other
  constructor
  case inactive => exact fun _ => (rested rfl).of_same rfl rfl rfl
  case activating => exact fun activating => absurd activating (kept _)
  case accepted =>
    intro command cmdRxNs accepted
    simp only [endDeactivation] at accepted
    split at accepted
    · cases accepted
    · have unstored := (undriven.unstored accepted).2 _ stored
      cases unstored
  case deactivating => nofun
  case inTransition => exact fun other busy => absurd busy (kept other)

section Transitions

variable {node after : Node K} {result : Unit}

omit [StdToString K] [Libm K] in
theorem configure_rest {assignment : Assignment K} {bus : Bus} {now : Int}
    (run : (Transition.configure assignment bus now).rest.run node = (.returned result, after))
    (inactive : after.lifecycle = .inactive) :
    after.jointCmdPtr = some (zeroCommand after.jointMsgLength) := by
  obtain ⟨ended, middle, callback, settled⟩ := Path.bind_run_returned.mp run
  have ending := settle_returned settled
  cases ended with
  | success =>
      obtain returned | ⟨_, _, _, handled⟩ := Path.tryCatch_run_returned.mp callback
      · obtain ⟨accepted, configured⟩ := onConfigure_configuredBy returned
        rw [ending]
        exact configured.command
      · cases handled
  | failure =>
      rw [ending] at inactive
      cases inactive
  | error =>
      obtain ⟨handled, errored, _, rfl⟩ := ending
      cases handled <;> cases inactive

omit [StdToString K] [Libm K] in
theorem cleanup_rest
    (run : (Transition.cleanup : Transition K).rest.run node = (.returned result, after)) :
    after.lifecycle ≠ .inactive := by
  obtain ⟨ended, middle, callback, settled⟩ := Path.bind_run_returned.mp run
  have ending := settle_returned settled
  cases ended with
  | success =>
      rw [ending]
      intro inactive
      cases inactive
  | failure =>
      rcases Path.tryCatch_run_returned.mp callback with returned | ⟨_, _, _, handled⟩
      · simp only [Transition.callback, onCleanup, Path.update_bind, Path.bind_run_returned] at returned
        obtain ⟨_, _, _, _, _, _, _, _, _, _, _, _, _, _, _, _, _, _, _, _, _, ends⟩ := returned
        cases ends
      · cases handled
  | error =>
      obtain ⟨handled, errored, _, rfl⟩ := ending
      intro inactive
      cases handled <;> cases inactive

omit [StdToString K] [Libm K] in
theorem activate_rest
    (run : (Transition.activate : Transition K).rest.run node = (.returned result, after)) :
    after.jointCmdPtr = node.jointCmdPtr ∧ after.jointMsgLength = node.jointMsgLength := by
  have keeps : Path.Preserves (fun node : Node K => (node.jointCmdPtr, node.jointMsgLength))
      (Transition.activate : Transition K).rest := by
    have callback : Path.Preserves (fun node : Node K => (node.jointCmdPtr, node.jointMsgLength))
        onActivate := onActivate_evolves fun _ => rfl
    refine Path.Evolves.bind (Path.Evolves.tryCatch callback fun _ => Path.Evolves.pure _)
      fun result => ?_
    cases result with
    | success => exact Path.Evolves.update fun _ => rfl
    | failure => exact Path.Evolves.update fun _ => rfl
    | error =>
        refine Path.Evolves.bind (Path.Evolves.pure _) fun handled => ?_
        cases handled <;> exact Path.Evolves.update fun _ => rfl
  exact Prod.mk.inj (keeps.of_run run)

omit [StdToString K] [Libm K] in
theorem finish_undriven (undriven : Undriven state) {transition : Transition K}
    (busy : state.executor = .inTransition transition)
    (run : transition.rest.run state.node = (.returned result, after)) :
    Undriven (state.finished transition after) := by
  obtain ⟨_, free, other⟩ := undriven.inTransition transition busy
  constructor
  case inactive =>
    intro inactive
    cases transition with
    | configure assignment bus now => exact .inl ⟨rfl, configure_rest run inactive⟩
    | cleanup => exact absurd inactive (cleanup_rest run)
    | activate =>
        obtain ⟨command, length⟩ := activate_rest run
        exact (undriven.activating busy).of_same rfl command length
    | deactivate => exact absurd rfl other
  case activating => nofun
  case accepted => nofun
  case deactivating =>
    intro deactivation underWay
    cases free.symm.trans underWay
  case inTransition => nofun

end Transitions

theorem setParameters_undriven (undriven : Undriven state) {after : Node K}
    {order : IterationOrder (String × PerJointUpdate K)} {batch : List (Parameter K)}
    (moved : operate state.node (.setParameters order batch) = some after) :
    Undriven { state with node := after } := by
  have keeps : Path.Preserves (fun node : Node K =>
      (node.lifecycle, node.jointCmdPtr, node.jointMsgLength)) (onSetParametersCallback order batch) :=
    onSetParametersCallback_evolves (fun _ _ => rfl) (fun _ _ _ _ _ _ => rfl) order batch
  obtain ⟨answer, middle, callback, ends⟩ := Path.bind_run_returned.mp (operate_some.mp moved).2
  cases ends
  have same := keeps.of_run callback
  simp only [Prod.mk.injEq] at same
  obtain ⟨lifecycle, command, length⟩ := same
  constructor
  case inactive =>
    exact fun inactive => (undriven.inactive (lifecycle ▸ inactive)).of_same rfl command length
  case activating => exact fun busy => (undriven.activating busy).of_same rfl command length
  case accepted => simpa only [lifecycle] using undriven.accepted
  case deactivating =>
    intro deactivation underWay
    obtain ⟨transition, rested⟩ := undriven.deactivating deactivation underWay
    exact ⟨lifecycle.trans transition, fun stored => (rested stored).of_same rfl command length⟩
  case inTransition => simpa only [lifecycle] using undriven.inTransition

theorem step_undriven {action : CommandStep K} (undriven : Undriven state)
    (allowed : Undisturbed state action) (taken : state.step action = some next) : Undriven next := by
  cases action with
  | receive command cmdRxNs =>
      simp only [step] at taken
      split at taken
      · split at taken
        · cases taken
          exact receive_undriven undriven command cmdRxNs
        · cases taken
      · cases taken
  | storeCommand =>
      simp only [step] at taken
      split at taken
      · rename_i command cmdRxNs accepted
        cases taken
        obtain ⟨driven, unstored⟩ := undriven.unstored accepted
        constructor
        case inactive => exact fun inactive => absurd inactive driven
        case activating => nofun
        case accepted => nofun
        case deactivating =>
          intro deactivation underWay
          refine ⟨(undriven.deactivating deactivation underWay).1, fun stored => ?_⟩
          rw [unstored deactivation underWay] at stored
          cases stored
        case inTransition => nofun
      · cases taken
  | start transition =>
      simp only [step] at taken
      split at taken
      · cases taken
      · rename_i idle other
        split at taken
        · rename_i possible
          cases taken
          have free : state.deactivation = none := by
            cases underWay : state.deactivation with
            | none => rfl
            | some deactivation =>
                have started := (undriven.deactivating deactivation underWay).1
                rw [possible] at started
                exact absurd started (Transition.start_ne _)
          constructor
          case inactive => nofun
          case activating =>
            rintro ⟨⟩
            exact (undriven.inactive possible).of_same rfl rfl rfl
          case accepted => nofun
          case deactivating =>
            intro deactivation underWay
            cases free.symm.trans underWay
          case inTransition =>
            rintro _ ⟨⟩
            exact ⟨rfl, free, other⟩
        · cases taken
      · cases taken
  | finish =>
      simp only [step] at taken
      split at taken
      · rename_i transition busy
        split at taken
        · rename_i result after run
          cases taken
          exact finish_undriven undriven busy run
        · cases taken
      · cases taken
  | tick =>
      simp only [step] at taken
      split at taken
      · split at taken
        · cases taken
          unfold tick
          split
          · exact {
              inactive := fun inactive => (undriven.inactive inactive).of_same rfl rfl rfl
              activating := fun busy => (undriven.activating busy).of_same rfl rfl rfl
              accepted := undriven.accepted
              deactivating := fun deactivation underWay =>
                (undriven.deactivating deactivation underWay).imp_right fun rested stored =>
                  (rested stored).of_same rfl rfl rfl
              inTransition := undriven.inTransition }
          · exact beginDeactivation_undriven undriven .executor
        · cases taken
      · cases taken
  | setParameters order batch =>
      simp only [step] at taken
      split at taken
      · obtain ⟨after, moved, rfl⟩ := Option.map_eq_some_iff.mp taken
        exact setParameters_undriven undriven moved
      · cases taken
  | deactivate caller =>
      cases caller with
      | executor =>
          simp only [step] at taken
          split at taken
          · cases taken
            exact beginDeactivation_undriven undriven .executor
          · cases taken
      | commThread canInterface =>
          simp only [step] at taken
          split at taken
          · cases taken
            exact beginDeactivation_undriven undriven (.commThread canInterface)
          · cases taken
  | storeDamping =>
      simp only [step] at taken
      split at taken
      · rename_i caller begun
        cases taken
        obtain ⟨transition, _⟩ := undriven.deactivating _ begun
        have busy (other : Transition K) : state.executor ≠ .inTransition other := by
          intro busy
          rw [(undriven.inTransition other busy).2.1] at begun
          cases begun
        constructor
        case inactive => exact fun _ => .inr ⟨rfl, state.node.defaultDampingKD, rfl⟩
        case activating => exact fun activating => absurd activating (busy _)
        case accepted => exact fun command cmdRxNs accepted => absurd accepted (allowed command cmdRxNs)
        case deactivating =>
          rintro deactivation ⟨⟩
          exact ⟨transition, fun _ => .inr ⟨rfl, state.node.defaultDampingKD, rfl⟩⟩
        case inTransition => exact fun other started => absurd started (busy other)
      · cases taken
  | deactivated =>
      simp only [step] at taken
      split at taken
      · rename_i caller stored
        cases taken
        exact endDeactivation_undriven undriven stored
      · cases taken

end Steps

/-- A cycle in an inactive node loads the command of the configuration or a damping command
as long as no damping command is stored while an accepted joint command waits for its store. -/
theorem inactive_loads_rest {start : Node K} {actions : List (CommandStep K)} {state : Commanded K}
    (constructed : Constructed start)
    (undisturbed : EveryStep step Undisturbed { node := start } actions)
    (run : runSteps step { node := start } actions = some state)
    (inactive : state.node.lifecycle = .inactive) {canInterface : Nat} {command : JointCommand K}
    {source : CommandSource} (loads : state.loaded canInterface = some (command, source)) :
    source = .configuration ∧ command = zeroCommand state.node.jointMsgLength ∨
      source = .deactivation ∧ ∃ damping, command =
        { (zeroCommand state.node.jointMsgLength : JointCommand K) with
          kd := List.replicate state.node.jointMsgLength damping } := by
  have initial : Undriven ({ node := start } : Commanded K) := by
    constructor
    case inactive =>
      intro inactive
      rw [constructed.lifecycle] at inactive
      cases inactive
    case activating => nofun
    case accepted => nofun
    case deactivating => nofun
    case inTransition => nofun
  have undriven : Undriven state :=
    invariant_of_run (fun _ _ _ => step_undriven) initial undisturbed run
  unfold loaded at loads
  split at loads
  · obtain ⟨stored, found, same⟩ := Option.map_eq_some_iff.mp loads
    cases same
    rcases undriven.inactive inactive with ⟨configured, zero⟩ | ⟨deactivated, damping, damps⟩
    · exact .inl ⟨configured, Option.some.inj (found.symm.trans zero)⟩
    · exact .inr ⟨deactivated, damping, Option.some.inj (found.symm.trans damps)⟩
  · cases loads

section Example

attribute [local instance] libmAtRest

def reachingCommand : JointCommand ℚ := { exampleCommand 2 with position := [1, 1], kp := [10, 10] }

/-- The leg is configured and activated, and takes one more command. -/
def commandedLeg : List (CommandStep ℚ) :=
  [.start (.configure (legAssignment []) legBus 0), .finish, .receive reachingCommand 0,
    .start .activate, .finish, .receive reachingCommand 0]

/-- A comm thread deactivates the node. -/
def deactivatedByThread : List (CommandStep ℚ) :=
  [.deactivate (.commThread 0), .storeDamping, .deactivated]

def ExecutorStep.isIdle : ExecutorStep ℚ → Bool
  | .idle => true
  | _ => false

theorem undisturbed_of_no_deactivation {start : Commanded ℚ} {actions : List (CommandStep ℚ)}
    (none : .storeDamping ∉ actions) : EveryStep step Undisturbed start actions := by
  induction actions generalizing start with
  | nil => trivial
  | cons action rest ih =>
      rw [List.mem_cons, not_or] at none
      refine ⟨?_, fun _ _ => ih none.2⟩
      cases action with
      | storeDamping => exact absurd rfl none.1
      | _ => trivial

theorem inactive_loads_rest_leg : ∃ (state : Commanded ℚ) (command : JointCommand ℚ),
    runSteps step { node := freshNode } (commandedLeg ++ [.storeCommand] ++ deactivatedByThread) =
      some state ∧
    state.loaded 0 = some (command, .deactivation) ∧
    (CommandSource.deactivation = .configuration ∧
        command = zeroCommand state.node.jointMsgLength ∨
      CommandSource.deactivation = .deactivation ∧ ∃ damping, command =
        { (zeroCommand state.node.jointMsgLength : JointCommand ℚ) with
          kd := List.replicate state.node.jointMsgLength damping }) := by
  obtain ⟨state, run, observed⟩ := Option.map_eq_some_iff.mp
    (show (runSteps step { node := freshNode } (commandedLeg ++ [.storeCommand] ++
      deactivatedByThread)).map (fun state => (state.node.lifecycle,
        (state.loaded 0).map Prod.snd)) = some (.inactive, some .deactivation) by decide +kernel)
  rw [Prod.mk.injEq] at observed
  obtain ⟨⟨command, source⟩, loads, same⟩ := Option.map_eq_some_iff.mp observed.2
  cases same
  have undisturbed : EveryStep step Undisturbed { node := freshNode }
      (commandedLeg ++ [.storeCommand, .deactivate (.commThread 0)] ++
        [CommandStep.storeDamping, .deactivated]) := by
    apply EveryStep.append
    · apply undisturbed_of_no_deactivation
      simp [commandedLeg]
    · intro middle reached
      refine ⟨fun other cmdRxNs accepted => ?_, fun _ _ => ⟨trivial, fun _ _ => trivial⟩⟩
      have idle : (runSteps step { node := freshNode } (commandedLeg ++
          [.storeCommand, .deactivate (.commThread 0)])).map (fun state =>
            ExecutorStep.isIdle state.executor) = some true := by decide +kernel
      rw [reached, Option.map_some, accepted] at idle
      cases idle
  exact ⟨state, command, run, loads,
    inactive_loads_rest freshNode_constructed undisturbed run observed.1 loads⟩

/-- The command that was accepted before a deactivation is in force after it. -/
theorem accepted_command_outlives_deactivation : ∃ state : Commanded ℚ,
    runSteps step { node := freshNode } (commandedLeg ++ deactivatedByThread ++ [.storeCommand]) =
      some state ∧
    state.node.lifecycle = .inactive ∧ state.node.watchdogTimer = false ∧
    state.loaded 0 = some (reachingCommand, .topic) ∧
    ∀ kd, reachingCommand ≠ { (zeroCommand 2 : JointCommand ℚ) with kd } := by
  obtain ⟨state, run, observed⟩ := Option.map_eq_some_iff.mp
    (show (runSteps step { node := freshNode } (commandedLeg ++ deactivatedByThread ++
      [.storeCommand])).map (fun state => (state.node.lifecycle, state.node.watchdogTimer,
        state.loaded 0)) = some (.inactive, false, some (reachingCommand, .topic)) by decide +kernel)
  simp only [Prod.mk.injEq] at observed
  refine ⟨state, run, observed.1, observed.2.1, observed.2.2, fun kd same => ?_⟩
  have position : ([1, 1] : List ℚ) = [0, 0] := congrArg JointCommand.position same
  revert position
  decide

end Example

end Commanded

end CubemarsDriver.Node
