import CubemarsDriver.Node.Activation
import CubemarsDriver.Node.CycleScripts
import Mathlib.Logic.Relation

namespace CubemarsDriver.Node

open Foundation Can

/-! # The executor and the comm threads as a crew

The executor takes one callback after the other, and every comm thread one cycle after the other
until it is told to stop.  Which steps they take follows from the paths of the node; what data
they find is left open.  The steps interleave in any order that the mutexes allow. -/

variable {K : Type}

/-- A callback of the executor. -/
inductive Call (K : Type) where
  | operation (action : Operation K) (called : action.called = true)
  | publish (pubNowNs nowNs : Int)

section Scripts

variable [Scalar K] [StdToString K]

/-- Pass 2 shares the mutex of the joint parameters, and pass 3 has it alone. -/
def parameterScript (order : IterationOrder (String × PerJointUpdate K)) (batch : List (Parameter K))
    (node : Node K) : List NodeStep :=
  match parseBatch node.tables.jointNameToCanIfaceAndIdx batch with
  | .error _ => []
  | .ok pending =>
      [.take .jointParams .shared, .give .jointParams .shared] ++
        match (checkUpdates (order.val pending.updates)).run node with
        | (.returned (.ok ()), _) => [.take .jointParams .exclusive, .give .jointParams .exclusive]
        | _ => []

omit [Scalar K] [StdToString K] in
/-- The steps from one state to a later one. -/
def scriptSince (before after : Node K) : List NodeStep :=
  after.lockScript.drop before.lockScript.length

/-- The mutex of the joint parameters is no part of the node's paths. -/
def Call.parameterSteps : Call K → Node K → List NodeStep
  | .operation (.setParameters order batch) _, node => parameterScript order batch node
  | _, _ => []

def Call.script (call : Call K) (before after : Node K) : List NodeStep :=
  call.parameterSteps before ++ scriptSince before after

/-- A cycle of a configured node holds that mutex from its first access to the tables on. -/
def cycleScript (exit : CycleExit) (before after : Node K) : List NodeStep :=
  match exit with
  | .notConfigured => scriptSince before after
  | _ => .take .jointParams .shared :: scriptSince before after ++ [.give .jointParams .shared]

variable [Libm K]

def Call.path : Call K → NodePath K Unit
  | .operation action _ => action.path
  | .publish pubNowNs nowNs => do let _ ← jointStatePublishCallback pubNowNs nowNs

end Scripts

section Facts

variable {before after node : Node K} {steps : List NodeStep} {other : Nat}

theorem scriptSince_of (script : after.lockScript = before.lockScript ++ steps) :
    scriptSince before after = steps := by
  rw [scriptSince, script, List.drop_left]

/-- Only comm threads are waited for. -/
theorem lockScript_awaits (awaited : .await other ∈ node.lockScript) : executorParty < other := by
  rw [lockScript, List.mem_filterMap] at awaited
  obtain ⟨event, _, told⟩ := awaited
  cases event <;> cases told
  exact Nat.succ_pos _

theorem Scripted.replays (scripted : Scripted before after) :
    Replays ScriptState.Allows ScriptState.after before.surroundings.scriptState
      (scriptSince before after) after.surroundings.scriptState := by
  obtain ⟨steps, script, replays⟩ := scripted
  rwa [scriptSince_of script]

theorem Scripted.inOrder (scripted : Scripted before after) : ScriptInOrder NodeLock.rank
    before.surroundings.scriptState.holding (scriptSince before after)
    after.surroundings.scriptState.holding :=
  scripted.replays.map (fun _ _ => And.left) fun _ _ => rfl

theorem Scripted.flags (scripted : Scripted before after) : Replays ThreadFlags.Allows
    ThreadFlags.after (threadFlags before.commThreads) (scriptSince before after)
    (threadFlags after.commThreads) :=
  scripted.replays.map (fun _ _ => And.right) fun _ _ => rfl

end Facts

section Scripted

variable [Scalar K] [StdToString K] {before after : Node K}

theorem parameterScript_inOrder (order : IterationOrder (String × PerJointUpdate K))
    (batch : List (Parameter K)) (node : Node K) :
    ScriptInOrder NodeLock.rank Holding.nothing (parameterScript order batch node) Holding.nothing ∧
      ∀ step ∈ parameterScript order batch node, step.isLock = true := by
  have section_inOrder (mode : LockMode) : ScriptInOrder NodeLock.rank Holding.nothing
      ([.take .jointParams mode, .give .jointParams mode] : List NodeStep) Holding.nothing := by
    refine ⟨fun other holds => absurd rfl holds, ?_, ?_⟩
    · exact Function.update_self NodeLock.jointParams (some mode) Holding.nothing
    · show Function.update (Function.update _ _ _) _ _ = _
      rw [Function.update_idem]
      exact Function.update_eq_self _ _
  rw [parameterScript]
  split
  · exact ⟨rfl, fun step member => absurd member List.not_mem_nil⟩
  · split
    · exact ⟨(section_inOrder .shared).append (section_inOrder .exclusive), by decide⟩
    · exact ⟨(section_inOrder .shared).append rfl, by decide⟩

theorem flags_of_locks {flags : ThreadFlags} {steps : List NodeStep}
    (locks : ∀ step ∈ steps, step.isLock = true) :
    Replays ThreadFlags.Allows ThreadFlags.after flags steps flags := by
  induction steps with
  | nil => rfl
  | cons step rest ih =>
      have remaining := ih fun other member => locks other (List.mem_cons_of_mem step member)
      have isLock := locks step List.mem_cons_self
      cases step with
      | take lock mode => exact ⟨trivial, remaining⟩
      | give lock mode => exact ⟨trivial, remaining⟩
      | await other => cases isLock
      | work work => cases isLock

theorem not_await_of_locks {steps : List NodeStep} {other : Nat}
    (locks : ∀ step ∈ steps, step.isLock = true) : LockStep.await other ∉ steps := fun member => by
  cases locks _ member

theorem Call.parameterSteps_inOrder (call : Call K) (node : Node K) :
    ScriptInOrder NodeLock.rank Holding.nothing (call.parameterSteps node) Holding.nothing ∧
      ∀ step ∈ call.parameterSteps node, step.isLock = true := by
  unfold Call.parameterSteps
  split
  · exact parameterScript_inOrder _ _ _
  · exact ⟨rfl, fun step member => absurd member List.not_mem_nil⟩

variable [Libm K]

theorem Call.carries (base : Node K) (call : Call K) :
    Carries base betweenCalls call.path (fun _ => betweenCalls) anywhere := by
  cases call with
  | operation action called => exact Operation.carries called
  | publish pubNowNs nowNs =>
      exact Path.Confines.bind (jointStatePublishCallback_carries pubNowNs nowNs) fun _ =>
        pure_carries _

/-- A callback of the executor is a script in order that waits for comm threads only. -/
theorem Call.scripted {call : Call K} (between : betweenCalls before.surroundings)
    (run : call.path.run before = (.returned (), after)) :
    betweenCalls after.surroundings ∧
      ScriptInOrder NodeLock.rank Holding.nothing (call.script before after) Holding.nothing ∧
      Replays ThreadFlags.Allows ThreadFlags.after (threadFlags before.commThreads)
        (call.script before after) (threadFlags after.commThreads) ∧
      ∀ other, .await other ∈ call.script before after → executorParty < other := by
  obtain ⟨scripted, between'⟩ := (call.carries before).of_returned scripted_self between run
  obtain ⟨parametersInOrder, locks⟩ := call.parameterSteps_inOrder before
  have nothing {node : Node K} (between : betweenCalls node.surroundings) :
      node.surroundings.scriptState.holding = Holding.nothing := by
    rw [Surroundings.scriptState, between.communication, between.jointStateMsg, nodeHolding_nothing]
  have inOrder := scripted.inOrder
  rw [nothing between, nothing between'] at inOrder
  refine ⟨between', parametersInOrder.append inOrder, (flags_of_locks locks).append scripted.flags,
    fun other awaited => ?_⟩
  rcases List.mem_append.mp awaited with parameter | since
  · exact absurd parameter (not_await_of_locks locks)
  · exact lockScript_awaits (List.mem_of_mem_drop since)

omit [StdToString K] in
/-- So is a cycle, which waits for nobody. -/
theorem cycle_scripted {index : Nat} {env : CycleEnv} {exit : CycleExit}
    (free : before.holds = (none, none))
    (run : (canCycleCallback index env).run before = (.returned exit, after)) :
    ScriptInOrder NodeLock.rank Holding.nothing (cycleScript exit before after) Holding.nothing ∧
      ∀ step ∈ cycleScript exit before after, step.isLock = true := by
  obtain ⟨⟨⟨steps, script, inOrder, locks⟩, _⟩, ends⟩ :=
    canCycleCallback_cycle.of_returned (cycleScripted_self free) free run
  rw [ends] at inOrder
  have unlocked := inOrder none
  have locked := inOrder (some .shared)
  rw [nodeHolding_nothing] at unlocked
  have taken : Function.update Holding.nothing NodeLock.jointParams (some LockMode.shared) =
      nodeHolding (some .shared) none none := by
    rw [← nodeHolding_nothing]
    exact nodeHolding_jointParams _
  have surrounded : ScriptInOrder NodeLock.rank Holding.nothing
      (.take .jointParams .shared :: steps ++ [.give .jointParams .shared] : List NodeStep)
      Holding.nothing := by
    refine ⟨fun other holds => absurd rfl holds, ?_⟩
    show Replays _ _ (Function.update Holding.nothing _ _) _ _
    rw [taken]
    refine Replays.append locked ⟨rfl, ?_⟩
    rw [← nodeHolding_nothing]
    exact nodeHolding_jointParams _
  have surroundedLocks : ∀ step ∈
      (.take .jointParams .shared :: steps ++ [.give .jointParams .shared] : List NodeStep),
      step.isLock = true := by
    intro step member
    simp only [List.cons_append, List.mem_cons, List.mem_append, List.not_mem_nil, or_false] at member
    rcases member with rfl | inside | rfl
    · rfl
    · exact locks step inside
    · rfl
  unfold cycleScript
  rw [scriptSince_of script]
  split
  · exact ⟨unlocked, locks⟩
  · exact ⟨surrounded, surroundedLocks⟩

end Scripted

structure Crew where
  parties : Parties NodeLock ThreadWork
  flags : ThreadFlags
  /-- as the last callback of the executor leaves it -/
  lifecycle : Lifecycle

namespace Crew

def initial : Crew where
  parties := {
    count := 0
    held := fun _ => Holding.nothing
    rest := fun _ => []
    idle := fun _ _ => ⟨rfl, rfl⟩ }
  flags := ⟨fun _ => false, fun _ => false⟩
  lifecycle := .unconfigured

/-- The executor is idle and finds this node.  Meanwhile a cycle may have deactivated it. -/
structure Finds (crew : Crew) (node : Node K) : Prop where
  idle : crew.parties.rest executorParty = []
  free : node.holds = (none, none)
  flags : threadFlags node.commThreads = crew.flags
  lifecycle : node.lifecycle = crew.lifecycle ∨ crew.lifecycle = .active ∧ node.lifecycle = .inactive

/-- The comm thread exists, has not been told to stop and begins a cycle. -/
structure Cycles (crew : Crew) (index : Nat) (node : Node K) : Prop where
  idle : crew.parties.rest (commParty index) = []
  attached : crew.flags.joinable index = true
  running : crew.flags.running index = true
  free : node.holds = (none, none)

variable (prefersWriters : NodeLock → Bool)

/-- A party goes on.  A join ends only when the thread has left its loop. -/
inductive Moves : Crew → Crew → Prop where
  | step {crew : Crew} {party : Nat} {action : NodeStep} {remaining : List NodeStep}
      {next : Parties NodeLock ThreadWork}
      (found : crew.parties.rest party = action :: remaining)
      (moved : crew.parties.step prefersWriters party = some next)
      (left : ∀ index, action = .await (commParty index) → crew.flags.running index = false) :
      Moves crew { crew with parties := next, flags := crew.flags.after action }

section Steps

variable (K) [Scalar K] [StdToString K] [Libm K]

/-- A party that is idle begins a callback or a cycle whose path returns, or one goes on.  A path
that throws out of its callback or is undefined, as `set_all_motors_origin_here_callback` is
after a failed handshake, is not begun. -/
inductive Step : Crew → Crew → Prop where
  | call {crew : Crew} {call : Call K} {before after : Node K} (finds : crew.Finds before)
      (run : call.path.run before = (.returned (), after)) :
      Step crew { crew with
        parties := crew.parties.assign executorParty (call.script before after)
        lifecycle := after.lifecycle }
  | cycle {crew : Crew} {index : Nat} {env : CycleEnv} {exit : CycleExit} {before after : Node K}
      (cycles : crew.Cycles index before)
      (run : (canCycleCallback index env).run before = (.returned exit, after)) :
      Step crew { crew with
        parties := crew.parties.assign (commParty index) (cycleScript exit before after) }
  | move {crew next : Crew} (moves : Moves prefersWriters crew next) : Step crew next

/-- The crew has come here from the start. -/
def Reachable (crew : Crew) : Prop := Relation.ReflTransGen (Step K prefersWriters) initial crew

end Steps

variable {prefersWriters : NodeLock → Bool}

/-- All parties are in order, only the executor works on threads, and it finds them as it needs. -/
structure InOrder (crew : Crew) : Prop where
  ordered : crew.parties.Ordered NodeLock.rank
  locks : ∀ party, party ≠ executorParty → ∀ step ∈ crew.parties.rest party, step.isLock = true
  flags : ∃ final : ThreadFlags, Replays ThreadFlags.Allows ThreadFlags.after crew.flags
    (crew.parties.rest executorParty) final ∧
      (crew.lifecycle = .unconfigured → final = ⟨fun _ => false, fun _ => false⟩)

theorem initial_inOrder : InOrder initial where
  ordered := ⟨fun _ => rfl, nofun⟩
  locks := nofun
  flags := ⟨_, rfl, fun _ => rfl⟩

theorem dormant_of_flags {threads : List CommThread}
    (flags : threadFlags threads = ⟨fun _ => false, fun _ => false⟩) : Dormant threads := fun index =>
  ⟨congrFun (congrArg ThreadFlags.running flags) index,
    congrFun (congrArg ThreadFlags.joinable flags) index⟩

variable {crew next : Crew}

theorem Moves.inOrder (moves : Moves prefersWriters crew next) (inOrder : InOrder crew) :
    InOrder next := by
  obtain ⟨found, moved, left⟩ := moves
  rename_i party action remaining parties
  obtain ⟨same, rest, present, head, _, rfl⟩ := Parties.step_some.mp moved
  obtain ⟨rfl, rfl⟩ := List.cons.inj (found.symm.trans head)
  refine ⟨inOrder.ordered.step moved, fun other different step member => ?_, ?_⟩
  · by_cases same : other = party
    · subst same
      rw [Parties.advance_rest, Function.update_self] at member
      exact inOrder.locks other different step (found ▸ List.mem_cons_of_mem _ member)
    · rw [Parties.advance_rest, Function.update_of_ne same] at member
      exact inOrder.locks other different step member
  · obtain ⟨final, replays, unconfigured⟩ := inOrder.flags
    refine ⟨final, ?_, unconfigured⟩
    by_cases executor : party = executorParty
    · subst executor
      rw [found] at replays
      rw [Parties.advance_rest, Function.update_self]
      exact replays.2
    · have isLock := inOrder.locks party executor action (found ▸ List.mem_cons_self)
      rw [Parties.advance_rest, Function.update_of_ne (Ne.symm executor)]
      cases action with
      | take lock mode => exact replays
      | give lock mode => exact replays
      | await other => cases isLock
      | work work => cases isLock

section Invariant

variable [Scalar K] [StdToString K] [Libm K]

theorem Step.inOrder (step : Step K prefersWriters crew next) (inOrder : InOrder crew) :
    InOrder next := by
  cases step with
  | move moves => exact moves.inOrder inOrder
  | @call call before after finds run =>
      obtain ⟨final, replays, dormant⟩ := inOrder.flags
      have reached : crew.flags = final := by
        have idle := finds.idle
        rw [idle] at replays
        exact replays
      have between : betweenCalls before.surroundings := by
        obtain ⟨communication, jointStateMsg⟩ := Prod.mk.inj finds.free
        refine ⟨communication, jointStateMsg, trivial, fun unconfigured => ?_⟩
        apply dormant_of_flags
        rcases finds.lifecycle with same | ⟨_, inactive⟩
        · exact (finds.flags.trans reached).trans (dormant (same.symm.trans unconfigured))
        · cases inactive.symm.trans unconfigured
      obtain ⟨between', scriptInOrder, flags, awaits⟩ := Call.scripted between run
      refine ⟨inOrder.ordered.assign (inOrder.ordered.free_of_done finds.idle) scriptInOrder awaits,
        fun other different step member => ?_, threadFlags after.commThreads, ?_,
        fun unconfigured => ?_⟩
      · rw [Parties.assign_rest, Function.update_of_ne different] at member
        exact inOrder.locks other different step member
      · rw [Parties.assign_rest, Function.update_self, ← finds.flags]
        exact flags
      · exact threadFlags_dormant (between'.situation.2 unconfigured)
  | @cycle index env exit before after cycles run =>
      obtain ⟨scriptInOrder, locks⟩ := cycle_scripted cycles.free run
      refine ⟨inOrder.ordered.assign (inOrder.ordered.free_of_done cycles.idle) scriptInOrder
        fun other awaited => absurd awaited (not_await_of_locks locks),
        fun other different step member => ?_, ?_⟩
      · by_cases same : other = commParty index
        · subst same
          rw [Parties.assign_rest, Function.update_self] at member
          exact locks step member
        · rw [Parties.assign_rest, Function.update_of_ne same] at member
          exact inOrder.locks other different step member
      · have different : executorParty ≠ commParty index := by simp [executorParty, commParty]
        rw [Parties.assign_rest, Function.update_of_ne different]
        exact inOrder.flags

theorem Reachable.inOrder (reachable : Reachable K prefersWriters crew) : InOrder crew := by
  induction reachable with
  | refl => exact initial_inOrder
  | tail _ step ih => exact step.inOrder ih

end Invariant

/-- The callback of the executor has returned, and so has every cycle. -/
def Finished (crew : Crew) : Prop := ∀ party, crew.parties.rest party = []

theorem InOrder.allows (inOrder : InOrder crew) {action : NodeStep} {remaining : List NodeStep}
    (found : crew.parties.rest executorParty = action :: remaining) : crew.flags.Allows action := by
  obtain ⟨final, replays, _⟩ := inOrder.flags
  rw [found] at replays
  exact replays.1

theorem InOrder.moves (inOrder : InOrder crew) (unfinished : ¬ crew.Finished) :
    ∃ next, Moves prefersWriters crew next := by
  obtain ⟨busy, left⟩ := not_forall.mp unfinished
  obtain ⟨party, parties, moved⟩ := inOrder.ordered.moves NodeLock.rank_le left
  obtain ⟨action, remaining, present, found, _, _⟩ := Parties.step_some.mp moved
  refine ⟨_, .step found moved fun index awaits => ?_⟩
  -- only the executor joins threads, and only those it has told to stop
  by_cases executor : party = executorParty
  · subst executor
    have allowed := inOrder.allows found
    rw [awaits] at allowed
    exact allowed.2
  · have isLock := inOrder.locks party executor action (found ▸ List.mem_cons_self)
    rw [awaits] at isLock
    cases isLock

theorem Moves.smaller (moves : Moves prefersWriters crew next) :
    next.parties.size < crew.parties.size := by
  obtain ⟨_, moved, _⟩ := moves
  exact Parties.size_step moved

/-- Whichever mutexes prefer writers and however the steps interleave, every callback in progress
and every cycle in progress comes to its end, if all that were begun have paths that return.  The
executor joins only threads that can be joined and replaces none of them. -/
theorem reachable_finishes [Scalar K] [StdToString K] [Libm K]
    (reachable : Reachable K prefersWriters crew) :
    Inevitable (Moves prefersWriters) Finished crew ∧
      ∀ action remaining, crew.parties.rest executorParty = action :: remaining →
        crew.flags.Allows action :=
  ⟨inevitable_of_progress (fun crew => crew.parties.size) (fun _ _ inOrder moves => moves.inOrder inOrder)
    (fun _ _ moves => moves.smaller) (fun _ inOrder unfinished => inOrder.moves unfinished)
    reachable.inOrder, fun _ _ found => reachable.inOrder.allows found⟩

section Example

attribute [local instance] libmAtRest

/-- The policy the source asks for; that of the other two mutexes is not specified. -/
def parametersPreferWriters : NodeLock → Bool
  | .jointParams => true
  | _ => false

theorem Reachable.goesOn [Scalar K] [StdToString K] [Libm K] {action : NodeStep}
    {remaining : List NodeStep} (reachable : Reachable K prefersWriters crew) (party : Nat)
    (present : party < crew.parties.count) (found : crew.parties.rest party = action :: remaining)
    (enabled : crew.parties.Enabled prefersWriters party action)
    (left : ∀ index, action = .await (commParty index) → crew.flags.running index = false) :
    Reachable K prefersWriters { crew with
      parties := crew.parties.advance party action remaining present
      flags := crew.flags.after action } :=
  reachable.tail (.move (.step found (Parties.step_some.mpr ⟨_, _, present, found, enabled, rfl⟩) left))

theorem Reachable.calls [Scalar K] [StdToString K] [Libm K] {before after : Node K}
    {steps : List NodeStep} {lifecycle : Lifecycle} (reachable : Reachable K prefersWriters crew)
    (call : Call K) (finds : crew.Finds before) (run : call.path.run before = (.returned (), after))
    (script : call.script before after = steps) (ends : after.lifecycle = lifecycle) :
    Reachable K prefersWriters { crew with
      parties := crew.parties.assign executorParty steps
      lifecycle } := by
  subst script ends
  exact reachable.tail (.call finds run)

theorem Reachable.cycles [Scalar K] [StdToString K] [Libm K] {index : Nat} {env : CycleEnv}
    {exit : CycleExit} {before after : Node K} {steps : List NodeStep}
    (reachable : Reachable K prefersWriters crew) (cycles : crew.Cycles index before)
    (run : (canCycleCallback index env).run before = (.returned exit, after))
    (script : cycleScript exit before after = steps) :
    Reachable K prefersWriters { crew with
      parties := crew.parties.assign (commParty index) steps } := by
  subst script
  exact reachable.tail (.cycle cycles run)

def observedCycle (node : Node ℚ) : Option (List NodeStep) :=
  match (canCycleCallback 0 {}).run node with
  | (.returned exit, after) => some (cycleScript exit node after)
  | _ => none

theorem observedCycle_some {node : Node ℚ} {steps : List NodeStep}
    (observed : observedCycle node = some steps) : ∃ exit after,
      (canCycleCallback 0 {}).run node = (.returned exit, after) ∧ cycleScript exit node after = steps := by
  rw [observedCycle] at observed
  split at observed
  · rename_i exit after run
    exact ⟨exit, after, run, Option.some.inj observed⟩
  · cases observed

/-- What is left of a cycle that has done its exchange with the bus. -/
def exchangingCycle : List NodeStep :=
  [.give .canCommunication .shared, .give .jointParams .shared]

/-- What is left of a cleanup that has told the thread to stop. -/
def joiningCleanup : List NodeStep :=
  [.await 1, .take .canCommunication .exclusive, .take .jointStateMsg .exclusive,
    .give .jointStateMsg .exclusive, .give .canCommunication .exclusive]

/-- What is observed of a configured node. -/
structure Observed where
  script : List NodeStep
  threads : List CommThread
  holds : Option LockMode × Option LockMode
  lifecycle : Lifecycle
  cycle : Option (List NodeStep)
  cleanup : Option (Lifecycle × List NodeStep)
deriving DecidableEq

def observed (node : Node ℚ) : Observed where
  script := scriptSince freshNode node
  threads := node.commThreads
  holds := node.holds
  lifecycle := node.lifecycle
  cycle := observedCycle node
  cleanup := (operate node .cleanup).map fun after => (after.lifecycle, scriptSince node after)

theorem leg_observed : (operate freshNode Monitored.configureLeg).map observed = some {
    script := [.work (.start 0)]
    threads := [startedThread]
    holds := (none, none)
    lifecycle := .inactive
    cycle := some (.take .jointParams .shared :: .take .canCommunication .shared :: exchangingCycle)
    cleanup := some (.unconfigured, .work (.signal 0) :: joiningCleanup) } := by
  decide +kernel

/-- The cleanup waits for the thread, and the thread still holds two mutexes. -/
theorem reachable_finishes_leg : ∃ crew, Reachable ℚ parametersPreferWriters crew ∧
    crew.parties.rest executorParty = joiningCleanup ∧
    crew.parties.rest (commParty 0) = exchangingCycle ∧
    Inevitable (Moves parametersPreferWriters) Finished crew := by
  obtain ⟨node, moved, same⟩ := Option.map_eq_some_iff.mp leg_observed
  simp only [observed, Observed.mk.injEq] at same
  obtain ⟨script, threads, free, lifecycle, cycle, cleanup⟩ := same
  obtain ⟨exit, cycled, cycleRun, cycleSteps⟩ := observedCycle_some cycle
  obtain ⟨clean, cleaned, cleanupSteps⟩ := Option.map_eq_some_iff.mp cleanup
  obtain ⟨unconfigured, cleanupScript⟩ := Prod.mk.inj cleanupSteps
  have start : Reachable ℚ parametersPreferWriters initial := Relation.ReflTransGen.refl
  have flags : threadFlags node.commThreads = initial.flags.after (.work (.start 0)) := by
    have fresh : threadFlags [{}] = initial.flags := threadFlags_dormant (dormant_replicate 1)
    have started : threadFlags ([({} : CommThread)].modify 0 fun _ => startedThread) = _ :=
      threadFlags_started (by decide)
    rw [threads, ← fresh, ← started]
    rfl
  have configured := start.calls (.operation Monitored.configureLeg rfl)
    ⟨rfl, rfl, threadFlags_dormant dormant_nil, .inl rfl⟩ (operate_some.mp moved).2 script lifecycle
  have running := configured.goesOn executorParty (by decide) rfl trivial nofun
  have begun := running.cycles ⟨rfl, rfl, rfl, free⟩ cycleRun cycleSteps
  have sharing := begun.goesOn (commParty 0) (by decide) rfl (by decide) nofun
  have exchanging := sharing.goesOn (commParty 0) (by decide) rfl (by decide) nofun
  have called := exchanging.calls (.operation .cleanup rfl)
    ⟨rfl, free, flags, .inl lifecycle⟩ (operate_some.mp cleaned).2 cleanupScript unconfigured
  have signalled := called.goesOn executorParty (by decide) rfl trivial nofun
  exact ⟨_, signalled, rfl, rfl, (reachable_finishes signalled).1⟩

end Example

end Crew

end CubemarsDriver.Node
