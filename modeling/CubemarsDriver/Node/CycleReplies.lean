import CubemarsDriver.Node.WriteBack
import CubemarsDriver.Node.Operations

namespace CubemarsDriver.Node

open Foundation Can

/-! # The replies of a cycle

A cycle that reaches its replies looks for device faults, counts the communication errors
and gives up if there have been too many. -/

variable {K : Type} {index joint : Nat} {env : CycleEnv} {node after : Node K}

/-- The lifecycle state, and whether the watchdog still runs. -/
abbrev alarm (node : Node K) : Lifecycle × Bool := (node.lifecycle, node.watchdogTimer)

/-- What a cycle counts with, and whether a cleanup has been requested. -/
structure Gauges (K : Type) where
  tables : JointTables K
  counters : List Nat
  maxCanErrors : Nat
  dampingOnMotorError : Bool
  cleanupRequested : Bool

@[simp] def gauges (node : Node K) : Gauges K where
  tables := node.tables
  counters := node.interfaces.numCanErrorsPerInterfaces
  maxCanErrors := node.maxCanErrorsBeforeMotorShutdown
  dampingOnMotorError := node.dampingOnMotorError
  cleanupRequested := node.cleanupRequested

/-- A device fault that is found in an active node deactivates it. -/
def faultStep (env : CycleEnv) (dampingOnMotorError : Bool) (joint : Nat) (state : JointState K)
    (alarm : Lifecycle × Bool) : Lifecycle × Bool :=
  if state.deviceStatus = .noFault then alarm
  else
    let seen := env.lifecycle (.deviceFault joint) alarm.1
    if seen = .active ∧ dampingOnMotorError = true then (.inactive, false) else (seen, alarm.2)

/-- The loop over the joints. -/
def afterFaults (env : CycleEnv) (dampingOnMotorError : Bool) :
    Nat → List (JointState K) → Lifecycle × Bool → Lifecycle × Bool
  | _, [], alarm => alarm
  | joint, state :: rest, alarm =>
      afterFaults env dampingOnMotorError (joint + 1) rest
        (faultStep env dampingOnMotorError joint state alarm)

section Faults

variable [Scalar K]

theorem deactivate_gauges : Path.Preserves gauges (deactivate : NodePath K Unit) := by
  intro node
  rw [deactivate_run]
  split <;> rfl

omit [Scalar K] in
theorem observeLifecycle_gauges {point : CyclePoint} :
    Path.Preserves gauges (observeLifecycle env point : NodePath K Lifecycle) :=
  Path.Evolves.bind (Path.Evolves.update fun _ => rfl) fun _ => Path.Evolves.read _

omit [Scalar K] in
theorem canInterface_gauges :
    Path.Preserves gauges (canInterface index : NodePath K (CubemarsCan K)) :=
  canInterface_preserves fun _ _ => rfl

omit [Scalar K] in
theorem nameJoint_gauges : Path.Preserves gauges (nameJoint index joint : NodePath K Unit) :=
  nameJoint_preserves fun _ _ => rfl

omit [Scalar K] in
theorem nameJoint_alarm : Path.Preserves alarm (nameJoint index joint : NodePath K Unit) :=
  nameJoint_preserves fun _ _ => rfl

theorem checkStatus_gauges :
    Path.Preserves gauges (checkStatus env index joint : NodePath K Unit) := by
  refine Path.Evolves.bind (Path.Evolves.element _) fun state => ?_
  refine Path.Evolves.bind (Path.Evolves.when fun _ => ?_) fun _ =>
    Path.Evolves.when fun _ => nameJoint_gauges
  refine Path.Evolves.bind nameJoint_gauges fun _ => ?_
  refine Path.Evolves.bind observeLifecycle_gauges fun lifecycle => ?_
  exact Path.Evolves.bind (Path.Evolves.read _) fun _ => Path.Evolves.when fun _ => deactivate_gauges

theorem checkStatus_run (run : (checkStatus env index joint).run node = (.returned (), after)) :
    ∃ state, (node.tables.jointStatesPerCanInterface[index]?.bind fun row => row[joint]?) = some state ∧
      after.alarm = faultStep env node.dampingOnMotorError joint state node.alarm := by
  simp only [checkStatus, Path.bind_run_returned] at run
  obtain ⟨state, _, found, _, faulted, fault, run⟩ := run
  obtain ⟨found, rfl⟩ := Path.element_run_returned.mp found
  refine ⟨state, found, ?_⟩
  have silent : after.alarm = faulted.alarm := by
    have names : Path.Preserves alarm (Path.when (state.communicationStatus ≠ .success)
        (nameJoint index joint : NodePath K Unit)) := Path.Evolves.when fun _ => nameJoint_alarm
    exact names.of_run run
  rw [silent, faultStep]
  by_cases healthy : state.deviceStatus = .noFault
  · rw [Path.when, if_neg (not_not.mpr healthy)] at fault
    cases fault
    rw [if_pos healthy]
  · rw [Path.when, if_pos healthy, Path.bind_run_returned] at fault
    obtain ⟨_, named, names, fault⟩ := fault
    have alarms := nameJoint_alarm.of_run names
    have gauges := nameJoint_gauges.of_run names
    simp only [alarm, Prod.mk.injEq] at alarms
    simp only [Node.gauges, Gauges.mk.injEq] at gauges
    rw [observeLifecycle_bind, Path.read_bind] at fault
    simp only [Path.when, gauges.2.2.2.1, alarms.1] at fault
    rw [if_neg healthy]
    dsimp only
    split at fault
    · rename_i active
      rw [if_pos active]
      rw [deactivate_run, if_pos active.1, Prod.mk.injEq] at fault
      rw [← fault.2]
      rfl
    · rename_i passive
      rw [if_neg passive]
      cases fault
      rw [alarm, alarms.2]

theorem checkFaults_run {count fuel : Nat} {states : List (JointState K)}
    (run : (Path.loopFrom (fun _ => count) (checkStatus env index) fuel joint).run node =
      (.returned (), after)) (total : joint + fuel = count)
    (row : node.tables.jointStatesPerCanInterface[index]? = some states) :
    after.gauges = node.gauges ∧
      after.alarm = afterFaults env node.dampingOnMotorError joint ((states.drop joint).take fuel)
        node.alarm := by
  induction fuel generalizing joint node with
  | zero =>
      cases run
      rw [List.take_zero]
      exact ⟨rfl, rfl⟩
  | succ fuel ih =>
      rw [Path.loopFrom_succ (by omega), Path.bind_run_returned] at run
      obtain ⟨_, middle, first, rest⟩ := run
      obtain ⟨state, found, alarmed⟩ := checkStatus_run first
      have kept := checkStatus_gauges.of_run first
      have same := kept
      simp only [gauges, Gauges.mk.injEq] at same
      rw [row, Option.bind_some] at found
      obtain ⟨keptToo, alarms⟩ := ih rest (by omega) (by rw [same.1, row])
      obtain ⟨bound, rfl⟩ := List.getElem?_eq_some_iff.mp found
      refine ⟨keptToo.trans kept, ?_⟩
      rw [alarms, alarmed, same.2.2.2.1, List.drop_eq_getElem_cons bound, List.take_succ_cons,
        afterFaults]

end Faults

/-- The branch of the counter that gives up. -/
def LimitReached (errors counted limit : Nat) : Prop :=
  ¬ (errors = 0 ∧ 0 < counted) ∧ limit ≤ (counted + errors) % unsignedModulus

instance instDecidableLimitReached (errors counted limit : Nat) :
    Decidable (LimitReached errors counted limit) := inferInstanceAs (Decidable (_ ∧ _))

/-- The counter after a cycle. -/
def countedAfter (errors counted limit : Nat) : Nat :=
  if errors = 0 ∧ 0 < counted then 0
  else if LimitReached errors counted limit then counted
  else (counted + errors) % unsignedModulus

/-- What a cycle counts: its errors, on top of those of the cycles before it. -/
structure Counted (index : Nat) (node : Node K) (rows : CycleRows K) (counted : Nat) : Prop where
  rows : cycleRows index node.tables = some rows
  counter : node.interfaces.numCanErrorsPerInterfaces[index]? = some counted

theorem countErrors_run {few : Bool} (run : (countErrors index).run node = (.returned few, after)) :
    ∃ rows counted, Counted index node rows counted ∧
      (few = false ↔ LimitReached (canErrorsInThisCycle rows) counted
        node.maxCanErrorsBeforeMotorShutdown) ∧
      after.gauges = { node.gauges with
        counters := node.interfaces.numCanErrorsPerInterfaces.set index
          (countedAfter (canErrorsInThisCycle rows) counted node.maxCanErrorsBeforeMotorShutdown) } ∧
      after.alarm = node.alarm := by
  simp only [countErrors, Path.bind_run_returned] at run
  obtain ⟨rows, _, rowsFound, counted, _, counterFound, limit, _, limitRead, run⟩ := run
  obtain ⟨rowsFound, rfl⟩ := Path.element_run_returned.mp rowsFound
  obtain ⟨counterFound, rfl⟩ := Path.element_run_returned.mp counterFound
  cases limitRead
  refine ⟨rows, counted, ⟨rowsFound, counterFound⟩, ?_⟩
  have uses {before : Node K} {can : CubemarsCan K}
      (use : (canInterface index).run before = (.returned can, after)) :
      after.gauges = before.gauges ∧ after.alarm = before.alarm :=
    ⟨canInterface_gauges.of_run use, (canInterface_preserves fun _ _ => rfl).of_run use⟩
  rw [countedAfter]
  split at run
  · rename_i recovered
    simp only [Path.bind_run_returned] at run
    obtain ⟨_, _, set, _, _, use, ends⟩ := run
    cases set
    cases ends
    rw [if_pos recovered]
    exact ⟨by simp [LimitReached, recovered], uses use⟩
  · rename_i erroneous
    rw [if_neg erroneous]
    split at run
    · rename_i reached
      have limitReached : LimitReached (canErrorsInThisCycle rows) counted _ := ⟨erroneous, reached⟩
      rw [Path.bind_run_returned] at run
      obtain ⟨_, _, use, ends⟩ := run
      cases ends
      rw [if_pos limitReached, set_same_getElem? counterFound]
      exact ⟨by simp [limitReached], uses use⟩
    · rename_i below
      have notReached : ¬ LimitReached (canErrorsInThisCycle rows) counted _ :=
        fun reached => below reached.2
      cases run
      rw [if_neg notReached]
      exact ⟨by simp [notReached], rfl, rfl⟩

section Counting

variable [Scalar K] {frequency : K} {exit : CycleExit} {replied : Node K}

/-- What follows the counter. -/
def afterCounting (index : Nat) (env : CycleEnv) (frequency : K) (few : Bool) :
    NodePath K CycleExit :=
  if few then do
    Path.updateDefined fun node => (processStates index node.tables node.messages).map
      fun (tables, messages) => { node with tables, messages }
    writeBackCycle index env frequency
  else do
    giveUp env .tooManyErrors
    pure .tooManyErrors

/-- The lifecycle state that the loop over the joints leaves, and whether the watchdog still
runs. -/
def faultsSeen (env : CycleEnv) (replied : Node K) (rows : CycleRows K) : Lifecycle × Bool :=
  afterFaults env replied.dampingOnMotorError 0 (rows.states.take rows.cmds.length) replied.alarm

/-- The node once the errors have been counted. -/
structure RepliesCounted (env : CycleEnv) (index : Nat) (replied : Node K) (rows : CycleRows K)
    (counted : Nat) (few : Bool) (node : Node K) : Prop where
  counts : Counted index replied rows counted
  few : few = false ↔
    LimitReached (canErrorsInThisCycle rows) counted replied.maxCanErrorsBeforeMotorShutdown
  gauges : node.gauges = { replied.gauges with
    counters := replied.interfaces.numCanErrorsPerInterfaces.set index
      (countedAfter (canErrorsInThisCycle rows) counted replied.maxCanErrorsBeforeMotorShutdown) }
  alarm : node.alarm = faultsSeen env replied rows

theorem handleReplies_counted
    (run : (handleReplies index env frequency).run replied = (.returned exit, after)) :
    ∃ rows counted few node, RepliesCounted env index replied rows counted few node ∧
      (afterCounting index env frequency few).run node = (.returned exit, after) := by
  simp only [handleReplies, Path.bind_run_returned] at run
  obtain ⟨_, used, use, rows, _, read, _, checked, check, few, node, count, run⟩ := run
  obtain ⟨found, same⟩ := Path.element_run_returned.mp read
  obtain rfl := same.symm
  have usedGauges := canInterface_gauges.of_run use
  have usedAlarm : used.alarm = replied.alarm := (canInterface_preserves fun _ _ => rfl).of_run use
  have row : used.tables.jointStatesPerCanInterface[index]? = some rows.states := by
    simp only [cycleRows, Option.bind_eq_bind, Option.bind_eq_some_iff, Option.some.injEq] at found
    obtain ⟨_, _, states, row, _, _, rfl⟩ := found
    exact row
  obtain ⟨checkedGauges, checkedAlarm⟩ := checkFaults_run check (Nat.zero_add _) row
  obtain ⟨countedRows, counted, counts, limit, countedGauges, countedAlarm⟩ := countErrors_run count
  have same := checkedGauges.trans usedGauges
  simp only [gauges, Gauges.mk.injEq] at same usedGauges
  obtain rfl : rows = countedRows := by
    have countedFound := counts.rows
    rw [same.1, ← usedGauges.1, found] at countedFound
    exact Option.some.inj countedFound
  refine ⟨rows, counted, few, node, ⟨⟨?_, ?_⟩, ?_, ?_, ?_⟩, run⟩
  · rw [← usedGauges.1, found]
  · rw [← same.2.1, counts.counter]
  · rw [limit, same.2.2.1]
  · rw [countedGauges, checkedGauges.trans (canInterface_gauges.of_run use), same.2.1, same.2.2.1]
  · rw [countedAlarm, checkedAlarm, usedAlarm, usedGauges.2.2.2.1, List.drop_zero, faultsSeen]

end Counting

section Finish

variable [Scalar K] {frequency : K}

/-- The cleanup that has been requested, and the counters. -/
def requests (node : Node K) : Bool × List Nat :=
  (node.cleanupRequested, node.interfaces.numCanErrorsPerInterfaces)

theorem deactivate_requests : Path.Preserves requests (deactivate : NodePath K Unit) := by
  intro node
  rw [deactivate_run]
  split <;> rfl

omit [Scalar K] in
theorem canInterface_requests :
    Path.Preserves requests (canInterface index : NodePath K (CubemarsCan K)) :=
  canInterface_preserves fun _ _ => rfl

theorem finishCycle_requests :
    Path.Preserves requests (finishCycle index env frequency) := by
  have checks : Path.Preserves requests
      (checkLimits env index : NodePath K (Option Nat)) :=
    Path.Evolves.bind (Path.Evolves.bind (Path.Evolves.update fun _ => rfl) fun _ =>
      Path.Evolves.read _) fun _ => Path.Evolves.ite (fun _ => Path.Evolves.element _) fun _ =>
        Path.Evolves.pure _
  refine Path.Evolves.bind checks fun violating => ?_
  cases violating with
  | some joint =>
      refine Path.Evolves.bind (Path.Evolves.element _) fun _ => ?_
      refine Path.Evolves.bind canInterface_requests fun _ => ?_
      refine Path.Evolves.bind (Path.Evolves.updateFound fun _ _ => rfl) fun _ => ?_
      exact Path.Evolves.bind deactivate_requests fun _ => Path.Evolves.pure _
  | none =>
      refine Path.Evolves.bind canInterface_requests fun can => ?_
      refine Path.Evolves.bind (Path.Evolves.updateDefined fun node after timed => ?_) fun _ => ?_
      · simp only [writeTimings, Option.bind_eq_bind, Option.bind_eq_some_iff,
          Option.some.injEq] at timed
        obtain ⟨_, _, _, _, _, _, _, _, _, _, _, _, rfl⟩ := timed
        rfl
      refine Path.Evolves.bind (Path.Evolves.updateFound fun _ _ => rfl) fun _ => ?_
      refine Path.Evolves.bind (Path.Evolves.read _) fun _ => ?_
      refine Path.Evolves.bind (Path.Evolves.when fun _ => ?_) fun _ => Path.Evolves.pure _
      exact Path.Evolves.bind canInterface_requests fun _ => Path.Evolves.pure _

theorem writeBackCycle_requests :
    Path.Preserves requests (writeBackCycle index env frequency) := by
  have observes : Path.Preserves requests
      (observeRunning env .writingBack index : NodePath K Bool) :=
    Path.Evolves.bind (Path.Evolves.update fun _ => rfl) fun _ =>
      Path.Evolves.bind (Path.Evolves.element _) fun _ => Path.Evolves.pure _
  refine Path.Evolves.bind (Path.Evolves.updateFound fun _ _ => rfl) fun _ => ?_
  refine Path.Evolves.bind observes fun _ => Path.Evolves.ite (fun _ => ?_) fun _ => ?_
  · refine Path.Evolves.bind canInterface_requests fun _ => ?_
    exact Path.Evolves.bind (Path.Evolves.updateFound fun _ _ => rfl) fun _ => finishCycle_requests
  · exact Path.Evolves.bind (Path.Evolves.updateFound fun _ _ => rfl) fun _ => Path.Evolves.pure _

theorem writtenBack_requests : Path.Preserves requests (do
    Path.updateDefined fun node : Node K => (processStates index node.tables node.messages).map
      fun (tables, messages) => { node with tables, messages }
    writeBackCycle index env frequency) :=
  Path.Evolves.bind (Path.Evolves.updateFound fun _ _ => rfl) fun _ => writeBackCycle_requests

end Finish

section Before

variable [Scalar K]

/-- The two levels of escalation: the watchdog is cancelled, a cleanup is requested. -/
abbrev levels (node : Node K) : Bool × Bool := (!node.watchdogTimer, node.cleanupRequested)

/-- The escalation of a node and what its cycles count. -/
@[simp] def tallies (node : Node K) : (Bool × Bool) × Nat × List Nat :=
  (node.levels, node.maxCanErrorsBeforeMotorShutdown, node.interfaces.numCanErrorsPerInterfaces)

omit [Scalar K] in
theorem observeLifecycle_tallies {point : CyclePoint} :
    Path.Preserves tallies (observeLifecycle env point : NodePath K Lifecycle) :=
  Path.Evolves.bind (Path.Evolves.update fun _ => rfl) fun _ => Path.Evolves.read _

omit [Scalar K] in
theorem observeRunning_tallies {point : CyclePoint} :
    Path.Preserves tallies (observeRunning env point index : NodePath K Bool) :=
  Path.Evolves.bind (Path.Evolves.update fun _ => rfl) fun _ =>
    Path.Evolves.bind (Path.Evolves.element _) fun _ => Path.Evolves.pure _

omit [Scalar K] in
theorem isConfigured_tallies : Path.Preserves tallies (isConfigured env : NodePath K Bool) :=
  Path.Evolves.bind observeLifecycle_tallies fun _ => Path.Evolves.ite
    (fun _ => Path.Evolves.pure _) fun _ => Path.Evolves.bind observeLifecycle_tallies fun _ =>
      Path.Evolves.pure _

theorem startCycle_tallies : Path.Preserves tallies (startCycle index env : NodePath K K) :=
  Path.Evolves.bind (Path.Evolves.element _) fun _ =>
    Path.Evolves.bind (Path.Evolves.update fun _ => rfl) fun _ => Path.Evolves.pure _

omit [Scalar K] in
theorem changeTables_tallies {change : JointTables K → Option (JointTables K)} :
    Path.Preserves tallies (changeTables change : NodePath K Unit) :=
  Path.Evolves.updateFound fun _ _ => rfl

theorem lockedExchange_tallies :
    Path.Preserves tallies (lockedExchange index : NodePath K (Except Exception Unit)) := by
  have exchanges : Path.Preserves tallies (sendAndReceive index : NodePath K Unit) := by
    intro node
    simp only [sendAndReceive]
    split <;> rfl
  refine Path.Evolves.bind (Path.Evolves.updateFound fun _ _ => rfl) fun _ => ?_
  refine Path.Evolves.bind (Path.Evolves.attempt exchanges) fun _ => ?_
  exact Path.Evolves.bind (Path.Evolves.updateFound fun _ _ => rfl) fun _ => Path.Evolves.pure _

/-- Giving up adds one level of escalation. -/
theorem giveUp_run (point : CyclePoint) (node : Node K) : (giveUp env point).run node =
    (.returned (), if env.lifecycle point node.lifecycle = .active then
        ({ node with lifecycle := env.lifecycle point node.lifecycle } : Node K).deactivated
      else { node with
        lifecycle := env.lifecycle point node.lifecycle, cleanupRequested := true }) := by
  rw [giveUp, observeLifecycle_bind]
  split
  · rename_i active
    rw [deactivate_run, if_pos active]
  · rfl

/-- What an end of the first half leaves: at most one level after an early end, and
everything as it was before the replies. -/
def Unescalated (start : Node K) (result : Except CycleExit K) (node : Node K) : Prop :=
  node.tallies.2 = start.tallies.2 ∧
    match result with
    | .ok _ => node.levels = start.levels
    | .error _ => start.levels = (false, false) → node.levels ≠ (true, true)

theorem untilReplies_unescalated [Libm K] (start : Node K) :
    Path.Confines (fun _ => True) (fun node => node.tallies = start.tallies) (untilReplies index env)
      (Unescalated start) fun _ => True := by
  have stays {α : Type} {path : NodePath K α} (same : Path.Preserves tallies path) :
      Path.Confines (fun _ => True) (fun node => node.tallies = start.tallies) path
        (fun _ node => node.tallies = start.tallies) fun _ => True :=
    (Path.Confines.of_preserves same (fun _ _ _ => id) fun _ _ same => same.trans).consequence
      (fun _ => id) (fun _ _ => id) fun _ _ => trivial
  have ends {exit : CycleExit} : Path.Confines (fun _ => True)
      (fun node => node.tallies = start.tallies)
      (pure (.error exit) : NodePath K (Except CycleExit K)) (Unescalated start) fun _ => True := by
    intro node _ same
    refine ⟨trivial, congrArg Prod.snd same, fun calm both => ?_⟩
    cases both.symm.trans ((congrArg Prod.fst same).trans calm)
  refine Path.Confines.bind (stays isConfigured_tallies) fun configured =>
    Path.Confines.ite (fun _ => ?_) fun _ => ends
  refine Path.Confines.bind (stays (Path.Evolves.element _)) fun _ => ?_
  refine Path.Confines.bind (stays startCycle_tallies) fun frequency => ?_
  refine Path.Confines.bind (stays observeRunning_tallies) fun running =>
    Path.Confines.ite (fun _ => ?_) fun _ => ends
  refine Path.Confines.bind (stays (Path.Evolves.read _)) fun command => ?_
  cases command with
  | none => exact ends
  | some command =>
      refine Path.Confines.bind (stays changeTables_tallies) fun _ => ?_
      refine Path.Confines.bind (stays observeLifecycle_tallies) fun lifecycle => ?_
      refine Path.Confines.bind (stays (Path.Evolves.when fun _ =>
        Path.Evolves.bind changeTables_tallies fun _ => changeTables_tallies)) fun _ => ?_
      refine Path.Confines.bind (stays lockedExchange_tallies) fun result => ?_
      cases result with
      | ok value => exact fun node _ same => ⟨trivial, congrArg Prod.snd same, congrArg Prod.fst same⟩
      | error exception =>
          intro node _ same
          rw [Path.bind_returned (giveUp_run _ node)]
          simp only [tallies, Prod.mk.injEq] at same
          refine ⟨trivial, ?_, fun calm both => ?_⟩
          · split
            · exact Prod.ext same.2.1 same.2.2
            · exact Prod.ext same.2.1 same.2.2
          · simp only [levels, Prod.mk.injEq] at calm both same
            split at both
            · -- the cleanup request is the one from before
              cases (same.1.2.trans calm.2).symm.trans both.2
            · cases (same.1.1.trans calm.1).symm.trans both.1

end Before

end CubemarsDriver.Node
