import CubemarsDriver.Can.ReplyStatus
import CubemarsDriver.Node.CycleRules
import CubemarsDriver.Node.Held

namespace CubemarsDriver.Node

open Foundation Can

/-! # Cycles that reach the write-back

Such a cycle is a computation on the tables, the interface and the messages.
It is read off a run by inversion: the steps in between change other things. -/

variable {K : Type} [Scalar K]

/-- What a cycle computes on. -/
structure CycleData (K : Type) where
  tables : JointTables K
  canInterfaces : List (Option (CubemarsCan K))
  messages : JointMessages K

omit [Scalar K] in
@[simp] def data (node : Node K) : CycleData K := ⟨node.tables, node.canInterfaces, node.messages⟩

/-- The data and what decides which command a cycle loads. -/
@[simp] def view (node : Node K) : CycleData K × Lifecycle × Option (JointCommand K) :=
  (node.data, node.lifecycle, node.jointCmdPtr)

section Preserves

variable {index joint : Nat} {env : CycleEnv} {point : CyclePoint} {mode : LockMode}

omit [Scalar K] in
theorem lockCommunication_data : Path.Preserves data (lockCommunication mode : NodePath K Unit) := by
  refine Path.Evolves.updateDefined fun node after locked => ?_
  obtain ⟨mutex, _, rfl⟩ := Option.map_eq_some_iff.mp locked
  rfl

omit [Scalar K] in
theorem unlockCommunication_data :
    Path.Preserves data (unlockCommunication mode : NodePath K Unit) := by
  refine Path.Evolves.updateDefined fun node after unlocked => ?_
  obtain ⟨mutex, _, rfl⟩ := Option.map_eq_some_iff.mp unlocked
  rfl

omit [Scalar K] in
theorem lockJointStateMsg_data :
    Path.Preserves data (lockJointStateMsg mode : NodePath K Unit) := by
  refine Path.Evolves.updateDefined fun node after locked => ?_
  obtain ⟨mutex, _, rfl⟩ := Option.map_eq_some_iff.mp locked
  rfl

omit [Scalar K] in
theorem unlockJointStateMsg_data :
    Path.Preserves data (unlockJointStateMsg mode : NodePath K Unit) := by
  refine Path.Evolves.updateDefined fun node after unlocked => ?_
  obtain ⟨mutex, _, rfl⟩ := Option.map_eq_some_iff.mp unlocked
  rfl

omit [Scalar K] in
theorem observeRunning_view : Path.Preserves view (observeRunning env point index : NodePath K Bool) :=
  Path.Evolves.bind (Path.Evolves.update fun _ => rfl) fun _ =>
    Path.Evolves.bind (Path.Evolves.element _) fun _ => Path.Evolves.pure _

theorem startCycle_view : Path.Preserves view (startCycle index env : NodePath K K) :=
  Path.Evolves.bind (Path.Evolves.element _) fun _ =>
    Path.Evolves.bind (Path.Evolves.update fun _ => rfl) fun _ => Path.Evolves.pure _

omit [Scalar K] in
theorem data_of_view {α : Type} {path : NodePath K α} (preserves : Path.Preserves view path) :
    Path.Preserves data path := fun node => congrArg Prod.fst (preserves node)

omit [Scalar K] in
theorem observeLifecycle_data :
    Path.Preserves data (observeLifecycle env point : NodePath K Lifecycle) :=
  Path.Evolves.bind (Path.Evolves.update fun _ => rfl) fun _ => Path.Evolves.read _

omit [Scalar K] in
theorem setLifecycle_data (lifecycle : Lifecycle) :
    Path.Preserves data (setLifecycle lifecycle : NodePath K Unit) :=
  Path.Evolves.update fun _ => rfl

theorem deactivate_data : Path.Preserves data (deactivate : NodePath K Unit) := by
  refine Path.Evolves.bind (Path.Evolves.read _) fun lifecycle => ?_
  refine Path.Evolves.when fun _ => (Path.Evolves.bind (setLifecycle_data _) fun _ => ?_)
  refine fun node => ?_
  rfl

theorem giveUp_data : Path.Preserves data (giveUp env point : NodePath K Unit) :=
  Path.Evolves.bind observeLifecycle_data fun _ =>
    Path.Evolves.ite (fun _ => deactivate_data) fun _ => Path.Evolves.update fun _ => rfl

omit [Scalar K] in
theorem canInterface_data : Path.Preserves data (canInterface index : NodePath K (CubemarsCan K)) :=
  canInterface_preserves fun _ _ => rfl

omit [Scalar K] in
theorem nameJoint_data : Path.Preserves data (nameJoint index joint : NodePath K Unit) :=
  nameJoint_preserves fun _ _ => rfl

theorem checkStatus_data : Path.Preserves data (checkStatus env index joint : NodePath K Unit) := by
  refine Path.Evolves.bind (Path.Evolves.element _) fun state => ?_
  refine Path.Evolves.bind (Path.Evolves.when fun _ => ?_) fun _ => Path.Evolves.when fun _ => nameJoint_data
  refine Path.Evolves.bind nameJoint_data fun _ => ?_
  refine Path.Evolves.bind observeLifecycle_data fun lifecycle => ?_
  exact Path.Evolves.bind (Path.Evolves.read _) fun _ => Path.Evolves.when fun _ => deactivate_data

omit [Scalar K] in
theorem countErrors_data : Path.Preserves data (countErrors index : NodePath K Bool) := by
  refine Path.Evolves.bind (Path.Evolves.element _) fun rows => ?_
  refine Path.Evolves.bind (Path.Evolves.element _) fun counted => ?_
  refine Path.Evolves.bind (Path.Evolves.read _) fun limit => ?_
  refine Path.Evolves.ite (fun _ => ?_) fun _ => Path.Evolves.ite (fun _ => ?_) fun _ => ?_
  · exact Path.Evolves.bind (Path.Evolves.update fun _ => rfl) fun _ =>
      Path.Evolves.bind canInterface_data fun _ => Path.Evolves.pure _
  · exact Path.Evolves.bind canInterface_data fun _ => Path.Evolves.pure _
  · exact Path.Evolves.bind (Path.Evolves.update fun _ => rfl) fun _ => Path.Evolves.pure _

theorem checkLimits_data :
    Path.Preserves data (checkLimits env index : NodePath K (Option Nat)) :=
  Path.Evolves.bind observeLifecycle_data fun _ =>
    Path.Evolves.ite (fun _ => Path.Evolves.element _) fun _ => Path.Evolves.pure _

theorem finishCycle_data {frequency : K} :
    Path.Preserves data (finishCycle index env frequency) := by
  refine Path.Evolves.bind checkLimits_data fun violating => ?_
  cases violating with
  | some joint =>
      refine Path.Evolves.bind (Path.Evolves.element _) fun _ => ?_
      refine Path.Evolves.bind canInterface_data fun _ => ?_
      refine Path.Evolves.bind unlockJointStateMsg_data fun _ => ?_
      exact Path.Evolves.bind deactivate_data fun _ => Path.Evolves.pure _
  | none =>
      refine Path.Evolves.bind canInterface_data fun can => ?_
      refine Path.Evolves.bind (Path.Evolves.updateDefined fun node after timed => ?_) fun _ => ?_
      · simp only [writeTimings, Option.bind_eq_bind, Option.bind_eq_some_iff,
          Option.some.injEq] at timed
        obtain ⟨_, _, _, _, _, _, _, _, _, _, _, _, rfl⟩ := timed
        rfl
      refine Path.Evolves.bind unlockJointStateMsg_data fun _ => ?_
      refine Path.Evolves.bind (Path.Evolves.read _) fun missing => ?_
      refine Path.Evolves.bind (Path.Evolves.when fun _ => ?_) fun _ => Path.Evolves.pure _
      exact Path.Evolves.bind canInterface_data fun _ => Path.Evolves.pure _

end Preserves

/-- The cycle wrote joint states back. -/
def CycleExit.WroteBack (exit : CycleExit) : Prop := exit = .limitViolated ∨ exit = .completed

instance (exit : CycleExit) : Decidable exit.WroteBack := inferInstanceAs (Decidable (_ ∨ _))

/-- The cycle processed the joint states, whether or not it wrote them back. -/
def CycleExit.Processed (exit : CycleExit) : Prop := exit = .stoppedBeforeWriteBack ∨ exit.WroteBack

instance instDecidableProcessed (exit : CycleExit) : Decidable exit.Processed :=
  inferInstanceAs (Decidable (_ ∨ _))

/-- The state after a cycle that reaches the write-back. -/
def writtenBack [Libm K] (index : Nat) (env : CycleEnv) (node : Node K) : Option (Node K) :=
  match (canCycleCallback index env).run node with
  | (.returned exit, after) => if exit.WroteBack then some after else none
  | _ => none

theorem writtenBack_eq_some [Libm K] {index : Nat} {env : CycleEnv} {node after : Node K} :
    writtenBack index env node = some after ↔ ∃ exit,
      (canCycleCallback index env).run node = (.returned exit, after) ∧ exit.WroteBack := by
  rw [writtenBack]
  split
  · rename_i exit final run
    rw [run]
    by_cases wrote : exit.WroteBack <;> simp [wrote]
  · rename_i other
    constructor
    · exact nofun
    · rintro ⟨exit, run, _⟩
      exact absurd run (other exit after)

/-- The lifecycle state the first check of a cycle ends with. -/
def CycleEnv.entryLifecycle (env : CycleEnv) (start : Lifecycle) : Lifecycle :=
  if env.lifecycle .entryActive start = .active then env.lifecycle .entryActive start
  else env.lifecycle .entryInactive (env.lifecycle .entryActive start)

/-- The cycle scales its command for an active node. -/
def CycleEnv.scales (env : CycleEnv) (start : Lifecycle) : Bool :=
  env.lifecycle .scaling (env.entryLifecycle start) = .active

structure WritesBack [Libm K] (index : Nat) (env : CycleEnv) (start : Node K) (rows : CycleRows K)
    (can : CubemarsCan K) (cmds : List (JointCmd K)) (exchanged : Exchange K) (after : Node K) :
    Prop where
  rowsFound : cycleRows index start.tables = some rows
  canFound : start.canInterfaces[index]?.join = some can
  loaded : ∃ command, start.jointCmdPtr = some command ∧
    motorCmds (env.scales start.lifecycle) command rows = some cmds
  exchanges : (Can.sendAndReceive cmds).run { can, states := rows.states } =
    (.returned (), exchanged)
  interfaces : after.canInterfaces = start.canInterfaces.set index (some exchanged.can)
  written : ∃ unfiltered cmdRxNs txFillEndNs,
    processStates index (withStates index exchanged.states (withCmds index cmds start.tables))
      start.messages = some (after.tables, unfiltered) ∧
    writeBack index cmdRxNs txFillEndNs after.tables unfiltered = some after.messages

section Inversion

variable {index : Nat} {env : CycleEnv} {start middle after : Node K} {exit : CycleExit}
variable {frequency : K}

omit [Scalar K] in
theorem observeLifecycle_bind {α : Type} (point : CyclePoint) (next : Lifecycle → NodePath K α)
    (node : Node K) : (observeLifecycle env point >>= next).run node =
      (next (env.lifecycle point node.lifecycle)).run
        { node with lifecycle := env.lifecycle point node.lifecycle } := rfl

omit [Scalar K] in
theorem isConfigured_run (node : Node K) : ∃ configured, (isConfigured env).run node =
    (.returned configured, { node with lifecycle := env.entryLifecycle node.lifecycle }) := by
  rw [isConfigured, observeLifecycle_bind, CycleEnv.entryLifecycle]
  split
  · exact ⟨_, rfl⟩
  · rw [observeLifecycle_bind]
    exact ⟨_, rfl⟩

omit [Scalar K] in
theorem changeTables_run {change : JointTables K → Option (JointTables K)} {value : Unit} :
    (changeTables change).run start = (.returned value, after) ↔
      ∃ tables, change start.tables = some tables ∧ after = { start with tables } := by
  simp only [changeTables, Path.updateDefined_run_returned, Option.map_eq_some_iff,
    @eq_comm _ after]

/-- The node after an exchange. -/
def exchangedData (index : Nat) (exchanged : Exchange K) (data : CycleData K) : CycleData K where
  tables := withStates index exchanged.states data.tables
  canInterfaces := data.canInterfaces.set index (some exchanged.can)
  messages := data.messages

theorem sendAndReceive_run {outcome : Outcome Exception Unit} (defined : outcome ≠ .undefined)
    (run : (sendAndReceive index).run start = (outcome, after)) :
    ∃ can rows exchanged, start.canInterfaces[index]?.join = some can ∧
      cycleRows index start.tables = some rows ∧
      (Can.sendAndReceive rows.cmds).run { can, states := rows.states } = (outcome, exchanged) ∧
      after.data = exchangedData index exchanged start.data := by
  simp only [sendAndReceive] at run
  split at run
  · rename_i can rows canFound rowsFound
    obtain ⟨sent, rfl⟩ := Prod.mk.inj run
    exact ⟨can, rows, _, canFound, rowsFound, Prod.ext sent rfl, rfl⟩
  · cases run
    exact absurd rfl defined

/-- The exchange of a cycle, whether the cycle goes on after it or not. -/
theorem lockedExchange_run {result : Except Exception Unit}
    (run : (lockedExchange index).run start = (.returned result, after)) :
    ∃ can rows exchanged, start.canInterfaces[index]?.join = some can ∧
      cycleRows index start.tables = some rows ∧
      (Path.attempt (Can.sendAndReceive rows.cmds)).run { can, states := rows.states } =
        (.returned result, exchanged) ∧
      after.data = exchangedData index exchanged start.data := by
  simp only [lockedExchange, Path.bind_run_returned] at run
  obtain ⟨_, locked, lock, _, exchanging, exchange, _, unlocked, unlock, ends⟩ := run
  cases ends
  have before := lockCommunication_data.of_run lock
  rw [unlockCommunication_data.of_run unlock, ← before]
  simp only [data, CycleData.mk.injEq] at before
  rw [← before.1, ← before.2.1]
  cases result with
  | ok value =>
      obtain ⟨can, rows, exchanged, canFound, rowsFound, sent, changed⟩ :=
        sendAndReceive_run (by simp) (Path.attempt_run_ok.mp exchange)
      exact ⟨can, rows, exchanged, canFound, rowsFound, Path.attempt_run_ok.mpr sent, changed⟩
  | error exception =>
      obtain ⟨can, rows, exchanged, canFound, rowsFound, sent, changed⟩ :=
        sendAndReceive_run (by simp) (Path.attempt_run_error.mp exchange)
      exact ⟨can, rows, exchanged, canFound, rowsFound, Path.attempt_run_error.mpr sent, changed⟩

theorem finishCycle_ends (env : CycleEnv) : Path.Confines (fun _ => True) (fun _ => True)
    (finishCycle index env frequency) (fun exit _ => exit.WroteBack) fun _ => True := by
  have any {α : Type} {path : NodePath K α} : Path.Confines (fun _ => True) (fun _ => True) path
      (fun _ _ => True) fun _ => True := Path.Confines.anything
  refine Path.Confines.bind any fun violating => ?_
  cases violating with
  | some joint =>
      refine Path.Confines.bind any fun _ => Path.Confines.bind any fun _ => ?_
      refine Path.Confines.bind any fun _ => Path.Confines.bind any fun _ => ?_
      exact fun _ _ _ => ⟨trivial, .inl rfl⟩
  | none =>
      refine Path.Confines.bind any fun _ => Path.Confines.bind any fun _ => ?_
      refine Path.Confines.bind any fun _ => Path.Confines.bind any fun _ => ?_
      refine Path.Confines.bind any fun _ => ?_
      exact fun _ _ _ => ⟨trivial, .inr rfl⟩

/-- The critical section is left at once, or after the write-back. -/
theorem writeBackCycle_run
    (run : (writeBackCycle index env frequency).run start = (.returned exit, after)) :
    (exit = .stoppedBeforeWriteBack ∧ after.data = start.data) ∨
      exit.WroteBack ∧ ∃ cmdRxNs txFillEndNs messages,
        writeBack index cmdRxNs txFillEndNs start.tables start.messages = some messages ∧
        after.data = { start.data with messages } := by
  rw [writeBackCycle, Path.bind_run_returned] at run
  obtain ⟨_, locked, lock, run⟩ := run
  rw [Path.bind_run_returned] at run
  obtain ⟨running, observed, observe, run⟩ := run
  have before := (data_of_view observeRunning_view).of_run observe |>.trans
    (lockJointStateMsg_data.of_run lock)
  cases running with
  | false =>
      simp only [Bool.false_eq_true, if_false, Path.bind_run_returned] at run
      obtain ⟨_, _, unlock, ends⟩ := run
      cases ends
      exact .inl ⟨rfl, (unlockJointStateMsg_data.of_run unlock).trans before⟩
  | true =>
      simp only [if_true, Path.bind_run_returned, Path.updateDefined_run_returned,
        Option.map_eq_some_iff] at run
      obtain ⟨can, used, use, _, _, ⟨messages, written, rfl⟩, finish⟩ := run
      have same := canInterface_data |>.of_run use
      simp only [data, CycleData.mk.injEq] at same before
      refine .inr ⟨((finishCycle_ends env).of_returned trivial trivial finish).2, used.cmdRxNs,
        can.txFillEndNs, messages, ?_, ?_⟩
      · rwa [same.1, same.2.2, before.1, before.2.2] at written
      · rw [finishCycle_data.of_run finish]
        simp only [data, same, before]

/-- Behind its replies a cycle gives up, or it computes the joint states and goes on to write
them back. -/
theorem handleReplies_run
    (run : (handleReplies index env frequency).run start = (.returned exit, after)) :
    (exit = .tooManyErrors ∧ after.data = start.data) ∨ ∃ tables unfiltered,
      processStates index start.tables start.messages = some (tables, unfiltered) ∧
      ((exit = .stoppedBeforeWriteBack ∧
          after.data = { tables, canInterfaces := start.canInterfaces, messages := unfiltered }) ∨
        exit.WroteBack ∧ ∃ cmdRxNs txFillEndNs messages,
          writeBack index cmdRxNs txFillEndNs tables unfiltered = some messages ∧
          after.data = { tables, canInterfaces := start.canInterfaces, messages }) := by
  simp only [handleReplies, Path.bind_run_returned] at run
  obtain ⟨_, used, use, rows, _, found, _, checked, check, counted, counting, count, run⟩ := run
  obtain ⟨_, rfl⟩ := Path.element_run_returned.mp found
  have checks : Path.Preserves (data (K := K))
      (Path.loopBelow (fun _ => rows.cmds.length) (checkStatus env index)) :=
    Path.Evolves.loopBelow fun _ => checkStatus_data
  have checking := checks.of_run check
  have same := (countErrors_data.of_run count).trans <| checking.trans <|
    canInterface_data |>.of_run use
  cases counted with
  | false =>
      simp only [Bool.false_eq_true, if_false, Path.bind_run_returned] at run
      obtain ⟨_, _, givesUp, ends⟩ := run
      cases ends
      exact .inl ⟨rfl, (giveUp_data.of_run givesUp).trans same⟩
  | true =>
      simp only [data, CycleData.mk.injEq] at same
      simp only [if_true, Path.bind_run_returned, Path.updateDefined_run_returned,
        Option.map_eq_some_iff] at run
      obtain ⟨_, _, ⟨⟨tables, unfiltered⟩, processed, rfl⟩, finish⟩ := run
      rw [same.1, same.2.2] at processed
      refine .inr ⟨tables, unfiltered, processed, ?_⟩
      rw [← same.2.1]
      exact writeBackCycle_run finish

omit [Scalar K] in
theorem withCmds_withCmds (first second : List (JointCmd K)) (tables : JointTables K) :
    withCmds index second (withCmds index first tables) = withCmds index second tables := by
  simp [withCmds]

/-- The commands after the loops that load and scale them. -/
theorem scaledCmds_run [Libm K] {command : JointCommand K} {rows : CycleRows K}
    {loaded scaled : Node K} (active : Bool) {tables : JointTables K}
    (found : cycleRows index start.tables = some rows)
    (load : loadCommand index command start.tables = some tables)
    (data : loaded.data = { start.data with tables })
    (scale : (Path.when (active = true) (do
      changeTables (compensateFriction index)
      changeTables (applyTransmissionRatios index))).run loaded = (.returned (), scaled)) :
    ∃ cmds, motorCmds active command rows = some cmds ∧
      scaled.data = { start.data with tables := withCmds index cmds start.tables } := by
  obtain ⟨cmds, loading, rfl⟩ := (changeCmds_eq_some found).mp load
  simp only [Node.data, CycleData.mk.injEq] at data
  have loadedRows : cycleRows index loaded.tables = some { rows with cmds } := by
    rw [data.1]
    exact cycleRows_withCmds found cmds
  cases active with
  | false =>
      cases scale
      exact ⟨cmds, by simp [motorCmds, loading], by simp only [Node.data, data]⟩
  | true =>
      simp only [Path.when, if_true, Path.bind_run_returned, changeTables_run] at scale
      obtain ⟨_, _, ⟨compensatedTables, compensate, rfl⟩, scaledTables, ratios, rfl⟩ := scale
      obtain ⟨compensated, compensating, rfl⟩ := (changeCmds_eq_some loadedRows).mp compensate
      obtain ⟨final, scaling, rfl⟩ :=
        (changeCmds_eq_some (cycleRows_withCmds loadedRows compensated)).mp ratios
      refine ⟨final, by simp [motorCmds, loading, compensating, scaling], ?_⟩
      simp only [Node.data, data, withCmds_withCmds]

/-- What a cycle exchanges with its interface, and how that ends. -/
structure Exchanges [Libm K] (index : Nat) (env : CycleEnv) (start : Node K) (rows : CycleRows K)
    (can : CubemarsCan K) (cmds : List (JointCmd K)) (result : Except Exception Unit)
    (exchanged : Exchange K) : Prop where
  rowsFound : cycleRows index start.tables = some rows
  canFound : start.canInterfaces[index]?.join = some can
  loaded : ∃ command, start.jointCmdPtr = some command ∧
    motorCmds (env.scales start.lifecycle) command rows = some cmds
  attempt : (Path.attempt (Can.sendAndReceive cmds)).run { can, states := rows.states } =
    (.returned result, exchanged)

/-- A cycle gets to its replies only by an exchange, and it ends early without one or by one
that fails. -/
theorem untilReplies_run [Libm K] {result : Except CycleExit K} {replied : Node K}
    (run : (untilReplies index env).run start = (.returned result, replied)) :
    match result with
    | .ok _ => ∃ rows can cmds exchanged, Exchanges index env start rows can cmds (.ok ()) exchanged ∧
        replied.data = exchangedData index exchanged
          { start.data with tables := withCmds index cmds start.tables }
    | .error exit => ¬ exit.Processed ∧ (replied.data = start.data ∨
        ∃ rows can cmds exception exchanged,
          Exchanges index env start rows can cmds (.error exception) exchanged) := by
  obtain ⟨configured, configuring⟩ : ∃ configured, (isConfigured env).run start =
      (.returned configured, { start with lifecycle := env.entryLifecycle start.lifecycle }) :=
    isConfigured_run start
  rw [untilReplies, Path.bind_returned configuring] at run
  cases configured with
  | false =>
      cases run
      exact ⟨by decide, .inl rfl⟩
  | true =>
      simp only [if_true, Path.bind_run_returned] at run
      obtain ⟨_, _, found, frequency, started, start', running, observed, observe, run⟩ := run
      obtain ⟨_, rfl⟩ := Path.element_run_returned.mp found
      have same := (observeRunning_view.of_run observe).trans (startCycle_view.of_run start')
      simp only [view, Prod.mk.injEq] at same
      obtain ⟨sameData, lifecycle, jointCmdPtr⟩ := same
      cases running with
      | false =>
          cases run
          exact ⟨by decide, .inl sameData⟩
      | true =>
          simp only [if_true, Path.read_bind] at run
          cases loaded : observed.jointCmdPtr with
          | none =>
              rw [loaded] at run
              cases run
              exact ⟨by decide, .inl sameData⟩
          | some command =>
              simp only [loaded, Path.bind_run_returned] at run
              obtain ⟨_, _, load, run⟩ := run
              obtain ⟨tables, loading, rfl⟩ := changeTables_run.mp load
              obtain ⟨rows, rowsFound, _⟩ := Option.bind_eq_some_iff.mp loading
              obtain ⟨lifecycleSeen, seen, observing, run⟩ := run
              cases observing
              obtain ⟨_, scaled, scale, attempted, exchangedNode, exchange, run⟩ := run
              obtain ⟨cmds, built, scaledData⟩ :=
                scaledCmds_run (decide (env.lifecycle .scaling observed.lifecycle = .active)) rowsFound
                  loading rfl (by simpa only [decide_eq_true_eq] using scale)
              obtain ⟨can, exchangeRows, exchanged, canFound, exchangeFound, attempt, exchangeData⟩ :=
                lockedExchange_run exchange
              simp only [data, CycleData.mk.injEq] at sameData scaledData
              obtain rfl : exchangeRows = { rows with cmds } := by
                rw [scaledData.1, cycleRows_withCmds rowsFound cmds] at exchangeFound
                exact (Option.some.inj exchangeFound).symm
              have exchanges : Exchanges index env start rows can cmds attempted exchanged := by
                refine ⟨by rw [← rowsFound, sameData.1], by rw [← canFound, scaledData.2.1, sameData.2.1],
                  ⟨command, by rw [← jointCmdPtr, loaded], ?_⟩, attempt⟩
                rw [← built, lifecycle]
                rfl
              cases attempted with
              | error exception =>
                  simp only [Path.bind_run_returned] at run
                  obtain ⟨_, _, _, ends⟩ := run
                  cases ends
                  exact ⟨by decide, .inr ⟨rows, can, cmds, exception, exchanged,
                    exchanges⟩⟩
              | ok value =>
                  cases run
                  refine ⟨rows, can, cmds, exchanged, exchanges, ?_⟩
                  rw [exchangeData]
                  simp only [data, scaledData, sameData]

theorem canCycleCallback_writesBack [Libm K]
    (run : (canCycleCallback index env).run start = (.returned exit, after))
    (wrote : exit.WroteBack) :
    ∃ rows can cmds exchanged, WritesBack index env start rows can cmds exchanged after := by
  rw [canCycleCallback_eq, Path.bind_run_returned] at run
  obtain ⟨result, replied, first, run⟩ := run
  have ends := untilReplies_run first
  cases result with
  | error early =>
      cases run
      exact absurd (.inr wrote) ends.1
  | ok frequency =>
      obtain ⟨rows, can, cmds, exchanged, exchanges, repliedData⟩ := ends
      obtain ⟨rfl, _⟩ | ⟨final, unfiltered, processed, ⟨rfl, _⟩ |
          ⟨_, cmdRxNs, txFillEndNs, messages, written, afterData⟩⟩ := handleReplies_run run
      · exact absurd wrote (by decide)
      · exact absurd wrote (by decide)
      simp only [data, exchangedData, CycleData.mk.injEq] at repliedData afterData
      refine ⟨rows, can, cmds, exchanged, exchanges.rowsFound, exchanges.canFound, exchanges.loaded,
        Path.attempt_run_ok.mp exchanges.attempt, ?_, unfiltered, cmdRxNs, txFillEndNs, ?_, ?_⟩
      · rw [afterData.2.1, repliedData.2.1]
      · rw [afterData.1, ← processed, repliedData.1, repliedData.2.2]
      · rw [afterData.1, afterData.2.2, written]

end Inversion

/-- What is written for a joint without filters. -/
theorem WritesBack.joint [Libm K] {index joint : Nat} {env : CycleEnv} {start after : Node K}
    {rows : CycleRows K} {can : CubemarsCan K} {cmds : List (JointCmd K)} {exchanged : Exchange K}
    {params : JointParameters K} {state : JointState K}
    (writes : WritesBack index env start rows can cmds exchanged after)
    (paramsFound : rows.params[joint]? = some params) (unfiltered : Unfiltered params)
    (own : OwnIndex rows joint params) (stateFound : exchanged.states[joint]? = some state) :
    ∃ states, cycleRows index after.tables = some { cmds, states, params := rows.params } ∧
      states.length = exchanged.states.length ∧
      states[joint]? = some (toJointSpace params state) ∧
      reading after.messages params.msgIdx =
        some (writtenReading params (toJointSpace params state)) := by
  obtain ⟨unfiltered', cmdRxNs, txFillEndNs, processed, written⟩ := writes.written
  obtain ⟨states, found, size, entries, _⟩ := processStates_unfiltered processed
    (cycleRows_withStates (cycleRows_withCmds writes.rowsFound cmds) exchanged.states)
  have entry := entries joint params state paramsFound unfiltered stateFound
  exact ⟨states, found, size, entry, writeBack_reading written found entry paramsFound own⟩

/-- The last reply of a joint that a cycle from this state reads. -/
def replyRead (index joint : Nat) (node : Node K) : Option Reply :=
  node.canInterfaces[index]?.join.bind fun can =>
    lastReply can.jointConfigs (Exchange.events { can, states := [] }) joint
      can.jointConfigs.length

omit [Scalar K] in
/-- The frame a cycle handed to the socket for a joint. -/
def sentFrame (index joint : Nat) (before after : Node K) : Option CanFrame := do
  let start ← before.canInterfaces[index]?.join
  let can ← after.canInterfaces[index]?.join
  (can.socket.attempts.drop start.socket.attempts.length)[joint]?.map WriteAttempt.frame

def stateAt (index joint : Nat) (node : Node K) : Option (JointState K) :=
  (cycleRows index node.tables).bind fun rows => rows.states[joint]?

/-- A joint with its own message index in rows that fit its interface. -/
def HasJoint (index joint : Nat) (params : JointParameters K) (config : JointConfig K)
    (node : Node K) : Prop :=
  ∃ rows configs, cycleRows index node.tables = some rows ∧
    node.canInterfaces[index]?.join.map CubemarsCan.jointConfigs = some configs ∧
    rows.cmds.length = configs.length ∧ rows.states.length = configs.length ∧
    rows.params[joint]? = some params ∧ configs[joint]? = some config ∧ OwnIndex rows joint params

/-- What one cycle makes of a joint: the command it sends, the state that was
stored, and the state the exchange leaves before it is rescaled. -/
structure CycledJoint [Libm K] (index joint : Nat) (params : JointParameters K)
    (config : JointConfig K) (env : CycleEnv) (node : Node K) (motor : JointCmd K)
    (before state : JointState K) (after : Node K) : Prop where
  commanded : env.scales node.lifecycle = true → (node.jointCmdPtr.bind fun command =>
    (loadedCmd command params).map (motorCmd params before.vel)) = some motor
  sent : ∃ len, sentFrame index joint node after = some (commandFrame len config motor)
  stored : stateAt index joint node = some before
  rescaled : stateAt index joint after = some (toJointSpace params state)
  written : reading after.messages params.msgIdx =
    some (writtenReading params (toJointSpace params state))
  measured : (Report.ofState state).measurement =
    ((replyRead index joint node).map fun reply => decodeReply config reply.frame).getD
      (Report.ofState before).measurement

theorem canCycleCallback_joint [Libm K] {index joint : Nat} {params : JointParameters K}
    {config : JointConfig K} {env : CycleEnv} {node after : Node K}
    (has : HasJoint index joint params config node) (unfiltered : Unfiltered params)
    (cycle : writtenBack index env node = some after) :
    HasJoint index joint params config after ∧ ∃ motor before state,
      CycledJoint index joint params config env node motor before state after := by
  obtain ⟨exit, run, wrote⟩ := writtenBack_eq_some.mp cycle
  obtain ⟨rows, configs, found, joints, cmdCount, stateCount, paramsFound, configFound, own⟩ := has
  obtain ⟨rows', can, cmds, exchanged, writes⟩ := canCycleCallback_writesBack run wrote
  cases found.symm.trans writes.rowsFound
  have canFound := writes.canFound
  rw [canFound, Option.map_some, Option.some.injEq] at joints
  subst joints
  obtain ⟨command, commandStored, built⟩ := writes.loaded
  have count := (motorCmds_length built).trans cmdCount
  have sized : Exchange.Sized { can, states := rows.states } := stateCount
  obtain ⟨exchanged', sent, delivered⟩ := sendAndReceive_delivers sized count
  cases sent.symm.trans writes.exchanges
  have bound := (List.getElem?_eq_some_iff.mp configFound).1
  have sameConfigs : exchanged.can.jointConfigs = can.jointConfigs := delivered.frame.jointConfigs
  have sameCount : exchanged.states.length = can.jointConfigs.length :=
    delivered.frame.states.trans sized
  obtain ⟨state, stateFound⟩ : ∃ state, exchanged.states[joint]? = some state :=
    ⟨_, List.getElem?_eq_getElem (by rw [sameCount]; exact bound)⟩
  obtain ⟨motor, motorFound⟩ : ∃ motor, cmds[joint]? = some motor :=
    ⟨_, List.getElem?_eq_getElem (by rw [count]; exact bound)⟩
  obtain ⟨config', before, configFound', beforeFound, report⟩ :=
    delivered.state_report sized stateFound
  cases configFound.symm.trans configFound'
  obtain ⟨states, rowsAfter, statesSize, rescaled, written⟩ :=
    writes.joint paramsFound unfiltered own stateFound
  have canAfter : after.canInterfaces[index]?.join = some exchanged.can := by
    rw [writes.interfaces, set_getElem?_self _ (Option.join_eq_some_iff.mp canFound)]
    rfl
  refine ⟨⟨_, exchanged.can.jointConfigs, rowsAfter, by rw [canAfter]; rfl, ?_, ?_, paramsFound, ?_,
    own⟩, motor, before, state, ?_, ⟨can.sendFrame.len, ?_⟩, ?_, ?_, written, ?_⟩
  · rw [sameConfigs, count]
  · rw [statesSize, sameCount, sameConfigs]
  · rw [sameConfigs]
    exact configFound
  · intro active
    rw [active] at built
    rw [commandStored, Option.bind_some, ← motorFound]
    exact (motorCmds_getElem? built (by rw [cmdCount]; exact bound) paramsFound beforeFound).symm
  · have attempt : (commandAttempts cmds { can, states := rows.states })[joint]? = _ :=
      commandAttempts_getElem? configFound motorFound
    simp only [sentFrame, canFound, canAfter, Option.bind_eq_bind, Option.bind_some,
      delivered.attempts, List.drop_left, attempt, Option.map_some]
  · rw [stateAt, found]
    exact beforeFound
  · rw [stateAt, rowsAfter]
    exact rescaled
  · rw [report, replyRead, canFound]
    exact (reportAfter_measurement _).1

end CubemarsDriver.Node
