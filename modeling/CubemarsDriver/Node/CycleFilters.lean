import CubemarsDriver.Node.Entries
import CubemarsDriver.Node.Operations
import CubemarsDriver.Node.WriteBack

namespace CubemarsDriver.Node

open Foundation Can

/-! # The filters of a joint in a cycle

A cycle that nothing interferes with either writes back what its filters have
computed or has not come to the filters at all. -/

variable {K : Type} {index joint : Nat} {mode : LockMode}

/-- The comm threads, the filters and the times of the replies they last used. -/
structure Filtering (K : Type) where
  commThreads : List CommThread
  alphaBetas : List (List (AlphaBetaFilter K))
  lastRxNs : List (List Int)

def filtering (node : Node K) : Filtering K where
  commThreads := node.commThreads
  alphaBetas := node.tables.jointAbFiltersPerCanInterface
  lastRxNs := node.tables.lastJointRxNsPerCanInterface

/-- The path leaves the filters alone, however it ends. -/
abbrev Bypasses {α : Type} (path : NodePath K α) : Prop := Path.Preserves filtering path

theorem canInterface_bypasses : Bypasses (canInterface index : NodePath K (CubemarsCan K)) :=
  canInterface_preserves fun _ _ => rfl

theorem nameJoint_bypasses : Bypasses (nameJoint index joint : NodePath K Unit) :=
  nameJoint_preserves fun _ _ => rfl

theorem observeLifecycle_bypasses (env : CycleEnv) (point : CyclePoint) :
    Bypasses (observeLifecycle env point : NodePath K Lifecycle) :=
  Path.Evolves.bind (Path.Evolves.update fun _ => rfl) fun _ => Path.Evolves.read _

theorem isConfigured_bypasses (env : CycleEnv) : Bypasses (isConfigured env : NodePath K Bool) :=
  Path.Evolves.bind (observeLifecycle_bypasses _ _) fun _ => Path.Evolves.ite
    (fun _ => Path.Evolves.pure _) fun _ => Path.Evolves.bind (observeLifecycle_bypasses _ _)
      fun _ => Path.Evolves.pure _

theorem changeTables_bypasses {change : JointTables K → Option (JointTables K)}
    (same : ∀ tables after, change tables = some after →
      after.jointAbFiltersPerCanInterface = tables.jointAbFiltersPerCanInterface ∧
        after.lastJointRxNsPerCanInterface = tables.lastJointRxNsPerCanInterface) :
    Bypasses (changeTables change : NodePath K Unit) := by
  refine Path.Evolves.updateDefined fun node after changed => ?_
  obtain ⟨tables, found, rfl⟩ := Option.map_eq_some_iff.mp changed
  obtain ⟨alphaBetas, lastRxNs⟩ := same _ _ found
  simp [Path.Unchanged, filtering, alphaBetas, lastRxNs]

theorem changeCmds_bypasses {change : CycleRows K → Option (List (JointCmd K))} :
    Bypasses (changeTables (changeCmds index change) : NodePath K Unit) := by
  refine changeTables_bypasses fun tables after changed => ?_
  simp only [changeCmds, Option.bind_eq_bind, Option.bind_eq_some_iff, Option.some.injEq] at changed
  obtain ⟨_, _, _, _, rfl⟩ := changed
  exact ⟨rfl, rfl⟩

section Work

variable [Scalar K]

theorem deactivate_bypasses : Bypasses (deactivate : NodePath K Unit) := by
  intro node
  rw [deactivate_run]
  split <;> rfl

theorem startCycle_bypasses (env : CycleEnv) : Bypasses (startCycle index env : NodePath K K) :=
  Path.Evolves.bind (Path.Evolves.element _) fun _ =>
    Path.Evolves.bind (Path.Evolves.update fun _ => rfl) fun _ => Path.Evolves.pure _

theorem sendAndReceive_bypasses : Bypasses (sendAndReceive index : NodePath K Unit) := by
  intro node
  simp only [sendAndReceive]
  split <;> rfl

theorem lockedExchange_bypasses :
    Bypasses (lockedExchange index : NodePath K (Except Exception Unit)) := by
  refine Path.Evolves.bind (Path.Evolves.updateFound fun _ _ => rfl) fun _ => ?_
  refine Path.Evolves.bind (Path.Evolves.attempt sendAndReceive_bypasses) fun _ => ?_
  exact Path.Evolves.bind (Path.Evolves.updateFound fun _ _ => rfl) fun _ => Path.Evolves.pure _

theorem giveUp_bypasses (env : CycleEnv) (point : CyclePoint) :
    Bypasses (giveUp env point : NodePath K Unit) :=
  Path.Evolves.bind (observeLifecycle_bypasses _ _) fun _ => Path.Evolves.ite
    (fun _ => deactivate_bypasses) fun _ => Path.Evolves.update fun _ => rfl

theorem checkStatus_bypasses (env : CycleEnv) :
    Bypasses (checkStatus env index joint : NodePath K Unit) := by
  refine Path.Evolves.bind (Path.Evolves.element _) fun _ => ?_
  refine Path.Evolves.bind (Path.Evolves.when fun _ => ?_) fun _ =>
    Path.Evolves.when fun _ => nameJoint_bypasses
  refine Path.Evolves.bind nameJoint_bypasses fun _ => ?_
  refine Path.Evolves.bind (observeLifecycle_bypasses _ _) fun _ => ?_
  exact Path.Evolves.bind (Path.Evolves.read _) fun _ => Path.Evolves.when fun _ =>
    deactivate_bypasses

omit [Scalar K] in
theorem countErrors_bypasses : Bypasses (countErrors index : NodePath K Bool) := by
  refine Path.Evolves.bind (Path.Evolves.element _) fun _ => ?_
  refine Path.Evolves.bind (Path.Evolves.element _) fun _ => ?_
  refine Path.Evolves.bind (Path.Evolves.read _) fun _ => ?_
  refine Path.Evolves.ite (fun _ => ?_) fun _ => Path.Evolves.ite (fun _ => ?_) fun _ => ?_
  · exact Path.Evolves.bind (Path.Evolves.update fun _ => rfl) fun _ =>
      Path.Evolves.bind canInterface_bypasses fun _ => Path.Evolves.pure _
  · exact Path.Evolves.bind canInterface_bypasses fun _ => Path.Evolves.pure _
  · exact Path.Evolves.bind (Path.Evolves.update fun _ => rfl) fun _ => Path.Evolves.pure _

/-- The comm thread of the interface runs. -/
def Running (index : Nat) (node : Node K) : Prop :=
  node.commThreads[index]?.any CommThread.running = true

/-- It runs, and the filters are as they were. -/
def Bypassed (index : Nat) (base node : Node K) : Prop :=
  Running index node ∧ node.filtering = base.filtering

variable {base node after : Node K} {times : CycleTimes} {frequency : K} {exit : CycleExit}

omit [Scalar K] in
theorem running_of_threads (same : after.commThreads = node.commThreads)
    (running : Running index node) : Running index after := by
  unfold Running
  rwa [same]

omit [Scalar K] in
theorem Bypasses.keeps {α : Type} {path : NodePath K α} (bypasses : Bypasses path) :
    Path.Confines (fun _ => True) (Bypassed index base) path (fun _ => Bypassed index base)
      fun _ => True :=
  (Path.Confines.of_preserves bypasses (fun _ _ _ => id) fun _ _ same ⟨running, reached⟩ =>
    ⟨running_of_threads (congrArg Filtering.commThreads same) running, same.trans reached⟩).consequence
    (fun _ => id) (fun _ _ => id) fun _ _ => trivial

omit [Scalar K] in
/-- No other thread stops the cycle. -/
theorem observeRunning_undisturbed (point : CyclePoint) (running : Running index node) :
    (observeRunning times.env point index).run node = (.returned true, node) := by
  have same : node.commThreads.modify index (fun thread =>
      { thread with running := thread.running && !false }) = node.commThreads := by
    simp only [Bool.not_false, Bool.and_true]
    exact List.modify_id _ _
  obtain ⟨thread, found, runs⟩ : ∃ thread, node.commThreads[index]? = some thread ∧
      thread.running = true := by
    unfold Running at running
    cases found : node.commThreads[index]? with
    | none => simp [found] at running
    | some thread => exact ⟨thread, rfl, by simpa [found] using running⟩
  simp only [observeRunning, CycleTimes.env, Path.update_bind, same, commThread]
  rw [Path.element_bind]
  simp only [found, Path.pure_run, runs]

omit [Scalar K] in
/-- Where it is observed, the thread runs. -/
theorem observes {pre : Node K → Prop} (point : CyclePoint)
    (runs : ∀ node, pre node → Running index node) :
    Path.Confines (fun _ => True) pre (observeRunning times.env point index)
      (fun running node => running = true ∧ pre node) fun _ => True := by
  intro node _ holds
  rw [observeRunning_undisturbed point (runs node holds)]
  exact ⟨trivial, rfl, holds⟩

theorem writeBackCycle_ends : Path.Confines (fun _ => True) (Running index)
    (writeBackCycle index times.env frequency) (fun exit _ => exit.WroteBack) fun _ => True := by
  have locks : Path.Confines (fun _ => True) (Running index)
      (lockJointStateMsg .shared : NodePath K Unit) (fun _ => Running index) fun _ => True :=
    Path.Confines.updateDefined fun node after _ running locked => by
      obtain ⟨mutex, _, rfl⟩ := Option.map_eq_some_iff.mp locked
      exact ⟨trivial, running⟩
  refine Path.Confines.bind locks fun _ => ?_
  refine Path.Confines.bind (observes _ fun _ => id) fun running => ?_
  rintro node kept ⟨rfl, holds⟩
  rw [if_pos rfl]
  have any {α : Type} {path : NodePath K α} : Path.Confines (fun _ => True) (fun _ => True) path
      (fun _ _ => True) fun _ => True := Path.Confines.anything
  exact Path.Confines.bind any (fun _ => Path.Confines.bind any fun _ => finishCycle_ends _)
    node trivial trivial

/-- The cycle has written back or left the filters alone. -/
def EndsBypassed (base : Node K) (exit : CycleExit) (node : Node K) : Prop :=
  exit.WroteBack ∨ node.filtering = base.filtering

theorem handleReplies_ends : Path.Confines (fun _ => True) (Bypassed index base)
    (handleReplies index times.env frequency) (EndsBypassed base) fun _ => True := by
  refine Path.Confines.bind canInterface_bypasses.keeps fun _ => ?_
  refine Path.Confines.bind ((Path.Confines.element _).weaken_post fun _ _ => And.left) fun rows => ?_
  refine Path.Confines.bind (Bypasses.keeps (Path.Evolves.loopBelow fun _ => checkStatus_bypasses _))
    fun _ => ?_
  refine Path.Confines.bind countErrors_bypasses.keeps fun few => Path.Confines.ite (fun _ => ?_)
    fun _ => ?_
  · refine Path.Confines.bind (Path.Confines.updateDefined fun node after _ bypassed changed => ?_ :
      Path.Confines _ _ _ (fun _ => Running index) _) fun _ =>
        writeBackCycle_ends.weaken_post fun _ _ => .inl
    obtain ⟨_, _, rfl⟩ := Option.map_eq_some_iff.mp changed
    exact ⟨trivial, bypassed.1⟩
  · refine Path.Confines.bind (giveUp_bypasses _ _).keeps fun _ => ?_
    exact fun _ _ bypassed => ⟨trivial, .inr bypassed.2⟩

theorem canCycleCallback_ends [Libm K] : Path.Confines (fun _ => True) (Bypassed index base)
    (canCycleCallback index times.env) (EndsBypassed base) fun _ => True := by
  have ends (exit : CycleExit) : Path.Confines (fun _ => True) (Bypassed index base)
      (pure exit : NodePath K CycleExit) (EndsBypassed base) fun _ => True :=
    fun _ _ bypassed => ⟨trivial, .inr bypassed.2⟩
  refine Path.Confines.bind (isConfigured_bypasses _).keeps fun _ => Path.Confines.ite (fun _ => ?_)
    fun _ => ends _
  refine Path.Confines.bind ((Path.Confines.element _).weaken_post fun _ _ => And.left) fun _ => ?_
  refine Path.Confines.bind (startCycle_bypasses _).keeps fun _ => ?_
  refine Path.Confines.bind ((observes _ fun _ => And.left).weaken_post fun _ _ => And.right)
    fun _ => Path.Confines.ite (fun _ => ?_) fun _ => ends _
  refine Path.Confines.bind ((Path.Confines.read _).weaken_post fun _ _ => And.left) fun command => ?_
  cases command with
  | none => exact ends _
  | some command =>
      refine Path.Confines.bind changeCmds_bypasses.keeps fun _ => ?_
      refine Path.Confines.bind (observeLifecycle_bypasses _ _).keeps fun _ => ?_
      refine Path.Confines.bind (Bypasses.keeps (Path.Evolves.when fun _ =>
        Path.Evolves.bind changeCmds_bypasses fun _ => changeCmds_bypasses)) fun _ => ?_
      refine Path.Confines.bind lockedExchange_bypasses.keeps fun result => ?_
      cases result with
      | error exception =>
          exact Path.Confines.bind (giveUp_bypasses _ _).keeps fun _ => ends _
      | ok value => exact handleReplies_ends

/-- A cycle that does not write back leaves the filters alone. -/
theorem filtering_of_not_wroteBack [Libm K] (running : Running index node)
    (run : (canCycleCallback index times.env).run node = (.returned exit, after))
    (early : ¬ exit.WroteBack) : after.filtering = node.filtering :=
  ((canCycleCallback_ends.of_returned trivial ⟨running, rfl⟩ run).2).resolve_left early

end Work

section Filters

variable [Scalar K] {other : Nat} {tables after : JointTables K} {rows : CycleRows K}
variable {params : JointParameters K} {state : JointState K}

/-- The state of a joint that a cycle hands to the velocity filters. -/
def positioned (index joint : Nat) (tables : JointTables K) : Option (JointState K) :=
  (filterPositions index tables).bind fun tables =>
    jointEntry tables.jointStatesPerCanInterface index joint

theorem filterPositions_filters (filtered : filterPositions index tables = some after) :
    after.jointAbFiltersPerCanInterface = tables.jointAbFiltersPerCanInterface ∧
      after.lastJointRxNsPerCanInterface = tables.lastJointRxNsPerCanInterface := by
  simp only [filterPositions, Option.bind_eq_bind, Option.bind_eq_some_iff,
    Option.some.injEq] at filtered
  obtain ⟨_, _, _, _, _, _, rfl⟩ := filtered
  exact ⟨rfl, rfl⟩

/-- What the filters make of one joint. -/
structure FilteredJoint (index joint : Nat) (params : JointParameters K) (state : JointState K)
    (tables after : JointTables K) (result : JointState K × VelocityFilters K) : Prop where
  computed : ∃ movingAverage, velocityFiltered params state {
    movingAverage
    alphaBeta := jointEntry tables.jointAbFiltersPerCanInterface index joint
    lastRxNs := jointEntry tables.lastJointRxNsPerCanInterface index joint } = some result
  alphaBeta : jointEntry after.jointAbFiltersPerCanInterface index joint =
    (jointEntry tables.jointAbFiltersPerCanInterface index joint).map result.2.alphaBeta.getD
  lastRxNs : jointEntry after.lastJointRxNsPerCanInterface index joint =
    (jointEntry tables.lastJointRxNsPerCanInterface index joint).map result.2.lastRxNs.getD

/-- The loop over the velocity filters. -/
structure FilteredRow (index : Nat) (rows : CycleRows K) (tables after : JointTables K)
    (states : List (JointState K)) : Prop where
  found : cycleRows index after = some { rows with states }
  joints : ∀ (joint : Nat) (params : JointParameters K) (state : JointState K),
    rows.params[joint]? = some params → rows.states[joint]? = some state →
    ∃ result, FilteredJoint index joint params state tables after result ∧
      states[joint]? = some result.1
  params : ∀ (joint : Nat) (state : JointState K), rows.states[joint]? = some state →
    ∃ params, rows.params[joint]? = some params
  absent : ∀ joint, rows.states[joint]? = none →
    jointEntry after.jointAbFiltersPerCanInterface index joint =
      jointEntry tables.jointAbFiltersPerCanInterface index joint ∧
    jointEntry after.lastJointRxNsPerCanInterface index joint =
      jointEntry tables.lastJointRxNsPerCanInterface index joint
  others : ∀ other joint, other ≠ index →
    jointEntry after.jointAbFiltersPerCanInterface other joint =
      jointEntry tables.jointAbFiltersPerCanInterface other joint ∧
    jointEntry after.lastJointRxNsPerCanInterface other joint =
      jointEntry tables.lastJointRxNsPerCanInterface other joint

omit [Scalar K] in
theorem overlay_absent {α : Type} {row : List α} {updates : List (Option α)}
    (absent : updates[joint]? = none) : (overlay row updates)[joint]? = row[joint]? := by
  rw [overlay_getElem?, absent]
  simp

omit [Scalar K] in
theorem overlay_update {α : Type} {row : List α} {updates : List (Option α)} {update : Option α}
    (found : updates[joint]? = some update) :
    (overlay row updates)[joint]? = row[joint]?.map update.getD := by
  rw [overlay_getElem?, found, Option.join_some]

theorem filterVelocities_row (filtered : filterVelocities index tables = some after)
    (found : cycleRows index tables = some rows) :
    ∃ states, FilteredRow index rows tables after states := by
  simp only [filterVelocities, found, Option.bind_eq_bind, Option.bind_some,
    Option.bind_eq_some_iff, Option.some.injEq] at filtered
  obtain ⟨averages, _, alphaBetas, alphaBetasFound, lastRxNs, lastRxNsFound, results, collected,
    rfl⟩ := filtered
  obtain ⟨size, entries⟩ := collect_eq_some.mp collected
  have own {α : Type} {table : List (List α)} {row : List α} (there : table[index]? = some row)
      (joint : Nat) : jointEntry table index joint = row[joint]? := by
    rw [jointEntry, there, Option.bind_some]
  refine ⟨results.map Prod.fst, cycleRows_withStates found _, ?_, ?_, ?_, ?_⟩
  · intro joint params state paramsFound stateFound
    have entry := entries joint (List.getElem?_eq_some_iff.mp stateFound).1
    simp only [paramsFound, stateFound, Option.bind_some] at entry
    obtain ⟨result, resultFound⟩ : ∃ result, results[joint]? = some result :=
      ⟨_, List.getElem?_eq_getElem (by rw [size]; exact (List.getElem?_eq_some_iff.mp stateFound).1)⟩
    rw [resultFound] at entry
    have updates {β : Type} (update : VelocityFilters K → Option β) :
        ((results.map Prod.snd).map update)[joint]? = some (update result.2) := by
      rw [List.getElem?_map, List.getElem?_map, resultFound]
      rfl
    refine ⟨result, ⟨⟨averages[joint]?, ?_⟩, ?_, ?_⟩, ?_⟩
    · rw [own alphaBetasFound, own lastRxNsFound]
      exact entry
    · rw [jointEntry_set alphaBetasFound, if_pos rfl, own alphaBetasFound,
        overlay_update (updates VelocityFilters.alphaBeta)]
    · rw [jointEntry_set lastRxNsFound, if_pos rfl, own lastRxNsFound,
        overlay_update (updates VelocityFilters.lastRxNs)]
    · rw [List.getElem?_map, resultFound]
      rfl
  · intro joint state stateFound
    have bound := (List.getElem?_eq_some_iff.mp stateFound).1
    have entry := entries joint bound
    rw [List.getElem?_eq_getElem (show joint < results.length by rw [size]; exact bound),
      Option.bind_eq_some_iff] at entry
    obtain ⟨params, paramsFound, _⟩ := entry
    exact ⟨params, paramsFound⟩
  · intro joint absent
    have missing : results[joint]? = none := by
      rw [List.getElem?_eq_none_iff] at absent ⊢
      omega
    have updates {β : Type} (update : VelocityFilters K → Option β) :
        ((results.map Prod.snd).map update)[joint]? = none := by
      rw [List.getElem?_map, List.getElem?_map, missing]
      rfl
    constructor
    · rw [jointEntry_set alphaBetasFound, if_pos rfl, own alphaBetasFound,
        overlay_absent (updates VelocityFilters.alphaBeta)]
    · rw [jointEntry_set lastRxNsFound, if_pos rfl, own lastRxNsFound,
        overlay_absent (updates VelocityFilters.lastRxNs)]
  · intro other joint different
    exact ⟨by rw [jointEntry_set alphaBetasFound, if_neg different],
      by rw [jointEntry_set lastRxNsFound, if_neg different]⟩

/-- A cycle that comes to the filters.  The states are those that the median filters
leave. -/
structure ProcessedRow (index : Nat) (rows : CycleRows K) (tables after : JointTables K)
    (states : List (JointState K)) : Prop where
  positioned : ∀ joint, positioned index joint tables = states[joint]?
  found : ∃ final, cycleRows index after = some { rows with states := final }
  joints : ∀ (joint : Nat) (params : JointParameters K) (state : JointState K),
    rows.params[joint]? = some params → states[joint]? = some state →
    ∃ result, FilteredJoint index joint params state tables after result ∧
      jointEntry after.jointStatesPerCanInterface index joint = some (toJointSpace params result.1)
  params : ∀ (joint : Nat) (state : JointState K), states[joint]? = some state →
    ∃ params, rows.params[joint]? = some params
  absent : ∀ joint, states[joint]? = none →
    jointEntry after.jointAbFiltersPerCanInterface index joint =
      jointEntry tables.jointAbFiltersPerCanInterface index joint ∧
    jointEntry after.lastJointRxNsPerCanInterface index joint =
      jointEntry tables.lastJointRxNsPerCanInterface index joint
  others : ∀ other joint, other ≠ index →
    jointEntry after.jointAbFiltersPerCanInterface other joint =
      jointEntry tables.jointAbFiltersPerCanInterface other joint ∧
    jointEntry after.lastJointRxNsPerCanInterface other joint =
      jointEntry tables.lastJointRxNsPerCanInterface other joint

theorem processStates_row {messages written : JointMessages K}
    (processed : processStates index tables messages = some (after, written))
    (found : cycleRows index tables = some rows) :
    ∃ states, ProcessedRow index rows tables after states := by
  simp only [processStates, Option.bind_eq_bind, Option.bind_eq_some_iff, Option.some.injEq,
    Prod.mk.injEq] at processed
  obtain ⟨_, _, first, positions, second, velocities, _, _, _, rescale, rfl, _⟩ := processed
  obtain ⟨alphaBetas, lastRxNs⟩ := filterPositions_filters positions
  obtain ⟨states, firstRows, _, _⟩ := filterPositions_keeps positions rows found
  obtain ⟨filtered, row⟩ := filterVelocities_row velocities firstRows
  obtain ⟨final, scaling, rfl⟩ := (changeStates_eq_some row.found).mp rescale
  have filteredRow := (cycleRows_eq_some.mp row.found).2.1
  refine ⟨states, ?_, ⟨final, cycleRows_withStates row.found final⟩, ?_, row.params, ?_, ?_⟩
  · intro joint
    rw [positioned, positions, Option.bind_some, jointEntry, (cycleRows_eq_some.mp firstRows).2.1,
      Option.bind_some]
  · intro joint params state paramsFound stateFound
    obtain ⟨result, ⟨computed, alphaBeta, lastRx⟩, resultFound⟩ :=
      row.joints joint params state paramsFound stateFound
    rw [alphaBetas, lastRxNs] at computed
    rw [alphaBetas] at alphaBeta
    rw [lastRxNs] at lastRx
    refine ⟨result, ⟨computed, alphaBeta, lastRx⟩, ?_⟩
    rw [withStates, jointEntry_set filteredRow, if_pos rfl]
    exact jointSpaceStates_getElem? scaling resultFound paramsFound
  · intro joint absent
    rw [← alphaBetas, ← lastRxNs]
    exact row.absent joint absent
  · intro other joint different
    rw [← alphaBetas, ← lastRxNs]
    exact row.others other joint different

end Filters

end CubemarsDriver.Node
