import CubemarsDriver.Node.Attendance
import CubemarsDriver.Node.AverageSafety
import CubemarsDriver.Node.MutexSafety
import CubemarsDriver.Node.OneOrigin
import CubemarsDriver.Node.Placement

namespace CubemarsDriver.Node

open Foundation Can

/-! # What a configuration sets up

Every operation keeps what a successful configuration has set up, as long as the node stays
configured, so cycles, cleanups and services find every entry that they use. -/

variable {K : Type} [Scalar K] {index joint : Nat} {env : CycleEnv} {node after : Node K}
variable {tables changed : JointTables K}

/-- Each joint has the stamp of its last reply, and a median filter that can be updated. -/
structure MediansFit (tables : JointTables K) : Prop where
  stamps : tables.lastJointRxNsPerCanInterface.map List.length =
    tables.jointParametersPerCanInterface.map List.length
  ready : ∀ index joint filter,
    jointEntry tables.jointPosMedianFiltersPerCanInterface index joint = some filter → filter.Ready

omit [Scalar K] in
theorem MediansFit.resize (fits : MediansFit tables) (count : Nat) :
    MediansFit (JointTables.resize tables count) := by
  refine ⟨?_, fun index joint filter found => fits.ready index joint filter (jointEntry_of_resize found)⟩
  simp only [JointTables.resize, resize_sizes, fits.stamps]

theorem MediansFit.appendJoint {settings : JointSettings K} (fits : MediansFit tables)
    (appended : appendJoint settings tables = some changed) : MediansFit changed := by
  simp only [Node.appendJoint, Option.bind_eq_bind, Option.bind_eq_some_iff,
    Option.some.injEq] at appended
  obtain ⟨_, paramsPushed, _, _, _, _, _, _, _, _, _, mediansPushed, _, stampsPushed, rfl⟩ := appended
  refine ⟨?_, fun place position filter found => ?_⟩
  · simp only [pushAt_sizes paramsPushed, pushAt_sizes stampsPushed, fits.stamps]
  · rw [jointEntry_pushAt mediansPushed] at found
    split at found
    · cases found
      exact MedianFilter.create_ready _
    · exact fits.ready place position filter found

theorem PerJointUpdate.median_ready {filter : MedianFilter K} (ready : filter.Ready)
    (update : PerJointUpdate K) : (update.median filter).Ready := by
  unfold PerJointUpdate.median
  split
  · exact MedianFilter.create_ready _
  · exact ready

theorem MediansFit.applyToTables {update : PerJointUpdate K} (fits : MediansFit tables)
    (applied : applyToTables index joint update tables = some changed) : MediansFit changed := by
  simp only [Node.applyToTables, Option.bind_eq_bind, Option.bind_eq_some_iff,
    Option.some.injEq] at applied
  obtain ⟨_, paramsChanged, _, _, _, _, _, mediansChanged, rfl⟩ := applied
  refine ⟨?_, fun place position filter found => ?_⟩
  · simp only [changeEntry_sizes paramsChanged, fits.stamps]
  · rw [jointEntry_changeEntry mediansChanged] at found
    split at found
    · obtain ⟨old, oldFound, rfl⟩ := Option.map_eq_some_iff.mp found
      exact update.median_ready (fits.ready place position old oldFound)
    · exact fits.ready place position filter found

theorem medianFiltered_updated {params : JointParameters K} {state : JointState K}
    {filter : Option (MedianFilter K)} {result : JointState K × Option (MedianFilter K)}
    {next : MedianFilter K} (ready : ∀ old, filter = some old → old.Ready)
    (computed : medianFiltered params state filter = some result) (updated : result.2 = some next) :
    next.Ready := by
  cases filter with
  | none =>
      rw [medianFiltered] at computed
      split at computed
      · cases computed
      · cases computed
        cases updated
  | some old =>
      obtain ⟨other, same, readyAfter⟩ := medianFiltered_ready (ready old rfl)
      cases same.symm.trans computed
      exact readyAfter next updated

theorem MediansFit.filterPositions (fits : MediansFit tables)
    (filtered : filterPositions index tables = some changed) : MediansFit changed := by
  simp only [Node.filterPositions, Option.bind_eq_bind, Option.bind_eq_some_iff,
    Option.some.injEq] at filtered
  obtain ⟨rows, _, filters, filtersFound, results, collected, rfl⟩ := filtered
  obtain ⟨size, entries⟩ := collect_eq_some.mp collected
  have own (joint : Nat) (filter : MedianFilter K) (there : filters[joint]? = some filter) :
      filter.Ready :=
    fits.ready index joint filter (by rw [jointEntry, filtersFound, Option.bind_some, there])
  refine ⟨fits.stamps, fun place position filter found => ?_⟩
  rw [jointEntry_set filtersFound] at found
  split at found
  · rcases mem_overlay (List.mem_of_getElem? found) with old | updated
    · obtain ⟨joint, there⟩ := List.mem_iff_getElem?.mp old
      exact own joint filter there
    · obtain ⟨result, member, updated⟩ := List.mem_map.mp updated
      obtain ⟨joint, there⟩ := List.mem_iff_getElem?.mp member
      have entry := entries joint (size ▸ (List.getElem?_eq_some_iff.mp there).1)
      simp only [there, Option.bind_eq_some_iff] at entry
      obtain ⟨_, _, _, _, computed⟩ := entry
      exact medianFiltered_updated (own joint) computed updated
  · exact fits.ready place position filter found

theorem MediansFit.filterVelocities (fits : MediansFit tables)
    (filtered : filterVelocities index tables = some changed) : MediansFit changed := by
  simp only [Node.filterVelocities, Option.bind_eq_bind, Option.bind_eq_some_iff,
    Option.some.injEq] at filtered
  obtain ⟨_, _, _, _, _, _, stamps, stampsFound, _, _, rfl⟩ := filtered
  refine ⟨?_, fits.ready⟩
  simp only [withStates, set_overlay_sizes stampsFound, fits.stamps]

theorem MediansFit.processStates {messages written : JointMessages K} (fits : MediansFit tables)
    (processed : processStates index tables messages = some (changed, written)) :
    MediansFit changed := by
  simp only [Node.processStates, Option.bind_eq_bind, Option.bind_eq_some_iff, Option.some.injEq,
    Prod.mk.injEq] at processed
  obtain ⟨_, _, positioned, positions, filtered, velocities, _, _, rescaled, rescales, rfl, _⟩ :=
    processed
  simp only [rescaleStates, changeStates, Option.bind_eq_bind, Option.bind_eq_some_iff,
    Option.some.injEq] at rescales
  obtain ⟨_, _, _, _, rfl⟩ := rescales
  obtain ⟨stamps, ready⟩ := (fits.filterPositions positions).filterVelocities velocities
  exact ⟨stamps, ready⟩

theorem mediansFit_cycle : CycleFact (MediansFit (K := K)) where
  cmds _ _ _ _ _ _ fits := ⟨fits.stamps, fits.ready⟩
  states _ _ _ _ _ _ fits := ⟨fits.stamps, fits.ready⟩
  processed _ _ _ _ _ processed fits := fits.processStates processed

theorem mediansFit_rules [Libm K] : TableRules (MediansFit (K := K)) where
  empty := ⟨rfl, fun _ _ _ found => by cases found⟩
  resize _ count fits := fits.resize count
  append _ _ _ fits appended := fits.appendJoint appended
  apply _ _ _ _ _ fits applied := fits.applyToTables applied
  cycle _ _ := mediansFit_cycle.canCycleCallback_keeps

/-- Tables whose rows have entries for the same joints, with filters that can be updated. -/
structure TablesFit (tables : JointTables K) : Prop where
  level : Level tables
  averages : AveragesFit tables
  medians : MediansFit tables

theorem tablesFit_rules [Libm K] : TableRules (TablesFit (K := K)) where
  empty := ⟨level_rules.empty, averagesFit_rules.empty, mediansFit_rules.empty⟩
  resize tables count fits := ⟨level_rules.resize tables count fits.level,
    averagesFit_rules.resize tables count fits.averages,
    mediansFit_rules.resize tables count fits.medians⟩
  append settings tables changed fits appended :=
    ⟨level_rules.append settings tables changed fits.level appended,
      averagesFit_rules.append settings tables changed fits.averages appended,
      mediansFit_rules.append settings tables changed fits.medians appended⟩
  apply index joint update tables changed fits applied :=
    ⟨level_rules.apply index joint update tables changed fits.level applied,
      averagesFit_rules.apply index joint update tables changed fits.averages applied,
      mediansFit_rules.apply index joint update tables changed fits.medians applied⟩
  cycle index env node fits := ⟨level_rules.cycle index env node fits.level,
    averagesFit_rules.cycle index env node fits.averages,
    mediansFit_rules.cycle index env node fits.medians⟩

omit [Scalar K] in
theorem row_of_sizes {α β : Type} {rows : List (List α)} {others : List (List β)} {other : List β}
    (same : rows.map List.length = others.map List.length) (found : others[index]? = some other) :
    ∃ row, rows[index]? = some row ∧ row.length = other.length := by
  have size := congrArg (fun sizes => sizes[index]?) same
  simpa only [List.getElem?_map, found, Option.map_some, Option.map_eq_some_iff] using size

omit [Scalar K] in
/-- The joints of an interface have their rows in all tables. -/
theorem TablesFit.rows (fits : TablesFit node.tables) (aligned : Aligned node)
    (counted : node.tables.jointParametersPerCanInterface.length = node.numInterfaces)
    (present : ∀ joints ∈ node.jointLists, joints.isSome = true) {length : Nat}
    (indexed : ∀ index joint params,
      jointEntry node.tables.jointParametersPerCanInterface index joint = some params →
        params.msgIdx < length) :
    RowsFit length node.tables node.canInterfaces := by
  intro index bound
  have listed : index < node.jointLists.length := by rwa [jointLists_length]
  obtain ⟨joints, there⟩ :=
    Option.isSome_iff_exists.mp (present _ (List.getElem_mem listed))
  have own : node.jointLists[index]? = some (some joints) := by rw [List.getElem?_eq_getElem listed, there]
  obtain ⟨params, paramsFound⟩ : ∃ params, node.tables.jointParametersPerCanInterface[index]? = some params :=
    ⟨_, List.getElem?_eq_getElem (counted ▸ bound)⟩
  have size := aligned index joints params own paramsFound
  obtain ⟨sameAlphaBetas, sameAverages, sameMedians⟩ := tablesInStep_iff.mp fits.averages.inStep
  obtain ⟨cmds, cmdsFound, cmdsSize⟩ := row_of_sizes fits.level.1 paramsFound
  obtain ⟨states, statesFound, statesSize⟩ := row_of_sizes fits.level.2 paramsFound
  obtain ⟨averages, averagesFound, averagesSize⟩ := row_of_sizes sameAverages paramsFound
  obtain ⟨alphaBetas, alphaBetasFound, alphaBetasSize⟩ := row_of_sizes sameAlphaBetas paramsFound
  obtain ⟨medians, mediansFound, mediansSize⟩ := row_of_sizes sameMedians paramsFound
  obtain ⟨stamps, stampsFound, stampsSize⟩ := row_of_sizes fits.medians.stamps paramsFound
  have joined : node.canInterfaces[index]?.join.map CubemarsCan.jointConfigs = some joints := by
    rw [jointLists, List.getElem?_map] at own
    cases found : node.canInterfaces[index]? with
    | none => simp [found] at own
    | some can => simpa [found] using own
  refine ⟨{ configs := joints, cmds, states, params, averages, alphaBetas, medians, lastRxNs := stamps },
    interfaceRows_eq_some.mpr ⟨joined, cmdsFound, statesFound, paramsFound, averagesFound,
      alphaBetasFound, mediansFound, stampsFound⟩, ?_⟩
  constructor
  case cmds => exact cmdsSize.trans size
  case states => exact statesSize.trans size
  case params => exact size
  case averages => exact averagesSize.trans size
  case alphaBetas => exact alphaBetasSize.trans size
  case medians => exact mediansSize.trans size
  case lastRxNs => exact stampsSize.trans size
  case msgIdx =>
    intro params member
    obtain ⟨joint, there⟩ := List.mem_iff_getElem?.mp member
    exact indexed index joint params (by rw [jointEntry, paramsFound, Option.bind_some, there])
  case averagesReady =>
    intro joint params filter paramsThere filterThere large
    obtain ⟨sound, room⟩ := fits.averages.fit index joint params filter
      (by rw [jointEntry, paramsFound, Option.bind_some, paramsThere])
      (by rw [jointEntry, averagesFound, Option.bind_some, filterThere])
    rcases sound.index with first | ⟨within, full⟩
    · rw [MovingAverage.Ready, first]
      omega
    · rw [MovingAverage.Ready, ← full]
      exact within
  case mediansReady =>
    intro filter member
    obtain ⟨joint, there⟩ := List.mem_iff_getElem?.mp member
    exact fits.medians.ready index joint filter
      (by rw [jointEntry, mediansFound, Option.bind_some, there])

omit [Scalar K] in
/-- The rest of a setup, around tables that fit. -/
theorem valid_of_rows (rows : RowsFit node.jointMsgLength node.tables node.canInterfaces)
    (counted : node.tables.jointParametersPerCanInterface.length = node.numInterfaces)
    (threads : node.commThreads.length = node.numInterfaces)
    (interfaces : node.interfaces.Sized node.numInterfaces)
    (messages : node.messages.Sized node.jointMsgLength)
    (command : ∀ command, node.jointCmdPtr = some command → command.Sized node.jointMsgLength) :
    node.setup.Valid :=
  ⟨rows, counted, threads, interfaces, messages, command⟩

theorem InterfaceTables.resize_sized (interfaces : InterfaceTables K) (count : Nat) (now : Int) :
    (InterfaceTables.resize interfaces count now).Sized count := by
  constructor <;> exact resize_length ..

theorem JointMessages.resize_sized (messages : JointMessages K) (length : Nat) :
    (JointMessages.resize messages length).Sized length := by
  constructor <;> simp [JointMessages.resize]

omit [Scalar K] in
theorem CommandFits.indexed (fits : CommandFits node) {params : JointParameters K}
    (found : jointEntry node.tables.jointParametersPerCanInterface index joint = some params) :
    params.msgIdx < node.jointMsgLength :=
  (fits.joints index joint params.msgIdx
    (by rw [jointEntry_indexRows, found, Option.map_some])).command

/-- A successful configuration sets up everything. -/
theorem ConfiguredBy.valid {assignment : Assignment K} {left : Node K} {accepted : Accepted K}
    (configured : ConfiguredBy assignment left accepted node) (fits : TablesFit node.tables)
    (commands : CommandFits node) : node.setup.Valid := by
  have lists : node.numInterfaces = accepted.count := by
    rw [← jointLists_length, configured.lists, List.length_map, rowsOf_length]
  have counted : node.tables.jointParametersPerCanInterface.length = node.numInterfaces := by
    rw [configured.params_eq, rowsOf_length, lists]
  have present : ∀ joints ∈ node.jointLists, joints.isSome = true := by
    rw [configured.lists, List.forall_mem_map]
    exact fun _ _ => rfl
  obtain ⟨before, now, interfaces⟩ := configured.interfaces
  obtain ⟨earlier, messages⟩ := configured.messages
  refine valid_of_rows (fits.rows configured.aligned counted present fun _ _ _ => commands.indexed)
    counted (configured.threads.trans lists.symm) ?_ ?_ commands.command
  · rw [interfaces, lists]
    exact InterfaceTables.resize_sized ..
  · rw [messages]
    exact JointMessages.resize_sized ..

omit [Scalar K] in
/-- An interface of a valid setup has its rows. -/
theorem valid_joined (valid : node.setup.Valid) {joints : Option (List (JointConfig K))}
    (listed : node.jointLists[index]? = some joints) :
    ∃ rows, interfaceRows index node.tables node.canInterfaces = some rows ∧
      rows.Fit node.jointMsgLength ∧ joints = some rows.configs := by
  have bound : index < node.jointLists.length := (List.getElem?_eq_some_iff.mp listed).1
  rw [jointLists_length] at bound
  obtain ⟨rows, found, fit⟩ := valid.rows index bound
  obtain ⟨can, canFound, configs⟩ := Option.map_eq_some_iff.mp (interfaceRows_eq_some.mp found).1
  have there : node.canInterfaces[index]? = some (some can) := Option.join_eq_some_iff.mp canFound
  rw [jointLists, List.getElem?_map, there] at listed
  cases listed
  exact ⟨rows, found, fit, congrArg some configs⟩

omit [Scalar K] in
theorem valid_present (valid : node.setup.Valid) : ∀ joints ∈ node.jointLists, joints.isSome = true := by
  intro joints member
  obtain ⟨index, listed⟩ := List.mem_iff_getElem?.mp member
  obtain ⟨rows, _, _, rfl⟩ := valid_joined valid listed
  rfl

omit [Scalar K] in
theorem valid_aligned (valid : node.setup.Valid) : Aligned node := by
  intro index joints params listed found
  obtain ⟨rows, rowsFound, fit, configs⟩ := valid_joined valid listed
  cases configs
  cases found.symm.trans (interfaceRows_eq_some.mp rowsFound).2.2.2.1
  exact fit.params

section Runs

variable [StdToString K] [Libm K] {operation : Operation K}

/-- What a batch of parameters leaves as it is, and how many parameters there are of each joint. -/
def parameterFrame (node : Node K) :=
  ((node.canInterfaces, node.interfaces, node.messages, node.commThreads, node.jointCmdPtr,
    node.jointMsgLength), node.tables.jointParametersPerCanInterface.map List.length)

omit [Libm K] in
theorem onSetParametersCallback_frame (order : IterationOrder (String × PerJointUpdate K))
    (batch : List (Parameter K)) :
    Path.Preserves parameterFrame (onSetParametersCallback order batch) := by
  refine onSetParametersCallback_evolves (fun _ _ => rfl) (fun node _ _ _ changed applied => ?_)
    order batch
  simp only [applyToTables, Option.bind_eq_bind, Option.bind_eq_some_iff, Option.some.injEq] at applied
  obtain ⟨_, params, _, _, _, _, _, _, rfl⟩ := applied
  exact Prod.ext rfl (changeEntry_sizes params)

omit [Scalar K] [StdToString K] [Libm K] in
theorem valid_of_frame (valid : node.setup.Valid) (same : after.parameterFrame = node.parameterFrame)
    (fits : TablesFit after.tables) (commands : CommandFits after) : after.setup.Valid := by
  simp only [parameterFrame, Prod.mk.injEq] at same
  obtain ⟨⟨canInterfaces, interfaces, messages, commThreads, jointCmdPtr, jointMsgLength⟩, sizes⟩ := same
  have lists : after.jointLists = node.jointLists := by rw [jointLists, canInterfaces, jointLists]
  have count : after.numInterfaces = node.numInterfaces := by
    rw [numInterfaces, canInterfaces, numInterfaces]
  have counted : after.tables.jointParametersPerCanInterface.length = after.numInterfaces := by
    have lengths := congrArg List.length sizes
    rw [List.length_map, List.length_map] at lengths
    exact (lengths.trans valid.params).trans count.symm
  have present : ∀ joints ∈ after.jointLists, joints.isSome = true := lists ▸ valid_present valid
  refine valid_of_rows (fits.rows ((valid_aligned valid).of_sizes lists sizes) counted present
    fun _ _ _ => commands.indexed) counted ?_ ?_ ?_ commands.command
  · rw [commThreads, count]
    exact valid.threads
  · rw [interfaces, count]
    exact valid.interfaces
  · rw [messages, jointMsgLength]
    exact valid.messages

omit [StdToString K] [Libm K] in
theorem jointCmdMsgCallback_valid {command : JointCommand K} {cmdRxNs now : Int} {published : Option K}
    (valid : node.setup.Valid)
    (run : (jointCmdMsgCallback command cmdRxNs now).run node = (.returned published, after)) :
    after.setup.Valid := by
  rw [jointCmdMsgCallback, Path.read_bind] at run
  split at run
  · rename_i sized
    rw [Path.update_bind, Path.read_bind, Path.when] at run
    have stored : (storeCommand command cmdRxNs node).setup.Valid :=
      { valid with command := fun other same => by cases same; exact sized }
    split at run
    · cases run
      exact stored
    · cases run
      exact valid
  · cases run
    exact valid

omit [StdToString K] [Libm K] in
theorem deactivate_valid (valid : node.setup.Valid)
    (run : deactivate.run node = (.returned (), after)) : after.setup.Valid := by
  rw [deactivate_run] at run
  split at run
  · cases run
    exact { valid with command := fun command same => by cases same; exact dampingCommand_sized node }
  · cases run
    exact valid

omit [StdToString K] in
theorem canCycleCallback_valid {exit : CycleExit}
    (known : Held (fun setup _ => setup.Valid) (none, none) node) (bound : index < node.numInterfaces)
    (run : (canCycleCallback index env).run node = (.returned exit, after)) : after.setup.Valid := by
  obtain ⟨count, cycling⟩ := known.cycling bound
  exact ((canCycleCallback_stays : Stays _ _ (fun _ _ => False) _).of_returned cycling run).1.1

omit [Scalar K] [StdToString K] [Libm K] in
theorem setAllMotorsOriginHereCallback_valid
    (known : Held (fun setup _ => setup.Valid) (none, none) node)
    (run : setAllMotorsOriginHereCallback.run node = (.returned (), after)) : after.setup.Valid := by
  by_cases inactive : node.lifecycle = .inactive
  · have started : Held (ValidIn .inactive) (none, none) node := ⟨⟨known.1, inactive⟩, known.2⟩
    obtain ⟨reached, ran, knownAfter, _⟩ := setAllMotorsOriginHereCallback_succeeds started
      (setAllMotorsOriginHereCallback_completes started run).1
    cases run.symm.trans ran
    exact knownAfter.1.1
  · rw [setAllMotorsOriginHereCallback, Path.read_bind, if_pos inactive] at run
    cases run
    exact known.1

/-- A node that stays configured keeps its setup. -/
theorem Operation.valid (other : ∀ assignment bus now, operation ≠ .configure assignment bus now)
    (known : Held (fun setup _ => setup.Valid) (none, none) node) (moved : operate node operation = some after)
    (fits : TablesFit after.tables) (commands : CommandFits after)
    (configured : after.lifecycle = .inactive ∨ after.lifecycle = .active) : after.setup.Valid := by
  obtain ⟨enabled, run⟩ := operate_some.mp moved
  cases operation with
  | configure assignment bus now => exact absurd rfl (other assignment bus now)
  | cleanup =>
      rw [cleanup_refused run configured]
      exact known.1
  | activate =>
      obtain rfl | ⟨_, rfl | ⟨_, rfl⟩⟩ := activate_ends run
      · exact known.1
      · exact known.1
      · exact known.1
  | deactivate => exact deactivate_valid known.1 run
  | shutdown =>
      obtain rfl | ended | ended := shutdown_settles run
      · exact known.1
      · simp [ended] at configured
      · simp [ended] at configured
  | jointCmd command cmdRxNs now =>
      obtain ⟨_, _, callback, ends⟩ := Path.bind_run_returned.mp run
      cases ends
      exact jointCmdMsgCallback_valid known.1 callback
  | watchdogTimer =>
      rw [show Operation.path .watchdogTimer = (watchdogTimerCallback : NodePath K Unit) from rfl,
        watchdogTimerCallback, Path.read_bind, Path.bind_run_returned] at run
      obtain ⟨_, middle, waited, rest⟩ := run
      cases rest
      have waitedValid : middle.setup.Valid := by
        rw [Path.when] at waited
        split at waited
        · exact deactivate_valid known.1 waited
        · cases waited
          exact known.1
      exact waitedValid
  | supervisorTimer =>
      rw [show Operation.path .supervisorTimer = (supervisorCallback : NodePath K Unit) from rfl,
        supervisorCallback, Path.read_bind, Path.update_bind, Path.when] at run
      split at run
      · rw [cleanup_refused run configured]
        exact known.1
      · cases run
        exact known.1
  | canCycle canInterface times =>
      obtain ⟨_, _, callback, ends⟩ := Path.bind_run_returned.mp run
      cases ends
      obtain ⟨thread, there, _⟩ := (Option.any_eq_true ..).mp enabled
      have bound : canInterface < node.numInterfaces := by
        rw [← show node.commThreads.length = node.numInterfaces from known.1.threads]
        exact (List.getElem?_eq_some_iff.mp there).1
      exact canCycleCallback_valid known bound callback
  | setAllMotorsOriginHere => exact setAllMotorsOriginHereCallback_valid known run
  | setMotorOriginHere motorId =>
      obtain ⟨⟨valid, _⟩ | cleared, _⟩ := (setMotorOriginHereCallback_rests node.lifecycle motorId :
        Path.Ensures _ _ _ fun _ _ => False).of_returned ⟨⟨known.1, rfl⟩, known.2⟩ run
      · exact valid
      · have ended : after.lifecycle = .unconfigured := cleared.2
        simp [ended] at configured
  | setParameters order batch =>
      obtain ⟨_, _, callback, ends⟩ := Path.bind_run_returned.mp run
      cases ends
      exact valid_of_frame known.1 ((onSetParametersCallback_frame order batch).of_run callback) fits
        commands

/-- A node between two operations of a run. -/
structure SetUp (node : Node K) : Prop where
  tables : TablesFit node.tables
  messages : MessagesFit node
  between : betweenCalls node.surroundings
  valid : node.lifecycle = .inactive ∨ node.lifecycle = .active → node.setup.Valid

/-- The message indices of a configuration fit an `int`. -/
def GivesMsgIdxs (_ : Node K) (operation : Operation K) : Prop :=
  ∀ assignment bus now, operation = .configure assignment bus now → MsgIdxsFit assignment

theorem operate_setUp (given : GivesMsgIdxs node operation) (setUp : SetUp node)
    (moved : operate node operation = some after) : SetUp after := by
  have run := (operate_some.mp moved).2
  have tables := tablesFit_rules.operate setUp.tables moved
  have messages := operate_fits given setUp.messages moved
  refine ⟨tables, messages, operate_between setUp.between run, fun configured => ?_⟩
  by_cases configuring : ∃ assignment bus now, operation = .configure assignment bus now
  · obtain ⟨assignment, bus, now, rfl⟩ := configuring
    obtain rfl | ⟨_, accepts⟩ := configure_returned moved
    · exact setUp.valid configured
    · obtain ⟨accepted, middle, configuredBy, rfl⟩ := accepts configured
      have commands := messages.2 configured
      exact configuredBy.valid tables (commands.of_indexRows rfl rfl rfl (.inl rfl))
  · have other : ∀ assignment bus now, operation ≠ .configure assignment bus now :=
      fun assignment bus now same => configuring ⟨assignment, bus, now, same⟩
    have known : Held (fun setup _ => setup.Valid) (none, none) node :=
      ⟨setUp.valid (Operation.configured_before other run configured),
        Prod.ext setUp.between.communication setUp.between.jointStateMsg⟩
    exact Operation.valid other known moved tables (messages.2 configured) configured

variable {start : Node K} {operations : List (Operation K)} (constructed : Constructed start)
variable (given : EveryStep operate GivesMsgIdxs start operations)
variable (run : runSteps operate start operations = some node)

include constructed given run

theorem setUp_of_run : SetUp node := by
  have unconfigured : ¬ (start.lifecycle = .inactive ∨ start.lifecycle = .active) := by
    rw [constructed.lifecycle]
    decide
  refine invariant_of_run (fun _ _ _ setUp given => operate_setUp given setUp) ?_ given run
  constructor
  case tables =>
    rw [constructed.tables]
    exact tablesFit_rules.empty
  case messages =>
    refine ⟨?_, fun configured => absurd configured unconfigured⟩
    rw [DefaultsFit, constructed.declaredMsgIdxs]
    exact fun _ impossible => by cases impossible
  case between =>
    refine ⟨constructed.canCommunicationMutex, constructed.jointStateMsgMutex, trivial, fun _ => ?_⟩
    show Dormant start.commThreads
    rw [constructed.commThreads]
    exact dormant_nil
  case valid => exact fun configured => absurd configured unconfigured

/-- Wherever a run has left a node configured, everything is set up and no mutex is held. -/
theorem configured_setup (configured : node.lifecycle = .inactive ∨ node.lifecycle = .active) :
    Held (fun setup _ => setup.Valid) (none, none) node :=
  have setUp := setUp_of_run constructed given run
  ⟨setUp.valid configured, Prod.ext setUp.between.communication setUp.between.jointStateMsg⟩

/-- The answer for all motors is right exactly if no handshake fails, whatever came before. -/
theorem origins_reported_in_runs (inactive : node.lifecycle = .inactive) :
    (∃ after, setAllMotorsOriginHereCallback.run node = (.returned (), after) ∧
      (after.response.success = true ↔ AllCompleted node after)) ↔ EveryOriginCompletes node := by
  have known := configured_setup constructed given run (.inl inactive)
  exact setAllMotorsOriginHereCallback_reports ⟨⟨known.1, inactive⟩, known.2⟩

/-- What gives back its mutexes does so whatever came before. -/
theorem mutexes_given_back_in_runs (callback : Callback)
    (configured : node.lifecycle = .inactive ∨ node.lifecycle = .active)
    (inRange : callback.InRange node) :
    GivesBack callback.path node ↔ callback.HandshakesComplete node :=
  callback.givesBack_iff (configured_setup constructed given run configured) inRange

end Runs

end CubemarsDriver.Node
