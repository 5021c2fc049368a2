import CubemarsDriver.Node.DisabledRuns
import CubemarsDriver.Node.Entries

namespace CubemarsDriver.Node

open Foundation Can

/-! # The commands that cycles load

A cycle indexes the arrays of the command and of the messages with the message
indices of its joints and checks none of them. -/

variable {K : Type} {node after : Node K} {index joint index' joint' : Nat}

/-- The message indices of the joints of every interface. -/
def indexRows (tables : JointTables K) : List (List Nat) :=
  tables.jointParametersPerCanInterface.map fun row => row.map (·.msgIdx)

/-- A message index is within the messages. -/
structure Indexed (node : Node K) (msgIdx : Nat) : Prop where
  command : msgIdx < node.jointMsgLength
  messages : ∀ length ∈ node.messages.lengths, msgIdx < length

/-- The message indices belong to one joint each. -/
def Unshared (rows : List (List Nat)) : Prop :=
  ∀ index joint index' joint' msgIdx, jointEntry rows index joint = some msgIdx →
    jointEntry rows index' joint' = some msgIdx → index = index' ∧ joint = joint'

structure CommandFits (node : Node K) : Prop where
  command : ∀ command, node.jointCmdPtr = some command → command.Sized node.jointMsgLength
  joints : ∀ index joint msgIdx, jointEntry (indexRows node.tables) index joint = some msgIdx →
    Indexed node msgIdx
  unshared : Unshared (indexRows node.tables)

theorem jointEntry_indexRows (tables : JointTables K) (index joint : Nat) :
    jointEntry (indexRows tables) index joint =
      (jointEntry tables.jointParametersPerCanInterface index joint).map (·.msgIdx) :=
  jointEntry_map _ _ _ _

theorem CommandFits.retained (fits : CommandFits node) (retains : Retains node after) :
    CommandFits after := by
  constructor
  case command =>
    rcases retains.command with same | sized
    · rw [same, retains.jointMsgLength]
      exact fits.command
    · exact sized
  case joints =>
    rcases retains.tables with wiped | ⟨tables, _⟩
    · rw [wiped.1]
      exact fun _ _ _ impossible => by simp [jointEntry, indexRows] at impossible
    rcases retains.messages with wiped | messages
    · rw [wiped.1]
      exact fun _ _ _ impossible => by simp [jointEntry, indexRows] at impossible
    intro index joint msgIdx found
    obtain ⟨command, lengths⟩ := fits.joints index joint msgIdx (tables ▸ found)
    exact ⟨retains.jointMsgLength ▸ command, messages ▸ lengths⟩
  case unshared =>
    rcases retains.tables with wiped | ⟨tables, _⟩
    · rw [wiped.1]
      exact fun _ _ _ _ _ impossible => by simp [jointEntry, indexRows] at impossible
    · rw [tables]
      exact fits.unshared

/-- Commands of the same length, for joints with the same indices. -/
theorem CommandFits.of_indexRows (fits : CommandFits node)
    (rows : indexRows after.tables = indexRows node.tables)
    (messages : after.messages.lengths = node.messages.lengths)
    (length : after.jointMsgLength = node.jointMsgLength)
    (command : after.jointCmdPtr = node.jointCmdPtr ∨
      ∀ command, after.jointCmdPtr = some command → command.Sized after.jointMsgLength) :
    CommandFits after := by
  constructor
  case command =>
    rcases command with same | sized
    · rw [same, length]
      exact fits.command
    · exact sized
  case joints =>
    intro index joint msgIdx found
    obtain ⟨within, lengths⟩ := fits.joints index joint msgIdx (rows ▸ found)
    exact ⟨length ▸ within, messages ▸ lengths⟩
  case unshared =>
    rw [rows]
    exact fits.unshared

theorem CommandFits.reworks (fits : CommandFits node) (reworks : Reworks node after) :
    CommandFits after :=
  fits.of_indexRows (by rw [indexRows, reworks.tables.2.1, indexRows]) reworks.messages
    reworks.jointMsgLength reworks.command

section Operations

variable [Scalar K]

theorem applyToTables_indexRows {update : PerJointUpdate K} {tables changed : JointTables K}
    (applied : applyToTables index joint update tables = some changed) :
    indexRows changed = indexRows tables := by
  simp only [applyToTables, Option.bind_eq_bind, Option.bind_eq_some_iff, Option.some.injEq] at applied
  obtain ⟨params, paramsChanged, _, _, _, _, _, _, rfl⟩ := applied
  exact changeEntry_map _ paramsChanged fun _ => rfl

/-- The message indices that are given or default fit an `int`. -/
def MsgIdxsFit (assignment : Assignment K) : Prop :=
  ∀ jointNames, assignment.getStringArray "joints" = .ok jointNames → ∀ name ∈ jointNames,
    ∀ value, msgIdxParameter assignment (fun name => jointNames.idxOf name) name = .ok value →
      -2 ^ 31 ≤ value ∧ value < 2 ^ 31

/-- The defaults that the node has declared fit an `int`. -/
def DefaultsFit (node : Node K) : Prop := ∀ entry ∈ node.declaredMsgIdxs, (entry.2 : Int) < 2 ^ 31

omit [Scalar K] in
/-- A message index that a configuration reads was given to it, or is a default that it or an
earlier one declared. -/
theorem MsgIdxsFit.of_defaults {assignment : Assignment K} (fits : MsgIdxsFit assignment)
    (defaults : DefaultsFit node) {jointNames : List String}
    (given : assignment.getStringArray "joints" = .ok jointNames) {name : String}
    (member : name ∈ jointNames) {value : Int}
    (read : msgIdxParameter assignment (node.msgIdxDefaults jointNames) name = .ok value) :
    -2 ^ 31 ≤ value ∧ value < 2 ^ 31 := by
  have fresh := fits jointNames given name member
  unfold msgIdxParameter Assignment.getInteger Assignment.get at read fresh
  cases there : assignment (jointParameterName name "msg_idx") with
  | some parameter =>
      rw [there] at read fresh
      exact fresh value read
  | none =>
      rw [there] at read fresh
      cases read
      cases found : node.declaredMsgIdxs.lookup name with
      | none =>
          have own := fresh _ rfl
          rwa [msgIdxDefaults, found]
      | some index =>
          rw [msgIdxDefaults, found]
          obtain ⟨earlier, later, declared, -⟩ := List.lookup_eq_some_iff.mp found
          have kept := defaults (name, index) (by simp [declared])
          rw [Option.getD_some]
          omega

omit [Scalar K] in
theorem DefaultsFit.of_same (defaults : DefaultsFit node)
    (same : after.declaredMsgIdxs = node.declaredMsgIdxs) : DefaultsFit after := by
  rwa [DefaultsFit, same]

theorem DefaultsFit.declared {assignment : Assignment K} (defaults : DefaultsFit node)
    (fits : MsgIdxsFit assignment) {jointNames : List String}
    (given : assignment.getStringArray "joints" = .ok jointNames) :
    DefaultsFit (declareMsgIdxs assignment jointNames node) := by
  intro entry member
  rcases List.mem_append.mp member with old | new
  · exact defaults entry old
  · obtain ⟨name, declared, rfl⟩ := List.mem_map.mp new
    obtain ⟨reached, unset⟩ := List.mem_filter.mp declared
    have read : msgIdxParameter assignment (node.msgIdxDefaults jointNames) name =
        .ok (node.msgIdxDefaults jointNames name : Int) := by
      rw [msgIdxParameter, Assignment.getInteger, Assignment.get, Option.isNone_iff_eq_none.mp unset]
    exact (fits.of_defaults defaults given (mem_of_mem_reachedJoints reached) read).2

theorem resize_lengths (messages : JointMessages K) (length : Nat) :
    ∀ size ∈ (JointMessages.resize messages length).lengths, size = length := by
  simp [JointMessages.lengths, JointMessages.resize]

section Configuration

variable {assignment : Assignment K} {left : Node K} {accepted : Accepted K}
variable (configured : ConfiguredBy assignment left accepted node)

include configured

theorem ConfiguredBy.bounded (fits : MsgIdxsFit assignment) (defaults : DefaultsFit left) :
    IndicesBounded assignment (left.msgIdxDefaults accepted.jointNames)
      accepted.jointNames.reverse accepted.seen := by
  simpa using validateJoints_invariant
    (IndicesBounded assignment (left.msgIdxDefaults accepted.jointNames))
    (fun name earlier seen after member => validateJoint_bounded
      fun value read => (fits.of_defaults defaults configured.joints member read).2)
    indicesBounded_nil configured.validated

theorem ConfiguredBy.indexed (fits : MsgIdxsFit assignment) (defaults : DefaultsFit left)
    {found : JointSettings K} (there : found ∈ accepted.settings) :
    Indexed node found.params.msgIdx := by
  have bounded := configured.bounded fits defaults
  obtain ⟨name, member, read⟩ := configured.readFrom_of_mem there
  obtain ⟨value, valueRead, stored⟩ := read.msgIdx
  obtain ⟨positive, below⟩ := bounded.entries name (List.mem_reverse.mpr member) value valueRead
  have limit := (fits.of_defaults defaults configured.joints member valueRead).2
  have index : (found.params.msgIdx : Int) = value := stored ▸ toUnsigned_of_fits positive limit
  have within : found.params.msgIdx < node.jointMsgLength := by
    rw [configured.jointMsgLength]
    have greatest := bounded.greatest
    omega
  refine ⟨within, fun length member => ?_⟩
  obtain ⟨before, resized⟩ := configured.messages
  rw [resize_lengths before node.jointMsgLength length (resized ▸ member)]
  exact within

theorem ConfiguredBy.unshared : Unshared (indexRows node.tables) := by
  have distinct := configured.validated_joints.msgIdxs_distinct
    (List.forall₂_reverse_iff.mpr configured.read)
  rw [List.map_reverse, List.nodup_reverse] at distinct
  intro index joint index' joint' msgIdx found found'
  rw [jointEntry_indexRows, configured.params_eq, Option.map_eq_some_iff] at found found'
  obtain ⟨_, entry, rfl⟩ := found
  obtain ⟨_, entry', same⟩ := found'
  obtain ⟨_, first, there, rfl⟩ := jointEntry_rowsOf.mp entry
  obtain ⟨_, second, there', rfl⟩ := jointEntry_rowsOf.mp entry'
  obtain ⟨member, own⟩ := List.mem_filter.mp (List.mem_of_getElem? there)
  obtain ⟨member', own'⟩ := List.mem_filter.mp (List.mem_of_getElem? there')
  obtain rfl := List.inj_on_of_nodup_map distinct member' member same
  have interface : index = index' := by simp_all
  subst interface
  refine ⟨rfl, ?_⟩
  have kept := (distinct.of_map _).filter fun joint => joint.canInterfaceId = index
  obtain ⟨bound, rfl⟩ := List.getElem?_eq_some_iff.mp there
  obtain ⟨bound', same⟩ := List.getElem?_eq_some_iff.mp there'
  exact (kept.getElem_inj_iff.mp same).symm

theorem ConfiguredBy.commandFits (fits : MsgIdxsFit assignment) (defaults : DefaultsFit left) :
    CommandFits node := by
  constructor
  case command =>
    intro command found
    rw [configured.command, Option.some.injEq] at found
    rw [← found]
    simp [zeroCommand, JointCommand.Sized]
  case joints =>
    intro index joint msgIdx found
    rw [jointEntry_indexRows, configured.params_eq, Option.map_eq_some_iff] at found
    obtain ⟨_, entry, rfl⟩ := found
    obtain ⟨_, settings, there, rfl⟩ := jointEntry_rowsOf.mp entry
    exact configured.indexed fits defaults (List.mem_filter.mp (List.mem_of_getElem? there)).1
  case unshared => exact configured.unshared

end Configuration

variable [StdToString K]

theorem onSetParametersCallback_fits (order : IterationOrder (String × PerJointUpdate K))
    (batch : List (Parameter K)) :
    Path.Maintains CommandFits (onSetParametersCallback order batch) := by
  exact onSetParametersCallback_evolves
    (fun _ _ fits => fits.of_indexRows rfl rfl rfl (.inl rfl))
    (fun _ _ _ _ _ applied fits =>
      fits.of_indexRows (applyToTables_indexRows applied) rfl rfl (.inl rfl)) order batch

variable [Libm K] {operation : Operation K}

/-- No operation but a configuration changes what the command has to fit. -/
theorem Operation.fits (other : ∀ assignment bus now, operation ≠ .configure assignment bus now) :
    Path.Maintains CommandFits operation.path := by
  refine Operation.keeps (fun _ _ retains fits => fits.retained retains) (fun index times _ => ?_)
    (fun order batch _ => onSetParametersCallback_fits order batch) other
  exact fun _ fits => (canCycleCallback_cycles (reworkRules index times.env
    fun before after reworks fits => fits.reworks reworks)).always_after fits trivial

omit [StdToString K] [Libm K] in
theorem configure_defaultsFit {assignment : Assignment K} {bus : Bus} {now : Int}
    (fits : MsgIdxsFit assignment) :
    Path.Maintains DefaultsFit (configure assignment bus now) := by
  have keeps {α : Type} {path : NodePath K α} (preserves : Path.Preserves declaredMsgIdxs path) :
      Path.Maintains DefaultsFit path :=
    preserves.weaken fun _ _ same defaults => defaults.of_same same
  refine configure_maintains (fun _ _ retains defaults => defaults.of_same retains.declaredMsgIdxs)
    (fun _ _ defaults => defaults) (configureNode_evolves ?_ ?_ ?_ ?_ ?_ ?_ ?_)
  · exact keeps (readGlobals_evolves (fun _ _ _ _ _ => rfl) fun _ _ _ _ => rfl)
  · exact fun _ _ given defaults => defaults.declared fits given
  · exact fun _ _ _ => id
  · exact fun _ _ _ _ => keeps (buildTables_evolves (fun _ _ _ _ => rfl) _)
  · exact fun _ _ => keeps (createInterfaces_evolves (fun _ _ => rfl) _)
  · exact keeps (startPublishing_evolves fun _ => rfl)
  · exact fun _ => keeps (startMotors_stored.weaken fun _ _ same => (Prod.mk.inj (Prod.mk.inj same).2).2)

theorem operate_defaultsFit (given : ∀ assignment bus now, operation = .configure assignment bus now →
      MsgIdxsFit assignment) (defaults : DefaultsFit node)
    (moved : operate node operation = some after) : DefaultsFit after := by
  obtain ⟨_, run⟩ := operate_some.mp moved
  by_cases configuring : ∃ assignment bus now, operation = .configure assignment bus now
  · obtain ⟨assignment, bus, now, rfl⟩ := configuring
    exact (configure_defaultsFit (given assignment bus now rfl)).of_run run defaults
  · have kept : Path.Maintains DefaultsFit operation.path :=
      Operation.keeps (fun _ _ retains defaults => defaults.of_same retains.declaredMsgIdxs)
        (fun index times _ _ defaults => (canCycleCallback_cycles (reworkRules index times.env
          fun _ _ reworks defaults => DefaultsFit.of_same defaults reworks.declaredMsgIdxs)).always_after
            defaults trivial)
        (fun order batch _ => onSetParametersCallback_evolves (fun _ _ => id) (fun _ _ _ _ _ _ => id)
          order batch)
        fun assignment bus now same => configuring ⟨assignment, bus, now, same⟩
    exact kept.of_run run defaults

/-- The command of a configured node fits, and so do the defaults for the next configuration. -/
def MessagesFit (node : Node K) : Prop :=
  DefaultsFit node ∧ (node.lifecycle = .inactive ∨ node.lifecycle = .active → CommandFits node)

theorem operate_fits (given : ∀ assignment bus now, operation = .configure assignment bus now →
      MsgIdxsFit assignment) (fits : MessagesFit node) (moved : operate node operation = some after) :
    MessagesFit after := by
  refine ⟨operate_defaultsFit given fits.1 moved, operate_whileConfigured
    (fun assignment bus now accepted middle configures configured => ?_) Operation.fits fits.2 moved⟩
  exact (configured.commandFits (given assignment bus now configures) fits.1).of_indexRows
    rfl rfl rfl (.inl rfl)

omit [Scalar K] [StdToString K] [Libm K] in
theorem isConfigured_undisturbed (times : CycleTimes) (node : Node K) : (isConfigured times.env).run node =
    (.returned (decide (node.lifecycle = .active ∨ node.lifecycle = .inactive)), node) := by
  by_cases active : node.lifecycle = .active
  · cases node
    simp_all [isConfigured, observeLifecycle, CycleTimes.env, Path.bind_run]
  · simp [isConfigured, observeLifecycle, CycleTimes.env, Path.bind_run, active]

/-- The operation does not configure the node anew. -/
def Operation.Meanwhile (node : Node K) (operation : Operation K) : Prop :=
  ∀ assignment bus now, operation = .configure assignment bus now → node.lifecycle ≠ .unconfigured

/-- A cycle of the interface that has found the node configured at `began` loads the
command at `node`, after what others have done in between.  A configuration has the
comm threads joined before it, so it is none of that. -/
structure Loads (began : Node K) (index : Nat) (times : CycleTimes) (between : List (Operation K))
    (node : Node K) (command : JointCommand K) : Prop where
  enabled : (Operation.canCycle index times : Operation K).enabled began = true
  configured : ∃ checked, (isConfigured times.env).run began = (.returned true, checked)
  meanwhile : EveryStep operate Operation.Meanwhile began between
  run : runSteps operate began between = some node
  loaded : node.jointCmdPtr = some command

theorem operate_meanwhile (fits : CommandFits node) (meanwhile : operation.Meanwhile node)
    (moved : operate node operation = some after) : CommandFits after := by
  obtain ⟨_, run⟩ := operate_some.mp moved
  by_cases configuring : ∃ assignment bus now, operation = .configure assignment bus now
  · obtain ⟨assignment, bus, now, rfl⟩ := configuring
    obtain ⟨_, rfl⟩ | ⟨unconfigured, _⟩ := transition_returned run
    · exact fits
    · exact absurd unconfigured (meanwhile assignment bus now rfl)
  · have kept := Operation.fits (K := K) fun assignment bus now same =>
      configuring ⟨assignment, bus, now, same⟩
    exact kept.of_run run fits

/-- Whenever a cycle loads a command, each of its arrays has an entry for every message
index, every joint of the interface has a message index within the command and within
every message, and no other joint has it. -/
theorem loaded_commands_fit {start began : Node K} {operations between : List (Operation K)}
    {times : CycleTimes} {command : JointCommand K} (constructed : Constructed start)
    (given : ∀ assignment bus now, Operation.configure assignment bus now ∈ operations →
      MsgIdxsFit assignment)
    (run : runSteps operate start operations = some began)
    (loads : Loads began index times between node command) :
    command.Sized node.jointMsgLength ∧
    (∀ joint params, jointEntry node.tables.jointParametersPerCanInterface index joint = some params →
      Indexed node params.msgIdx) ∧
    ∀ index joint index' joint' params params',
      jointEntry node.tables.jointParametersPerCanInterface index joint = some params →
      jointEntry node.tables.jointParametersPerCanInterface index' joint' = some params' →
      params.msgIdx = params'.msgIdx → index = index' ∧ joint = joint' := by
  have unconfigured : start.lifecycle ≠ .inactive ∧ start.lifecycle ≠ .active := by
    rw [constructed.lifecycle]
    exact ⟨nofun, nofun⟩
  have undeclared : DefaultsFit start := by
    rw [DefaultsFit, constructed.declaredMsgIdxs]
    exact fun _ impossible => by cases impossible
  have ready : MessagesFit began :=
    invariant_of_run (fun _ _ _ fits allowed => operate_fits allowed fits)
      ⟨undeclared, fun configured => absurd configured (not_or.mpr unconfigured)⟩ (everyStep_of_mem
        (fun _ member assignment bus now same => given assignment bus now (by rwa [← same]))) run
  have fits : CommandFits node := by
    refine invariant_of_run (fun _ _ _ => operate_meanwhile) (ready.2 ?_) loads.meanwhile loads.run
    obtain ⟨checked, configured⟩ := loads.configured
    rw [isConfigured_undisturbed, Prod.mk.injEq, Outcome.returned.injEq, decide_eq_true_eq] at configured
    exact configured.1.symm
  refine ⟨fits.command command loads.loaded, fun joint params found => ?_,
    fun index joint index' joint' params params' found found' same => ?_⟩
  · exact fits.joints index joint _ (by rw [jointEntry_indexRows, found]; rfl)
  · exact fits.unshared index joint index' joint' params.msgIdx
      (by rw [jointEntry_indexRows, found]; rfl) (by rw [jointEntry_indexRows, found', same]; rfl)

end Operations

section Example

attribute [local instance] libmAtRest

/-- Indices with gaps, in any order. -/
def gappedAssignment : Assignment ℚ := legAssignment [("msg_idx", .integer 5)]

theorem gappedAssignment_fits : MsgIdxsFit gappedAssignment := by
  intro jointNames joints name member value read
  cases joints.symm.trans
    (show gappedAssignment.getStringArray "joints" = .ok ["hip", "knee"] from rfl)
  rcases List.mem_pair.mp member with rfl | rfl
  · cases read.symm.trans
      (show msgIdxParameter gappedAssignment (fun name => ["hip", "knee"].idxOf name) "hip" =
        .ok 5 from rfl)
    decide
  · cases read.symm.trans
      (show msgIdxParameter gappedAssignment (fun name => ["hip", "knee"].idxOf name) "knee" =
        .ok 1 from rfl)
    decide

/-- A command that fits, one that does not, and a deactivation. -/
def gappedRun : List (Operation ℚ) :=
  [.configure gappedAssignment legBus 0, .jointCmd (zeroCommand 6) 0 0, .activate,
    .jointCmd (zeroCommand 2) 0 0, .deactivate]

theorem loaded_commands_fit_gapped : ∃ (node : Node ℚ) (command : JointCommand ℚ),
    runSteps operate freshNode gappedRun = some node ∧ node.jointMsgLength = 6 ∧
      command.Sized node.jointMsgLength := by
  obtain ⟨node, run, observed⟩ := Option.map_eq_some_iff.mp
    (show (runSteps operate freshNode gappedRun).map (fun node => (node.lifecycle,
      node.commThreads[0]?.any CommThread.running, node.jointMsgLength, node.jointCmdPtr.isSome)) =
      some (.inactive, true, 6, true) by decide +kernel)
  simp only [Prod.mk.injEq] at observed
  obtain ⟨inactive, running, length, present⟩ := observed
  obtain ⟨command, loaded⟩ := Option.isSome_iff_exists.mp present
  have loads : Loads node 0 {} [] node command := by
    refine ⟨running, ⟨node, ?_⟩, trivial, rfl, loaded⟩
    rw [isConfigured_undisturbed, inactive]
    rfl
  refine ⟨node, command, run, length, (loaded_commands_fit freshNode_constructed
    (fun assignment bus now member => ?_) run loads).1⟩
  obtain ⟨rfl, _⟩ : assignment = gappedAssignment ∧ _ := by simpa [gappedRun] using member
  exact gappedAssignment_fits

end Example

end CubemarsDriver.Node
