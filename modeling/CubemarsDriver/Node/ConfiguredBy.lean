import CubemarsDriver.Node.Held
import CubemarsDriver.Node.Validation

namespace CubemarsDriver.Node

open Foundation Can

/-! # What a successful configuration leaves -/

variable {K : Type} {node after : Node K} {index joint : Nat}

/-- The joints of every interface. -/
def jointLists (node : Node K) : List (Option (List (JointConfig K))) :=
  node.canInterfaces.map fun can => can.map (·.jointConfigs)

/-- What `on_configure` has set up before it enables the motors. -/
structure Outline (K : Type) where
  tables : JointTables K
  interfaces : InterfaceTables K
  messages : JointMessages K
  jointLists : List (Option (List (JointConfig K)))
  threads : Nat
  jointCmdPtr : Option (JointCommand K)
  jointMsgLength : Nat
  maxCanErrorsBeforeMotorShutdown : Nat
  declaredMsgIdxs : List (String × Nat)

def outline (node : Node K) : Outline K where
  tables := node.tables
  interfaces := node.interfaces
  messages := node.messages
  jointLists := node.jointLists
  threads := node.commThreads.length
  jointCmdPtr := node.jointCmdPtr
  jointMsgLength := node.jointMsgLength
  maxCanErrorsBeforeMotorShutdown := node.maxCanErrorsBeforeMotorShutdown
  declaredMsgIdxs := node.declaredMsgIdxs

/-- An interface may be replaced by one with the same joints. -/
theorem jointLists_set {can changed : CubemarsCan K} (found : node.canInterfaces[index]?.join = some can)
    (same : changed.jointConfigs = can.jointConfigs) :
    (node.canInterfaces.set index (some changed)).map (fun can => can.map (·.jointConfigs)) =
      node.jointLists := by
  rw [List.map_set, jointLists]
  apply set_same_getElem?
  rw [List.getElem?_map, Option.join_eq_some_iff.mp found, Option.map_some, Option.map_some,
    Option.map_some, same]

theorem handshake_outline (step : HandshakeStep) :
    Path.Preserves outline (handshake index step : NodePath K Unit) := by
  intro node
  cases found : node.canInterfaces[index]?.join with
  | none =>
      simp only [handshake, found]
      rfl
  | some can =>
      have keeps := handshakeStep_keeps step can.jointConfigs can rfl
      have same : (step.path.run can).2.jointConfigs = can.jointConfigs := by
        cases run : step.path.run can with
        | mk outcome after => cases outcome <;> simp_all
      rw [handshake_run step found]
      exact congrArg (fun lists => ({ node.outline with jointLists := lists } : Outline K))
        (jointLists_set found same)

theorem canInterface_outline :
    Path.Preserves outline (canInterface index : NodePath K (CubemarsCan K)) :=
  canInterface_preserves fun _ _ => rfl

theorem changeThread_outline (event : NodeEvent) (change : CommThread → CommThread) :
    Path.Preserves outline (changeThread index event change : NodePath K Unit) := by
  refine Path.Evolves.updateDefined fun before after changed => ?_
  rw [Option.ite_none_right_eq_some, Option.some.injEq] at changed
  obtain ⟨_, rfl⟩ := changed
  simp [Path.Unchanged, outline, recorded, jointLists]

theorem startCommThread_outline : Path.Preserves outline (startCommThread index : NodePath K Unit) :=
  Path.Evolves.bind (Path.Evolves.element _) fun _ =>
    Path.Evolves.when fun _ => Path.Evolves.bind (Path.Evolves.when fun _ =>
      Path.Evolves.bind (Path.Evolves.read _) fun _ => changeThread_outline _ _) fun _ =>
        changeThread_outline _ _

section Motors

variable {configs : JointConfigs K}

theorem anyFailed_evolves {ι : Type} {relation : Node K → Node K → Prop} [IsPreorder (Node K) relation]
    {body : ι → NodePath K Bool} (step : ∀ item, Path.Evolves relation (body item)) (items : List ι) :
    Path.Evolves relation (anyFailed body items) := by
  induction items with
  | nil => exact Path.Evolves.pure _
  | cons item rest ih =>
      exact Path.Evolves.bind (step item) fun _ => Path.Evolves.bind ih fun _ => Path.Evolves.pure _

theorem nameConfig_outline :
    Path.Preserves outline (nameConfig configs index joint : NodePath K Unit) :=
  Path.Evolves.bind canInterface_outline fun _ =>
    Path.Evolves.bind (Path.Evolves.element _) fun _ => Path.Evolves.pure _

theorem enableMotor_outline :
    Path.Preserves outline (enableMotor configs index joint : NodePath K Bool) := by
  refine Path.Evolves.bind (Path.Evolves.element _) fun _ => ?_
  refine Path.Evolves.bind (Path.Evolves.attempt (Path.Evolves.bind (handshake_outline _) fun _ =>
    nameConfig_outline)) fun result => ?_
  cases result <;> exact Path.Evolves.pure _

theorem enableInterface_outline :
    Path.Preserves outline (enableInterface configs index : NodePath K Bool) :=
  Path.Evolves.bind (Path.Evolves.bind (Path.Evolves.element _) fun _ => Path.Evolves.pure _)
    fun _ => anyFailed_evolves (fun _ => enableMotor_outline) _

theorem enableMotors_outline :
    Path.Preserves outline (enableMotors configs : NodePath K Bool) :=
  Path.Evolves.bind (Path.Evolves.read _) fun _ =>
    anyFailed_evolves (fun _ => enableInterface_outline) _

/-- Nothing failed if no iteration did. -/
theorem anyFailed_none {ι γ : Type} {component : Node K → γ} {body : ι → NodePath K Bool}
    {items : List ι} (step : ∀ item, Path.Preserves component (body item))
    (run : (anyFailed body items).run node = (.returned false, after)) :
    ∀ item ∈ items, ∃ before later, component before = component node ∧
      (body item).run before = (.returned false, later) := by
  induction items generalizing node after with
  | nil => simp
  | cons first rest ih =>
      simp only [anyFailed, Path.bind_run_returned] at run
      obtain ⟨failed, middle, ran, others, last, remaining, ends⟩ := run
      simp only [Path.pure_run, Prod.mk.injEq, Outcome.returned.injEq, Bool.or_eq_false_iff] at ends
      obtain ⟨⟨rfl, rfl⟩, -⟩ := ends
      intro item member
      rcases List.mem_cons.mp member with rfl | later
      · exact ⟨node, middle, rfl, ran⟩
      · obtain ⟨before, ended, same, ranLater⟩ := ih remaining item later
        exact ⟨before, ended, same.trans ((step first).of_run ran), ranLater⟩

/-- The motor was enabled over an interface with these joints. -/
def Enabled (configs : List (JointConfig K)) (joint : Nat) : Prop :=
  ∃ setZero can after, can.jointConfigs = configs ∧
    (startMotorControlMode joint setZero).run can = (.returned (), after)

theorem enableMotor_enabled (run : (enableMotor configs index joint).run node =
    (.returned false, after)) :
    ∃ row, node.jointLists[index]?.join = some row ∧ Enabled row joint := by
  simp only [enableMotor, jointParameters, Path.bind_run_returned,
    Path.element_run_returned] at run
  obtain ⟨params, start, ⟨_, rfl⟩, result, tried, attempting, run⟩ := run
  cases result with
  | error exception => simp at run
  | ok value =>
      rw [Path.attempt_run_ok, Path.bind_run_returned] at attempting
      obtain ⟨_, enabled, handshaking, _⟩ := attempting
      cases found : start.canInterfaces[index]?.join with
      | none => simp [handshake, found] at handshaking
      | some can =>
          rw [handshake_run _ found, Prod.mk.injEq] at handshaking
          refine ⟨can.jointConfigs, ?_, params.setZeroPositionOnStartup, can, _, rfl,
            Prod.ext handshaking.1 rfl⟩
          rw [jointLists, List.getElem?_map, Option.join_eq_some_iff.mp found]
          rfl

/-- Every joint of the tables that has an interface was enabled over it. -/
theorem enableMotors_enabled {row : List (JointParameters K)}
    (run : (enableMotors configs).run node = (.returned false, after))
    (interface : index < node.jointLists.length)
    (found : node.tables.jointParametersPerCanInterface[index]? = some row)
    (bound : joint < row.length) :
    ∃ joints, node.jointLists[index]?.join = some joints ∧ Enabled joints joint := by
  simp only [enableMotors, Path.read_bind] at run
  obtain ⟨start, later, same, ran⟩ := anyFailed_none (fun index => enableInterface_outline) run index
    (List.mem_range.mpr (by simpa [jointLists, numInterfaces] using interface))
  simp only [enableInterface, jointCount, Path.bind_run_returned, Path.element_run_returned] at ran
  obtain ⟨count, counted, ⟨other, _, ⟨foundOther, rfl⟩, counting⟩, ran⟩ := ran
  cases counting
  have foundSame : counted.tables.jointParametersPerCanInterface[index]? = some row := by
    rw [show counted.tables = node.tables from congrArg Outline.tables same, found]
  cases foundOther.symm.trans foundSame
  obtain ⟨enabling, _, sameThen, enabled⟩ := anyFailed_none (fun joint => enableMotor_outline) ran joint
    (List.mem_range.mpr bound)
  obtain ⟨joints, there, motor⟩ := enableMotor_enabled enabled
  refine ⟨joints, ?_, motor⟩
  rwa [show enabling.jointLists = node.jointLists from
    congrArg Outline.jointLists (sameThen.trans same)] at there

theorem disableAfterFailure_outline :
    Path.Preserves outline (disableAfterFailure configs index : NodePath K Unit) :=
  Path.Evolves.bind (Path.Evolves.bind (Path.Evolves.element _) fun _ => Path.Evolves.pure _) fun _ =>
    Path.Evolves.loopBelow fun _ => Path.Evolves.tryCatch (handshake_outline _) fun _ =>
      nameConfig_outline

/-- Whether or not the motors can be enabled, only the interfaces and the threads change. -/
theorem startMotors_stored : Path.Preserves
    (fun node : Node K => (node.tables, node.interfaces, node.declaredMsgIdxs))
    (startMotors configs) := by
  have outlined {α : Type} {path : NodePath K α} (same : Path.Preserves outline path) : Path.Preserves
      (fun node : Node K => (node.tables, node.interfaces, node.declaredMsgIdxs)) path :=
    same.weaken fun _ _ same => congrArg (fun outline : Outline K =>
      (outline.tables, outline.interfaces, outline.declaredMsgIdxs)) same
  refine Path.Evolves.bind (outlined enableMotors_outline) fun failed =>
    Path.Evolves.ite (fun _ => ?_) fun _ => ?_
  · refine Path.Evolves.bind (Path.Evolves.loopBelow fun _ =>
      outlined disableAfterFailure_outline) fun _ => ?_
    exact Path.Evolves.bind (Path.Evolves.update fun _ => rfl) fun _ => Path.Evolves.pure _
  · refine Path.Evolves.bind (Path.Evolves.update fun _ => rfl) fun _ => ?_
    refine Path.Evolves.bind (startSupervisor_evolves fun _ => rfl) fun _ => ?_
    exact Path.Evolves.bind (Path.Evolves.loopBelow fun _ =>
      outlined startCommThread_outline) fun _ => Path.Evolves.pure _

theorem startMotors_success
    (run : (startMotors configs).run node = (.returned .success, after)) :
    after.outline = node.outline ∧
      ∃ enabled, (enableMotors configs).run node = (.returned false, enabled) := by
  simp only [startMotors, Path.bind_run_returned] at run
  obtain ⟨failed, enabled, enabling, run⟩ := run
  have same := enableMotors_outline.of_run enabling
  cases failed with
  | true =>
      simp only [if_true, Path.bind_run_returned] at run
      obtain ⟨_, _, _, _, _, _, run⟩ := run
      cases run
  | false =>
      simp only [Bool.false_eq_true, if_false, Path.update_bind, Path.bind_run_returned] at run
      obtain ⟨_, supervised, supervising, _, started, starting, run⟩ := run
      cases run
      refine ⟨?_, enabled, enabling⟩
      have timer := (startSupervisor_evolves fun _ => rfl :
        Path.Preserves outline (startSupervisor : NodePath K Unit)).of_run supervising
      rw [← same]
      exact ((Path.Evolves.loopBelow fun _ => startCommThread_outline : Path.Preserves outline
        (Path.loopBelow numInterfaces startCommThread : NodePath K Unit)).of_run starting).trans timer

end Motors

section Creation

variable [Scalar K] {assignment : Assignment K} {bus : Bus} {configs : JointConfigs K}

omit [Scalar K] in
theorem create_jointConfigs {name : String} {loopback tx errors : Bool} {sec usec : Int}
    {row : List (JointConfig K)} {trials : Nat} {setup : SetupStep → Bool} {socket : Socket}
    {can : CubemarsCan K}
    (created : CubemarsCan.create name loopback row sec usec trials tx errors setup socket = .ok can) :
    can.jointConfigs = row := by
  unfold CubemarsCan.create at created
  split at created
  · cases created
    rfl
  · cases created

omit [Scalar K] in
/-- Every interface named is created with its row of joints. -/
theorem createInterfaces_lists {items : List (String × Nat)}
    (distinct : (items.map Prod.snd).Nodup)
    (run : (createInterfaces assignment bus configs items).run node = (.returned (), after)) :
    after.jointLists.length = node.jointLists.length ∧
      (∀ index, index ∉ items.map Prod.snd → after.jointLists[index]? = node.jointLists[index]?) ∧
      (∀ index ∈ items.map Prod.snd, ∃ row, configs[index]? = some row ∧
        after.jointLists[index]? = some (some row)) ∧
      after = { node with canInterfaces := after.canInterfaces } := by
  induction items generalizing node with
  | nil =>
      cases run
      exact ⟨rfl, fun _ _ => rfl, fun _ impossible => by simp at impossible, rfl⟩
  | cons item rest ih =>
      obtain ⟨name, index⟩ := item
      obtain ⟨fresh, distinctRest⟩ := List.nodup_cons.mp distinct
      simp only [createInterfaces, Path.bind_run_returned, Path.element_run_returned,
        checked_run_returned, Path.read_bind, Path.updateDefined_run_returned,
        Option.map_eq_some_iff] at run
      obtain ⟨row, _, ⟨rowFound, rfl⟩, _, _, ⟨_, rfl⟩, _, _, ⟨_, rfl⟩, _, _, ⟨_, rfl⟩, _, _,
        ⟨_, rfl⟩, can, ready, ⟨created, rfl⟩, _, _, ⟨canInterfaces, stored, rfl⟩, run⟩ := run
      obtain ⟨bound, rfl⟩ := storeAt_eq_some.mp stored
      obtain ⟨size, others, own, same⟩ := ih distinctRest run
      have lists : jointLists { ready with
          canInterfaces := ready.canInterfaces.set index (some can) } =
          ready.jointLists.set index (some row) := by
        rw [jointLists, List.map_set, Option.map_some, create_jointConfigs created, jointLists]
      rw [lists] at size others
      refine ⟨size.trans List.length_set, fun other absent => ?_, fun other member => ?_, ?_⟩
      · rw [List.map_cons, List.mem_cons, not_or] at absent
        rw [others other absent.2, List.getElem?_set_ne (Ne.symm absent.1)]
      · rcases List.mem_cons.mp member with rfl | later
        · refine ⟨row, rowFound, ?_⟩
          rw [others _ fresh]
          exact List.getElem?_set_self (by simpa [jointLists] using bound)
        · exact own other later
      · rw [same]

end Creation

/-- What an accepted configuration is made of. -/
structure Accepted (K : Type) where
  jointNames : List String
  seen : Seen
  settings : List (JointSettings K)

def Accepted.count (accepted : Accepted K) : Nat := accepted.seen.canInterfacesNames.length

section Configuration

variable [Scalar K] {assignment : Assignment K} {bus : Bus} {now : Int}

/-- The assignment was accepted and the node is set up for it; `left` is the node
that the configuration began with. -/
structure ConfiguredBy (assignment : Assignment K) (left : Node K) (accepted : Accepted K)
    (node : Node K) : Prop where
  joints : assignment.getStringArray "joints" = .ok accepted.jointNames
  validated : validateJoints assignment (left.msgIdxDefaults accepted.jointNames)
    accepted.jointNames {} = .ok (some accepted.seen)
  read : List.Forall₂ (fun name joint => readJoint assignment (left.msgIdxDefaults accepted.jointNames)
    accepted.seen.canInterfacesNames name = .ok (some joint)) accepted.jointNames accepted.settings
  bounds : ∀ joint ∈ accepted.settings, joint.canInterfaceId < accepted.count
  tables : appendJoints accepted.settings (JointTables.resize left.tables accepted.count) =
    some node.tables
  lists : node.jointLists = (rowsOf accepted.settings accepted.count (·.config)).map some
  enabled : ∀ index row joint, index < accepted.count →
    node.tables.jointParametersPerCanInterface[index]? = some row → joint < row.length →
    ∃ joints, node.jointLists[index]?.join = some joints ∧ Enabled joints joint
  threads : node.commThreads.length = accepted.count
  interfaces : ∃ before now, node.interfaces = InterfaceTables.resize before accepted.count now
  messages : ∃ before, node.messages = JointMessages.resize before node.jointMsgLength
  jointMsgLength : node.jointMsgLength = (accepted.seen.maxMsgIdx + 1) % 2 ^ 32
  command : node.jointCmdPtr = some (zeroCommand node.jointMsgLength)
  maxCanErrors : ∃ maxCanErrors, assignment.getInteger "max_can_errors_before_motor_shutdown" (some 1) =
    .ok maxCanErrors ∧ node.maxCanErrorsBeforeMotorShutdown = toUnsigned maxCanErrors

namespace ConfiguredBy

variable {left : Node K} {accepted : Accepted K} {joints : List (JointConfig K)}

/-- The callback begins in transition. -/
theorem of_inTransition
    (configured : ConfiguredBy assignment { left with lifecycle := .inTransition } accepted node) :
    ConfiguredBy assignment left accepted node := by
  cases configured
  constructor <;> assumption

theorem validated_joints (configured : ConfiguredBy assignment left accepted node) :
    Validated assignment (left.msgIdxDefaults accepted.jointNames) accepted.jointNames.reverse
      accepted.seen := by
  simpa using validateJoints_validated validated_nil configured.validated

/-- The joints of an interface in the order in which they were read. -/
theorem joints_eq (configured : ConfiguredBy assignment left accepted node)
    (found : node.jointLists[index]? = some (some joints)) : index < accepted.count ∧
    joints = (accepted.settings.filter fun joint => joint.canInterfaceId = index).map (·.config) := by
  rw [configured.lists, List.getElem?_map, Option.map_eq_some_iff] at found
  obtain ⟨row, there, same⟩ := found
  have bound : index < accepted.count := by
    simpa using (List.getElem?_eq_some_iff.mp there).1
  rw [rowsOf_getElem? _ bound, Option.some.injEq] at there
  exact ⟨bound, by rw [there, Option.some.inj same]⟩

theorem canIds_distinct (configured : ConfiguredBy assignment left accepted node)
    (found : node.jointLists[index]? = some (some joints)) :
    (joints.map JointConfig.canId).Nodup := by
  obtain ⟨_, rfl⟩ := configured.joints_eq found
  have distinct := configured.validated_joints.canIds_distinct
    (List.forall₂_reverse_iff.mpr configured.read)
  rw [List.map_reverse, List.nodup_reverse, List.Nodup, List.pairwise_map] at distinct
  rw [List.map_map, List.Nodup, List.pairwise_map]
  refine (distinct.filter _).imp_of_mem fun first second different same => ?_
  have own : ∀ joint ∈ accepted.settings.filter fun joint => joint.canInterfaceId = index,
      joint.canInterfaceId = index := fun joint member => by simpa using (List.mem_filter.mp member).2
  exact different (Prod.ext ((own _ first).trans (own _ second).symm) same)

/-- Every joint of every interface has been enabled. -/
theorem joint_enabled (configured : ConfiguredBy assignment left accepted node)
    (found : node.jointLists[index]? = some (some joints)) (bound : joint < joints.length) :
    Enabled joints joint := by
  obtain ⟨interface, rfl⟩ := configured.joints_eq found
  have appended := appendJoints_appended appended_nil configured.tables
  have base : index < (JointTables.resize left.tables accepted.count).jointParametersPerCanInterface.length := by
    simpa [JointTables.resize] using interface
  obtain ⟨row, there⟩ : ∃ row, (JointTables.resize left.tables
      accepted.count).jointParametersPerCanInterface[index]? = some row :=
    ⟨_, List.getElem?_eq_getElem base⟩
  have params := appended.params
  have tables : node.tables.jointParametersPerCanInterface[index]? = some (row ++
      (accepted.settings.filter fun joint => joint.canInterfaceId = index).map (·.params)) := by
    rw [appended.params, rowsOn_getElem?, there, List.nil_append, Option.map_some]
  obtain ⟨other, same, enabled⟩ := configured.enabled index _ joint interface tables (by
    rw [List.length_append, List.length_map]
    rw [List.length_map] at bound
    omega)
  rw [found, Option.join_some, Option.some.injEq] at same
  exact same ▸ enabled

end ConfiguredBy

omit [Scalar K] in
theorem jointLists_created {configs : JointConfigs K} {names : List String}
    (size : node.jointLists.length = names.length) (rows : configs.length = names.length)
    (run : (createInterfaces assignment bus configs names.zipIdx).run node = (.returned (), after)) :
    after.jointLists = configs.map some ∧
      after = { node with canInterfaces := after.canInterfaces } := by
  have indices : names.zipIdx.map Prod.snd = List.range names.length := by
    rw [List.zipIdx_map_snd, List.range_eq_range']
  obtain ⟨sizeAfter, _, own, same⟩ := createInterfaces_lists
    (by rw [indices]; exact List.nodup_range) run
  refine ⟨?_, same⟩
  apply List.ext_getElem?
  intro index
  by_cases bound : index < names.length
  · obtain ⟨row, rowFound, listFound⟩ := own index (by rw [indices]; exact List.mem_range.mpr bound)
    rw [listFound, List.getElem?_map, rowFound, Option.map_some]
  · rw [List.getElem?_eq_none (by omega), List.getElem?_eq_none (by simpa [rows] using bound)]

/-- The node that `on_configure` begins to enable the motors of. -/
structure Prepared (assignment : Assignment K) (left : Node K) (accepted : Accepted K)
    (configs : JointConfigs K) (node : Node K) : Prop where
  joints : assignment.getStringArray "joints" = .ok accepted.jointNames
  validated : validateJoints assignment (left.msgIdxDefaults accepted.jointNames)
    accepted.jointNames {} = .ok (some accepted.seen)
  read : List.Forall₂ (fun name joint => readJoint assignment (left.msgIdxDefaults accepted.jointNames)
    accepted.seen.canInterfacesNames name = .ok (some joint)) accepted.jointNames accepted.settings
  bounds : ∀ joint ∈ accepted.settings, joint.canInterfaceId < accepted.count
  tables : appendJoints accepted.settings (JointTables.resize left.tables accepted.count) =
    some node.tables
  lists : node.jointLists = configs.map some
  configs : configs = rowsOf accepted.settings accepted.count (·.config)
  threads : node.commThreads.length = accepted.count
  interfaces : ∃ before now, node.interfaces = InterfaceTables.resize before accepted.count now
  messages : ∃ before, node.messages = JointMessages.resize before node.jointMsgLength
  jointMsgLength : node.jointMsgLength = (accepted.seen.maxMsgIdx + 1) % 2 ^ 32
  command : node.jointCmdPtr = some (zeroCommand node.jointMsgLength)
  maxCanErrors : ∃ maxCanErrors, assignment.getInteger "max_can_errors_before_motor_shutdown" (some 1) =
    .ok maxCanErrors ∧ node.maxCanErrorsBeforeMotorShutdown = toUnsigned maxCanErrors

/-- A configuration that does not get to the motors records nothing and does not succeed. -/
theorem configureNode_prepared {outcome : Outcome Exception CallbackReturn}
    (run : (configureNode assignment bus now).run node = (outcome, after)) :
    (after.log = node.log ∧ outcome ≠ .returned .success) ∨
      ∃ accepted configs ready, Prepared assignment node accepted configs ready ∧
        ready.log = node.log ∧ (startMotors configs).run ready = (outcome, after) := by
  have globalsKeep : Path.Preserves Node.log (readGlobals assignment) :=
    readGlobals_evolves (fun _ _ _ _ _ => rfl) fun _ _ _ _ => rfl
  rcases globalsKeep.bind_cases run with ⟨same, failed⟩ | ⟨jointNames, read, globals, run⟩
  · exact .inl ⟨same, failed _⟩
  obtain ⟨namesRead, tables, declared, maxCanErrors⟩ := readGlobals_reads globals
  have logRead := globalsKeep.of_run globals
  rw [Path.read_bind, Path.update_bind, msgIdxDefaults_of_same declared] at run
  have checkKeeps : Path.Preserves Node.log (checked (validateJoints assignment
      (node.msgIdxDefaults jointNames) jointNames {}) : NodePath K (Option Seen)) := checked_evolves _
  rcases checkKeeps.bind_cases run with ⟨same, failed⟩ | ⟨found, validated, validation, run⟩
  · exact .inl ⟨same.trans logRead, failed _⟩
  obtain ⟨valid, rfl⟩ := checked_run_returned.mp validation
  cases found with
  | none =>
      cases run
      exact .inl ⟨logRead, nofun⟩
  | some seen =>
      rw [Path.update_bind] at run
      have buildKeeps : Path.Preserves Node.log (buildTables assignment
          (node.msgIdxDefaults jointNames) seen.canInterfacesNames jointNames
          (List.replicate seen.canInterfacesNames.length [])) := buildTables_evolves (fun _ _ _ _ => rfl) _
      rcases buildKeeps.bind_cases run with ⟨same, failed⟩ | ⟨found, built, building, run⟩
      · exact .inl ⟨same.trans logRead, failed _⟩
      have logBuilt : built.log = node.log := (buildKeeps.of_run building).trans logRead
      cases found with
      | none =>
          cases run
          exact .inl ⟨logBuilt, nofun⟩
      | some configs =>
          have createKeeps : Path.Preserves Node.log (createInterfaces assignment bus configs
              seen.canInterfacesNames.zipIdx) := createInterfaces_evolves (fun _ _ => rfl) _
          rcases createKeeps.bind_cases run with ⟨same, failed⟩ | ⟨_, created, creation, run⟩
          · exact .inl ⟨same.trans logBuilt, failed _⟩
          have logCreated : created.log = node.log := (createKeeps.of_run creation).trans logBuilt
          have publishKeeps : Path.Preserves Node.log (startPublishing : NodePath K Unit) :=
            startPublishing_evolves fun _ => rfl
          rcases publishKeeps.bind_cases run with ⟨same, failed⟩ | ⟨_, published, publishing, run⟩
          · exact .inl ⟨same.trans logCreated, failed _⟩
          obtain rfl := startPublishing_returned publishing
          rw [show (List.replicate seen.canInterfacesNames.length [] : JointConfigs K) =
            rowsOf [] seen.canInterfacesNames.length (·.config) from (rowsOf_nil _).symm] at building
          obtain ⟨settings, reads, appended, rfl, bounds, sameBuilt⟩ := buildTables_appends building
          have tablesDeclared : (declareMsgIdxs assignment jointNames read).tables = node.tables := tables
          rw [prepareTables, tablesDeclared] at appended
          have size : built.jointLists.length = seen.canInterfacesNames.length := by
            rw [sameBuilt]
            simp [jointLists, prepareTables]
          obtain ⟨lists, sameCreated⟩ := jointLists_created size (rowsOf_length _) creation
          rw [sameCreated, sameBuilt] at run
          refine .inr ⟨⟨jointNames, seen, settings⟩, _, _, ?_, ?_, run⟩
          · constructor
            case joints => exact namesRead
            case validated => exact valid
            case read => exact reads
            case bounds => exact bounds
            case tables => exact appended
            case configs => rfl
            case lists => exact lists
            case threads => simp [prepareTables, Accepted.count]
            case interfaces => exact ⟨_, now, rfl⟩
            case messages => exact ⟨_, rfl⟩
            case jointMsgLength => rfl
            case command => rfl
            case maxCanErrors => exact maxCanErrors
          · exact logRead

theorem configureNode_configuredBy
    (run : (configureNode assignment bus now).run node = (.returned .success, after)) :
    ∃ accepted, ConfiguredBy assignment node accepted after := by
  obtain ⟨_, failed⟩ | ⟨accepted, configs, ready, prepared, _, run⟩ := configureNode_prepared run
  · exact absurd rfl failed
  obtain ⟨outline, enabled, enabling⟩ := startMotors_success run
  have tables : after.tables = ready.tables := congrArg Outline.tables outline
  have lists : after.jointLists = ready.jointLists := congrArg Outline.jointLists outline
  have length : after.jointMsgLength = ready.jointMsgLength :=
    congrArg Outline.jointMsgLength outline
  refine ⟨accepted, ?_⟩
  constructor
  case joints => exact prepared.joints
  case validated => exact prepared.validated
  case read => exact prepared.read
  case bounds => exact prepared.bounds
  case tables => exact tables ▸ prepared.tables
  case lists => exact lists.trans (prepared.configs ▸ prepared.lists)
  case enabled =>
    intro index row joint interface found bound
    have within : index < ready.jointLists.length := by
      rw [prepared.lists, List.length_map, prepared.configs, rowsOf_length]
      exact interface
    rw [tables] at found
    rw [lists]
    exact enableMotors_enabled enabling within found bound
  case threads => exact (congrArg Outline.threads outline).trans prepared.threads
  case interfaces =>
    obtain ⟨before, at_, resized⟩ := prepared.interfaces
    exact ⟨before, at_, (congrArg Outline.interfaces outline).trans resized⟩
  case messages =>
    obtain ⟨before, resized⟩ := prepared.messages
    exact ⟨before, length ▸ (congrArg Outline.messages outline).trans resized⟩
  case jointMsgLength => exact length.trans prepared.jointMsgLength
  case command => exact length ▸ (congrArg Outline.jointCmdPtr outline).trans prepared.command
  case maxCanErrors =>
    obtain ⟨value, valueRead, stored⟩ := prepared.maxCanErrors
    exact ⟨value, valueRead,
      (congrArg Outline.maxCanErrorsBeforeMotorShutdown outline).trans stored⟩

theorem onConfigure_configuredBy
    (run : (onConfigure assignment bus now).run node = (.returned .success, after)) :
    ∃ accepted, ConfiguredBy assignment node accepted after := by
  simp only [onConfigure, Path.bind_run_returned, checked_run_returned,
    Path.tryCatch_run_returned] at run
  obtain ⟨_, start, ⟨_, rfl⟩, configured | ⟨exception, _, _, handled⟩⟩ := run
  · exact configureNode_configuredBy configured
  · cases exception <;> simp [clearInterfaces] at handled

end Configuration

section Example

/-- A node as it is constructed; nothing gives its members without an initial value one. -/
def freshNode : Node ℚ where
  defaultDampingKD := 0

/-- What every joint definition needs, and more. -/
def exampleDefinition (joint : String) (canId : Int) (motorType : String)
    (more : List (String × ParameterValue ℚ)) : List (String × ParameterValue ℚ) :=
  let fields := ("can_interface", .string "can0") :: ("can_id", .integer canId) ::
    ("motor_type", .string motorType) :: more
  fields.map fun (field, value) => (jointParameterName joint field, value)

def exampleAssignment (joints : List String)
    (parameters : List (String × ParameterValue ℚ)) : Assignment ℚ := fun name =>
  List.lookup name
    (("joints", .stringArray joints) :: ("default_damping_KD", .double 1) :: parameters)

/-- A V2 motor and a V3 motor; `more` goes to the first. -/
def legAssignment (more : List (String × ParameterValue ℚ)) : Assignment ℚ :=
  exampleAssignment ["hip", "knee"]
    (exampleDefinition "hip" 1 "AK80-6" more ++ exampleDefinition "knee" 2 "AK80-8v3" [])

/-- Neither the supervisor nor the watchdog gets a period. -/
def unwatchedAssignment : Assignment ℚ := exampleAssignment ["hip", "knee"]
  (("watchdog_frequency", .integer 0) ::
    (exampleDefinition "hip" 1 "AK80-6" [] ++ exampleDefinition "knee" 2 "AK80-8v3" []))

def exampleReply (canId : BitVec 32) (motorId : BitVec 8) : ReadResult :=
  .frame {
    frame := { canId, len := 8, data := replyOfMotor motorId }
    rxNs := 0, rxHwNs := 0, dequeueNs := 0 }

/-- Both motors answer until they are enabled. -/
def legBus : Node.Bus where
  setup _ _ := true
  socket _ := {
    writes := List.replicate 3 (.written 0)
    reads := [exampleReply 1 1, exampleReply 0x80002902 0, exampleReply 0x80002902 0] }

def legNode (more : List (String × ParameterValue ℚ)) : Node ℚ :=
  ((onConfigure (legAssignment more) legBus 0).run freshNode).2

end Example

end CubemarsDriver.Node
