import CubemarsDriver.Node.AllOrigins
import CubemarsDriver.Node.CycleRules
import CubemarsDriver.Node.Disabling

namespace CubemarsDriver.Node

open Foundation Can

/-! # The paths that clear the interfaces -/

variable {K : Type}

section Paths

variable {motors : Nat → JointConfig K → Prop} {base : List NodeEvent}
variable {lists : List (Option (List (JointConfig K)))} {rows : JointTables K → List Nat}
variable {counts : List Nat} {index joint : Nat}

def parameterRows (tables : JointTables K) : List Nat :=
  tables.jointParametersPerCanInterface.map List.length

theorem disableMotors_accounts (covers : Covers counts lists) :
    Accounts motors base (Accounted motors base lists commandRows counts (Before index 0))
      (disableMotors index)
      (Accounted motors base lists commandRows counts (Before (index + 1) 0)) := by
  refine Path.Confines.bind (Path.Confines.element _) fun row node kept ⟨accounted, found⟩ => ?_
  have counted : counts[index]? = some row.length := by
    rw [← accounted.counted, commandRows, List.getElem?_map, found]
    rfl
  refine disableRow_accounts (fun joint exception => ?_) covers counted node kept accounted
  exact Path.Evolves.bind (Path.Evolves.element _) fun _ =>
    Path.Evolves.bind canInterface_proceeds.proceeding fun _ => Path.Evolves.pure _

theorem onCleanup_accounts (covers : Covers counts lists) :
    Accounts motors base (Accounted motors base lists commandRows counts (Before 0 0))
      (onCleanup : NodePath K CallbackReturn) fun _ => True := by
  refine Path.Confines.bind (Proceeding.accounts (update_proceeds (fun _ => rfl) fun _ => rfl).proceeding) fun _ => ?_
  refine Path.Confines.bind stopAllCommThreads_proceeds.proceeding.accounts fun _ => ?_
  refine Path.Confines.bind (Proceeding.accounts (update_proceeds (fun _ => rfl) fun _ => rfl).proceeding) fun _ => ?_
  refine Path.Confines.bind lockCommunication_proceeds.proceeding.accounts fun _ => ?_
  refine Path.Confines.bind lockJointStateMsg_proceeds.proceeding.accounts fun _ => ?_
  refine Path.Confines.bind
    (disableInterfaces_accounts fun index => disableMotors_accounts covers) fun _ => ?_
  refine Path.Confines.bind clearInterfaces_confines fun _ => ?_
  refine Path.Confines.bind (finishes_update fun _ => rfl) fun _ => ?_
  refine Path.Confines.bind unlockJointStateMsg_proceeds.proceeding.finishes fun _ => ?_
  refine Path.Confines.bind unlockCommunication_proceeds.proceeding.finishes fun _ => ?_
  exact Path.Confines.bind (finishes_update fun _ => rfl) fun _ => accounts_pure _

theorem onError_accounts (previousState : Lifecycle) :
    Accounts motors base (fun _ => True) (onError previousState : NodePath K CallbackReturn)
      fun _ => True := by
  cases previousState with
  | unconfigured =>
      refine Path.Confines.bind (finishes_update fun _ => rfl) fun _ => ?_
      refine Path.Confines.bind stopAllCommThreads_proceeds.proceeding.finishes fun _ => ?_
      refine Path.Confines.bind (finishes_update fun _ => rfl) fun _ => ?_
      exact Path.Confines.bind (finishes_update fun _ => rfl) fun _ => accounts_pure _
  | inactive => exact accounts_pure _
  | active => exact accounts_pure _
  | finalized => exact accounts_pure _
  | inTransition => exact accounts_pure _

theorem settle_accounts (start goal : Lifecycle) (result : CallbackReturn) :
    Accounts motors base (fun _ => True) (settle start goal result : NodePath K Unit)
      fun _ => True := by
  cases result with
  | success => exact finishes_update fun _ => rfl
  | failure => exact finishes_update fun _ => rfl
  | error =>
      refine Path.Confines.bind (onError_accounts start) fun handled => ?_
      cases handled <;> exact finishes_update fun _ => rfl

theorem setLifecycle_accounts (lifecycle : Lifecycle) {done : Nat → Nat → Prop} :
    Accounts motors base (Accounted motors base lists rows counts done)
      (setLifecycle lifecycle : NodePath K Unit)
      (Accounted motors base lists rows counts done) :=
  Proceeding.accounts (update_proceeds (fun _ => rfl) fun _ => rfl).proceeding

theorem transition_accounts {start goal : Lifecycle} {callback : NodePath K CallbackReturn}
    {done : Nat → Nat → Prop}
    (called : Accounts motors base (Accounted motors base lists rows counts done) callback
      fun _ => True) :
    Accounts motors base (Accounted motors base lists rows counts done)
      (transition start goal callback) fun _ => True := by
  refine Path.Confines.bind (accounts_read _) fun lifecycle =>
    Path.Confines.ite (fun _ => ?_) fun _ _ kept _ => ⟨kept, trivial⟩
  refine Path.Confines.bind (setLifecycle_accounts _) fun _ => ?_
  refine Path.Confines.bind (Path.Confines.tryCatch called fun _ => accounts_pure _)
    fun result => ?_
  exact settle_accounts start goal result

theorem cleanup_accounts (covers : Covers counts lists) :
    Accounts motors base (Accounted motors base lists commandRows counts (Before 0 0))
      (cleanup : NodePath K Unit) fun _ => True :=
  transition_accounts (onCleanup_accounts covers)

theorem disableAll_confines : Path.Confines (Disciplined motors base)
    (Accounted motors base lists rows counts (Before 0 0)) (disableAll : NodePath K Unit)
    (fun _ => Accounted motors base [] rows counts (Before 0 0))
    (Accounted motors base lists rows counts (Before 0 0)) := by
  refine Path.Confines.bind (Path.Confines.loopCount lists.length
    (fun index => Accounted motors base lists rows counts (Before index 0)) ?_
    fun index => exitAll_confines) fun _ => clearInterfaces_confines
  intro index node accounted
  rw [← accounted.listed, jointLists, List.length_map]
  rfl

/-- The interfaces are gone if no motor failed, and as they were otherwise. -/
theorem tryDisableAll_accounts :
    Accounts motors base (Accounted motors base lists rows counts (Before 0 0))
      (Path.tryCatch disableAll fun _ => pure () : NodePath K Unit) fun node =>
        Accounted motors base [] rows counts (Before 0 0) node ∨
          Accounted motors base lists rows counts (Before 0 0) node :=
  Path.Confines.tryCatch (disableAll_confines.weaken_post fun _ _ => Or.inl)
    fun _ _ kept stayed => ⟨kept, .inr stayed⟩

/-- The end of the error path. -/
theorem finishOrigin_accounts (covers : Covers counts lists) :
    Accounts motors base (Accounted motors base lists commandRows counts (Before 0 0))
      (do
        unlockCommunication .exclusive
        respond false canErrorMessage
        cleanup : NodePath K Unit) fun _ => True := by
  refine Path.Confines.bind unlockCommunication_proceeds.proceeding.accounts fun _ => ?_
  exact Path.Confines.bind (respond_proceeds _ _).proceeding.accounts fun _ => cleanup_accounts covers

theorem Proceeding.keeps {α : Type} {path : NodePath K α} (proceeding : Proceeding path) :
    Path.Evolves (Proceeds (· ≠ .interfacesCleared)) path :=
  proceeding.weaken fun _ _ ⟨same, events, log, harmless⟩ =>
    ⟨same, events, log, fun event member => NodeEvent.harmless_keeps (harmless event member)⟩

/-- Every motor is at its place among the joints of the interfaces. -/
def Present (motors : Nat → JointConfig K → Prop)
    (lists : List (Option (List (JointConfig K)))) : Prop :=
  ∀ index config, motors index config → Waiting lists (Before 0 0) index config

theorem accounted_present {node : Node K} (present : Present motors lists)
    (listed : node.jointLists = lists) (counted : rows node.tables = counts)
    (log : base <+: node.log) : Accounted motors base lists rows counts (Before 0 0) node := by
  obtain ⟨events, log⟩ := log
  exact ⟨listed, counted, events, log.symm, fun index config motor =>
    .inr (present index config motor)⟩

/-- Motors that are present may be enabled. -/
theorem enabling_confines {α : Type} {path : NodePath K α} (present : Present motors lists)
    (keeps : Path.Evolves (Proceeds (· ≠ .interfacesCleared)) path) :
    Path.Confines (Disciplined motors base)
      (Accounted motors base lists rows counts (Before 0 0)) path
      (fun _ => Accounted motors base lists rows counts (Before 0 0))
      (Accounted motors base lists rows counts (Before 0 0)) := by
  refine Path.Confines.of_related keeps (fun _ _ => Disciplined.proceeds fun _ => id)
    fun before after ⟨same, events, log, _⟩ accounted => ?_
  refine accounted_present present ((congrArg Prod.fst same).trans accounted.listed)
    ((congrArg (fun layout => rows layout.2) same).trans accounted.counted) ?_
  exact accounted.log.trans (log ▸ List.prefix_append _ _)

theorem restartMotors_proceeds (target : Nat) : Path.Evolves (Proceeds (· ≠ .interfacesCleared))
    (restartMotors index target : NodePath K Unit) := by
  refine Path.Evolves.bind (Path.Evolves.bind (Path.Evolves.element _) fun _ =>
    Path.Evolves.pure _) fun count => ?_
  refine Path.Evolves.bind (Path.Evolves.loopBelow fun _ =>
    Path.Evolves.bind nameJoint_proceeds.proceeding.keeps fun _ =>
      handshake_proceeds _ (fun _ _ => nofun) nofun) fun _ => Path.Evolves.loopBelow fun _ => ?_
  refine Path.Evolves.bind (Path.Evolves.when fun _ => nameJoint_proceeds.proceeding.keeps) fun _ => ?_
  exact Path.Evolves.bind (handshake_proceeds _ (fun _ _ => nofun) nofun) fun _ =>
    nameJoint_proceeds.proceeding.keeps

theorem setMotorOriginHereCallback_accounts (motorId : Int) (covers : Covers counts lists)
    (present : Present motors lists) :
    Accounts motors base (Accounted motors base lists commandRows counts (Before 0 0))
      (setMotorOriginHereCallback motorId) fun _ => True := by
  refine Path.Confines.bind (accounts_read _) fun _ => Path.Confines.ite (fun _ => ?_) fun _ => ?_
  · exact (respond_proceeds _ _).proceeding.accounts.weaken_post fun _ _ _ => trivial
  refine Path.Confines.bind (accounts_read _) fun found => ?_
  rcases found with _ | ⟨index, target⟩
  · exact (respond_proceeds _ _).proceeding.accounts.weaken_post fun _ _ _ => trivial
  refine Path.Confines.bind stopCommThread_proceeds.proceeding.accounts fun _ => ?_
  refine Path.Confines.bind lockCommunication_proceeds.proceeding.accounts fun _ => ?_
  have restarted : Accounts motors base
      (Accounted motors base lists commandRows counts (Before 0 0))
      (Path.attempt (restartMotors index target))
      (Accounted motors base lists commandRows counts (Before 0 0)) :=
    Path.Confines.attempt ((enabling_confines present (restartMotors_proceeds target)).consequence
      (fun _ => id) (fun _ _ => id) fun _ accounted _ => accounted)
  refine Path.Confines.bind restarted fun result => ?_
  cases result with
  | error exception =>
      refine Path.Confines.bind canInterface_proceeds.proceeding.accounts fun _ => ?_
      refine Path.Confines.bind tryDisableAll_accounts fun _ => ?_
      rintro node kept (cleared | stayed)
      · exact finishOrigin_accounts (fun index joints count impossible => by simp at impossible)
          node kept cleared
      · exact finishOrigin_accounts covers node kept stayed
  | ok value =>
      refine Path.Confines.bind startCommThread_proceeds.proceeding.accounts fun _ => ?_
      refine Path.Confines.bind (Proceeding.accounts (Path.Evolves.element _)) fun _ => ?_
      refine Path.Confines.bind (respond_proceeds _ _).proceeding.accounts fun _ => ?_
      exact unlockCommunication_proceeds.proceeding.accounts.weaken_post fun _ _ _ => trivial

end Paths

section Configuration

variable [Scalar K] {assignment : Assignment K} {bus : Bus} {now : Int} {configs : JointConfigs K}
variable {motors : Nat → JointConfig K → Prop} {base : List NodeEvent} {counts : List Nat}
variable {lists : List (Option (List (JointConfig K)))} {node after : Node K} {index joint : Nat}

/-- The node takes the assignment to be valid and configures this motor on the interface. -/
def ConfiguredMotor (node : Node K) (assignment : Assignment K) (index : Nat)
    (config : JointConfig K) : Prop :=
  ∃ jointNames seen name joint, assignment.getStringArray "joints" = .ok jointNames ∧
    validateJoints assignment (node.msgIdxDefaults jointNames) jointNames {} = .ok (some seen) ∧
    name ∈ jointNames ∧ readJoint assignment (node.msgIdxDefaults jointNames)
      seen.canInterfacesNames name = .ok (some joint) ∧
    joint.canInterfaceId = index ∧ joint.config = config

omit [Scalar K] in
theorem enableMotors_keeps :
    Path.Evolves (Proceeds (· ≠ .interfacesCleared)) (enableMotors configs) := by
  refine Path.Evolves.bind (Path.Evolves.read _) fun _ => anyFailed_evolves (fun index => ?_) _
  refine Path.Evolves.bind (Path.Evolves.bind (Path.Evolves.element _) fun _ =>
    Path.Evolves.pure _) fun _ => anyFailed_evolves (fun joint => ?_) _
  refine Path.Evolves.bind (Path.Evolves.element _) fun params => ?_
  refine Path.Evolves.bind (Path.Evolves.attempt (Path.Evolves.bind
    (handshake_proceeds _ (fun _ _ => nofun) nofun) fun _ => nameConfig_proceeds.proceeding.keeps))
    fun result => ?_
  cases result <;> exact Path.Evolves.pure _

omit [Scalar K] in
theorem disableAfterFailure_accounts (covers : Covers counts lists) :
    Accounts motors base (Accounted motors base lists parameterRows counts (Before index 0))
      (disableAfterFailure configs index)
      (Accounted motors base lists parameterRows counts (Before (index + 1) 0)) := by
  have counting : Path.Confines (Disciplined motors base)
      (Accounted motors base lists parameterRows counts (Before index 0)) (jointCount index)
      (fun count node => Accounted motors base lists parameterRows counts (Before index 0) node ∧
        counts[index]? = some count) fun _ => True := by
    refine Path.Confines.bind (Path.Confines.element _) fun row node kept ⟨accounted, found⟩ => ?_
    refine ⟨kept, accounted, ?_⟩
    rw [← accounted.counted, parameterRows, List.getElem?_map, found]
    rfl
  exact Path.Confines.bind counting fun count node kept ⟨accounted, found⟩ =>
    disableRow_accounts (fun _ _ => nameConfig_proceeds.proceeding) covers found node kept accounted

omit [Scalar K] in
theorem startMotors_accounts (covers : Covers counts lists) (present : Present motors lists) :
    Accounts motors base (Accounted motors base lists parameterRows counts (Before 0 0))
      (startMotors configs) fun _ => True := by
  refine Path.Confines.bind ((enabling_confines present enableMotors_keeps).consequence
    (fun _ => id) (fun _ _ => id) fun _ _ => trivial) fun failed =>
      Path.Confines.ite (fun _ => ?_) fun _ => ?_
  · refine Path.Confines.bind
      (disableInterfaces_accounts fun index => disableAfterFailure_accounts covers) fun _ => ?_
    exact Path.Confines.bind clearInterfaces_confines fun _ _ kept _ => ⟨kept, trivial⟩
  · refine Path.Confines.bind (finishes_update fun _ => rfl) fun _ => ?_
    refine Path.Confines.bind startSupervisor_proceeds.proceeding.finishes fun _ => ?_
    exact Path.Confines.bind (Path.Confines.loopBelow fun _ => startCommThread_proceeds.proceeding.finishes)
      fun _ => accounts_pure _

omit [Scalar K] in
theorem nameConfig_catches : Path.Catches (nameConfig configs index joint : NodePath K Unit) :=
  Path.Confines.bind (Path.Confines.bind (Path.Catches.update _) fun _ => Path.Catches.element _)
    fun _ => Path.Confines.bind (Path.Catches.element _) fun _ => Path.Catches.pure _

omit [Scalar K] in
theorem anyFailed_catches {ι : Type} {body : ι → NodePath K Bool}
    (step : ∀ item, Path.Catches (body item)) (items : List ι) :
    Path.Catches (anyFailed body items) := by
  induction items with
  | nil => exact Path.Catches.pure _
  | cons item rest ih =>
      exact Path.Confines.bind (step item) fun _ =>
        Path.Confines.bind ih fun _ => Path.Catches.pure _

omit [Scalar K] in
theorem enableMotors_catches : Path.Catches (enableMotors configs) := by
  refine Path.Confines.bind (Path.Catches.read _) fun _ => anyFailed_catches (fun index => ?_) _
  refine Path.Confines.bind (Path.Confines.bind (Path.Catches.element _) fun _ =>
    Path.Catches.pure _) fun _ => anyFailed_catches (fun joint => ?_) _
  refine Path.Confines.bind (Path.Catches.element _) fun params => ?_
  refine Path.Confines.bind (Path.Catches.attempt _) fun result => ?_
  cases result <;> exact Path.Catches.pure _

omit [Scalar K] in
theorem startCommThread_catches : Path.Catches (startCommThread index : NodePath K Unit) :=
  Path.Confines.bind (Path.Catches.element _) fun _ => Path.Confines.when fun _ =>
    Path.Confines.bind (Path.Confines.when fun _ => Path.Confines.bind (Path.Catches.read _)
      fun _ => Path.Catches.updateDefined _) fun _ => Path.Catches.updateDefined _

omit [Scalar K] in
theorem disableAfterFailure_catches :
    Path.Catches (disableAfterFailure configs index : NodePath K Unit) :=
  Path.Confines.bind (Path.Confines.bind (Path.Catches.element _) fun _ => Path.Catches.pure _)
    fun _ => Path.Confines.loopBelow fun _ => Path.Catches.tryCatch fun _ => nameConfig_catches

omit [Scalar K] in
/-- Once the motors are being enabled, only `create_timer` throws. -/
theorem startMotors_thrown {exception : Exception}
    (run : (startMotors configs).run node = (.thrown exception, after)) :
    exception = .invalidArgument := by
  obtain ⟨failed, enabled, -, run⟩ := enableMotors_catches.thrown_after run
  cases failed with
  | true =>
      have disables : Path.Catches (do
          Path.loopBelow numInterfaces (disableAfterFailure configs)
          clearInterfaces
          pure .error : NodePath K CallbackReturn) :=
        Path.Confines.bind (Path.Confines.loopBelow fun _ => disableAfterFailure_catches) fun _ =>
          Path.Confines.bind (Path.Catches.update _) fun _ => Path.Catches.pure _
      exact absurd run disables.not_thrown
  | false =>
      rw [if_neg Bool.false_ne_true, Path.update_bind] at run
      have starts : Path.Catches (do
          Path.loopBelow numInterfaces startCommThread
          pure .success : NodePath K CallbackReturn) :=
        Path.Confines.bind (Path.Confines.loopBelow fun _ => startCommThread_catches) fun _ =>
          Path.Catches.pure _
      cases supervising : startSupervisor.run { enabled with onSetParametersHandle := true } with
      | mk outcome supervised =>
          cases outcome with
          | returned value =>
              rw [Path.bind_returned supervising] at run
              exact absurd run starts.not_thrown
          | thrown raised =>
              rw [Path.bind_thrown supervising] at run
              cases run
              rw [startSupervisor_run] at supervising
              split at supervising <;> cases supervising
              rfl
          | undefined =>
              rw [Path.bind_undefined supervising] at run
              cases run

omit [Scalar K] in
theorem covers_rowsOn {settings : List (JointSettings K)} {count : Nat} {α : Type}
    {base : List (List α)} {entry : JointSettings K → α} :
    Covers ((rowsOn base settings entry).map List.length)
      ((rowsOf settings count (·.config)).map some) := by
  intro index joints length listed counted
  rw [List.getElem?_map, Option.map_eq_some_iff] at listed counted
  obtain ⟨row, found, same⟩ := listed
  obtain ⟨entries, entriesFound, rfl⟩ := counted
  have bound : index < count := by simpa using (List.getElem?_eq_some_iff.mp found).1
  rw [rowsOf_getElem? _ bound, Option.some.injEq] at found
  rw [rowsOn_getElem?, Option.map_eq_some_iff] at entriesFound
  obtain ⟨old, _, rfl⟩ := entriesFound
  rw [← Option.some.inj same, ← found, List.length_append, List.length_map, List.length_map]
  exact Nat.le_add_left _ _

/-- The motors that an assignment configures are those of the interfaces. -/
theorem Prepared.present {left : Node K} {accepted : Accepted K}
    (prepared : Prepared assignment left accepted configs node) :
    Present (left.ConfiguredMotor assignment) node.jointLists := by
  rintro index config ⟨jointNames, seen, name, joint, names, validated, member, read, rfl, rfl⟩
  obtain rfl : accepted.jointNames = jointNames := Except.ok.inj (prepared.joints.symm.trans names)
  obtain rfl : accepted.seen = seen :=
    Option.some.inj (Except.ok.inj (prepared.validated.symm.trans validated))
  obtain ⟨position, bound, rfl⟩ := List.getElem_of_mem member
  obtain ⟨same, reads⟩ := List.forall₂_iff_get.mp prepared.read
  have own := reads position bound (same ▸ bound)
  rw [List.get_eq_getElem, List.get_eq_getElem, read, Except.ok.injEq, Option.some.injEq] at own
  have setting : joint ∈ accepted.settings := own ▸ List.getElem_mem _
  have config : joint.config ∈ (accepted.settings.filter fun other =>
      other.canInterfaceId = joint.canInterfaceId).map (·.config) :=
    List.mem_map.mpr ⟨joint, by simpa using setting, rfl⟩
  obtain ⟨place, placed, found⟩ := List.getElem_of_mem config
  refine ⟨_, place, ?_, List.getElem?_eq_some_iff.mpr ⟨placed, found⟩, ?_⟩
  · rw [prepared.lists, prepared.configs, List.getElem?_map,
      rowsOf_getElem? _ (prepared.bounds joint setting), Option.map_some]
  · unfold Before
    omega

theorem Prepared.covers {left : Node K} {accepted : Accepted K}
    (prepared : Prepared assignment left accepted configs node) :
    Covers (parameterRows node.tables) node.jointLists := by
  rw [prepared.lists, prepared.configs, parameterRows,
    (appendJoints_appended appended_nil prepared.tables).params]
  exact covers_rowsOn

theorem ConfiguredBy.covers {left : Node K} {accepted : Accepted K}
    (configured : ConfiguredBy assignment left accepted node) :
    Covers (commandRows node.tables) node.jointLists := by
  rw [configured.lists, commandRows,
    (appendJoints_appended appended_nil configured.tables).cmds]
  exact covers_rowsOn

omit [Scalar K] in
theorem Disciplined.newEvents (disciplined : Disciplined motors node.log after) :
    DisabledFirst motors (newEvents node after) := by
  obtain ⟨events, log, first⟩ := disciplined
  rwa [Node.newEvents, log, List.drop_left]

/-- What enabling the motors of a prepared node comes to. -/
theorem Prepared.disciplined {left : Node K} {accepted : Accepted K}
    {outcome : Outcome Exception CallbackReturn}
    (prepared : Prepared assignment left accepted configs node) (log : node.log = base)
    (run : (startMotors configs).run node = (outcome, after)) :
    Disciplined (left.ConfiguredMotor assignment) base after := by
  have accounted : Accounted (left.ConfiguredMotor assignment) base node.jointLists parameterRows
      (parameterRows node.tables) (Before 0 0) node :=
    accounted_present prepared.present rfl rfl (log ▸ List.prefix_refl _)
  have ends := (startMotors_accounts prepared.covers prepared.present : Accounts _ _ _
    (startMotors configs) _).always_after ⟨[], by simp [log], precedes_nil⟩ accounted
  rwa [run] at ends

/-- If a configuration gets so far that it enables motors, it clears the interfaces only
after it has tried to disable all of them. -/
theorem onConfigure_disables {outcome : Outcome Exception CallbackReturn}
    (run : (onConfigure assignment bus now).run node = (outcome, after))
    (enabled : ∃ event ∈ newEvents node after, event.enables = true) :
    DisabledFirst (node.ConfiguredMotor assignment) (newEvents node after) := by
  obtain ⟨event, member, enables⟩ := enabled
  have idle (same : after.log = node.log) : False := by
    rw [newEvents, same, List.drop_length] at member
    cases member
  have declares : Path.Preserves Node.log (checked (assignment.declare globalParameters) :
      NodePath K Unit) := checked_evolves _
  obtain ⟨same, _⟩ | ⟨_, start, declared, tried⟩ := declares.bind_cases run
  · exact (idle same).elim
  obtain ⟨_, rfl⟩ := checked_run_returned.mp declared
  cases configuring : (configureNode assignment bus now).run start with
  | mk ended configured =>
      obtain ⟨same, _⟩ | ⟨accepted, configs, ready, prepared, log, starting⟩ :=
        configureNode_prepared configuring
      · cases ended with
        | returned value =>
            rw [Path.tryCatch_returned configuring] at tried
            cases tried
            exact (idle same).elim
        | thrown exception =>
            rw [Path.tryCatch_thrown configuring] at tried
            cases exception with
            | canInterfaceError =>
                -- the interfaces are cleared, but no motor has been enabled
                cases tried
                simp only [newEvents, recorded, same, List.drop_left, List.mem_singleton] at member
                subst member
                cases enables
            | _ =>
                cases tried
                exact (idle same).elim
        | undefined =>
            rw [Path.tryCatch_undefined configuring] at tried
            cases tried
            exact (idle same).elim
      · have disciplined := prepared.disciplined log starting
        cases ended with
        | returned value =>
            rw [Path.tryCatch_returned configuring] at tried
            cases tried
            exact disciplined.newEvents
        | thrown exception =>
            -- the handlers do not catch it
            obtain rfl := startMotors_thrown starting
            rw [Path.tryCatch_thrown configuring] at tried
            cases tried
            exact disciplined.newEvents
        | undefined =>
            rw [Path.tryCatch_undefined configuring] at tried
            cases tried
            exact disciplined.newEvents

end Configuration

end CubemarsDriver.Node
