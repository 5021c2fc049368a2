import CubemarsDriver.Foundation.Relations
import CubemarsDriver.Node.Configured
import CubemarsDriver.Node.Origin

namespace CubemarsDriver.Node

open Foundation Can

/-! # What a path knows while it holds its mutexes -/

variable {K : Type}

/-- How a path holds `can_communication_mutex_` and `joint_state_msg_mutex_`. -/
abbrev Locks := Option LockMode × Option LockMode

@[simp] def locks (node : Node K) : Locks :=
  (node.canCommunicationMutex.hold, node.jointStateMsgMutex.hold)

def Held (valid : Setup K → Lifecycle → Prop) (held : Locks) (node : Node K) : Prop :=
  valid node.setup node.lifecycle ∧ node.locks = held

/-- The path is defined and keeps what is known; what it throws satisfies `raised`. -/
abbrev Stays {α : Type} (valid : Setup K → Lifecycle → Prop) (held : Locks)
    (raised : Exception → Node K → Prop) (path : NodePath K α) : Prop :=
  Path.Ensures (Held valid held) path (fun _ => Held valid held) raised

variable {valid : Setup K → Lifecycle → Prop} {held : Locks} {raised : Exception → Node K → Prop}
variable {index joint count : Nat} {mode : LockMode}

section Recording

variable {γ : Type} {component : Node K → γ}
variable (ignores : ∀ (node : Node K) event, component (node.recorded event) = component node)

include ignores

theorem canInterface_preserves : Path.Preserves component (canInterface index) :=
  Path.Evolves.bind (Path.Evolves.update fun node => ignores node _) fun _ => Path.Evolves.element _

theorem nameJoint_preserves : Path.Preserves component (nameJoint index joint) := by
  refine Path.Evolves.bind (Path.Evolves.element _) fun _ => ?_
  refine Path.Evolves.bind (Path.Evolves.bind (canInterface_preserves ignores) fun can => ?_)
    fun _ => Path.Evolves.pure _
  split
  · exact Path.Evolves.pure _
  · exact Path.Evolves.throw _

end Recording

theorem lockCommunication_holds {other : Option LockMode} :
    Path.Ensures (Held valid (none, other)) (lockCommunication mode)
      (fun _ => Held valid (some mode, other)) raised := by
  refine Path.Ensures.updateDefined fun node holds => ?_
  obtain ⟨known, locked⟩ := holds
  simp only [locks, Prod.mk.injEq] at locked
  obtain ⟨mutex, acquired, hold⟩ := Mutex.acquire_free mode locked.1
  exact ⟨_, Option.map_eq_some_iff.mpr ⟨mutex, acquired, rfl⟩, known, Prod.ext hold locked.2⟩

theorem unlockCommunication_holds {other : Option LockMode} :
    Path.Ensures (Held valid (some mode, other)) (unlockCommunication mode)
      (fun _ => Held valid (none, other)) raised := by
  refine Path.Ensures.updateDefined fun node holds => ?_
  obtain ⟨known, locked⟩ := holds
  simp only [locks, Prod.mk.injEq] at locked
  obtain ⟨mutex, released, hold⟩ := Mutex.release_held locked.1
  exact ⟨_, Option.map_eq_some_iff.mpr ⟨mutex, released, rfl⟩, known, Prod.ext hold locked.2⟩

theorem lockJointStateMsg_holds {other : Option LockMode} :
    Path.Ensures (Held valid (other, none)) (lockJointStateMsg mode)
      (fun _ => Held valid (other, some mode)) raised := by
  refine Path.Ensures.updateDefined fun node holds => ?_
  obtain ⟨known, locked⟩ := holds
  simp only [locks, Prod.mk.injEq] at locked
  obtain ⟨mutex, acquired, hold⟩ := Mutex.acquire_free mode locked.2
  exact ⟨_, Option.map_eq_some_iff.mpr ⟨mutex, acquired, rfl⟩, known, Prod.ext locked.1 hold⟩

theorem unlockJointStateMsg_holds {other : Option LockMode} :
    Path.Ensures (Held valid (other, some mode)) (unlockJointStateMsg mode)
      (fun _ => Held valid (other, none)) raised := by
  refine Path.Ensures.updateDefined fun node holds => ?_
  obtain ⟨known, locked⟩ := holds
  simp only [locks, Prod.mk.injEq] at locked
  obtain ⟨mutex, released, hold⟩ := Mutex.release_held locked.2
  exact ⟨_, Option.map_eq_some_iff.mpr ⟨mutex, released, rfl⟩, known, Prod.ext locked.1 hold⟩

theorem respond_stays (success : Bool) (message : String) :
    Stays valid held raised (respond success message) := fun _ holds => holds

/-- There is a thread with the index. -/
def Threaded (valid : Setup K → Lifecycle → Prop) (index : Nat) : Prop :=
  ∀ setup lifecycle, valid setup lifecycle → index < setup.threads

theorem commThread_stays (threaded : Threaded valid index) :
    Stays valid held raised (commThread index) := by
  refine Path.Ensures.element fun node holds => ?_
  exact ⟨_, List.getElem?_eq_getElem (threaded _ _ holds.1), holds⟩

theorem changeThread_stays (threaded : Threaded valid index) (event : NodeEvent)
    (change : CommThread → CommThread) :
    Stays valid held raised (changeThread index event change) := by
  refine Path.Ensures.updateDefined fun node holds => ?_
  refine ⟨_, if_pos (threaded _ _ holds.1), ?_⟩
  simp only [Held, setup, locks, recorded, List.length_modify]
  exact holds

theorem signalThread_stays (threaded : Threaded valid index) :
    Stays valid held raised (signalThread index) := changeThread_stays threaded _ _

theorem joinThread_stays (threaded : Threaded valid index) :
    Stays valid held raised (joinThread index) :=
  Path.Ensures.readBind fun _ =>
    (changeThread_stays threaded _ _).strengthen_pre fun _ holds => holds.1

theorem joinIfJoinable_stays (threaded : Threaded valid index) (thread : CommThread) :
    Stays valid held raised (Path.when (thread.joinable = true) (joinThread index)) :=
  Path.Ensures.when (fun _ => joinThread_stays threaded) fun _ _ holds => holds

theorem stopCommThread_stays (threaded : Threaded valid index) :
    Stays valid held raised (stopCommThread index) :=
  Path.Ensures.bind (signalThread_stays threaded) fun _ =>
    Path.Ensures.bind (commThread_stays threaded) fun thread => joinIfJoinable_stays threaded thread

theorem startCommThread_stays (threaded : Threaded valid index) :
    Stays valid held raised (startCommThread index) := by
  refine Path.Ensures.bind (commThread_stays threaded) fun thread => ?_
  refine Path.Ensures.when (fun _ => ?_) fun _ _ holds => holds
  exact Path.Ensures.bind (joinIfJoinable_stays threaded thread) fun _ =>
    changeThread_stays threaded _ _

/-- In a loop over the comm threads there is a thread for every index. -/
theorem loopThreads_stays {body : Nat → NodePath K Unit}
    (step : ∀ (valid : Setup K → Lifecycle → Prop) index, Threaded valid index →
      Stays valid held (fun _ _ => False) (body index)) :
    Stays valid held raised (Path.loopBelow threadCount body) := by
  refine Path.Ensures.loopWithin fun index => ?_
  have inside := step (fun setup lifecycle => valid setup lifecycle ∧ index < setup.threads) index
    fun _ _ both => both.2
  exact inside.consequence (fun _ holds => ⟨⟨holds.1.1, holds.2⟩, holds.1.2⟩)
    (fun _ _ holds => ⟨holds.1.1, holds.2⟩) fun _ _ impossible => impossible.elim

theorem stopAllCommThreads_stays : Stays valid held raised (stopAllCommThreads (K := K)) :=
  Path.Ensures.bind (loopThreads_stays fun _ _ threaded => signalThread_stays threaded) fun _ =>
    loopThreads_stays fun _ _ threaded =>
      Path.Ensures.bind (commThread_stays threaded) fun thread =>
        joinIfJoinable_stays threaded thread

def Setup.Rowed (setup : Setup K) : Prop :=
  RowsFit setup.jointMsgLength setup.tables setup.canInterfaces

/-- The interface has that many joints. -/
def Setup.HasJoints (setup : Setup K) (index count : Nat) : Prop :=
  setup.canInterfaces[index]?.join.map (fun can => can.jointConfigs.length) = some count

/-- What is known allows an interface to be used, and using it keeps what is known. -/
structure Knows (valid : Setup K → Lifecycle → Prop) (index count : Nat) : Prop where
  rowed : ∀ setup lifecycle, valid setup lifecycle → setup.Rowed
  joints : ∀ setup lifecycle, valid setup lifecycle → setup.HasJoints index count
  exchange : ∀ setup lifecycle can changed, valid setup lifecycle →
    setup.canInterfaces[index]?.join = some can → changed.jointConfigs = can.jointConfigs →
    valid { setup with canInterfaces := setup.canInterfaces.set index (some changed) } lifecycle

theorem Setup.HasJoints.rows {setup : Setup K} (joints : setup.HasJoints index count)
    (rowed : setup.Rowed) : ∃ rows can, interfaceRows index setup.tables setup.canInterfaces =
      some rows ∧ rows.Fit setup.jointMsgLength ∧ rows.configs.length = count ∧
      setup.canInterfaces[index]?.join = some can ∧ can.jointConfigs = rows.configs := by
  obtain ⟨can, canFound, size⟩ := Option.map_eq_some_iff.mp joints
  have bound := (List.getElem?_eq_some_iff.mp (Option.join_eq_some_iff.mp canFound)).1
  obtain ⟨rows, found, fit⟩ := rowed index bound
  have configs := (interfaceRows_eq_some.mp found).1
  rw [canFound, Option.map_some, Option.some.injEq] at configs
  exact ⟨rows, can, found, fit, configs ▸ size, canFound, configs⟩

theorem Setup.HasJoints.bound {setup : Setup K} (joints : setup.HasJoints index count) :
    index < setup.canInterfaces.length := by
  obtain ⟨can, found, _⟩ := Option.map_eq_some_iff.mp joints
  exact (List.getElem?_eq_some_iff.mp (Option.join_eq_some_iff.mp found)).1

theorem Setup.HasJoints.exchange {setup : Setup K} {other : Nat} {can changed : CubemarsCan K}
    (joints : setup.HasJoints index count) (found : setup.canInterfaces[other]?.join = some can)
    (same : changed.jointConfigs = can.jointConfigs) :
    Setup.HasJoints { setup with
      canInterfaces := setup.canInterfaces.set other (some changed) } index count := by
  unfold Setup.HasJoints at joints ⊢
  by_cases own : index = other
  · subst own
    rw [found] at joints
    simp only [set_getElem?_self _ (Option.join_eq_some_iff.mp found), Option.join_some]
    simpa only [Option.map_some, same] using joints
  · simpa only [List.getElem?_set_ne (Ne.symm own)] using joints

theorem Setup.Rowed.exchange {setup : Setup K} {can changed : CubemarsCan K}
    (rowed : setup.Rowed) (found : setup.canInterfaces[index]?.join = some can)
    (same : changed.jointConfigs = can.jointConfigs) :
    Setup.Rowed { setup with canInterfaces := setup.canInterfaces.set index (some changed) } :=
  RowsFit.setCan rowed found same

theorem Setup.Valid.exchange {setup : Setup K} {can changed : CubemarsCan K}
    (valid : setup.Valid) (found : setup.canInterfaces[index]?.join = some can)
    (same : changed.jointConfigs = can.jointConfigs) :
    Setup.Valid { setup with canInterfaces := setup.canInterfaces.set index (some changed) } where
  rows := valid.rows.setCan found same
  params := valid.params.trans List.length_set.symm
  threads := valid.threads.trans List.length_set.symm
  interfaces := by simpa only [List.length_set] using valid.interfaces
  messages := valid.messages
  command := valid.command

section Knows

variable (knows : Knows valid index count)

include knows

theorem canInterface_found :
    Path.Ensures (Held valid held) (canInterface index)
      (fun can node => Held valid held node ∧ node.canInterfaces[index]?.join = some can)
      raised := by
  refine Path.Ensures.updateBind (fun _ holds => holds) (Path.Ensures.element ?_)
  intro node holds
  obtain ⟨can, found, _⟩ := Option.map_eq_some_iff.mp (knows.joints _ _ holds.1)
  exact ⟨can, found, holds, found⟩

theorem canInterface_stays : Stays valid held raised (canInterface index) :=
  (canInterface_found knows).weaken_post fun _ _ holds => holds.1

theorem jointParameters_stays (bound : joint < count) :
    Stays valid held raised (jointParameters index joint) := by
  refine Path.Ensures.element fun node holds => ?_
  obtain ⟨rows, _, found, fit, size, _⟩ :=
    (knows.joints _ _ holds.1).rows (knows.rowed _ _ holds.1)
  obtain ⟨params, paramsFound, _⟩ := fit.params_exists (size.symm ▸ bound)
  refine ⟨params, ?_, holds⟩
  rw [show node.tables.jointParametersPerCanInterface[index]? = some rows.params from
    (interfaceRows_eq_some.mp found).2.2.2.1, Option.bind_some, paramsFound]

theorem jointCount_stays :
    Path.Ensures (Held valid held) (jointCount index)
      (fun joints node => Held valid held node ∧ joints = count) raised := by
  refine Path.Ensures.elementBind (fun node holds => ?_) fun row => ?_
  · obtain ⟨rows, _, found, _⟩ := (knows.joints _ _ holds.1).rows (knows.rowed _ _ holds.1)
    exact ⟨rows.params, (interfaceRows_eq_some.mp found).2.2.2.1⟩
  · intro node both
    obtain ⟨holds, rowFound⟩ := both
    obtain ⟨rows, _, found, fit, size, _⟩ :=
      (knows.joints _ _ holds.1).rows (knows.rowed _ _ holds.1)
    have same := rowFound.symm.trans (interfaceRows_eq_some.mp found).2.2.2.1
    refine ⟨holds, ?_⟩
    rw [Option.some.inj same, fit.params, size]

theorem getCanId_stays (bound : joint < count) :
    Stays valid held raised (getCanId index joint) := by
  refine Path.Ensures.bind (canInterface_found knows) fun can node both => ?_
  obtain ⟨holds, canFound⟩ := both
  obtain ⟨rows, can', _, _, size, canFound', configs⟩ :=
    (knows.joints _ _ holds.1).rows (knows.rowed _ _ holds.1)
  cases canFound.symm.trans canFound'
  rw [List.getElem?_eq_getElem (by rw [configs, size]; exact bound)]
  exact holds

theorem nameJoint_stays (bound : joint < count) :
    Stays valid held raised (nameJoint index joint) :=
  Path.Ensures.bind (jointParameters_stays knows bound) fun _ =>
    Path.Ensures.bind (getCanId_stays knows bound) fun _ _ holds => holds

end Knows

theorem handshakeStep_keeps (step : HandshakeStep) : KeepsJoints (step.path : CanPath K Unit) := by
  cases step with
  | start joint setZero => exact startMotorControlMode_keeps joint setZero
  | exit joint => exact endMotorControlMode_keeps joint
  | exitAll => exact endMotorControlModeAll_keeps

theorem handshake_run {node : Node K} {can : CubemarsCan K} (step : HandshakeStep)
    (found : node.canInterfaces[index]?.join = some can) :
    (handshake index step).run node = ((step.path.run can).1,
      { node.recorded (handshakeEvent index step can) with
        canInterfaces := node.canInterfaces.set index (some (step.path.run can).2) }) := by
  simp only [handshake, found]

/-- A handshake may throw, and leaves what is known in any case. -/
theorem handshake_keeps (knows : Knows valid index count) (step : HandshakeStep) :
    Path.Keeps (Held valid held) (handshake index step) := by
  intro node holds
  obtain ⟨can, canFound, _⟩ := Option.map_eq_some_iff.mp (knows.joints _ _ holds.1)
  have canFound : node.canInterfaces[index]?.join = some can := canFound
  have keeps := handshakeStep_keeps step can.jointConfigs can rfl
  rw [handshake_run step canFound]
  cases run : step.path.run can with
  | mk outcome after =>
      rw [run] at keeps
      cases outcome with
      | returned value => exact ⟨knows.exchange _ _ can after holds.1 canFound keeps, holds.2⟩
      | thrown exception => exact ⟨knows.exchange _ _ can after holds.1 canFound keeps, holds.2⟩
      | undefined => exact keeps.elim

/-- What a cleanup needs to know, and about one interface. -/
def Cleanable (start : Lifecycle) (setup : Setup K) (lifecycle : Lifecycle) : Prop :=
  setup.Rowed ∧ lifecycle = start

def CleanableInterface (start : Lifecycle) (index count : Nat) (setup : Setup K)
    (lifecycle : Lifecycle) : Prop :=
  Cleanable start setup lifecycle ∧ setup.HasJoints index count

theorem cleanableInterface_knows (start : Lifecycle) :
    Knows (K := K) (CleanableInterface start index count) index count where
  rowed _ _ known := known.1.1
  joints _ _ known := known.2
  exchange _ _ _ _ known found same :=
    ⟨⟨known.1.1.exchange found same, known.1.2⟩, known.2.exchange found same⟩

theorem disableMotor_stays (knows : Knows valid index count) (bound : joint < count) :
    Stays valid held raised (disableMotor index joint) := by
  refine Path.Ensures.tryCatch (handshake_keeps knows _) fun _ => ?_
  exact Path.Ensures.bind (jointParameters_stays knows bound) fun _ =>
    Path.Ensures.bind (canInterface_stays knows) fun _ _ holds => holds

/-- There are joints behind every index of an interface. -/
theorem Held.cleanableInterface {start : Lifecycle} {node : Node K}
    (known : Held (Cleanable start) held node) (bound : index < node.numInterfaces) :
    ∃ count, Held (CleanableInterface start index count) held node := by
  obtain ⟨rows, found, _⟩ := known.1.1 index bound
  obtain ⟨can, canFound, _⟩ := Option.map_eq_some_iff.mp (interfaceRows_eq_some.mp found).1
  refine ⟨can.jointConfigs.length, ⟨known.1, ?_⟩, known.2⟩
  rw [Setup.HasJoints, canFound, Option.map_some]

theorem disableMotors_stays {start : Lifecycle} :
    Path.Ensures (fun node : Node K => Held (Cleanable start) held node ∧ index < node.numInterfaces)
      (disableMotors index) (fun _ => Held (Cleanable start) held) raised := by
  intro node both
  obtain ⟨count, known⟩ := both.1.cleanableInterface both.2
  obtain ⟨rows, _, found, fit, size, _⟩ := known.1.2.rows known.1.1.1
  have cmds : node.tables.jointCommandsPerCanInterface[index]? = some rows.cmds :=
    (interfaceRows_eq_some.mp found).2.1
  have loop : Stays (CleanableInterface start index count) held raised
      (Path.loopBelow (fun _ => rows.cmds.length) (disableMotor index)) := by
    refine Path.Ensures.loopWithin fun joint node inside => ?_
    refine disableMotor_stays (cleanableInterface_knows start) ?_ node inside.1
    rw [← size, ← fit.cmds]
    exact inside.2
  simp only [disableMotors, Path.element_bind, cmds]
  exact loop.weaken_post (fun _ _ after => ⟨after.1.1, after.2⟩) node known

/-- Nothing is left of the interfaces. -/
def Cleared (start : Lifecycle) (setup : Setup K) (lifecycle : Lifecycle) : Prop :=
  setup.canInterfaces = [] ∧ lifecycle = start

theorem onCleanup_clears (start : Lifecycle) :
    Path.Ensures (Held (Cleanable start) (none, none)) (onCleanup : NodePath K CallbackReturn)
      (fun result node => result = .success ∧ Held (Cleared start) (none, none) node) raised := by
  refine Path.Ensures.updateBind (fun _ holds => holds) ?_
  refine Path.Ensures.bind stopAllCommThreads_stays fun _ => ?_
  refine Path.Ensures.updateBind (fun _ holds => holds) ?_
  refine Path.Ensures.bind lockCommunication_holds fun _ => ?_
  refine Path.Ensures.bind lockJointStateMsg_holds fun _ => ?_
  refine Path.Ensures.bind (Path.Ensures.loopWithin fun _ => disableMotors_stays) fun _ => ?_
  have clear : Path.Ensures (Held (Cleanable start) (some .exclusive, some .exclusive))
      (clearInterfaces (K := K)) (fun _ => Held (Cleared start) (some .exclusive, some .exclusive))
      raised := fun _ holds => ⟨⟨rfl, holds.1.2⟩, holds.2⟩
  refine Path.Ensures.bind clear fun _ => ?_
  refine Path.Ensures.updateBind (fun _ holds => holds) ?_
  refine Path.Ensures.bind unlockJointStateMsg_holds fun _ => ?_
  refine Path.Ensures.bind unlockCommunication_holds fun _ => ?_
  refine Path.Ensures.updateBind (fun _ holds => holds) ?_
  exact fun _ holds => ⟨rfl, holds⟩

/-- A cleanup of an inactive node. -/
theorem cleanup_clears :
    Path.Ensures (Held (Cleanable .inactive) (none, none)) (cleanup : NodePath K Unit)
      (fun _ => Held (Cleared .unconfigured) (none, none)) raised := by
  intro node holds
  have start : node.lifecycle = .inactive := holds.1.2
  have cleared : Path.Ensures (Held (Cleanable .inTransition) (none, none))
      (Path.tryCatch (onCleanup (K := K)) fun _ => pure .error)
      (fun result node => result = .success ∧ Held (Cleared .inTransition) (none, none) node)
      raised :=
    Path.Ensures.tryCatch (onCleanup_clears _ : Path.Ensures _ _ _ fun _ _ => False)
      fun _ _ => False.elim
  rw [cleanup, transition, Path.read_bind, start, Path.when, if_pos rfl, setLifecycle,
    Path.update_bind]
  refine Path.Ensures.bind cleared (fun result => ?_) _ ⟨⟨holds.1.1, rfl⟩, holds.2⟩
  intro node both
  obtain ⟨rfl, cleared⟩ := both
  exact ⟨⟨cleared.1.1, rfl⟩, cleared.2⟩

end CubemarsDriver.Node
