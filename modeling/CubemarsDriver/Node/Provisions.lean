import CubemarsDriver.Node.CycleScripts
import CubemarsDriver.Node.DisabledRuns
import CubemarsDriver.Node.Roster

namespace CubemarsDriver.Node

open Foundation Can

/-! # What a node has in each lifecycle state

A configured node has its timers, the subscription and the handle for parameters, and a running
comm thread for every CAN interface.  The watchdog exists only while the node is active.  An
unconfigured node has nothing of this, and neither has a finalized one, unless it is an activation
without a period for the watchdog that finalized it: that leaves everything as it was. -/

variable {K : Type} {node after : Node K} {index : Nat} {mode : LockMode}

namespace Amenities

def Withdrawn (amenities : Amenities) : Prop :=
  amenities.publishTimer = false ∧ amenities.jointCmdSub = false ∧
    amenities.onSetParametersHandle = false

def Offered (amenities : Amenities) : Prop :=
  amenities = { publishTimer := true, jointCmdSub := true, onSetParametersHandle := true
                supervisorTimer := true }

end Amenities

/-- A comm thread runs for every CAN interface. -/
structure Attended (node : Node K) : Prop where
  threads : node.commThreads = List.replicate node.numInterfaces startedThread
  interfaces : ∀ can ∈ node.canInterfaces, can.isSome = true

/-- Nothing is left, and there is no thread to stop or to join. -/
structure Vacated (node : Node K) : Prop where
  withdrawn : node.amenities.Withdrawn
  watchdogTimer : node.watchdogTimer = false
  dormant : Dormant node.commThreads

/-- Everything is there, the watchdog as it is given. -/
structure Furnished (watchdogTimer : Bool) (node : Node K) : Prop where
  offered : node.amenities.Offered
  watchdogTimer : node.watchdogTimer = watchdogTimer
  attended : node.Attended

/-- What a state stands for; no callback runs during a transition. -/
def Provisioned (node : Node K) : Prop :=
  match node.lifecycle with
  | .unconfigured => node.Vacated
  | .inactive => node.Furnished false
  | .active => node.Furnished true
  | .finalized => node.Vacated ∨ node.watchdogFrequency ≤ 0 ∧ node.Furnished false
  | .inTransition => False

/-- A node between two operations. -/
structure Provided (node : Node K) : Prop where
  provisioned : node.Provisioned
  between : betweenCalls node.surroundings

/-- The timers of a node that is not finalized. -/
def Suits (lifecycle : Lifecycle) (watchdogTimer : Bool) (amenities : Amenities) : Prop :=
  match lifecycle with
  | .unconfigured => amenities.Withdrawn ∧ watchdogTimer = false
  | .inactive => amenities.Offered ∧ watchdogTimer = false
  | .active => amenities.Offered ∧ watchdogTimer = true
  | .finalized => False
  | .inTransition => False

def Suited (node : Node K) : Prop := Suits node.lifecycle node.watchdogTimer node.amenities

theorem Provisioned.suited (provisioned : node.Provisioned) (running : node.lifecycle ≠ .finalized) :
    node.Suited := by
  cases found : node.lifecycle with
  | unconfigured =>
      simp only [Provisioned, found] at provisioned
      simpa only [Suited, found] using ⟨provisioned.withdrawn, provisioned.watchdogTimer⟩
  | inactive =>
      simp only [Provisioned, found] at provisioned
      simpa only [Suited, found] using ⟨provisioned.offered, provisioned.watchdogTimer⟩
  | active =>
      simp only [Provisioned, found] at provisioned
      simpa only [Suited, found] using ⟨provisioned.offered, provisioned.watchdogTimer⟩
  | finalized => exact absurd found running
  | inTransition => simp only [Provisioned, found] at provisioned

theorem Provisioned.attended (provisioned : node.Provisioned)
    (configured : node.lifecycle = .inactive ∨ node.lifecycle = .active) : node.Attended := by
  rw [Provisioned] at provisioned
  rcases configured with found | found
  · rw [found] at provisioned
    exact provisioned.attended
  · rw [found] at provisioned
    exact provisioned.attended

/-- Timers that suit the state, with the threads, are all that belongs to it. -/
theorem Suited.provisioned (suited : node.Suited)
    (attended : node.lifecycle = .inactive ∨ node.lifecycle = .active → node.Attended)
    (between : betweenCalls node.surroundings) : node.Provisioned := by
  cases found : node.lifecycle with
  | unconfigured =>
      simp only [Suited, found] at suited
      simpa only [Provisioned, found] using ⟨suited.1, suited.2, between.situation.2 found⟩
  | inactive =>
      simp only [Suited, found] at suited
      simpa only [Provisioned, found] using ⟨suited.1, suited.2, attended (.inl found)⟩
  | active =>
      simp only [Suited, found] at suited
      simpa only [Provisioned, found] using ⟨suited.1, suited.2, attended (.inr found)⟩
  | finalized =>
      rw [Suited, found] at suited
      exact suited.elim
  | inTransition =>
      rw [Suited, found] at suited
      exact suited.elim

/-- A path that returns leaves timers that suit the state. -/
abbrev KeepsSuited {α : Type} (path : NodePath K α) : Prop :=
  Path.Confines (fun _ => True) Suited path (fun _ => Suited) fun _ => True

def standing (node : Node K) : Lifecycle × Bool × Amenities :=
  (node.lifecycle, node.watchdogTimer, node.amenities)

theorem keepsSuited_of {α : Type} {path : NodePath K α} (steady : Path.Preserves standing path) :
    KeepsSuited path := by
  refine (Path.Confines.of_preserves steady (fun _ _ _ => id) fun before after same suited => ?_)
    |>.consequence (fun _ => id) (fun _ _ => id) fun _ _ => trivial
  have lifecycle : after.lifecycle = before.lifecycle := congrArg Prod.fst same
  have watchdogTimer : after.watchdogTimer = before.watchdogTimer :=
    congrArg (fun standing => standing.2.1) same
  have amenities : after.amenities = before.amenities := congrArg (fun standing => standing.2.2) same
  rwa [Suited, lifecycle, watchdogTimer, amenities]

theorem Offstage.steady {α : Type} {path : NodePath K α} (offstage : Offstage path) :
    Path.Preserves standing path := offstage.weaken fun _ _ same =>
  congrArg (fun scene : Scene => (scene.surroundings.gate.lifecycle,
    scene.surroundings.gate.watchdogTimer, scene.amenities)) same

theorem Offstage.keepsSuited {α : Type} {path : NodePath K α} (offstage : Offstage path) :
    KeepsSuited path := keepsSuited_of offstage.steady

theorem lockCommunication_steady : Path.Preserves standing (lockCommunication mode : NodePath K Unit) :=
  Path.Evolves.updateFound fun _ _ => rfl

theorem unlockCommunication_steady :
    Path.Preserves standing (unlockCommunication mode : NodePath K Unit) :=
  Path.Evolves.updateFound fun _ _ => rfl

theorem lockJointStateMsg_steady : Path.Preserves standing (lockJointStateMsg mode : NodePath K Unit) :=
  Path.Evolves.updateFound fun _ _ => rfl

theorem unlockJointStateMsg_steady :
    Path.Preserves standing (unlockJointStateMsg mode : NodePath K Unit) :=
  Path.Evolves.updateFound fun _ _ => rfl

theorem changeThread_steady (event : NodeEvent) (change : CommThread → CommThread) :
    Path.Preserves standing (changeThread index event change : NodePath K Unit) := by
  refine Path.Evolves.updateDefined fun node after changed => ?_
  rw [Option.ite_none_right_eq_some, Option.some.injEq] at changed
  obtain ⟨_, rfl⟩ := changed
  rfl

theorem joinThread_steady : Path.Preserves standing (joinThread index : NodePath K Unit) :=
  Path.Evolves.bind (Path.Evolves.read _) fun _ => changeThread_steady _ _

theorem startCommThread_steady : Path.Preserves standing (startCommThread index : NodePath K Unit) :=
  Path.Evolves.bind (Path.Evolves.element _) fun _ => Path.Evolves.when fun _ =>
    Path.Evolves.bind (Path.Evolves.when fun _ => joinThread_steady) fun _ => changeThread_steady _ _

theorem stopCommThread_steady : Path.Preserves standing (stopCommThread index : NodePath K Unit) :=
  Path.Evolves.bind (changeThread_steady _ _) fun _ =>
    Path.Evolves.bind (Path.Evolves.element _) fun _ => Path.Evolves.when fun _ => joinThread_steady

theorem stopAllCommThreads_steady : Path.Preserves standing (stopAllCommThreads : NodePath K Unit) :=
  Path.Evolves.bind (Path.Evolves.loopBelow fun _ => changeThread_steady _ _) fun _ =>
    Path.Evolves.loopBelow fun _ => Path.Evolves.bind (Path.Evolves.element _) fun _ =>
      Path.Evolves.when fun _ => joinThread_steady

/-- What is known of the timers during a transition. -/
abbrev Standing (fact : Bool → Amenities → Prop) (node : Node K) : Prop :=
  fact node.watchdogTimer node.amenities

theorem kept {α : Type} {path : NodePath K α} (steady : Path.Preserves standing path)
    (fact : Bool → Amenities → Prop) :
    Path.Confines (fun _ => True) (Standing fact) path (fun _ => Standing fact) (Standing fact) := by
  refine Path.Confines.of_preserves steady (fun _ _ _ => id) fun before after same holds => ?_
  have watchdog : after.watchdogTimer = before.watchdogTimer :=
    congrArg (fun standing => standing.2.1) same
  have amenities : after.amenities = before.amenities := congrArg (fun standing => standing.2.2) same
  rwa [Standing, watchdog, amenities]

theorem kept_on {α : Type} {path : NodePath K α} (steady : Path.Preserves standing path)
    (fact : Bool → Amenities → Prop) :
    Path.Confines (fun _ => True) (Standing fact) path (fun _ => Standing fact) fun _ => True :=
  (kept steady fact).consequence (fun _ => id) (fun _ _ => id) fun _ _ => trivial

/-- The watchdog is as it was, and everything else is gone. -/
theorem onCleanup_withdraws (watchdogTimer : Bool) : Path.Confines (fun _ => True)
    (fun node : Node K => node.watchdogTimer = watchdogTimer) onCleanup
    (fun result node => result = .success ∧ node.amenities.Withdrawn ∧
      node.watchdogTimer = watchdogTimer) fun _ => True := by
  let halfway (watchdog : Bool) (amenities : Amenities) : Prop := watchdog = watchdogTimer ∧
    amenities.publishTimer = false ∧ amenities.onSetParametersHandle = false
  let withdrawn (watchdog : Bool) (amenities : Amenities) : Prop :=
    amenities.Withdrawn ∧ watchdog = watchdogTimer
  have begin : Path.Confines (fun _ => True) (fun node : Node K => node.watchdogTimer = watchdogTimer)
      (Path.update fun node => { node with onSetParametersHandle := false, publishTimer := false } :
        NodePath K Unit)
      (fun _ => Standing halfway) fun _ => True :=
    Path.Confines.update fun _ _ holds => ⟨trivial, holds, rfl, rfl⟩
  have clear : Path.Confines (fun _ => True)
      (Standing halfway) (Path.update clearTables : NodePath K Unit) (fun _ => Standing withdrawn)
      fun _ => True :=
    Path.Confines.update fun _ _ holds => ⟨trivial, ⟨holds.2.1, rfl, holds.2.2⟩, holds.1⟩
  refine Path.Confines.bind begin fun _ => ?_
  refine Path.Confines.bind (kept_on stopAllCommThreads_steady halfway) fun _ => ?_
  refine Path.Confines.bind (kept_on ?_ halfway) fun _ => ?_
  · exact Path.Evolves.update fun _ => rfl
  refine Path.Confines.bind (kept_on lockCommunication_steady halfway) fun _ => ?_
  refine Path.Confines.bind (kept_on lockJointStateMsg_steady halfway) fun _ => ?_
  refine Path.Confines.bind (kept_on (Path.Evolves.loopBelow fun _ => disableMotors_offstage.steady) halfway)
    fun _ => ?_
  refine Path.Confines.bind (kept_on clearInterfaces_offstage.steady halfway) fun _ => ?_
  refine Path.Confines.bind clear fun _ => ?_
  refine Path.Confines.bind (kept_on unlockJointStateMsg_steady withdrawn) fun _ => ?_
  refine Path.Confines.bind (kept_on unlockCommunication_steady withdrawn) fun _ => ?_
  refine Path.Confines.bind (kept_on ?_ withdrawn) fun _ => ?_
  · exact Path.Evolves.update fun _ => rfl
  exact fun _ _ holds => ⟨trivial, rfl, holds⟩

/-- A cleanup leaves nothing, and is the only thing a configured node has to do for it. -/
theorem cleanup_suited : KeepsSuited (cleanup : NodePath K Unit) := by
  refine (Path.Confines.of_run (fun _ _ _ => trivial) fun _ _ _ _ _ _ => trivial)
    |>.weaken_post fun _ after ran => ?_
  obtain ⟨node, _, suited, run⟩ := ran
  obtain ⟨_, rfl⟩ | ⟨inactive, result, middle, callback, settled⟩ := transition_returned run
  · exact suited
  rw [Suited, inactive] at suited
  obtain returned | ⟨exception, thrown, raised, _⟩ := Path.tryCatch_run_returned.mp callback
  · have watched : ({ node with lifecycle := .inTransition } : Node K).watchdogTimer = false := suited.2
    obtain ⟨_, success, withdrawn, watchdog⟩ :=
      (onCleanup_withdraws false).of_returned trivial watched returned
    subst success
    rw [settle_returned settled]
    exact ⟨withdrawn, watchdog⟩
  · exact absurd raised onCleanup_catches.not_thrown

/-- Nothing is left, and the watchdog is off. -/
def nothingLeft (watchdogTimer : Bool) (amenities : Amenities) : Prop :=
  amenities.Withdrawn ∧ watchdogTimer = false

theorem onError_withdraws : Path.Confines (fun _ => True)
    (fun node : Node K => node.watchdogTimer = false) (onError .unconfigured)
    (fun result node => result = .success ∧ Standing nothingLeft node) fun _ => True := by
  have begin : Path.Confines (fun _ => True) (fun node : Node K => node.watchdogTimer = false)
      (Path.update fun node => { node with
        onSetParametersHandle := false, jointCmdSub := false, publishTimer := false } : NodePath K Unit)
      (fun _ => Standing nothingLeft) fun _ => True :=
    Path.Confines.update fun _ _ holds => ⟨trivial, ⟨rfl, rfl, rfl⟩, holds⟩
  refine Path.Confines.bind begin fun _ => ?_
  refine Path.Confines.bind (kept_on stopAllCommThreads_steady nothingLeft) fun _ => ?_
  refine Path.Confines.bind (kept_on ?_ nothingLeft) fun _ => ?_
  · exact Path.Evolves.update fun _ => rfl
  refine Path.Confines.bind (kept_on ?_ nothingLeft) fun _ => ?_
  · exact Path.Evolves.update fun _ => rfl
  exact fun _ _ holds => ⟨trivial, rfl, holds⟩

section Operations

variable [Scalar K] {assignment : Assignment K} {configs : JointConfigs K} {bus : Bus} {now : Int}

/-- What a configuration leaves. -/
def Provides (result : CallbackReturn) (watchdogTimer : Bool) (amenities : Amenities) : Prop :=
  watchdogTimer = false ∧ (result = .success → amenities.Offered) ∧
    (result = .failure → amenities.Withdrawn)

/-- Whatever else, the watchdog is off. -/
def unwatched (watchdogTimer : Bool) (_ : Amenities) : Prop := watchdogTimer = false

/-- The publisher and the subscription exist already. -/
def announced (watchdogTimer : Bool) (amenities : Amenities) : Prop :=
  watchdogTimer = false ∧ amenities.publishTimer = true ∧ amenities.jointCmdSub = true

omit [Scalar K] in
theorem kept_unwatched {α : Type} {path : NodePath K α} (fact : Bool → Amenities → Prop)
    (off : ∀ watchdogTimer amenities, fact watchdogTimer amenities → watchdogTimer = false)
    (steady : Path.Preserves standing path) : Path.Confines (fun _ => True) (Standing fact) path
      (fun _ => Standing fact) (Standing unwatched) :=
  (kept steady fact).consequence (fun _ => id) (fun _ _ => id) fun _ => off _ _

/-- Only the supervisor may still be missing. -/
def unsupervised (watchdogTimer : Bool) (amenities : Amenities) : Prop :=
  watchdogTimer = false ∧ amenities.publishTimer = true ∧ amenities.jointCmdSub = true ∧
    amenities.onSetParametersHandle = true

omit [Scalar K] in
theorem startPublishing_provides : Path.Confines (fun _ => True) (Standing nothingLeft)
    (startPublishing : NodePath K Unit) (fun _ => Standing announced) (Standing unwatched) := by
  intro node _ holds
  rw [startPublishing_run]
  split
  · exact ⟨trivial, holds.2, rfl, rfl⟩
  · exact ⟨trivial, holds.2⟩

omit [Scalar K] in
theorem startSupervisor_provides : Path.Confines (fun _ => True) (Standing unsupervised)
    (startSupervisor : NodePath K Unit) (fun _ => Standing (Provides .success))
    (Standing unwatched) := by
  intro node _ holds
  rw [startSupervisor_run]
  split
  · refine ⟨trivial, holds.1, fun _ => ?_, nofun⟩
    obtain ⟨_, publishes, subscribed, handles⟩ := holds
    have publishTimer : node.publishTimer = true := publishes
    have jointCmdSub : node.jointCmdSub = true := subscribed
    have onSetParametersHandle : node.onSetParametersHandle = true := handles
    rw [Amenities.Offered, amenities, publishTimer, jointCmdSub, onSetParametersHandle]
  · exact ⟨trivial, holds.1⟩

omit [Scalar K] in
theorem startMotors_provides : Path.Confines (fun _ => True) (Standing announced)
    (startMotors configs) (fun result => Standing (Provides result)) (Standing unwatched) := by
  have waiting {α : Type} {path : NodePath K α} (steady : Path.Preserves standing path) :=
    kept_unwatched announced (fun _ _ => And.left) steady
  refine Path.Confines.bind (waiting enableMotors_offstage.steady) fun failed =>
    Path.Confines.ite (fun _ => ?_) fun _ => ?_
  · refine Path.Confines.bind (waiting (Path.Evolves.loopBelow fun _ =>
      disableAfterFailure_offstage.steady)) fun _ => ?_
    exact Path.Confines.bind (waiting clearInterfaces_offstage.steady) fun _ _ _ holds =>
      ⟨trivial, holds.1, nofun, nofun⟩
  · have handle : Path.Confines (fun _ => True) (Standing announced)
        (Path.update fun node => { node with onSetParametersHandle := true } : NodePath K Unit)
        (fun _ => Standing unsupervised) (Standing unwatched) :=
      Path.Confines.update fun node _ holds => ⟨trivial, holds.1, holds.2.1, holds.2.2, rfl⟩
    refine Path.Confines.bind handle fun _ => Path.Confines.bind startSupervisor_provides fun _ => ?_
    exact Path.Confines.bind (kept_unwatched (Provides .success) (fun _ _ => And.left)
      (Path.Evolves.loopBelow fun _ => startCommThread_steady)) fun _ _ _ holds => ⟨trivial, holds⟩

omit [Scalar K] in
theorem provides_unsuccessful {result : CallbackReturn} (unsuccessful : result ≠ .success) :
    Path.Confines (fun _ => True) (Standing nothingLeft) (pure result : NodePath K CallbackReturn)
      (fun result => Standing (Provides result)) (Standing unwatched) := fun _ _ holds =>
  ⟨trivial, holds.2, fun success => absurd success unsuccessful, fun _ => holds.1⟩

theorem configureNode_provides : Path.Confines (fun _ => True) (Standing nothingLeft)
    (configureNode assignment bus now) (fun result => Standing (Provides result))
    (Standing unwatched) := by
  have quiet {α : Type} {path : NodePath K α} (offstage : Offstage path) :=
    kept_unwatched nothingLeft (fun _ _ => And.right) offstage.steady
  refine Path.Confines.bind (quiet readGlobals_offstage) fun jointNames => ?_
  refine Path.Confines.bind (quiet (Path.Evolves.read _)) fun defaults => ?_
  refine Path.Confines.bind (quiet (Path.Evolves.update fun _ => rfl)) fun _ => ?_
  refine Path.Confines.bind (quiet (checked_offstage _)) fun found => ?_
  cases found with
  | none => exact provides_unsuccessful nofun
  | some seen =>
      have prepare : Path.Confines (fun _ => True) (Standing nothingLeft)
          (Path.update (prepareTables seen jointNames.length now) : NodePath K Unit)
          (fun _ => Standing nothingLeft) (Standing unwatched) :=
        Path.Confines.update fun _ _ holds => ⟨trivial, holds⟩
      refine Path.Confines.bind prepare fun _ => ?_
      refine Path.Confines.bind (quiet (buildTables_offstage (K := K) _)) fun built => ?_
      cases built with
      | none => exact provides_unsuccessful nofun
      | some configs =>
          refine Path.Confines.bind (quiet (createInterfaces_offstage _)) fun _ => ?_
          exact Path.Confines.bind startPublishing_provides fun _ => startMotors_provides

theorem onConfigure_provides : Path.Confines (fun _ => True) (Standing nothingLeft)
    (onConfigure assignment bus now) (fun result => Standing (Provides result))
    (Standing unwatched) := by
  have failed : Path.Confines (fun _ => True) (Standing unwatched)
      (pure .error : NodePath K CallbackReturn) (fun result => Standing (Provides result))
      (Standing unwatched) := fun _ _ holds => ⟨trivial, holds, nofun, nofun⟩
  refine Path.Confines.bind (kept_unwatched nothingLeft (fun _ _ => And.right) (checked_offstage _).steady)
    fun _ => Path.Confines.tryCatch configureNode_provides fun exception => ?_
  cases exception with
  | parameterUninitialized name => exact failed
  | canInterfaceError =>
      exact Path.Confines.bind (kept_unwatched unwatched (fun _ _ => id) clearInterfaces_offstage.steady)
        fun _ => failed
  | outOfRange => exact fun _ _ holds => ⟨trivial, holds⟩
  | rangeError => exact fun _ _ holds => ⟨trivial, holds⟩
  | canDeviceError canId => exact fun _ _ holds => ⟨trivial, holds⟩
  | motorError canId errorCode => exact fun _ _ holds => ⟨trivial, holds⟩
  | parameterType name => exact fun _ _ holds => ⟨trivial, holds⟩
  | invalidArgument => exact fun _ _ holds => ⟨trivial, holds⟩

theorem configure_suited : KeepsSuited (configure assignment bus now) := by
  refine (Path.Confines.of_run (fun _ _ _ => trivial) fun _ _ _ _ _ _ => trivial)
    |>.weaken_post fun _ after ran => ?_
  obtain ⟨node, _, suited, run⟩ := ran
  obtain ⟨_, rfl⟩ | ⟨unconfigured, result, middle, callback, settled⟩ := transition_returned run
  · exact suited
  rw [Suited, unconfigured] at suited
  have standing : Standing nothingLeft ({ node with lifecycle := .inTransition } : Node K) := suited
  have ends := settle_returned settled
  have errs (off : middle.watchdogTimer = false) (isError : result = .error) : after.Suited := by
    subst isError
    obtain ⟨handled, errored, errorRun, rfl⟩ := ends
    obtain ⟨_, rfl, withdrawn⟩ := onError_withdraws.of_returned trivial off errorRun
    exact withdrawn
  obtain returned | ⟨exception, thrown, raised, handled⟩ := Path.tryCatch_run_returned.mp callback
  · obtain ⟨_, off, offered, withdrawn⟩ :=
      onConfigure_provides.of_returned trivial standing returned
    cases result with
    | success =>
        rw [ends]
        exact ⟨offered rfl, off⟩
    | failure =>
        rw [ends]
        exact ⟨withdrawn rfl, off⟩
    | error => exact errs off rfl
  · obtain ⟨_, off⟩ := onConfigure_provides.of_thrown trivial standing raised
    cases handled
    exact errs off rfl

omit [Scalar K] in
/-- An activation is refused, or activates the node, or finalizes it. -/
theorem activate_ends (run : activate.run node = (.returned (), after)) :
    after = node ∨ node.lifecycle = .inactive ∧
      (after = { node with lifecycle := .active, watchdogTimer := true } ∨
        node.watchdogFrequency ≤ 0 ∧ after = { node with lifecycle := .finalized }) := by
  rw [activate_run, Prod.mk.injEq] at run
  rw [← run.2]
  split
  · rename_i possible
    refine .inr ⟨possible.1, ?_⟩
    rw [activated]
    split
    · exact .inl rfl
    · exact .inr ⟨by omega, rfl⟩
  · exact .inl rfl

omit [Scalar K] in
theorem activate_provisioned (provisioned : node.Provisioned)
    (run : activate.run node = (.returned (), after)) : after.Provisioned := by
  obtain rfl | ⟨inactive, ends⟩ := activate_ends run
  · exact provisioned
  rw [Provisioned, inactive] at provisioned
  obtain ⟨offered, watchdogTimer, threads, interfaces⟩ := provisioned
  rcases ends with rfl | ⟨periodless, rfl⟩
  · exact ⟨offered, rfl, threads, interfaces⟩
  · exact .inr ⟨periodless, offered, watchdogTimer, threads, interfaces⟩

theorem deactivate_suited : KeepsSuited (deactivate : NodePath K Unit) := by
  intro node _ suited
  rw [deactivate_run]
  refine ⟨trivial, show Suited (if node.lifecycle = .active then node.deactivated else node) from ?_⟩
  split
  · rename_i active
    rw [Suited, active] at suited
    exact ⟨suited.1, rfl⟩
  · exact suited

/-- A shutdown withdraws what the state before it had. -/
theorem onShutdown_withdraws (previousState : Lifecycle) : Path.Confines (fun _ => True)
    (Standing (Suits previousState)) (onShutdown previousState : NodePath K CallbackReturn)
    (fun result node => result = .success ∧ Standing nothingLeft node) fun _ => False := by
  let stopped (watchdogTimer : Bool) (amenities : Amenities) : Prop := watchdogTimer = false ∧
    (previousState ≠ .active → previousState ≠ .inactive → amenities.Withdrawn)
  have stops : Path.Confines (fun _ => True) (Standing (Suits previousState))
      (Path.when (previousState = .active)
        (Path.tryCatch (do let _ ← onDeactivate) fun _ => pure ()) : NodePath K Unit)
      (fun _ => Standing stopped) fun _ => False := by
    refine Path.Confines.ite (fun active => ?_) fun inactive node _ suits => ?_
    · intro node _ _
      exact ⟨trivial, rfl, fun different => absurd active different⟩
    · refine ⟨trivial, ?_, fun notActive notInactive => ?_⟩ <;>
        cases previousState <;> simp_all [Standing, Suits]
  have cleans : Path.Confines (fun _ => True) (Standing stopped)
      (Path.when (previousState = .active ∨ previousState = .inactive)
        (Path.tryCatch (do let _ ← onCleanup) fun _ => pure ()) : NodePath K Unit)
      (fun _ => Standing nothingLeft) fun _ => False := by
    refine Path.Confines.ite (fun _ => ?_) fun neither node _ holds => ?_
    · have cleaned : Path.Confines (fun _ => True) (Standing stopped)
          (do let _ ← onCleanup : NodePath K Unit) (fun _ => Standing nothingLeft) fun _ => False := by
        refine Path.Confines.bind (((onCleanup_withdraws false).and onCleanup_catches).consequence
          (fun _ holds => ⟨holds.1, trivial⟩) (fun _ _ => And.left) fun _ => And.right) ?_
        exact fun _ _ _ holds => ⟨trivial, holds.2⟩
      exact Path.Confines.tryCatch cleaned fun _ _ _ impossible => impossible.elim
    · exact ⟨trivial, holds.2 (fun active => neither (.inl active))
        fun inactive => neither (.inr inactive), holds.1⟩
  refine Path.Confines.bind stops fun _ => Path.Confines.bind cleans fun _ => ?_
  exact fun _ _ holds => ⟨trivial, rfl, holds⟩

/-- A shutdown is refused, or leaves nothing of the node. -/
theorem shutdown_provisioned (provided : Provided node)
    (run : shutdown.run node = (.returned (), after)) : after.Provisioned := by
  rw [shutdown, Path.read_bind, Path.when] at run
  split at run
  · rename_i possible
    obtain ⟨refused, _⟩ | ⟨_, result, middle, callback, settled⟩ := transition_returned run
    · exact absurd rfl refused
    have running : node.lifecycle ≠ .finalized := fun finalized => by simp [finalized] at possible
    have standing : Standing (Suits node.lifecycle) ({ node with lifecycle := .inTransition } : Node K) :=
      provided.provisioned.suited running
    have start : Surroundings.Stage none none (fun _ => Between anyThreads node.lifecycle)
        ({ node with lifecycle := .inTransition } : Node K).surroundings :=
      ⟨provided.between.communication, provided.between.jointStateMsg, provided.between.situation⟩
    obtain returned | ⟨exception, thrown, raised, _⟩ := Path.tryCatch_run_returned.mp callback
    · obtain ⟨_, success, withdrawn, watchdogTimer⟩ :=
        (onShutdown_withdraws node.lifecycle).of_returned trivial standing returned
      have carries : Carries ({ node with lifecycle := .inTransition } : Node K)
          (Surroundings.Stage none none fun _ => Between anyThreads node.lifecycle)
          (onShutdown node.lifecycle)
          (fun result => Surroundings.Stage none none fun _ threads =>
            result = .success ∧ Dormant threads) anywhere := onShutdown_carries possible
      have dormant := (carries.of_returned scripted_self start returned).2.situation.2
      subst success
      rw [settle_returned settled]
      exact .inl ⟨withdrawn, watchdogTimer, dormant⟩
    · exact ((onShutdown_withdraws node.lifecycle).of_thrown trivial standing raised).2.elim
  · cases run
    exact provided.provisioned

omit [Scalar K] in
theorem supervisorCallback_suited : KeepsSuited (supervisorCallback : NodePath K Unit) := by
  refine Path.Confines.bind (keepsSuited_of (Path.Evolves.read _)) fun requested => ?_
  refine Path.Confines.bind (keepsSuited_of ?_) fun _ => Path.Confines.when fun _ => cleanup_suited
  exact Path.Evolves.update fun _ => rfl

theorem watchdogTimerCallback_suited : KeepsSuited (watchdogTimerCallback : NodePath K Unit) := by
  refine Path.Confines.bind (keepsSuited_of (Path.Evolves.read _)) fun received => ?_
  refine Path.Confines.bind (Path.Confines.when fun _ => deactivate_suited) fun _ => keepsSuited_of ?_
  exact Path.Evolves.update fun _ => rfl

theorem jointCmdMsgCallback_suited (command : JointCommand K) (cmdRxNs now : Int) :
    KeepsSuited (jointCmdMsgCallback command cmdRxNs now) := by
  refine keepsSuited_of (Path.Evolves.bind (Path.Evolves.read _) fun _ => Path.Evolves.ite
    (fun _ => ?_) fun _ => Path.Evolves.pure _)
  refine Path.Evolves.bind (Path.Evolves.update fun _ => rfl) fun _ => ?_
  refine Path.Evolves.bind (Path.Evolves.read _) fun _ => ?_
  exact Path.Evolves.bind (Path.Evolves.when fun _ => Path.Evolves.update fun _ => rfl) fun _ =>
    Path.Evolves.pure _

omit [Scalar K] in
/-- What follows the emergency loop of a service. -/
theorem failService_suited : KeepsSuited (do
    unlockCommunication .exclusive
    respond false canErrorMessage
    cleanup : NodePath K Unit) :=
  Path.Confines.bind (keepsSuited_of unlockCommunication_steady) fun _ =>
    Path.Confines.bind (respond_offstage _ _).keepsSuited fun _ => cleanup_suited

omit [Scalar K] in
theorem setInterfaceOrigins_suited : KeepsSuited (setInterfaceOrigins index : NodePath K Unit) := by
  have emergency : Offstage (Path.tryCatch disableAllAndOneMore fun _ => do
      let _ ← canInterface index : NodePath K Unit) :=
    Path.Evolves.tryCatch disableAllAndOneMore_offstage fun _ =>
      Path.Evolves.bind canInterface_offstage fun _ => Path.Evolves.pure _
  have handled : KeepsSuited (handleOriginError index : NodePath K Unit) :=
    Path.Confines.bind canInterface_offstage.keepsSuited fun _ =>
      Path.Confines.bind emergency.keepsSuited fun _ => failService_suited
  have origins : Path.Confines (fun _ => True) Suited (setMotorOrigins index : NodePath K Unit)
      (fun _ => Suited) Suited := by
    refine Path.Confines.of_preserves setMotorOrigins_offstage.steady (fun _ _ _ => id)
      fun before after same suited => ?_
    have suits : Suits after.lifecycle after.watchdogTimer after.amenities =
        Suits before.lifecycle before.watchdogTimer before.amenities :=
      congrArg (fun standing => Suits standing.1 standing.2.1 standing.2.2) same
    rwa [Suited, suits]
  exact Path.Confines.tryCatch origins fun _ => handled

omit [Scalar K] in
theorem setAllMotorsOriginHereCallback_suited :
    KeepsSuited (setAllMotorsOriginHereCallback : NodePath K Unit) := by
  refine Path.Confines.bind (keepsSuited_of (Path.Evolves.read _)) fun _ => Path.Confines.ite
    (fun _ => (respond_offstage _ _).keepsSuited) fun _ => ?_
  refine Path.Confines.bind (keepsSuited_of stopAllCommThreads_steady) fun _ => ?_
  refine Path.Confines.bind (keepsSuited_of lockCommunication_steady) fun _ => ?_
  refine Path.Confines.bind (Path.Confines.loopBelow fun _ => setInterfaceOrigins_suited) fun _ => ?_
  refine Path.Confines.bind (keepsSuited_of (Path.Evolves.loopBelow fun _ => startCommThread_steady))
    fun _ => ?_
  exact Path.Confines.bind (respond_offstage _ _).keepsSuited fun _ =>
    keepsSuited_of unlockCommunication_steady

omit [Scalar K] in
theorem setMotorOriginHereCallback_suited (motorId : Int) :
    KeepsSuited (setMotorOriginHereCallback motorId : NodePath K Unit) := by
  refine Path.Confines.bind (keepsSuited_of (Path.Evolves.read _)) fun _ => Path.Confines.ite
    (fun _ => (respond_offstage _ _).keepsSuited) fun _ => ?_
  refine Path.Confines.bind (keepsSuited_of (Path.Evolves.read _)) fun found => ?_
  rcases found with _ | ⟨index, target⟩
  · exact (respond_offstage _ _).keepsSuited
  refine Path.Confines.bind (keepsSuited_of stopCommThread_steady) fun _ => ?_
  refine Path.Confines.bind (keepsSuited_of lockCommunication_steady) fun _ => ?_
  refine Path.Confines.bind (keepsSuited_of (Path.Evolves.attempt restartMotors_offstage.steady))
    fun restarted => ?_
  cases restarted with
  | error exception =>
      refine Path.Confines.bind canInterface_offstage.keepsSuited fun _ => ?_
      exact Path.Confines.bind (keepsSuited_of (Path.Evolves.tryCatch disableAll_offstage.steady
        fun _ => Path.Evolves.pure _)) fun _ => failService_suited
  | ok value =>
      refine Path.Confines.bind (keepsSuited_of startCommThread_steady) fun _ => ?_
      refine Path.Confines.bind jointParameters_offstage.keepsSuited fun _ => ?_
      exact Path.Confines.bind (respond_offstage _ _).keepsSuited fun _ =>
        keepsSuited_of unlockCommunication_steady

variable [StdToString K] [Libm K]

/-- The operations that neither configure nor finalize a node. -/
def Operation.routine : Operation K → Bool
  | .configure .. | .activate | .shutdown => false
  | _ => true

/-- Every other operation that ends well leaves the timers of the state it ends in. -/
theorem Operation.suited {operation : Operation K} (routine : operation.routine = true)
    (free : node.holds = (none, none)) (suited : node.Suited)
    (run : operation.path.run node = (.returned (), after)) : after.Suited := by
  have keeps {path : NodePath K Unit} (kept : KeepsSuited path)
      (ran : path.run node = (.returned (), after)) : after.Suited :=
    (kept.of_returned trivial suited ran).2
  cases operation with
  | configure assignment bus now => cases routine
  | cleanup => exact keeps cleanup_suited run
  | activate => cases routine
  | deactivate => exact keeps deactivate_suited run
  | shutdown => cases routine
  | jointCmd command cmdRxNs now =>
      exact keeps (Path.Confines.bind (jointCmdMsgCallback_suited command cmdRxNs now) fun _ =>
        keepsSuited_of (Path.Evolves.pure _)) run
  | watchdogTimer => exact keeps watchdogTimerCallback_suited run
  | supervisorTimer => exact keeps supervisorCallback_suited run
  | canCycle canInterface times =>
      have changes : Operation.Changes node after.gate (.canCycle canInterface times) :=
        Operation.changes run
      obtain ⟨exit, _, callback, ends⟩ := Path.bind_run_returned.mp run
      cases ends
      have amenities :=
        (canCycleCallback_cycle.of_returned (cycleScripted_self free) free callback).1.amenities
      rw [Suited, amenities]
      rcases changes with same | ⟨active, deactivated⟩
      · have lifecycle : after.lifecycle = node.lifecycle := congrArg Gate.lifecycle same
        have watchdogTimer : after.watchdogTimer = node.watchdogTimer :=
          congrArg Gate.watchdogTimer same
        rw [lifecycle, watchdogTimer]
        exact suited
      · rw [Gate.deactivated, if_pos (show node.gate.lifecycle = .active from active)] at deactivated
        have lifecycle : after.lifecycle = .inactive := congrArg Gate.lifecycle deactivated
        have watchdogTimer : after.watchdogTimer = false := congrArg Gate.watchdogTimer deactivated
        rw [lifecycle, watchdogTimer]
        rw [Suited, active] at suited
        exact ⟨suited.1, rfl⟩
  | setAllMotorsOriginHere => exact keeps setAllMotorsOriginHereCallback_suited run
  | setMotorOriginHere motorId => exact keeps (setMotorOriginHereCallback_suited motorId) run
  | setParameters order batch =>
      exact keeps (Path.Confines.bind (onSetParametersCallback_offstage order batch).keepsSuited
        fun _ => keepsSuited_of (Path.Evolves.pure _)) run

end Operations

end CubemarsDriver.Node
