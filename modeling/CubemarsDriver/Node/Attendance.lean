import CubemarsDriver.Node.Activation
import CubemarsDriver.Node.Provisions

namespace CubemarsDriver.Node

open Foundation Can

/-! # The comm threads of a configured node

A service stops comm threads while it works on the motors, and starts the same ones before it
gives the bus back. -/

variable {K : Type} {node after : Node K} {index : Nat} {mode : LockMode}

theorem jointLists_length (node : Node K) : node.jointLists.length = node.numInterfaces :=
  List.length_map _

/-- What there is to know of threads and interfaces, entry by entry. -/
theorem attended_iff : node.Attended ↔ node.commThreads.length = node.jointLists.length ∧
    (∀ index < node.jointLists.length, node.commThreads[index]? = some startedThread) ∧
    ∀ joints ∈ node.jointLists, joints.isSome = true := by
  have present : (∀ can ∈ node.canInterfaces, can.isSome = true) ↔
      ∀ joints ∈ node.jointLists, joints.isSome = true := by
    rw [jointLists, List.forall_mem_map]
    simp only [Option.isSome_map]
  constructor
  · intro attended
    refine ⟨?_, fun index bound => ?_, present.mp attended.interfaces⟩
    · rw [attended.threads, List.length_replicate, jointLists_length]
    · rw [attended.threads, List.getElem?_replicate, if_pos (jointLists_length node ▸ bound)]
  · intro known
    obtain ⟨length, started, interfaces⟩ := known
    refine ⟨List.ext_getElem? fun index => ?_, present.mpr interfaces⟩
    rw [List.getElem?_replicate, ← jointLists_length]
    split
    · rename_i bound
      exact started index bound
    · rename_i outside
      exact List.getElem?_eq_none (by omega)

/-- No thread runs. -/
def Stopped (threads : List CommThread) : Prop :=
  ∀ (index : Nat) thread, threads[index]? = some thread → thread.running = false

theorem Dormant.stopped {threads : List CommThread} (dormant : Dormant threads) : Stopped threads :=
  fun index _ found => (runnings_of found).symm.trans (dormant index).1

/-- A loop starts the threads below and has not come to the others. -/
structure StartedBelow (count index : Nat) (node : Node K) : Prop where
  interfaces : node.numInterfaces = count
  below : ∀ other < index, node.commThreads[other]? = some startedThread
  above : ∀ other thread, index ≤ other → node.commThreads[other]? = some thread →
    thread.running = false

theorem StartedBelow.changed {count position : Nat} (started : StartedBelow count index node)
    (change : CommThread → CommThread) (running : ∀ thread, (change thread).running = thread.running)
    (later : index ≤ position) (log : List NodeEvent) :
    StartedBelow count index { node with log, commThreads := node.commThreads.modify position change } where
  interfaces := started.interfaces
  below other earlier := by
    rw [List.getElem?_modify, started.below other earlier]
    simp [show position ≠ other by omega]
  above other thread from_ found := by
    rw [List.getElem?_modify, Option.map_eq_map, Option.map_eq_some_iff] at found
    obtain ⟨before, there, rfl⟩ := found
    have stopped := started.above other before from_ there
    split
    · rw [running, stopped]
    · exact stopped

/-- The loop starts a thread for every interface. -/
theorem startAll_starts (count : Nat) : Path.Confines (fun _ => True) (StartedBelow count 0)
    (Path.loopBelow numInterfaces startCommThread : NodePath K Unit)
    (fun _ => StartedBelow count count) fun _ => True := by
  refine Path.Confines.loopCount count (StartedBelow count)
    (fun _ _ started => started.interfaces) fun index => ?_
  refine Path.Confines.bind (Path.Confines.element _) fun thread => Path.Confines.ite (fun _ => ?_)
    fun running node _ known => ?_
  · have joins : Path.Confines (fun _ => True) (StartedBelow count index)
        (Path.when thread.joinable (joinThread index) : NodePath K Unit)
        (fun _ => StartedBelow count index) fun _ => True := by
      refine Path.Confines.when fun _ => Path.Confines.bind (Path.Confines.read _) fun _ => ?_
      refine Path.Confines.updateDefined fun node after _ known changed => ?_
      rw [Option.ite_none_right_eq_some, Option.some.injEq] at changed
      obtain ⟨_, rfl⟩ := changed
      exact ⟨trivial, known.1.changed (fun thread => { thread with joinable := false }) (fun _ => rfl)
        le_rfl _⟩
    refine Path.Confines.bind (joins.strengthen_pre fun _ => And.left) fun _ => ?_
    refine Path.Confines.updateDefined fun node after _ started changed => ?_
    rw [Option.ite_none_right_eq_some, Option.some.injEq] at changed
    obtain ⟨bound, rfl⟩ := changed
    refine ⟨trivial, started.interfaces, fun other earlier => ?_, fun other thread later found => ?_⟩
    · show (node.commThreads.modify index _)[other]? = _
      rw [List.getElem?_modify]
      by_cases last : index = other
      · subst last
        rw [List.getElem?_eq_getElem bound]
        simp [startedThread]
      · rw [started.below other (by omega)]
        simp [last]
    · have same : (node.commThreads.modify index _)[other]? = some thread := found
      have different : index ≠ other := by omega
      exact started.above other thread (by omega)
        (by simpa [List.getElem?_modify, different] using same)
  · exact absurd (known.1.above index thread le_rfl known.2) running

theorem startAll_from_stopped : Path.Confines (fun _ => True)
    (fun node : Node K => Stopped node.commThreads)
    (Path.loopBelow numInterfaces startCommThread : NodePath K Unit)
    (fun _ node => ∀ index < node.numInterfaces, node.commThreads[index]? = some startedThread)
    fun _ => True := by
  intro node _ stopped
  refine ((startAll_starts node.numInterfaces).weaken_post fun _ after started => ?_) node trivial
    ⟨rfl, fun _ impossible => absurd impossible (Nat.not_lt_zero _), fun other thread _ => stopped other thread⟩
  intro index bound
  exact started.below index (started.interfaces ▸ bound)

theorem Offstage.threads {α : Type} {path : NodePath K α} (offstage : Offstage path) :
    Path.Preserves commThreads path := offstage.weaken fun _ _ same =>
  congrArg (fun scene : Scene => scene.surroundings.commThreads) same

theorem stopped_kept {α : Type} {path : NodePath K α} (kept : Path.Preserves commThreads path) :
    Path.Confines (fun _ => True) (fun node : Node K => Stopped node.commThreads) path
      (fun _ node => Stopped node.commThreads) fun _ => True := by
  refine (Path.Confines.of_preserves kept (fun _ _ _ => id) fun before after same stopped => ?_)
    |>.consequence (fun _ => id) (fun _ _ => id) fun _ _ => trivial
  have threads : after.commThreads = before.commThreads := same
  rwa [threads]

section Configuration

variable [Scalar K] {assignment : Assignment K} {configs : JointConfigs K} {bus : Bus} {now : Int}

/-- A successful configuration has started every thread. -/
def StartsAll (result : CallbackReturn) (node : Node K) : Prop :=
  result = .success → ∀ index < node.numInterfaces, node.commThreads[index]? = some startedThread

omit [Scalar K] in
theorem startMotors_starts : Path.Confines (fun _ => True)
    (fun node : Node K => Stopped node.commThreads) (startMotors configs) StartsAll fun _ => True := by
  refine Path.Confines.bind (stopped_kept enableMotors_offstage.threads) fun failed =>
    Path.Confines.ite (fun _ => ?_) fun _ => ?_
  · refine Path.Confines.bind (stopped_kept (Path.Evolves.loopBelow fun _ =>
      disableAfterFailure_offstage.threads)) fun _ => ?_
    exact Path.Confines.bind (stopped_kept clearInterfaces_offstage.threads) fun _ _ _ _ =>
      ⟨trivial, nofun⟩
  · refine Path.Confines.bind (stopped_kept ?_) fun _ => Path.Confines.bind (stopped_kept ?_)
      fun _ => Path.Confines.bind startAll_from_stopped fun _ _ _ started => ⟨trivial, fun _ => started⟩
    · exact Path.Evolves.update fun _ => rfl
    · exact startSupervisor_evolves fun _ => rfl

theorem configureNode_starts : Path.Confines (fun _ => True) (fun _ => True)
    (configureNode assignment bus now) StartsAll fun _ => True := by
  have failed (result : CallbackReturn) (unsuccessful : result ≠ .success) :
      Path.Confines (fun _ => True) (fun _ => True) (pure result : NodePath K CallbackReturn) StartsAll
        fun _ => True := fun _ _ _ => ⟨trivial, fun success => absurd success unsuccessful⟩
  refine Path.Confines.bind Path.Confines.anything fun jointNames => ?_
  refine Path.Confines.bind Path.Confines.anything fun defaults => ?_
  refine Path.Confines.bind Path.Confines.anything fun _ => ?_
  refine Path.Confines.bind Path.Confines.anything fun found => ?_
  cases found with
  | none => exact failed _ nofun
  | some seen =>
      have prepare : Path.Confines (fun _ => True) (fun _ => True)
          (Path.update (prepareTables seen jointNames.length now) : NodePath K Unit)
          (fun _ node => Stopped node.commThreads) fun _ => True :=
        Path.Confines.update fun _ _ _ => ⟨trivial, (dormant_replicate _).stopped⟩
      refine Path.Confines.bind prepare fun _ => ?_
      refine Path.Confines.bind (stopped_kept (buildTables_offstage (K := K) _).threads) fun built => ?_
      cases built with
      | none => exact (failed .failure nofun).strengthen_pre fun _ _ => trivial
      | some configs =>
          refine Path.Confines.bind (stopped_kept (createInterfaces_offstage _).threads) fun _ => ?_
          refine Path.Confines.bind (stopped_kept ?_) fun _ => startMotors_starts
          exact startPublishing_evolves fun _ => rfl

theorem onConfigure_starts {result : CallbackReturn}
    (run : (onConfigure assignment bus now).run node = (.returned result, after)) :
    StartsAll result after := by
  rw [onConfigure, Path.bind_run_returned] at run
  obtain ⟨_, _, _, run⟩ := run
  obtain returned | ⟨exception, _, _, handled⟩ := Path.tryCatch_run_returned.mp run
  · exact (configureNode_starts.of_returned trivial trivial returned).2
  · intro success
    subst success
    cases exception with
    | canInterfaceError =>
        rw [Path.bind_run_returned] at handled
        obtain ⟨_, _, _, impossible⟩ := handled
        cases impossible
    | _ => cases handled

theorem configure_attends (run : (configure assignment bus now).run node = (.returned (), after))
    (attended : node.lifecycle = .inactive ∨ node.lifecycle = .active → node.Attended)
    (configured : after.lifecycle = .inactive ∨ after.lifecycle = .active) : after.Attended := by
  obtain ⟨_, rfl⟩ | ⟨_, result, middle, callback, settled⟩ := transition_returned run
  · exact attended configured
  have ending := settle_returned settled
  cases result with
  | success =>
      obtain returned | ⟨_, _, _, handled⟩ := Path.tryCatch_run_returned.mp callback
      · obtain ⟨accepted, by_⟩ := onConfigure_configuredBy returned
        have lists : after.jointLists = (rowsOf accepted.settings accepted.count (·.config)).map some := by
          rw [ending]
          exact by_.lists
        have threads : after.commThreads.length = accepted.count := by
          rw [ending]
          exact by_.threads
        have count : after.jointLists.length = accepted.count := by
          rw [lists, List.length_map]
          simp [rowsOf]
        refine attended_iff.mpr ⟨threads.trans count.symm, fun index bound => ?_, ?_⟩
        · rw [ending]
          refine onConfigure_starts returned rfl index ?_
          rw [jointLists_length, ending] at bound
          exact bound
        · rw [lists, List.forall_mem_map]
          exact fun _ _ => rfl
      · cases handled
  | failure =>
      rw [ending] at configured
      simp at configured
  | error =>
      obtain ⟨handled, errored, _, rfl⟩ := ending
      cases handled <;> simp [lifecycleAfterError] at configured

end Configuration

/-- The bus is free. -/
def Quiescent (node : Node K) : Prop := node.canCommunicationMutex.hold = none

theorem unlockCommunication_quiescent : Path.Confines (fun _ => True) (fun _ => True)
    (unlockCommunication mode : NodePath K Unit) (fun _ => Quiescent) fun _ => True := by
  refine Path.Confines.updateDefined fun node after _ _ given => ?_
  obtain ⟨mutex, released, rfl⟩ := Option.map_eq_some_iff.mp given
  exact ⟨trivial, Mutex.hold_of_release released⟩

theorem onCleanup_quiescent : Path.Confines (fun _ => True) (fun _ => True)
    (onCleanup : NodePath K CallbackReturn) (fun _ => Quiescent) fun _ => True := by
  refine Path.Confines.bind Path.Confines.anything fun _ => ?_
  refine Path.Confines.bind Path.Confines.anything fun _ => ?_
  refine Path.Confines.bind Path.Confines.anything fun _ => ?_
  refine Path.Confines.bind Path.Confines.anything fun _ => ?_
  refine Path.Confines.bind Path.Confines.anything fun _ => ?_
  refine Path.Confines.bind Path.Confines.anything fun _ => ?_
  refine Path.Confines.bind Path.Confines.anything fun _ => ?_
  refine Path.Confines.bind Path.Confines.anything fun _ => ?_
  refine Path.Confines.bind Path.Confines.anything fun _ => ?_
  refine Path.Confines.bind unlockCommunication_quiescent fun _ => ?_
  exact Path.Confines.bind (Path.Confines.update fun _ _ free => ⟨trivial, free⟩) fun _ _ _ free =>
    ⟨trivial, free⟩

/-- A cleanup unconfigures an inactive node and keeps no mutex. -/
theorem cleanup_ends (run : cleanup.run node = (.returned (), after)) :
    (node.lifecycle = .inactive → after.lifecycle = .unconfigured) ∧
      (node.Quiescent → after.Quiescent) := by
  obtain ⟨refused, rfl⟩ | ⟨_, result, middle, callback, settled⟩ := transition_returned run
  · exact ⟨fun inactive => absurd inactive refused, id⟩
  obtain returned | ⟨_, _, raised, _⟩ := Path.tryCatch_run_returned.mp callback
  · have quiescent := (onCleanup_quiescent.of_returned trivial trivial returned).2
    have watched : ({ node with lifecycle := .inTransition } : Node K).watchdogTimer =
      node.watchdogTimer := rfl
    obtain ⟨_, success, _⟩ :=
      (onCleanup_withdraws node.watchdogTimer).of_returned trivial watched returned
    subst success
    rw [settle_returned settled]
    exact ⟨fun _ => rfl, fun _ => quiescent⟩
  · exact absurd raised onCleanup_catches.not_thrown

theorem cleanup_quiescent : Path.Confines (fun _ => True) Quiescent (cleanup : NodePath K Unit)
    (fun _ => Quiescent) fun _ => True := by
  refine (Path.Confines.of_run (fun _ _ _ => trivial) fun _ _ _ _ _ _ => trivial)
    |>.weaken_post fun _ after ran => ?_
  obtain ⟨node, _, free, run⟩ := ran
  exact (cleanup_ends run).2 free

/-- The threads, and the joints of the interfaces that they serve. -/
def served (node : Node K) : List CommThread × List (Option (List (JointConfig K))) :=
  (node.commThreads, node.jointLists)

/-- The interfaces are the ones that are listed, and no thread runs. -/
structure Relieved (lists : List (Option (List (JointConfig K))))
    (served : List CommThread × List (Option (List (JointConfig K)))) : Prop where
  length : served.1.length = lists.length
  stopped : Stopped served.1
  lists : served.2 = lists

/-- The interfaces are the ones that are listed, and each has a running thread. -/
structure Manned (lists : List (Option (List (JointConfig K))))
    (served : List CommThread × List (Option (List (JointConfig K)))) : Prop where
  length : served.1.length = lists.length
  started : ∀ index < lists.length, served.1[index]? = some startedThread
  lists : served.2 = lists

/-- Once a device error was handled the bus is free, and nothing is known. -/
def WhileBusy (fact : List CommThread × List (Option (List (JointConfig K))) → Prop)
    (node : Node K) : Prop := ¬ node.Quiescent → fact node.served

theorem setMotorOrigins_outline : Path.Preserves outline (setMotorOrigins index : NodePath K Unit) := by
  refine Path.Evolves.bind (Path.Evolves.bind (Path.Evolves.element _) fun _ => Path.Evolves.pure _)
    fun _ => Path.Evolves.loopBelow fun _ => ?_
  refine Path.Evolves.bind nameJoint_outline fun _ => Path.Evolves.bind (handshake_outline _) fun _ => ?_
  exact Path.Evolves.bind nameJoint_outline fun _ =>
    Path.Evolves.bind (handshake_outline _) fun _ => nameJoint_outline

theorem restartMotors_outline {target : Nat} :
    Path.Preserves outline (restartMotors index target : NodePath K Unit) := by
  refine Path.Evolves.bind (Path.Evolves.bind (Path.Evolves.element _) fun _ => Path.Evolves.pure _)
    fun _ => ?_
  refine Path.Evolves.bind (Path.Evolves.loopBelow fun _ => Path.Evolves.bind nameJoint_outline
    fun _ => handshake_outline _) fun _ => Path.Evolves.loopBelow fun _ => ?_
  exact Path.Evolves.bind (Path.Evolves.when fun _ => nameJoint_outline) fun _ =>
    Path.Evolves.bind (handshake_outline _) fun _ => nameJoint_outline

variable {lists : List (Option (List (JointConfig K)))}
variable {fact reached : List CommThread × List (Option (List (JointConfig K))) → Prop}

theorem Offstage.served {α : Type} {path : NodePath K α} (offstage : Offstage path)
    (kept : Path.Preserves outline path) : Path.Preserves served path := fun node =>
  Prod.ext (offstage.threads node) (congrArg Outline.jointLists (kept node))

theorem served_kept {α : Type} {path : NodePath K α} (kept : Path.Preserves served path) :
    Path.Confines (fun _ => True) (fun node => fact node.served) path (fun _ node => fact node.served)
      fun _ => True := by
  refine (Path.Confines.of_preserves kept (fun _ _ _ => id) fun before after same holds => ?_)
    |>.consequence (fun _ => id) (fun _ _ => id) fun _ _ => trivial
  rwa [same]

theorem Offstage.quiescent {α : Type} {path : NodePath K α} (offstage : Offstage path) :
    Path.Preserves (fun node => node.canCommunicationMutex.hold) path :=
  offstage.weaken fun _ _ same =>
    congrArg (fun scene : Scene => scene.surroundings.communicationHold) same

/-- A path that leaves the bus alone. -/
theorem whileBusy_of {path : NodePath K Unit}
    (held : Path.Preserves (fun node => node.canCommunicationMutex.hold) path)
    (leads : Path.Confines (fun _ => True) (fun node => fact node.served) path
      (fun _ node => reached node.served) fun _ => True) :
    Path.Confines (fun _ => True) (WhileBusy fact) path (fun _ => WhileBusy reached) fun _ => True := by
  refine (Path.Confines.of_run (fun _ _ _ => trivial) fun _ _ _ _ _ _ => trivial)
    |>.weaken_post fun _ after ran busy => ?_
  obtain ⟨node, _, holds, run⟩ := ran
  have hold : after.canCommunicationMutex.hold = node.canCommunicationMutex.hold := held.of_run run
  exact (leads.of_returned trivial (holds fun free => busy (hold.trans free)) run).2

theorem unlockCommunication_busy : Path.Confines (fun _ => True) (WhileBusy fact)
    (unlockCommunication mode : NodePath K Unit) (fun _ node => fact node.served) fun _ => True := by
  refine Path.Confines.updateDefined fun node after _ holds given => ?_
  obtain ⟨mutex, released, rfl⟩ := Option.map_eq_some_iff.mp given
  refine ⟨trivial, show fact node.served from holds fun free => ?_⟩
  rw [Quiescent, Mutex.held_of_release released] at free
  cases free

/-- A device error gives the bus back. -/
theorem setInterfaceOrigins_busy : Path.Confines (fun _ => True) (WhileBusy fact)
    (setInterfaceOrigins index) (fun _ => WhileBusy fact) fun _ => True := by
  refine Path.Confines.tryCatch (whileBusy_of setMotorOrigins_offstage.quiescent
    (served_kept (setMotorOrigins_offstage.served setMotorOrigins_outline))) fun _ => ?_
  refine Path.Confines.bind Path.Confines.anything fun _ => ?_
  refine Path.Confines.bind Path.Confines.anything fun _ => ?_
  refine Path.Confines.bind unlockCommunication_quiescent fun _ => ?_
  have answer : Path.Confines (fun _ => True) Quiescent
      (respond false canErrorMessage : NodePath K Unit) (fun _ => Quiescent) fun _ => True :=
    Path.Confines.update fun _ _ free => ⟨trivial, free⟩
  refine Path.Confines.bind answer fun _ => ?_
  exact cleanup_quiescent.weaken_post fun _ _ free busy => absurd free busy

theorem stopAllCommThreads_relieves (free : node.holds = (none, none))
    (manned : Manned lists node.served) (run : stopAllCommThreads.run node = (.returned (), after)) :
    Relieved lists after.served := by
  have stage : Surroundings.Stage none none (fun _ _ => True) node.surroundings :=
    ⟨congrArg Prod.fst free, congrArg Prod.snd free, trivial⟩
  have scripted : Scripted node node := scripted_self
  have carries : Carries node (Surroundings.Stage none none fun _ _ => True)
      (stopAllCommThreads : NodePath K Unit)
      (fun _ => Surroundings.Stage none none fun _ threads => True ∧ Dormant threads) anywhere :=
    stopAllCommThreads_carries
  have dormant := carries.of_returned scripted stage run
  have outline : after.outline = node.outline := stopAllCommThreads_outline.of_run run
  exact ⟨(congrArg Outline.threads outline).trans manned.length, dormant.2.situation.2.stopped,
    (congrArg Outline.jointLists outline).trans manned.lists⟩

theorem startAll_mans : Path.Confines (fun _ => True)
    (fun node : Node K => Relieved lists node.served)
    (Path.loopBelow numInterfaces startCommThread : NodePath K Unit)
    (fun _ node => Manned lists node.served) fun _ => True := by
  refine (Path.Confines.of_run (fun _ _ _ => trivial) fun _ _ _ _ _ _ => trivial)
    |>.weaken_post fun _ after ran => ?_
  obtain ⟨node, _, relieved, run⟩ := ran
  have kept : Path.Preserves outline (Path.loopBelow numInterfaces startCommThread : NodePath K Unit) :=
    Path.Evolves.loopBelow fun _ => startCommThread_outline
  have outline : after.outline = node.outline := kept.of_run run
  have joints : after.jointLists = lists :=
    (congrArg Outline.jointLists outline).trans relieved.lists
  refine ⟨(congrArg Outline.threads outline).trans relieved.length, fun index bound => ?_, joints⟩
  refine (startAll_from_stopped.of_returned trivial relieved.stopped run).2 index ?_
  rwa [← jointLists_length, joints]

theorem changeThread_hold {event : NodeEvent} {change : CommThread → CommThread} :
    Path.Preserves (fun node => node.canCommunicationMutex.hold)
      (changeThread index event change : NodePath K Unit) := by
  refine Path.Evolves.updateDefined fun node after changed => ?_
  rw [Option.ite_none_right_eq_some, Option.some.injEq] at changed
  obtain ⟨_, rfl⟩ := changed
  rfl

theorem startCommThread_hold : Path.Preserves (fun node => node.canCommunicationMutex.hold)
    (startCommThread index : NodePath K Unit) := by
  refine Path.Evolves.bind (Path.Evolves.element _) fun _ => Path.Evolves.when fun _ => ?_
  exact Path.Evolves.bind (Path.Evolves.when fun _ =>
    Path.Evolves.bind (Path.Evolves.read _) fun _ => changeThread_hold) fun _ => changeThread_hold

theorem respond_served {success : Bool} {message : String} :
    Path.Preserves served (respond success message : NodePath K Unit) :=
  Path.Evolves.update fun _ => rfl

theorem lockCommunication_served : Path.Preserves served (lockCommunication mode : NodePath K Unit) :=
  Path.Evolves.updateFound fun _ _ => rfl

theorem setAllMotorsOriginHereCallback_mans (free : node.holds = (none, none))
    (manned : Manned lists node.served)
    (run : setAllMotorsOriginHereCallback.run node = (.returned (), after)) :
    Manned lists after.served := by
  rw [setAllMotorsOriginHereCallback, Path.read_bind] at run
  split at run
  · rwa [show after.served = node.served from respond_served.of_run run]
  rw [Path.bind_run_returned] at run
  obtain ⟨_, paused, stop, run⟩ := run
  have lock : Path.Confines (fun _ => True) (fun node : Node K => Relieved lists node.served)
      (lockCommunication .exclusive) (fun _ => WhileBusy (Relieved lists)) fun _ => True :=
    (served_kept lockCommunication_served).weaken_post fun _ _ relieved _ => relieved
  have rest : Path.Confines (fun _ => True) (fun node : Node K => Relieved lists node.served)
      (do
        lockCommunication .exclusive
        Path.loopBelow numInterfaces setInterfaceOrigins
        Path.loopBelow numInterfaces startCommThread
        respond true allMotorsSetMessage
        unlockCommunication .exclusive : NodePath K Unit)
      (fun _ node => Manned lists node.served) fun _ => True := by
    refine Path.Confines.bind lock fun _ => ?_
    refine Path.Confines.bind (Path.Confines.loopBelow fun _ => setInterfaceOrigins_busy) fun _ => ?_
    have starts : Path.Confines (fun _ => True) (WhileBusy (Relieved lists))
        (Path.loopBelow numInterfaces startCommThread : NodePath K Unit)
        (fun _ => WhileBusy (Manned lists)) fun _ => True :=
      whileBusy_of (Path.Evolves.loopBelow fun _ => startCommThread_hold) startAll_mans
    refine Path.Confines.bind starts fun _ => ?_
    refine Path.Confines.bind (whileBusy_of (respond_offstage _ _).quiescent
      (served_kept respond_served)) fun _ => ?_
    exact unlockCommunication_busy
  exact (rest.of_returned trivial (stopAllCommThreads_relieves free manned stop) run).2

/-- Every other interface has a running thread. -/
structure AllBut (index : Nat) (lists : List (Option (List (JointConfig K))))
    (served : List CommThread × List (Option (List (JointConfig K)))) : Prop where
  length : served.1.length = lists.length
  stopped : runnings served.1 index = false
  started : ∀ other < lists.length, other ≠ index → served.1[other]? = some startedThread
  lists : served.2 = lists

theorem changeThread_served {event : NodeEvent} {change : CommThread → CommThread}
    (leads : ∀ threads joints, fact (threads, joints) → index < threads.length →
      reached (threads.modify index change, joints)) :
    Path.Confines (fun _ => True) (fun node : Node K => fact node.served)
      (changeThread index event change) (fun _ node => reached node.served) fun _ => True := by
  refine Path.Confines.updateDefined fun node after _ holds changed => ?_
  rw [Option.ite_none_right_eq_some, Option.some.injEq] at changed
  obtain ⟨bound, rfl⟩ := changed
  exact ⟨trivial, leads _ _ holds bound⟩

theorem AllBut.changed {threads : List CommThread} {joints : List (Option (List (JointConfig K)))}
    {change : CommThread → CommThread} (spared : AllBut index lists (threads, joints))
    (running : ∀ thread, (change thread).running = thread.running) :
    AllBut index lists (threads.modify index change, joints) where
  length := (List.length_modify ..).trans spared.length
  stopped := by
    rw [show (threads.modify index change, joints).1 = threads.modify index change from rfl,
      runnings_kept running]
    exact spared.stopped
  started other bound different := by
    show (threads.modify index change)[other]? = _
    rw [List.getElem?_modify_ne _ _ different.symm]
    exact spared.started other bound different
  lists := spared.lists

theorem stopCommThread_allBut : Path.Confines (fun _ => True)
    (fun node : Node K => Manned lists node.served) (stopCommThread index)
    (fun _ node => AllBut index lists node.served) fun _ => True := by
  have signals : Path.Confines (fun _ => True) (fun node : Node K => Manned lists node.served)
      (signalThread index) (fun _ node => AllBut index lists node.served) fun _ => True := by
    refine changeThread_served fun threads joints manned bound => ?_
    refine ⟨(List.length_modify ..).trans manned.length, ?_, fun other within different => ?_,
      manned.lists⟩
    · show runnings (threads.modify index _) index = false
      rw [runnings, List.getElem?_modify_eq, List.getElem?_eq_getElem bound]
      rfl
    · show (threads.modify index _)[other]? = _
      rw [List.getElem?_modify_ne _ _ different.symm]
      exact manned.started other within
  refine Path.Confines.bind signals fun _ => ?_
  refine Path.Confines.bind (served_kept (Path.Evolves.element _)) fun thread => ?_
  refine Path.Confines.when fun _ => ?_
  refine Path.Confines.bind (served_kept (Path.Evolves.read _)) fun _ => ?_
  exact changeThread_served fun _ _ spared _ => spared.changed fun _ => rfl

theorem startCommThread_mans : Path.Confines (fun _ => True)
    (fun node : Node K => AllBut index lists node.served) (startCommThread index)
    (fun _ node => Manned lists node.served) fun _ => True := by
  refine Path.Confines.bind (Path.Confines.element _) fun thread => Path.Confines.ite (fun _ => ?_)
    fun running node _ known => ?_
  · refine Path.Confines.strengthen_pre ?_ fun _ => And.left
    have joins : Path.Confines (fun _ => True) (fun node : Node K => AllBut index lists node.served)
        (Path.when thread.joinable (joinThread index))
        (fun _ node => AllBut index lists node.served) fun _ => True := by
      refine Path.Confines.when fun _ => ?_
      refine Path.Confines.bind (served_kept (Path.Evolves.read _)) fun _ => ?_
      exact changeThread_served fun _ _ spared _ => spared.changed fun _ => rfl
    refine Path.Confines.bind joins fun _ => changeThread_served fun threads joints spared bound => ?_
    refine ⟨(List.length_modify ..).trans spared.length, fun other within => ?_, spared.lists⟩
    show (threads.modify index _)[other]? = _
    by_cases same : index = other
    · subst same
      rw [List.getElem?_modify_eq, List.getElem?_eq_getElem bound]
      rfl
    · rw [List.getElem?_modify_ne _ _ same]
      exact spared.started other within (Ne.symm same)
  · have rest := known.1.stopped
    rw [show runnings node.served.1 index = _ from runnings_of known.2] at rest
    exact absurd rest running

theorem inactive_kept {α : Type} {path : NodePath K α} {value : α}
    (steady : Path.Preserves standing path) (inactive : node.lifecycle = .inactive)
    (run : path.run node = (.returned value, after)) : after.lifecycle = .inactive :=
  have same : after.standing = node.standing := steady.of_run run
  (congrArg Prod.fst same).trans inactive

/-- Unless the node was unconfigured, every interface has its thread again. -/
theorem setMotorOriginHereCallback_mans {motorId : Int} (manned : Manned lists node.served)
    (run : (setMotorOriginHereCallback motorId).run node = (.returned (), after))
    (configured : after.lifecycle = .inactive ∨ after.lifecycle = .active) :
    Manned lists after.served := by
  rw [setMotorOriginHereCallback, Path.read_bind] at run
  split at run
  · rwa [show after.served = node.served from respond_served.of_run run]
  rename_i inactive
  rw [not_not] at inactive
  rw [Path.read_bind] at run
  split at run
  · rwa [show after.served = node.served from respond_served.of_run run]
  rename_i index target found
  rw [Path.bind_run_returned] at run
  obtain ⟨_, paused, stop, run⟩ := run
  rw [Path.bind_run_returned] at run
  obtain ⟨_, locked, lock, run⟩ := run
  rw [Path.bind_run_returned] at run
  obtain ⟨restarted, tried, restart, run⟩ := run
  have restarts : Offstage (Path.attempt (restartMotors index target) : NodePath K _) :=
    Path.Evolves.attempt restartMotors_offstage
  have spared : AllBut index lists tried.served := by
    have served : tried.served = locked.served :=
      (restarts.served (Path.Evolves.attempt restartMotors_outline)).of_run restart
    rw [served, show locked.served = paused.served from lockCommunication_served.of_run lock]
    exact (stopCommThread_allBut.of_returned trivial manned stop).2
  have still : tried.lifecycle = .inactive :=
    inactive_kept restarts.steady (inactive_kept lockCommunication_steady
      (inactive_kept stopCommThread_steady inactive stop) lock) restart
  cases restarted with
  | error exception =>
      simp only [Path.bind_run_returned] at run
      obtain ⟨_, accessed, access, _, disabled, disable, _, unlocked, unlock, _, answered, answer,
        ending⟩ := run
      have disables : Path.Preserves standing (Path.tryCatch disableAll fun _ => pure () : NodePath K Unit) :=
        Path.Evolves.tryCatch disableAll_offstage.steady fun _ => Path.Evolves.pure _
      have before : answered.lifecycle = .inactive :=
        inactive_kept (respond_offstage _ _).steady (inactive_kept unlockCommunication_steady
          (inactive_kept disables (inactive_kept canInterface_offstage.steady still access) disable)
          unlock) answer
      rw [(cleanup_ends ending).1 before] at configured
      simp at configured
  | ok value =>
      have rest : Path.Confines (fun _ => True) (fun node : Node K => AllBut index lists node.served)
          (do
            startCommThread index
            let params ← jointParameters index target
            respond true (motorSetMessage motorId params.name)
            unlockCommunication .exclusive : NodePath K Unit)
          (fun _ node => Manned lists node.served) fun _ => True := by
        refine Path.Confines.bind startCommThread_mans fun _ => ?_
        refine Path.Confines.bind (served_kept (Path.Evolves.element _)) fun _ => ?_
        refine Path.Confines.bind (served_kept respond_served) fun _ => ?_
        exact served_kept (Path.Evolves.updateFound fun _ _ => rfl)
      exact (rest.of_returned trivial spared run).2

section Operations

variable [Scalar K] {assignment : Assignment K} {bus : Bus} {now : Int}

omit [Scalar K] in
theorem unstopped (threads : List CommThread) : threads.modify index
    (fun thread => { thread with running := thread.running && !false }) = threads := by
  refine List.ext_getElem? fun other => ?_
  rw [List.getElem?_modify]
  cases threads[other]? with
  | none => rfl
  | some thread => simp

/-- A cycle that nothing interferes with stops no thread and replaces no interface. -/
theorem servedRules (start : Node K) (index : Nat) (times : CycleTimes) :
    CycleRules (Path.Unchanged (fun node => (node.served, node.watchdogFrequency)) start)
      (fun _ _ _ => True) index times.env where
  work _ _ same :=
    ⟨fun reached => Eq.trans (congrArg (fun still : Still K =>
      ((still.surroundings.commThreads, still.jointLists), still.watchdogFrequency)) same) reached,
      fun _ _ _ => trivial⟩
  lockCommunication _ := .of_evolves (Path.Evolves.updateFound fun _ _ => rfl)
  unlockCommunication _ := .of_evolves (Path.Evolves.updateFound fun _ _ => rfl)
  lockJointStateMsg _ := .of_evolves (Path.Evolves.updateFound fun _ _ => rfl)
  unlockJointStateMsg _ := .of_evolves (Path.Evolves.updateFound fun _ _ => rfl)
  observeLifecycle _ _ := .of_evolves (Path.Evolves.bind (Path.Evolves.update fun _ => rfl)
    fun _ => Path.Evolves.read _)
  observeRunning point _ := .of_evolves (Path.Evolves.bind (Path.Evolves.update fun node =>
      Prod.ext (Prod.ext (unstopped node.commThreads) rfl) rfl)
    fun _ => Path.Evolves.bind (Path.Evolves.element _) fun _ => Path.Evolves.pure _)
  deactivate := .of_evolves fun node => by
    rw [deactivate_run]
    split <;> rfl
  request _ _ reached _ := ⟨reached, trivial⟩

omit [Scalar K] in
theorem Manned.attended (manned : Manned lists after.served)
    (interfaces : ∀ joints ∈ lists, joints.isSome = true) : after.Attended := by
  obtain ⟨length, started, same⟩ := manned
  have joints : after.jointLists = lists := same
  subst joints
  exact attended_iff.mpr ⟨length, started, interfaces⟩

omit [Scalar K] in
theorem Attended.manned (attended : node.Attended) : Manned node.jointLists node.served :=
  have known := attended_iff.mp attended
  ⟨known.1, known.2.1, rfl⟩

/-- What a node has, with the state and the period that it is for. -/
def provision (node : Node K) :=
  (node.standing, node.watchdogFrequency, node.served)

omit [Scalar K] in
theorem Provisioned.of_same (provisioned : node.Provisioned)
    (same : after.provision = node.provision) : after.Provisioned := by
  simp only [provision, standing, served, Prod.mk.injEq] at same
  obtain ⟨⟨lifecycle, watchdogTimer, amenities⟩, watchdogFrequency, threads, lists⟩ := same
  have attends (attended : node.Attended) : after.Attended := by
    rw [attended_iff] at attended ⊢
    rwa [threads, lists]
  have vacates (vacated : node.Vacated) : after.Vacated :=
    ⟨amenities ▸ vacated.withdrawn, watchdogTimer.trans vacated.watchdogTimer,
      threads ▸ vacated.dormant⟩
  have furnishes {watchdog : Bool} (furnished : node.Furnished watchdog) : after.Furnished watchdog :=
    ⟨amenities ▸ furnished.offered, watchdogTimer.trans furnished.watchdogTimer,
      attends furnished.attended⟩
  rw [Provisioned, lifecycle]
  rw [Provisioned] at provisioned
  cases found : node.lifecycle with
  | unconfigured => exact vacates (by rwa [found] at provisioned)
  | inactive => exact furnishes (by rwa [found] at provisioned)
  | active => exact furnishes (by rwa [found] at provisioned)
  | finalized =>
      rw [found] at provisioned
      rw [watchdogFrequency]
      exact provisioned.imp vacates (And.imp_right furnishes)
  | inTransition => rwa [found] at provisioned

omit [Scalar K] in
theorem served_of_provision {α : Type} {path : NodePath K α} (kept : Path.Preserves provision path) :
    Path.Preserves served path := kept.weaken fun before after same => by
  have same : after.provision = before.provision := same
  exact congrArg (fun provision => provision.2.2) same

theorem jointCmdMsgCallback_provision (command : JointCommand K) (cmdRxNs now : Int) :
    Path.Preserves provision (jointCmdMsgCallback command cmdRxNs now) := by
  refine Path.Evolves.bind (Path.Evolves.read _) fun _ => Path.Evolves.ite (fun _ => ?_) fun _ =>
    Path.Evolves.pure _
  refine Path.Evolves.bind (Path.Evolves.update fun _ => rfl) fun _ => ?_
  refine Path.Evolves.bind (Path.Evolves.read _) fun _ => ?_
  exact Path.Evolves.bind (Path.Evolves.when fun _ => Path.Evolves.update fun _ => rfl) fun _ =>
    Path.Evolves.pure _

theorem deactivate_served : Path.Preserves served (deactivate : NodePath K Unit) := fun node => by
  rw [deactivate_run]
  split <;> rfl

omit [Scalar K] in
theorem transition_rests {start goal : Lifecycle} {callback : NodePath K CallbackReturn}
    (other : node.lifecycle ≠ start)
    (run : (transition start goal callback).run node = (.returned (), after)) : after = node := by
  obtain ⟨_, same⟩ | ⟨started, _⟩ := transition_returned run
  · exact same
  · exact absurd started other

theorem deactivate_rests (other : node.lifecycle ≠ .active)
    (run : deactivate.run node = (.returned (), after)) : after = node := by
  rw [deactivate_run, if_neg other] at run
  cases run
  rfl

theorem watchdogTimerCallback_served : Path.Preserves served (watchdogTimerCallback : NodePath K Unit) := by
  refine Path.Evolves.bind (Path.Evolves.read _) fun _ => ?_
  refine Path.Evolves.bind (Path.Evolves.when fun _ => deactivate_served) fun _ => ?_
  exact Path.Evolves.update fun _ => rfl

omit [Scalar K] in
/-- A cleanup that leaves the node configured was refused. -/
theorem cleanup_refused (run : cleanup.run node = (.returned (), after))
    (configured : after.lifecycle = .inactive ∨ after.lifecycle = .active) : after = node := by
  have refused : node.lifecycle ≠ .inactive := fun inactive => by
    rw [(cleanup_ends run).1 inactive] at configured
    simp at configured
  obtain ⟨_, same⟩ | ⟨inactive, _⟩ := transition_returned run
  · exact same
  · exact absurd inactive refused

variable [StdToString K]

theorem onSetParametersCallback_provision (order : IterationOrder (String × PerJointUpdate K))
    (batch : List (Parameter K)) : Path.Preserves provision (onSetParametersCallback order batch) :=
  onSetParametersCallback_evolves (fun _ _ => rfl) (fun _ _ _ _ _ _ => rfl) order batch

variable [Libm K] {operation : Operation K}

omit [StdToString K] in
theorem cycle_served {canInterface : Nat} {times : CycleTimes} {exit : CycleExit}
    (callback : (canCycleCallback canInterface times.env).run node = (.returned exit, after)) :
    after.served = node.served :=
  congrArg Prod.fst ((canCycleCallback_cycles (servedRules node canInterface times)).of_returned
    rfl trivial callback).1

/-- A node that stays configured keeps its interfaces and has all its threads again. -/
theorem Operation.mans (routine : operation.routine = true)
    (free : node.holds = (none, none)) (manned : Manned lists node.served)
    (run : operation.path.run node = (.returned (), after))
    (configured : after.lifecycle = .inactive ∨ after.lifecycle = .active) :
    Manned lists after.served := by
  have keeps {path : NodePath K Unit} (kept : Path.Preserves served path)
      (ran : path.run node = (.returned (), after)) : Manned lists after.served := by
    rwa [show after.served = node.served from kept.of_run ran]
  cases operation with
  | configure assignment bus now => cases routine
  | cleanup => rwa [cleanup_refused run configured]
  | activate => cases routine
  | deactivate => exact keeps deactivate_served run
  | shutdown => cases routine
  | jointCmd command cmdRxNs now =>
      exact keeps (Path.Evolves.bind (served_of_provision
        (jointCmdMsgCallback_provision command cmdRxNs now)) fun _ => Path.Evolves.pure _) run
  | watchdogTimer => exact keeps watchdogTimerCallback_served run
  | supervisorTimer =>
      rw [show Operation.path .supervisorTimer = (supervisorCallback : NodePath K Unit) from rfl,
        supervisorCallback, Path.read_bind, Path.update_bind, Path.when] at run
      split at run
      · rw [cleanup_refused run configured]
        exact manned
      · cases run
        exact manned
  | canCycle canInterface times =>
      obtain ⟨exit, _, callback, ends⟩ := Path.bind_run_returned.mp run
      cases ends
      rwa [cycle_served callback]
  | setAllMotorsOriginHere => exact setAllMotorsOriginHereCallback_mans free manned run
  | setMotorOriginHere motorId => exact setMotorOriginHereCallback_mans manned run configured
  | setParameters order batch =>
      exact keeps (Path.Evolves.bind (served_of_provision
        (onSetParametersCallback_provision order batch)) fun _ => Path.Evolves.pure _) run

/-- Nothing is done for a finalized node, and nothing is taken from it. -/
theorem Operation.rests (finalized : node.lifecycle = .finalized) (free : node.holds = (none, none))
    (run : operation.path.run node = (.returned (), after)) : after.provision = node.provision := by
  have other {start : Lifecycle} (running : start ≠ .finalized) : node.lifecycle ≠ start :=
    fun started => running (started.symm.trans finalized)
  have notInactive : node.lifecycle ≠ .inactive := other (by decide)
  have notActive : node.lifecycle ≠ .active := other (by decide)
  cases operation with
  | configure assignment bus now => rw [transition_rests (other (by decide)) run]
  | cleanup => rw [transition_rests notInactive run]
  | activate => rw [transition_rests notInactive run]
  | deactivate => rw [deactivate_rests notActive run]
  | shutdown =>
      rw [show Operation.path .shutdown = (Node.shutdown : NodePath K Unit) from rfl, Node.shutdown,
        Path.read_bind, Path.when, if_neg (by simp [finalized])] at run
      cases run
      rfl
  | jointCmd command cmdRxNs now =>
      exact (Path.Evolves.bind (jointCmdMsgCallback_provision command cmdRxNs now) fun _ =>
        Path.Evolves.pure _).of_run run
  | watchdogTimer =>
      rw [show Operation.path .watchdogTimer = (watchdogTimerCallback : NodePath K Unit) from rfl,
        watchdogTimerCallback, Path.read_bind, Path.bind_run_returned] at run
      obtain ⟨_, middle, waited, rest⟩ := run
      cases rest
      rw [Path.when] at waited
      split at waited
      · rw [deactivate_rests notActive waited]
        rfl
      · cases waited
        rfl
  | supervisorTimer =>
      rw [show Operation.path .supervisorTimer = (supervisorCallback : NodePath K Unit) from rfl,
        supervisorCallback, Path.read_bind, Path.update_bind, Path.when] at run
      split at run
      · have passive : ({ node with cleanupRequested := false } : Node K).lifecycle ≠ .inactive :=
          notInactive
        rw [transition_rests passive run]
        rfl
      · cases run
        rfl
  | canCycle canInterface times =>
      have changes : Operation.Changes node after.gate (.canCycle canInterface times) :=
        Operation.changes run
      obtain ⟨exit, _, callback, ends⟩ := Path.bind_run_returned.mp run
      cases ends
      have gate := changes.resolve_right fun moved => notActive moved.1
      have standing : after.standing = node.standing := Prod.ext (congrArg Gate.lifecycle gate)
        (Prod.ext (congrArg Gate.watchdogTimer gate)
          (canCycleCallback_cycle.of_returned (cycleScripted_self free) free callback).1.amenities)
      have kept := ((canCycleCallback_cycles (servedRules node canInterface times)).of_returned
        rfl trivial callback).1
      exact Prod.ext standing (Prod.ext (congrArg Prod.snd kept) (congrArg Prod.fst kept))
  | setAllMotorsOriginHere =>
      rw [show Operation.path .setAllMotorsOriginHere = (setAllMotorsOriginHereCallback : NodePath K Unit)
        from rfl, setAllMotorsOriginHereCallback, Path.read_bind, if_pos notInactive] at run
      cases run
      rfl
  | setMotorOriginHere motorId =>
      rw [show Operation.path (.setMotorOriginHere motorId) =
          (setMotorOriginHereCallback motorId : NodePath K Unit) from rfl,
        setMotorOriginHereCallback, Path.read_bind, if_pos notInactive] at run
      cases run
      rfl
  | setParameters order batch =>
      exact (Path.Evolves.bind (onSetParametersCallback_provision order batch) fun _ =>
        Path.Evolves.pure _).of_run run

/-- A cycle ends as it began, except that it may deactivate the node. -/
theorem cycle_between {canInterface : Nat} {times : CycleTimes} (between : betweenCalls node.surroundings)
    (run : (Operation.canCycle canInterface times).path.run node = (.returned (), after)) :
    betweenCalls after.surroundings := by
  have free : node.holds = (none, none) := Prod.ext between.communication between.jointStateMsg
  have changes : Operation.Changes node after.gate (.canCycle canInterface times) :=
    Operation.changes run
  obtain ⟨exit, _, callback, ends⟩ := Path.bind_run_returned.mp run
  cases ends
  have released : after.holds = (none, none) :=
    (canCycleCallback_cycle.of_returned (cycleScripted_self free) free callback).2
  have threads : after.commThreads = node.commThreads := congrArg Prod.fst (cycle_served callback)
  refine ⟨congrArg Prod.fst released, congrArg Prod.snd released, trivial, fun unconfigured => ?_⟩
  rcases changes with same | ⟨active, deactivated⟩
  · have lifecycle : after.lifecycle = node.lifecycle := congrArg Gate.lifecycle same
    show Dormant after.commThreads
    rw [threads]
    exact between.situation.2 (lifecycle.symm.trans unconfigured)
  · rw [Gate.deactivated, if_pos (show node.gate.lifecycle = .active from active)] at deactivated
    have inactive : after.lifecycle = .inactive := congrArg Gate.lifecycle deactivated
    cases inactive.symm.trans unconfigured

theorem operate_between (between : betweenCalls node.surroundings)
    (run : operation.path.run node = (.returned (), after)) : betweenCalls after.surroundings := by
  cases called : operation.called with
  | true => exact ((Operation.carries called).of_returned scripted_self between run).2
  | false =>
      cases operation with
      | canCycle canInterface times => exact cycle_between between run
      | _ => cases called

theorem operate_provided (provided : Provided node) (moved : operate node operation = some after) :
    Provided after := by
  obtain ⟨_, run⟩ := operate_some.mp moved
  have free : node.holds = (none, none) :=
    Prod.ext provided.between.communication provided.between.jointStateMsg
  have between := operate_between provided.between run
  refine ⟨?_, between⟩
  by_cases finalized : node.lifecycle = .finalized
  · exact provided.provisioned.of_same (Operation.rests finalized free run)
  have suited := provided.provisioned.suited finalized
  cases routine : operation.routine with
  | true =>
      have other : ∀ assignment bus now, operation ≠ .configure assignment bus now :=
        fun _ _ _ same => by cases same; cases routine
      refine (Operation.suited routine free suited run).provisioned (fun configured => ?_) between
      have attended :=
        provided.provisioned.attended (Operation.configured_before other run configured)
      exact (Operation.mans routine free attended.manned run configured).attended
        (attended_iff.mp attended).2.2
  | false =>
      cases operation with
      | configure assignment bus now =>
          exact (configure_suited.of_returned trivial suited run).2.provisioned
            (configure_attends run provided.provisioned.attended) between
      | activate => exact activate_provisioned provided.provisioned run
      | shutdown => exact shutdown_provisioned provided run
      | _ => cases routine

end Operations

section Example

attribute [local instance] libmAtRest

end Example

end CubemarsDriver.Node
