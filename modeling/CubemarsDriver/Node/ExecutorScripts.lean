import CubemarsDriver.Node.LockScripts

namespace CubemarsDriver.Node

open Foundation Can

/-! # The scripts of the executor

Every path of the executor takes the mutexes in order, joins a comm thread only without a mutex
and after it has been told to stop, and replaces no thread that has to be joined. -/

variable {K : Type} {index joint : Nat} {mode : LockMode}

/-- How the mutexes are held, and a fact about the lifecycle and the threads. -/
structure Surroundings.Stage (communication jointStateMsg : Option LockMode)
    (situation : Lifecycle → List CommThread → Prop) (surroundings : Surroundings) : Prop where
  communication : surroundings.communicationHold = communication
  jointStateMsg : surroundings.jointStateMsgHold = jointStateMsg
  situation : situation surroundings.gate.lifecycle surroundings.commThreads

open Surroundings

/-- From the base on, the path and what came before it are a script. -/
abbrev Carries {α : Type} (base : Node K) (pre : Surroundings → Prop) (path : NodePath K α)
    (post : α → Surroundings → Prop) (raised : Surroundings → Prop) : Prop :=
  Path.Confines (Scripted base) (fun node => pre node.surroundings) path
    (fun value node => post value node.surroundings) fun node => raised node.surroundings

variable {base node after : Node K} {communication jointStateMsg : Option LockMode}
variable {situation reached : Lifecycle → List CommThread → Prop}
variable {pre raised : Surroundings → Prop}

theorem Scripted.step {event : NodeEvent} {action : NodeStep} (scripted : Scripted base node)
    (told : event.lockStep = some action) (logged : after.log = node.log ++ [event])
    (allowed : node.surroundings.scriptState.Allows action)
    (leads : after.surroundings.scriptState = node.surroundings.scriptState.after action) :
    Scripted base after := by
  have script : after.lockScript = node.lockScript ++ [action] := by
    rw [lockScript, logged, List.filterMap_append]
    simp [lockScript, told]
  have replays : Replays ScriptState.Allows ScriptState.after node.surroundings.scriptState [action]
      after.surroundings.scriptState := ⟨allowed, leads.symm⟩
  exact scripted.append script replays

theorem Offstage.carries {α : Type} {path : NodePath K α} (offstage : Offstage path) :
    Carries base pre path (fun _ => pre) pre := by
  refine Path.Confines.of_preserves offstage (fun before after same scripted => ?_)
    fun before after same holds => ?_
  · exact scripted.unscripted (congrArg Scene.script same)
      (congrArg (fun scene => scene.surroundings.scriptState) same)
  · have surroundings : after.surroundings = before.surroundings := congrArg Scene.surroundings same
    rwa [surroundings]

theorem pure_carries {α : Type} (value : α) :
    Carries base pre (pure value : NodePath K α) (fun _ => pre) raised :=
  fun _ scripted holds => ⟨scripted, holds⟩

/-- An update that takes no step. -/
theorem update_carries {change : Node K → Node K}
    (mutexes : ∀ node, (change node).canCommunicationMutex = node.canCommunicationMutex ∧
      (change node).jointStateMsgMutex = node.jointStateMsgMutex ∧ (change node).log = node.log)
    (leads : ∀ node, situation node.lifecycle node.commThreads →
      threadFlags (change node).commThreads = threadFlags node.commThreads ∧
        reached (change node).lifecycle (change node).commThreads) :
    Carries base (Stage communication jointStateMsg situation) (Path.update change)
      (fun _ => Stage communication jointStateMsg reached) raised := by
  refine Path.Confines.update fun node scripted stage => ?_
  obtain ⟨communicationSame, jointStateMsgSame, logged⟩ := mutexes node
  obtain ⟨flags, holds⟩ := leads node stage.situation
  have communicationHold : (change node).surroundings.communicationHold =
      node.surroundings.communicationHold := congrArg Mutex.hold communicationSame
  have jointStateMsgHold : (change node).surroundings.jointStateMsgHold =
      node.surroundings.jointStateMsgHold := congrArg Mutex.hold jointStateMsgSame
  refine ⟨scripted.unscripted (congrArg (List.filterMap NodeEvent.lockStep) logged) ?_,
    communicationHold.trans stage.communication, jointStateMsgHold.trans stage.jointStateMsg, holds⟩
  rw [scriptState, communicationHold, jointStateMsgHold]
  exact congrArg (fun flags => (⟨_, flags⟩ : ScriptState)) flags

/-- An update of the flags that decide about callbacks, or of data. -/
theorem update_aside {change : Node K → Node K}
    (same : ∀ node, (change node).canCommunicationMutex = node.canCommunicationMutex ∧
      (change node).jointStateMsgMutex = node.jointStateMsgMutex ∧ (change node).log = node.log)
    (threads : ∀ node, (change node).lifecycle = node.lifecycle ∧
      (change node).commThreads = node.commThreads) :
    Carries base (Stage communication jointStateMsg situation) (Path.update change)
      (fun _ => Stage communication jointStateMsg situation) raised := by
  refine update_carries same fun node holds => ?_
  rw [(threads node).1, (threads node).2]
  exact ⟨rfl, holds⟩

theorem setLifecycle_carries {lifecycle : Lifecycle}
    (leads : ∀ before threads, situation before threads → reached lifecycle threads) :
    Carries base (Stage communication jointStateMsg situation)
      (setLifecycle lifecycle : NodePath K Unit)
      (fun _ => Stage communication jointStateMsg reached) raised :=
  update_carries (fun _ => ⟨rfl, rfl, rfl⟩) fun _ holds => ⟨rfl, leads _ _ holds⟩

/-- The first mutex is taken while none is held. -/
theorem lockCommunication_carries : Carries base (Stage none none situation)
    (lockCommunication mode : NodePath K Unit) (fun _ => Stage (some mode) none situation) raised := by
  refine Path.Confines.updateDefined fun node after scripted stage taken => ?_
  obtain ⟨mutex, acquired, rfl⟩ := Option.map_eq_some_iff.mp taken
  have held := Mutex.hold_of_acquire acquired
  refine ⟨scripted.step (show (NodeEvent.communicationLocked mode).lockStep = some (.take .canCommunication mode) from rfl) rfl ⟨?_, trivial⟩ ?_, held,
    stage.jointStateMsg, stage.situation⟩
  · intro other holds
    rw [scriptState, stage.communication, stage.jointStateMsg, nodeHolding_nothing] at holds
    exact absurd rfl holds
  · show (⟨nodeHolding none mutex.hold node.surroundings.jointStateMsgHold, _⟩ : ScriptState) =
      ⟨Function.update (nodeHolding _ _ _) .canCommunication (some mode), _⟩
    rw [nodeHolding_communication, held]
    rfl

theorem unlockCommunication_carries :
    Carries base (Stage communication none situation) (unlockCommunication mode : NodePath K Unit)
      (fun _ surroundings => Stage none none situation surroundings ∧ communication = some mode)
      raised := by
  refine Path.Confines.updateDefined fun node after scripted stage given => ?_
  obtain ⟨mutex, released, rfl⟩ := Option.map_eq_some_iff.mp given
  have held : node.surroundings.communicationHold = some mode := Mutex.held_of_release released
  have free := Mutex.hold_of_release released
  refine ⟨scripted.step (show (NodeEvent.communicationUnlocked mode).lockStep = some (.give .canCommunication mode) from rfl) rfl ⟨held, trivial⟩ ?_,
    ⟨free, stage.jointStateMsg, stage.situation⟩, stage.communication.symm.trans held⟩
  show (⟨nodeHolding none mutex.hold node.surroundings.jointStateMsgHold, _⟩ : ScriptState) =
    ⟨Function.update (nodeHolding _ _ _) .canCommunication none, _⟩
  rw [nodeHolding_communication, free]
  rfl

/-- The second mutex is taken with or without the first. -/
theorem lockJointStateMsg_carries : Carries base (Stage communication none situation)
    (lockJointStateMsg mode : NodePath K Unit)
    (fun _ => Stage communication (some mode) situation) raised := by
  refine Path.Confines.updateDefined fun node after scripted stage taken => ?_
  obtain ⟨mutex, acquired, rfl⟩ := Option.map_eq_some_iff.mp taken
  have held := Mutex.hold_of_acquire acquired
  refine ⟨scripted.step (show (NodeEvent.jointStateMsgLocked mode).lockStep = some (.take .jointStateMsg mode) from rfl) rfl ⟨?_, trivial⟩ ?_,
    stage.communication, held, stage.situation⟩
  · intro other holds
    rw [scriptState, stage.jointStateMsg] at holds
    cases other with
    | jointParams => exact absurd rfl holds
    | canCommunication => decide
    | jointStateMsg => exact absurd rfl holds
  · show (⟨nodeHolding none node.surroundings.communicationHold mutex.hold, _⟩ : ScriptState) =
      ⟨Function.update (nodeHolding _ _ _) .jointStateMsg (some mode), _⟩
    rw [nodeHolding_jointStateMsg, held]
    rfl

theorem unlockJointStateMsg_carries : Carries base (Stage communication jointStateMsg situation)
    (unlockJointStateMsg mode : NodePath K Unit)
    (fun _ => Stage communication none situation) raised := by
  refine Path.Confines.updateDefined fun node after scripted stage given => ?_
  obtain ⟨mutex, released, rfl⟩ := Option.map_eq_some_iff.mp given
  have held : node.surroundings.jointStateMsgHold = some mode := Mutex.held_of_release released
  have free := Mutex.hold_of_release released
  refine ⟨scripted.step (show (NodeEvent.jointStateMsgUnlocked mode).lockStep = some (.give .jointStateMsg mode) from rfl) rfl ⟨held, trivial⟩ ?_,
    stage.communication, free, stage.situation⟩
  show (⟨nodeHolding none node.surroundings.communicationHold mutex.hold, _⟩ : ScriptState) =
    ⟨Function.update (nodeHolding _ _ _) .jointStateMsg none, _⟩
  rw [nodeHolding_jointStateMsg, free]
  rfl

/-- No thread runs or has to be joined. -/
def Dormant (threads : List CommThread) : Prop :=
  ∀ index, runnings threads index = false ∧ joinables threads index = false

theorem dormant_nil : Dormant [] := fun _ => ⟨rfl, rfl⟩

section Flags

variable {threads : List CommThread} {change : CommThread → CommThread}

theorem runnings_modify {running : Bool} (bound : index < threads.length)
    (changes : ∀ thread, (change thread).running = running) :
    runnings (threads.modify index change) = Function.update (runnings threads) index running := by
  funext other
  rw [runnings, List.getElem?_modify]
  by_cases same : other = index
  · subst same
    rw [Function.update_self, List.getElem?_eq_getElem bound]
    simp [changes]
  · rw [Function.update_of_ne same, runnings]
    simp [Ne.symm same]

theorem runnings_kept (kept : ∀ thread, (change thread).running = thread.running) :
    runnings (threads.modify index change) = runnings threads := by
  funext other
  rw [runnings, runnings, List.getElem?_modify]
  cases threads[other]? with
  | none => rfl
  | some thread => by_cases same : index = other <;> simp [same, kept]

theorem runnings_lt (running : runnings threads index = true) : index < threads.length := by
  by_contra outside
  rw [runnings, List.getElem?_eq_none (by omega)] at running
  cases running

theorem threadFlags_signalled (bound : index < threads.length) :
    threadFlags (threads.modify index fun thread => { thread with running := false }) =
      (threadFlags threads).after (.work (.signal index)) := by
  have running : runnings (threads.modify index fun thread => { thread with running := false }) =
      Function.update (runnings threads) index false := runnings_modify bound fun _ => rfl
  have joinable : joinables (threads.modify index fun thread => { thread with running := false }) =
      joinables threads := joinables_kept fun _ => rfl
  rw [threadFlags, running, joinable]
  rfl

theorem threadFlags_joined (bound : index < threads.length) :
    threadFlags (threads.modify index fun thread => { thread with joinable := false }) =
      (threadFlags threads).after (.await (commParty index)) := by
  have running : runnings (threads.modify index fun thread => { thread with joinable := false }) =
      runnings threads := runnings_kept fun _ => rfl
  have joinable : joinables (threads.modify index fun thread => { thread with joinable := false }) =
      Function.update (joinables threads) index false := joinables_modify bound fun _ => rfl
  rw [threadFlags, running, joinable]
  rfl

theorem threadFlags_started (bound : index < threads.length) :
    threadFlags (threads.modify index fun _ => startedThread) =
      (threadFlags threads).after (.work (.start index)) := by
  rw [threadFlags, runnings_modify bound fun _ => rfl, joinables_modify bound fun _ => rfl]
  rfl

theorem threadFlags_dormant (dormant : Dormant threads) :
    threadFlags threads = ⟨fun _ => false, fun _ => false⟩ := by
  rw [threadFlags, ThreadFlags.mk.injEq]
  exact ⟨funext fun index => (dormant index).1, funext fun index => (dormant index).2⟩

end Flags

/-- A step on one thread. -/
theorem changeThread_carries {event : NodeEvent} {action : NodeStep}
    {change : CommThread → CommThread} (told : event.lockStep = some action)
    (holding : action.holdingAfter (nodeHolding none communication jointStateMsg) =
      nodeHolding none communication jointStateMsg)
    (inOrder : action.InOrder NodeLock.rank (nodeHolding none communication jointStateMsg))
    (changes : ∀ lifecycle threads, situation lifecycle threads → index < threads.length →
      (threadFlags threads).Allows action ∧
        threadFlags (threads.modify index change) = (threadFlags threads).after action ∧
          reached lifecycle (threads.modify index change)) :
    Carries base (Stage communication jointStateMsg situation)
      (changeThread index event change : NodePath K Unit)
      (fun _ => Stage communication jointStateMsg reached) raised := by
  refine Path.Confines.updateDefined fun node after scripted stage changed => ?_
  rw [Option.ite_none_right_eq_some, Option.some.injEq] at changed
  obtain ⟨bound, rfl⟩ := changed
  obtain ⟨allowed, flags, holds⟩ := changes _ _ stage.situation bound
  refine ⟨scripted.step told rfl ⟨?_, allowed⟩ ?_, stage.communication, stage.jointStateMsg, holds⟩
  · rw [scriptState, stage.communication, stage.jointStateMsg]
    exact inOrder
  · rw [ScriptState.after, scriptState, scriptState, ScriptState.mk.injEq]
    simp only [stage.communication, stage.jointStateMsg, holding]
    refine ⟨?_, flags⟩
    show nodeHolding none node.surroundings.communicationHold node.surroundings.jointStateMsgHold = _
    rw [stage.communication, stage.jointStateMsg]

theorem signalThread_carries
    (leads : ∀ lifecycle threads, situation lifecycle threads → index < threads.length →
      reached lifecycle (threads.modify index fun thread => { thread with running := false })) :
    Carries base (Stage communication jointStateMsg situation)
      (signalThread index : NodePath K Unit)
      (fun _ => Stage communication jointStateMsg reached) raised :=
  changeThread_carries rfl rfl trivial fun _ _ holds bound =>
    ⟨trivial, threadFlags_signalled bound, leads _ _ holds bound⟩

/-- A thread that was told to stop is joined without a mutex. -/
theorem joinThread_carries
    (stopped : ∀ lifecycle threads, situation lifecycle threads →
      joinables threads index = true ∧ runnings threads index = false)
    (leads : ∀ lifecycle threads, situation lifecycle threads → index < threads.length →
      reached lifecycle (threads.modify index fun thread => { thread with joinable := false })) :
    Carries base (Stage none none situation) (joinThread index : NodePath K Unit)
      (fun _ => Stage none none reached) raised := by
  refine Path.Confines.bind (Path.Confines.read _) fun holdingMutex => ?_
  refine Path.Confines.strengthen_pre ?_ fun _ => And.left
  exact changeThread_carries rfl rfl nodeHolding_nothing fun _ _ holds bound =>
    ⟨stopped _ _ holds, threadFlags_joined bound, leads _ _ holds bound⟩

theorem commThread_carries :
    Carries base (Stage communication jointStateMsg situation) (commThread index)
      (fun thread => Stage communication jointStateMsg fun lifecycle threads =>
        situation lifecycle threads ∧ threads[index]? = some thread) raised := by
  refine (Path.Confines.element _).weaken_post fun thread node found => ?_
  exact ⟨found.1.communication, found.1.jointStateMsg, found.1.situation, found.2⟩

theorem runnings_of {threads : List CommThread} {thread : CommThread}
    (found : threads[index]? = some thread) : runnings threads index = thread.running := by
  rw [runnings, found, Option.any_some]

theorem joinables_of {threads : List CommThread} {thread : CommThread}
    (found : threads[index]? = some thread) : joinables threads index = thread.joinable := by
  rw [joinables, found, Option.any_some]

/-- A thread that was told to stop is joined if it has to be. -/
theorem joinIfJoinable_carries
    (stopped : ∀ lifecycle threads, situation lifecycle threads → runnings threads index = false)
    (joined : ∀ lifecycle threads, situation lifecycle threads → index < threads.length →
      reached lifecycle (threads.modify index fun thread => { thread with joinable := false }))
    (spared : ∀ lifecycle threads, situation lifecycle threads → joinables threads index = false →
      reached lifecycle threads) :
    Carries base (Stage none none situation)
      (do let thread ← commThread index; Path.when thread.joinable (joinThread index) : NodePath K Unit)
      (fun _ => Stage none none reached) raised := by
  refine Path.Confines.bind commThread_carries fun thread =>
    Path.Confines.ite (fun joinable => ?_) fun unjoinable node scripted stage => ?_
  · exact joinThread_carries
      (fun _ _ known => ⟨(joinables_of known.2).trans joinable, stopped _ _ known.1⟩)
      fun _ _ known bound => joined _ _ known.1 bound
  · obtain ⟨holds, found⟩ := stage.situation
    have rest := (joinables_of found).trans (Bool.eq_false_of_not_eq_true unjoinable)
    exact ⟨scripted, stage.communication, stage.jointStateMsg, spared _ _ holds rest⟩

section Threads

variable {lifecycles : Lifecycle → Prop}

/-- All threads are told to stop before the first one is joined. -/
theorem stopAllCommThreads_carries : Carries base
    (Stage none none fun lifecycle _ => lifecycles lifecycle)
    (stopAllCommThreads : NodePath K Unit)
    (fun _ => Stage none none fun lifecycle threads => lifecycles lifecycle ∧ Dormant threads)
    raised := by
  intro node scripted stage
  let count := node.commThreads.length
  let signalled (index : Nat) (lifecycle : Lifecycle) (threads : List CommThread) : Prop :=
    lifecycles lifecycle ∧ threads.length = count ∧
      ∀ other < index, runnings threads other = false
  let joined (index : Nat) (lifecycle : Lifecycle) (threads : List CommThread) : Prop :=
    lifecycles lifecycle ∧ threads.length = count ∧ (∀ other, runnings threads other = false) ∧
      ∀ other < index, joinables threads other = false
  have signals : Carries base (Stage none none (signalled 0))
      (Path.loopBelow threadCount signalThread : NodePath K Unit)
      (fun _ => Stage none none (signalled count)) raised := by
    refine Path.Confines.loopCount count
      (fun index (node : Node K) => Stage none none (signalled index) node.surroundings)
      (fun _ _ stage => stage.situation.2.1) fun index => signalThread_carries ?_
    intro lifecycle threads holds bound
    obtain ⟨allowed, length, below⟩ := holds
    refine ⟨allowed, (List.length_modify ..).trans length, fun other within => ?_⟩
    have running : runnings (threads.modify index fun thread => { thread with running := false }) =
        Function.update (runnings threads) index false := runnings_modify bound fun _ => rfl
    rw [running]
    by_cases last : other = index
    · rw [last, Function.update_self]
    · rw [Function.update_of_ne last, below other (by omega)]
  have joins : Carries base (Stage none none (joined 0))
      (Path.loopBelow threadCount fun index => do
        let thread ← commThread index
        Path.when thread.joinable (joinThread index) : NodePath K Unit)
      (fun _ => Stage none none (joined count)) raised := by
    refine Path.Confines.loopCount count
      (fun index (node : Node K) => Stage none none (joined index) node.surroundings)
      (fun _ _ stage => stage.situation.2.1) fun index => joinIfJoinable_carries ?_ ?_ ?_
    · exact fun lifecycle threads holds => holds.2.2.1 index
    · intro lifecycle threads holds bound
      obtain ⟨allowed, length, stopped, below⟩ := holds
      have running : runnings
          (threads.modify index fun thread => { thread with joinable := false }) =
          runnings threads := runnings_kept fun _ => rfl
      have joinable : joinables
          (threads.modify index fun thread => { thread with joinable := false }) =
          Function.update (joinables threads) index false := joinables_modify bound fun _ => rfl
      refine ⟨allowed, (List.length_modify ..).trans length, fun other => ?_, fun other within => ?_⟩
      · rw [running, stopped]
      · rw [joinable]
        by_cases last : other = index
        · rw [last, Function.update_self]
        · rw [Function.update_of_ne last, below other (by omega)]
    · intro lifecycle threads holds unjoinable
      obtain ⟨allowed, length, stopped, below⟩ := holds
      refine ⟨allowed, length, stopped, fun other within => ?_⟩
      by_cases last : other = index
      · rw [last, unjoinable]
      · exact below other (by omega)
  have all : Carries base (Stage none none (signalled 0)) (stopAllCommThreads : NodePath K Unit)
      (fun _ => Stage none none (joined count)) raised := by
    refine Path.Confines.bind signals fun _ => joins.strengthen_pre fun node stage => ?_
    obtain ⟨allowed, length, below⟩ := stage.situation
    refine ⟨stage.communication, stage.jointStateMsg, allowed, length, fun other => ?_, by simp⟩
    by_contra running
    rw [Bool.not_eq_false] at running
    rw [below other (length ▸ runnings_lt running)] at running
    cases running
  refine (all.weaken_post fun _ node stage => ?_) node scripted
    ⟨stage.communication, stage.jointStateMsg, stage.situation, rfl, by simp⟩
  obtain ⟨allowed, length, stopped, below⟩ := stage.situation
  refine ⟨stage.communication, stage.jointStateMsg, allowed, fun index => ⟨stopped index, ?_⟩⟩
  by_contra joinable
  rw [Bool.not_eq_false] at joinable
  rw [below index (length ▸ joinables_lt joinable)] at joinable
  cases joinable

/-- The thread is told to stop and joined. -/
theorem stopCommThread_carries : Carries base
    (Stage none none fun lifecycle _ => lifecycles lifecycle)
    (stopCommThread index : NodePath K Unit)
    (fun _ => Stage none none fun lifecycle threads =>
      lifecycles lifecycle ∧ joinables threads index = false) raised := by
  have signals : Carries base (Stage none none fun lifecycle _ => lifecycles lifecycle)
      (signalThread index : NodePath K Unit)
      (fun _ => Stage none none fun lifecycle threads =>
        lifecycles lifecycle ∧ runnings threads index = false) raised := by
    refine signalThread_carries fun lifecycle threads allowed bound => ⟨allowed, ?_⟩
    rw [runnings, List.getElem?_modify_eq, List.getElem?_eq_getElem bound]
    rfl
  refine Path.Confines.bind signals fun _ => joinIfJoinable_carries (fun _ _ holds => holds.2) ?_
    fun _ _ holds unjoinable => ⟨holds.1, unjoinable⟩
  intro lifecycle threads holds bound
  refine ⟨holds.1, ?_⟩
  rw [joinables, List.getElem?_modify_eq, List.getElem?_eq_getElem bound]
  rfl

/-- A thread that was joined, or never started, is replaced by a running one. -/
theorem replaceThread_carries
    (joined : ∀ lifecycle threads, situation lifecycle threads → joinables threads index = false)
    (leads : ∀ lifecycle threads, situation lifecycle threads → index < threads.length →
      reached lifecycle (threads.modify index fun _ => startedThread)) :
    Carries base (Stage communication jointStateMsg situation)
      (changeThread index (.threadStarted index) (fun _ => startedThread) : NodePath K Unit)
      (fun _ => Stage communication jointStateMsg reached) raised :=
  changeThread_carries rfl rfl trivial fun _ _ holds bound =>
    ⟨joined _ _ holds, threadFlags_started bound, leads _ _ holds bound⟩

/-- Where a thread that has to be joined is running, a start joins nothing. -/
theorem startCommThread_carries_live
    (live : ∀ lifecycle threads, situation lifecycle threads → LiveAt index threads)
    (leads : ∀ lifecycle threads, situation lifecycle threads → index < threads.length →
      situation lifecycle (threads.modify index fun _ => startedThread)) :
    Carries base (Stage communication jointStateMsg situation)
      (startCommThread index : NodePath K Unit)
      (fun _ => Stage communication jointStateMsg situation) raised := by
  refine Path.Confines.bind commThread_carries fun thread => Path.Confines.ite (fun stopped => ?_)
    fun _ node scripted stage =>
      ⟨scripted, stage.communication, stage.jointStateMsg, stage.situation.1⟩
  have unjoinable {lifecycle : Lifecycle} {threads : List CommThread}
      (known : situation lifecycle threads ∧ threads[index]? = some thread) :
      thread.joinable = false := by
    by_contra joinable
    rw [live _ _ known.1 thread known.2 (Bool.not_eq_false _ ▸ joinable)] at stopped
    cases stopped
  have none : Carries base (Stage communication jointStateMsg fun lifecycle threads =>
        situation lifecycle threads ∧ threads[index]? = some thread)
      (Path.when thread.joinable (joinThread index) : NodePath K Unit)
      (fun _ => Stage communication jointStateMsg fun lifecycle threads =>
        situation lifecycle threads ∧ threads[index]? = some thread) raised :=
    Path.Confines.when fun joinable _ _ stage => by
      rw [unjoinable stage.situation] at joinable
      cases joinable
  refine Path.Confines.bind none fun _ => replaceThread_carries (fun _ _ known => ?_)
    fun _ _ known bound => leads _ _ known.1 bound
  rw [joinables_of known.2, unjoinable known]

/-- Without a mutex a thread that has come to its end is joined before it is replaced. -/
theorem startCommThread_carries : Carries base
    (Stage none none fun lifecycle _ => lifecycles lifecycle)
    (startCommThread index : NodePath K Unit)
    (fun _ => Stage none none fun lifecycle _ => lifecycles lifecycle) raised := by
  refine Path.Confines.bind commThread_carries fun thread => Path.Confines.ite (fun stopped => ?_)
    fun _ node scripted stage =>
      ⟨scripted, stage.communication, stage.jointStateMsg, stage.situation.1⟩
  have join : Carries base (Stage none none fun lifecycle threads =>
        lifecycles lifecycle ∧ threads[index]? = some thread)
      (Path.when thread.joinable (joinThread index) : NodePath K Unit)
      (fun _ => Stage none none fun lifecycle threads =>
        lifecycles lifecycle ∧ joinables threads index = false) raised := by
    refine Path.Confines.ite (fun joinable => joinThread_carries ?_ ?_) fun unjoinable => ?_
    · exact fun _ _ known => ⟨(joinables_of known.2).trans joinable,
        (runnings_of known.2).trans stopped⟩
    · intro lifecycle threads known bound
      refine ⟨known.1, ?_⟩
      rw [joinables, List.getElem?_modify_eq, List.getElem?_eq_getElem bound]
      rfl
    · intro node scripted stage
      refine ⟨scripted, stage.communication, stage.jointStateMsg, stage.situation.1, ?_⟩
      exact (joinables_of stage.situation.2).trans (Bool.eq_false_of_not_eq_true unjoinable)
  exact Path.Confines.bind join fun _ =>
    replaceThread_carries (fun _ _ known => known.2) fun _ _ known _ => known.1

end Threads

/-- The exceptions of a service end the process. -/
theorem Offstage.carries_on {α : Type} {path : NodePath K α} (offstage : Offstage path) :
    Carries base pre path (fun _ => pre) anywhere :=
  offstage.carries.consequence (fun _ => id) (fun _ _ => id) fun _ _ => trivial

theorem Offstage.carries_caught {α : Type} {path : NodePath K α} (offstage : Offstage path)
    (catches : Path.Catches path) : Carries base pre path (fun _ => pre) raised := by
  have ends : Carries base pre path (fun _ => pre) pre := offstage.carries
  refine (ends.and catches).consequence (fun _ holds => ⟨holds, trivial⟩) (fun _ _ => And.left) ?_
  exact fun _ impossible => impossible.2.elim

theorem disableMotors_catches : Path.Catches (disableMotors index : NodePath K Unit) := by
  have handled (joint : Nat) : Path.Catches (do
      let _ ← jointParameters index joint
      let _ ← canInterface index : NodePath K Unit) :=
    Path.Confines.bind (Path.Catches.element _) fun _ => Path.Confines.bind (Path.Confines.bind
      (Path.Catches.update _) fun _ => Path.Catches.element _) fun _ => Path.Catches.pure _
  refine Path.Confines.bind (Path.Catches.element _) fun _ => ?_
  exact Path.Confines.loopBelow fun _ => Path.Catches.tryCatch fun _ => handled _

theorem dropThreads_carries {change : Node K → Node K}
    (mutexes : ∀ node, (change node).canCommunicationMutex = node.canCommunicationMutex ∧
      (change node).jointStateMsgMutex = node.jointStateMsgMutex ∧ (change node).log = node.log)
    (dropped : ∀ node, (change node).commThreads = []) :
    Carries base (Stage none none fun _ threads => True ∧ Dormant threads) (Path.update change)
      (fun _ => Stage none none fun _ threads => threads = []) raised := by
  refine update_carries mutexes fun node dormant => ⟨?_, dropped node⟩
  rw [dropped, threadFlags_dormant dormant_nil, threadFlags_dormant dormant.2]

theorem onCleanup_carries : Carries base (Stage none none fun _ _ => True)
    (onCleanup : NodePath K CallbackReturn)
    (fun result => Stage none none fun _ threads => result = .success ∧ threads = []) raised := by
  refine Path.Confines.bind (update_aside (fun _ => ⟨rfl, rfl, rfl⟩) fun _ => ⟨rfl, rfl⟩) fun _ => ?_
  refine Path.Confines.bind stopAllCommThreads_carries fun _ => ?_
  refine Path.Confines.bind (dropThreads_carries (fun _ => ⟨rfl, rfl, rfl⟩) fun _ => rfl) fun _ => ?_
  refine Path.Confines.bind lockCommunication_carries fun _ => ?_
  refine Path.Confines.bind lockJointStateMsg_carries fun _ => ?_
  refine Path.Confines.bind (Path.Confines.loopBelow fun _ =>
    disableMotors_offstage.carries_caught disableMotors_catches) fun _ => ?_
  refine Path.Confines.bind (clearInterfaces_offstage.carries_caught (Path.Catches.update _))
    fun _ => ?_
  refine Path.Confines.bind (update_aside (fun _ => ⟨rfl, rfl, rfl⟩) fun _ => ⟨rfl, rfl⟩) fun _ => ?_
  refine Path.Confines.bind unlockJointStateMsg_carries fun _ => ?_
  refine Path.Confines.bind (unlockCommunication_carries.weaken_post fun _ _ => And.left) fun _ => ?_
  refine Path.Confines.bind (update_aside (fun _ => ⟨rfl, rfl, rfl⟩) fun _ => ⟨rfl, rfl⟩) fun _ => ?_
  intro node scripted stage
  exact ⟨scripted, stage.communication, stage.jointStateMsg, rfl, stage.situation⟩

/-- An unconfigured node has no threads; the first part is a fact that also holds of none. -/
def Between (fact : List CommThread → Prop) (lifecycle : Lifecycle) (threads : List CommThread) :
    Prop := fact threads ∧ (lifecycle = .unconfigured → Dormant threads)

variable {fact : List CommThread → Prop} {start goal : Lifecycle}

theorem between_nil {lifecycle : Lifecycle} (empty : fact []) : Between fact lifecycle [] :=
  ⟨empty, fun _ => dormant_nil⟩

theorem Between.of_inactive {lifecycle : Lifecycle} {threads : List CommThread} (holds : fact threads)
    (inactive : lifecycle = .inactive) : Between fact lifecycle threads :=
  ⟨holds, fun unconfigured => by cases inactive.symm.trans unconfigured⟩

/-- What a callback leaves behind for the transition. -/
def TransitionEnd (fact : List CommThread → Prop) (start goal : Lifecycle) (threads : List CommThread) :
    CallbackReturn → Prop
  | .success => Between fact goal threads
  | .failure => Between fact start threads
  | .error => start = .unconfigured ∨ fact threads

theorem onError_carries (empty : fact []) : Carries base
    (Stage none none fun _ threads => start = .unconfigured ∨ fact threads)
    (onError start : NodePath K CallbackReturn)
    (fun result => Stage none none fun _ threads =>
      match result with
      | .success => Between fact .unconfigured threads
      | _ => fact threads) raised := by
  have unhandled (different : start ≠ .unconfigured) : Carries base
      (Stage none none fun _ threads => start = .unconfigured ∨ fact threads)
      (pure .failure : NodePath K CallbackReturn)
      (fun result => Stage none none fun _ threads =>
        match result with
        | .success => Between fact .unconfigured threads
        | _ => fact threads) raised := fun _ scripted stage =>
    ⟨scripted, stage.communication, stage.jointStateMsg, stage.situation.resolve_left different⟩
  cases start with
  | unconfigured =>
      refine Path.Confines.strengthen_pre ?_ fun node stage =>
        (⟨stage.communication, stage.jointStateMsg, trivial⟩ :
          Stage none none (fun _ _ => True) node.surroundings)
      refine Path.Confines.bind (update_aside (fun _ => ⟨rfl, rfl, rfl⟩) fun _ => ⟨rfl, rfl⟩)
        fun _ => ?_
      refine Path.Confines.bind stopAllCommThreads_carries fun _ => ?_
      refine Path.Confines.bind (dropThreads_carries (fun _ => ⟨rfl, rfl, rfl⟩) fun _ => rfl)
        fun _ => ?_
      refine Path.Confines.bind (update_aside (fun _ => ⟨rfl, rfl, rfl⟩) fun _ => ⟨rfl, rfl⟩)
        fun _ node scripted stage => ?_
      refine ⟨scripted, stage.communication, stage.jointStateMsg, ?_⟩
      rw [show node.surroundings.commThreads = [] from stage.situation]
      exact between_nil empty
  | inactive => exact unhandled nofun
  | active => exact unhandled nofun
  | finalized => exact unhandled nofun
  | inTransition => exact unhandled nofun

theorem transition_carries {callback : NodePath K CallbackReturn} (empty : fact [])
    (carries : Carries base (Stage none none fun _ => Between fact start) callback
      (fun result => Stage none none fun _ threads => TransitionEnd fact start goal threads result)
      (Stage none none fun _ threads => start = .unconfigured ∨ fact threads)) :
    Carries base (Stage none none (Between fact)) (transition start goal callback)
      (fun _ => Stage none none (Between fact)) raised := by
  refine Path.Confines.bind (Path.Confines.read _) fun lifecycle => Path.Confines.ite
    (fun possible => ?_) fun _ node scripted known => ⟨scripted, known.1⟩
  have enter : Carries base
      (Stage none none fun lifecycle threads => Between fact start threads)
      (setLifecycle .inTransition : NodePath K Unit)
      (fun _ => Stage none none fun _ => Between fact start) raised :=
    setLifecycle_carries fun _ _ => id
  refine Path.Confines.bind (enter.strengthen_pre fun node known => ?_) fun _ => ?_
  · obtain ⟨stage, same⟩ := known
    have started : node.surroundings.gate.lifecycle = start := same.trans possible
    exact ⟨stage.communication, stage.jointStateMsg, started ▸ stage.situation⟩
  refine Path.Confines.bind (Path.Confines.tryCatch carries fun _ _ scripted stage =>
    ⟨scripted, stage⟩) fun result => ?_
  cases result with
  | success => exact setLifecycle_carries fun _ _ => id
  | failure => exact setLifecycle_carries fun _ _ => id
  | error =>
      refine Path.Confines.bind (onError_carries empty) fun handled => ?_
      cases handled with
      | success => exact setLifecycle_carries fun _ _ => id
      | failure => exact setLifecycle_carries fun _ _ holds => ⟨holds, fun other => by cases other⟩
      | error => exact setLifecycle_carries fun _ _ holds => ⟨holds, fun other => by cases other⟩

theorem cleanup_carries (empty : fact []) : Carries base (Stage none none (Between fact))
    (cleanup : NodePath K Unit) (fun _ => Stage none none (Between fact)) raised := by
  refine transition_carries empty (onCleanup_carries.consequence (fun _ stage =>
    ⟨stage.communication, stage.jointStateMsg, trivial⟩) (fun result node stage => ?_) fun _ => id)
  obtain ⟨rfl, none⟩ := stage.situation
  refine ⟨stage.communication, stage.jointStateMsg, ?_⟩
  rw [none]
  exact between_nil empty

/-- The mutex is held only while the node is inactive, and a start joins nothing. -/
def OriginsStage (surroundings : Surroundings) : Prop :=
  ∃ communication, Stage communication none (fun lifecycle threads =>
    AllLive threads ∧ (communication ≠ none → lifecycle = .inactive)) surroundings

theorem setInterfaceOrigins_carries : Carries base OriginsStage
    (setInterfaceOrigins index : NodePath K Unit) (fun _ => OriginsStage) anywhere := by
  refine Path.Confines.tryCatch setMotorOrigins_offstage.carries fun _ => ?_
  refine Path.Confines.bind canInterface_offstage.carries_on fun _ => ?_
  have emergency : Offstage (Path.tryCatch disableAllAndOneMore fun _ => do
      let _ ← canInterface index : NodePath K Unit) :=
    Path.Evolves.tryCatch disableAllAndOneMore_offstage fun _ =>
      Path.Evolves.bind canInterface_offstage fun _ => Path.Evolves.pure _
  refine Path.Confines.bind emergency.carries_on fun _ => ?_
  have unlock : Carries base OriginsStage (unlockCommunication .exclusive : NodePath K Unit)
      (fun _ => Stage none none (Between AllLive)) anywhere := by
    intro node scripted ⟨communication, stage⟩
    refine (unlockCommunication_carries.weaken_post fun _ after ends => ?_) node scripted stage
    obtain ⟨free, held⟩ := ends
    obtain ⟨live, inactive⟩ := free.situation
    have lifecycle := inactive (by rw [held]; exact Option.some_ne_none _)
    exact ⟨free.communication, free.jointStateMsg, .of_inactive live lifecycle⟩
  refine Path.Confines.bind unlock fun _ => ?_
  refine Path.Confines.bind (respond_offstage _ _).carries_on fun _ => ?_
  exact (cleanup_carries allLive_nil).weaken_post fun _ _ stage =>
    ⟨none, stage.communication, stage.jointStateMsg, stage.situation.1, fun held => absurd rfl held⟩

theorem setAllMotorsOriginHereCallback_carries : Carries base
    (Stage none none (Between anyThreads)) (setAllMotorsOriginHereCallback : NodePath K Unit)
    (fun _ => Stage none none (Between anyThreads)) anywhere := by
  refine Path.Confines.bind (Path.Confines.read _) fun lifecycle => Path.Confines.ite
    (fun _ => (respond_offstage _ _).carries_on.strengthen_pre fun _ => And.left) fun configured => ?_
  rw [not_not] at configured
  refine Path.Confines.strengthen_pre ?_ fun node known =>
    (⟨known.1.communication, known.1.jointStateMsg, known.2.trans configured⟩ :
      Stage none none (fun lifecycle _ => lifecycle = .inactive) node.surroundings)
  refine Path.Confines.bind stopAllCommThreads_carries fun _ => ?_
  have lock : Carries base (Stage none none fun lifecycle threads =>
        lifecycle = .inactive ∧ Dormant threads)
      (lockCommunication .exclusive : NodePath K Unit) (fun _ => OriginsStage) anywhere := by
    refine lockCommunication_carries.weaken_post fun _ _ stage => ⟨_, stage.communication,
      stage.jointStateMsg, fun index => ?_, fun _ => stage.situation.1⟩
    exact joinables_live (stage.situation.2 index).2
  refine Path.Confines.bind lock fun _ => ?_
  refine Path.Confines.bind (Path.Confines.loopBelow fun _ => setInterfaceOrigins_carries) fun _ => ?_
  have start (index : Nat) : Carries base OriginsStage (startCommThread index : NodePath K Unit)
      (fun _ => OriginsStage) anywhere := fun node scripted ⟨communication, stage⟩ =>
    ((startCommThread_carries_live (fun _ _ holds => holds.1 index) fun _ _ holds _ =>
      ⟨allLive_started holds.1, holds.2⟩).weaken_post fun _ _ ends => ⟨communication, ends⟩)
      node scripted stage
  refine Path.Confines.bind (Path.Confines.loopBelow start) fun _ => ?_
  refine Path.Confines.bind (respond_offstage _ _).carries_on fun _ node scripted stage => ?_
  obtain ⟨communication, held⟩ := stage
  refine (unlockCommunication_carries.weaken_post fun _ after ends => ?_) node scripted held
  obtain ⟨free, was⟩ := ends
  have inactive := free.situation.2 (by rw [was]; exact Option.some_ne_none _)
  exact ⟨free.communication, free.jointStateMsg, .of_inactive trivial inactive⟩

theorem between_inactive {surroundings : Surroundings} {known : List CommThread → Prop}
    (stage : Stage communication jointStateMsg
      (fun lifecycle threads => lifecycle = .inactive ∧ known threads) surroundings) :
    Stage communication jointStateMsg (Between anyThreads) surroundings :=
  ⟨stage.communication, stage.jointStateMsg, .of_inactive trivial stage.situation.1⟩

theorem setMotorOriginHereCallback_carries (motorId : Int) : Carries base
    (Stage none none (Between anyThreads)) (setMotorOriginHereCallback motorId : NodePath K Unit)
    (fun _ => Stage none none (Between anyThreads)) anywhere := by
  refine Path.Confines.bind (Path.Confines.read _) fun lifecycle => Path.Confines.ite
    (fun _ => (respond_offstage _ _).carries_on.strengthen_pre fun _ => And.left) fun configured => ?_
  rw [not_not] at configured
  refine Path.Confines.bind (Path.Confines.read _) fun found => ?_
  refine Path.Confines.strengthen_pre ?_ fun _ => And.left
  rcases found with _ | ⟨index, target⟩
  · exact (respond_offstage _ _).carries_on.strengthen_pre fun _ => And.left
  refine Path.Confines.strengthen_pre ?_ fun node known =>
    (⟨known.1.communication, known.1.jointStateMsg, known.2.trans configured⟩ :
      Stage none none (fun lifecycle _ => lifecycle = .inactive) node.surroundings)
  refine Path.Confines.bind stopCommThread_carries fun _ => ?_
  refine Path.Confines.bind lockCommunication_carries fun _ => ?_
  have restart : Offstage (Path.attempt (restartMotors index target) : NodePath K _) :=
    Path.Evolves.attempt restartMotors_offstage
  refine Path.Confines.bind restart.carries_on fun restarted => ?_
  cases restarted with
  | error exception =>
      have emergency : Offstage (Path.tryCatch disableAll fun _ => pure () : NodePath K Unit) :=
        Path.Evolves.tryCatch disableAll_offstage fun _ => Path.Evolves.pure _
      refine Path.Confines.bind canInterface_offstage.carries_on fun _ => ?_
      refine Path.Confines.bind emergency.carries_on fun _ => ?_
      refine Path.Confines.bind (unlockCommunication_carries.weaken_post fun _ _ => And.left)
        fun _ => ?_
      refine Path.Confines.bind (respond_offstage _ _).carries_on fun _ => ?_
      exact (cleanup_carries trivial).strengthen_pre fun _ => between_inactive
  | ok value =>
      have start : Carries base (Stage (some .exclusive) none fun lifecycle threads =>
            lifecycle = .inactive ∧ LiveAt index threads)
          (startCommThread index : NodePath K Unit)
          (fun _ => Stage (some .exclusive) none fun lifecycle threads =>
            lifecycle = .inactive ∧ LiveAt index threads) anywhere := by
        refine startCommThread_carries_live (fun _ _ holds => holds.2) fun _ threads holds bound => ?_
        refine ⟨holds.1, fun thread there joinable => ?_⟩
        rw [List.getElem?_modify_eq, List.getElem?_eq_getElem bound] at there
        cases there
        rfl
      refine Path.Confines.bind (start.strengthen_pre fun _ stage => ⟨stage.communication,
        stage.jointStateMsg, stage.situation.1, joinables_live stage.situation.2⟩) fun _ => ?_
      refine Path.Confines.bind jointParameters_offstage.carries_on fun _ => ?_
      refine Path.Confines.bind (respond_offstage _ _).carries_on fun _ => ?_
      exact unlockCommunication_carries.weaken_post fun _ _ ends => between_inactive ends.1

section Configuration

variable [Scalar K] {assignment : Assignment K} {configs : JointConfigs K} {bus : Bus} {now : Int}

/-- Before the threads are started there is none. -/
abbrev unstarted : Surroundings → Prop := Stage none none fun _ => Dormant

omit [Scalar K] in
theorem startPublishing_carries : Carries base (Stage communication jointStateMsg situation)
    (startPublishing : NodePath K Unit) (fun _ => Stage communication jointStateMsg situation)
    (Stage communication jointStateMsg situation) :=
  Path.Confines.bind (Offstage.carries (Path.Evolves.read _)) fun frequency =>
    Path.Confines.bind (createTimer_offstage frequency).carries fun _ =>
      update_aside (fun _ => ⟨rfl, rfl, rfl⟩) fun _ => ⟨rfl, rfl⟩

omit [Scalar K] in
theorem startSupervisor_carries : Carries base (Stage communication jointStateMsg situation)
    (startSupervisor : NodePath K Unit) (fun _ => Stage communication jointStateMsg situation)
    (Stage communication jointStateMsg situation) :=
  Path.Confines.bind (Offstage.carries (Path.Evolves.read _)) fun _ => Path.Confines.when fun _ =>
    Path.Confines.bind (Offstage.carries (Path.Evolves.read _)) fun frequency =>
      Path.Confines.bind (createTimer_offstage frequency).carries fun _ =>
        update_aside (fun _ => ⟨rfl, rfl, rfl⟩) fun _ => ⟨rfl, rfl⟩

omit [Scalar K] in
theorem startMotors_carries : Carries base unstarted (startMotors configs)
    (fun result => Stage none none fun _ threads => result = .failure → Dormant threads)
    unstarted := by
  refine Path.Confines.bind enableMotors_offstage.carries fun failed =>
    Path.Confines.ite (fun _ => ?_) fun _ => ?_
  · have disabled : Offstage (Path.loopBelow numInterfaces (disableAfterFailure configs)) :=
      Path.Evolves.loopBelow fun _ => disableAfterFailure_offstage
    refine Path.Confines.bind disabled.carries fun _ => ?_
    refine Path.Confines.bind clearInterfaces_offstage.carries fun _ node scripted stage => ?_
    exact ⟨scripted, stage.communication, stage.jointStateMsg, nofun⟩
  · refine Path.Confines.bind (update_aside (fun _ => ⟨rfl, rfl, rfl⟩) fun _ => ⟨rfl, rfl⟩)
      fun _ => ?_
    refine Path.Confines.bind startSupervisor_carries fun _ => ?_
    have started : Carries base (Stage none none fun _ _ => True)
        (Path.loopBelow numInterfaces startCommThread : NodePath K Unit)
        (fun _ => Stage none none fun _ _ => True) unstarted :=
      Path.Confines.loopBelow fun _ => startCommThread_carries
    refine Path.Confines.bind (started.strengthen_pre fun _ stage => ?_) fun _ node scripted stage => ?_
    · exact ⟨stage.communication, stage.jointStateMsg, trivial⟩
    · exact ⟨scripted, stage.communication, stage.jointStateMsg, nofun⟩

omit [Scalar K] in
theorem dormant_failure (result : CallbackReturn) : Carries base unstarted
    (pure result : NodePath K CallbackReturn)
    (fun result => Stage none none fun _ threads => result = .failure → Dormant threads)
    unstarted := fun _ scripted stage =>
  ⟨scripted, stage.communication, stage.jointStateMsg, fun _ => stage.situation⟩

theorem dormant_replicate (count : Nat) : Dormant (List.replicate count {}) := by
  intro index
  rw [runnings, joinables, List.getElem?_replicate]
  split <;> exact ⟨rfl, rfl⟩

/-- No thread that has to be joined is replaced by the fresh ones. -/
theorem prepareTables_carries {seen : Seen} {numJoints : Nat} : Carries base unstarted
    (Path.update (prepareTables seen numJoints now) : NodePath K Unit) (fun _ => unstarted)
    unstarted := by
  refine update_carries (fun _ => ⟨rfl, rfl, rfl⟩) fun node dormant => ?_
  have fresh : Dormant (prepareTables seen numJoints now node).commThreads := dormant_replicate _
  exact ⟨by rw [threadFlags_dormant fresh, threadFlags_dormant dormant], fresh⟩

theorem configureNode_carries : Carries base unstarted (configureNode assignment bus now)
    (fun result => Stage none none fun _ threads => result = .failure → Dormant threads)
    unstarted := by
  refine Path.Confines.bind readGlobals_offstage.carries fun jointNames => ?_
  refine Path.Confines.bind (Offstage.carries (Path.Evolves.read _)) fun defaults => ?_
  refine Path.Confines.bind (update_aside (fun _ => ⟨rfl, rfl, rfl⟩) fun _ => ⟨rfl, rfl⟩) fun _ => ?_
  refine Path.Confines.bind (checked_offstage _).carries fun found => ?_
  cases found with
  | none => exact dormant_failure _
  | some seen =>
      refine Path.Confines.bind prepareTables_carries fun _ => ?_
      refine Path.Confines.bind (buildTables_offstage (K := K) _).carries fun built => ?_
      cases built with
      | none => exact dormant_failure _
      | some configs =>
          refine Path.Confines.bind (createInterfaces_offstage _).carries fun _ => ?_
          exact Path.Confines.bind startPublishing_carries fun _ => startMotors_carries

theorem onConfigure_carries : Carries base unstarted (onConfigure assignment bus now)
    (fun result => Stage none none fun _ threads => result = .failure → Dormant threads)
    unstarted := by
  refine Path.Confines.bind (checked_offstage _).carries fun _ =>
    Path.Confines.tryCatch configureNode_carries fun exception => ?_
  cases exception with
  | parameterUninitialized name => exact dormant_failure _
  | canInterfaceError =>
      exact Path.Confines.bind clearInterfaces_offstage.carries fun _ => dormant_failure _
  | outOfRange => exact fun _ scripted stage => ⟨scripted, stage⟩
  | rangeError => exact fun _ scripted stage => ⟨scripted, stage⟩
  | canDeviceError canId => exact fun _ scripted stage => ⟨scripted, stage⟩
  | motorError canId errorCode => exact fun _ scripted stage => ⟨scripted, stage⟩
  | parameterType name => exact fun _ scripted stage => ⟨scripted, stage⟩
  | invalidArgument => exact fun _ scripted stage => ⟨scripted, stage⟩

theorem configure_carries : Carries base (Stage none none (Between anyThreads))
    (configure assignment bus now) (fun _ => Stage none none (Between anyThreads)) anywhere := by
  refine transition_carries trivial (onConfigure_carries.consequence (fun _ stage => ?_)
    (fun result node stage => ?_) fun _ stage => ?_)
  · exact ⟨stage.communication, stage.jointStateMsg, stage.situation.2 rfl⟩
  · refine ⟨stage.communication, stage.jointStateMsg, ?_⟩
    cases result with
    | success => exact .of_inactive trivial rfl
    | failure => exact ⟨trivial, fun _ => stage.situation rfl⟩
    | error => exact .inl rfl
  · exact ⟨stage.communication, stage.jointStateMsg, .inl rfl⟩

end Configuration

section Callbacks

/-- What the executor finds before a callback, and leaves behind. -/
abbrev betweenCalls : Surroundings → Prop := Stage none none (Between anyThreads)

/-- The path takes no step and does not unconfigure the node. -/
def Ungated (before after : Node K) : Prop :=
  { after.surroundings with gate := before.gate } = before.surroundings ∧
    after.lockScript = before.lockScript ∧
      (after.lifecycle = before.lifecycle ∨ after.lifecycle ≠ .unconfigured)

instance instIsPreorderUngated : IsPreorder (Node K) Ungated where
  refl _ := ⟨rfl, rfl, .inl rfl⟩
  trans before middle after := by
    rintro ⟨first, script, lifecycle⟩ ⟨second, scriptAfter, lifecycleAfter⟩
    refine ⟨?_, scriptAfter.trans script, ?_⟩
    · rw [← first, ← second]
    · rcases lifecycleAfter with same | different
      · rw [same]
        exact lifecycle
      · exact .inr different

theorem Ungated.scriptState (ungated : Ungated node after) :
    after.surroundings.scriptState = node.surroundings.scriptState := by
  have same := congrArg Surroundings.scriptState ungated.1
  exact same

theorem ungated_carries {α : Type} {path : NodePath K α} (evolves : Path.Evolves Ungated path) :
    Carries base betweenCalls path (fun _ => betweenCalls) anywhere := by
  refine (Path.Confines.of_related evolves ?_ ?_).consequence (fun _ => id) (fun _ _ => id)
    fun _ _ => trivial
  · exact fun before after ungated scripted =>
      scripted.unscripted ungated.2.1 ungated.scriptState
  · intro before after ungated stage
    obtain ⟨same, _, lifecycle⟩ := ungated
    have threads : after.commThreads = before.commThreads := congrArg Surroundings.commThreads same
    refine ⟨(congrArg Surroundings.communicationHold same).trans stage.communication,
      (congrArg Surroundings.jointStateMsgHold same).trans stage.jointStateMsg, trivial, ?_⟩
    intro unconfigured
    rcases lifecycle with kept | other
    · show Dormant after.commThreads
      rw [threads]
      exact stage.situation.2 (kept.symm.trans unconfigured)
    · exact absurd unconfigured other

theorem Offstage.ungated {α : Type} {path : NodePath K α} (offstage : Offstage path) :
    Path.Evolves Ungated path := by
  refine offstage.weaken fun before after same => ?_
  have surroundings : after.surroundings = before.surroundings := congrArg Scene.surroundings same
  exact ⟨by rw [surroundings]; rfl, congrArg Scene.script same,
    .inl (congrArg (fun scene => scene.surroundings.gate.lifecycle) same)⟩

theorem activate_ungated : Path.Evolves Ungated (activate : NodePath K Unit) := by
  intro node
  rw [activate_run]
  split
  · rw [activated]
    split
    · exact ⟨rfl, rfl, .inr fun other => by cases other⟩
    · exact ⟨rfl, rfl, .inr fun other => by cases other⟩
  · exact refl_of Ungated node

variable [Scalar K]

theorem deactivate_ungated : Path.Evolves Ungated (deactivate : NodePath K Unit) := by
  intro node
  rw [deactivate_run]
  split
  · exact ⟨rfl, rfl, .inr fun other => by cases other⟩
  · exact refl_of Ungated node

theorem watchdogTimerCallback_ungated :
    Path.Evolves Ungated (watchdogTimerCallback : NodePath K Unit) :=
  Path.Evolves.bind (Path.Evolves.read _) fun _ =>
    Path.Evolves.bind (Path.Evolves.when fun _ => deactivate_ungated) fun _ =>
      Path.Evolves.update fun _ => ⟨rfl, rfl, .inl rfl⟩

theorem jointCmdMsgCallback_ungated (command : JointCommand K) (cmdRxNs now : Int) :
    Path.Evolves Ungated (jointCmdMsgCallback command cmdRxNs now) := by
  refine Path.Evolves.bind (Path.Evolves.read _) fun _ => Path.Evolves.ite (fun _ => ?_)
    fun _ => Path.Evolves.pure _
  refine Path.Evolves.bind (Path.Evolves.update fun _ => ⟨rfl, rfl, .inl rfl⟩) fun _ => ?_
  refine Path.Evolves.bind (Path.Evolves.read _) fun _ => ?_
  exact Path.Evolves.bind (Path.Evolves.when fun _ => Path.Evolves.update fun _ =>
    ⟨rfl, rfl, .inl rfl⟩) fun _ => Path.Evolves.pure _

omit [Scalar K] in
theorem supervisorCallback_carries : Carries base betweenCalls
    (supervisorCallback : NodePath K Unit) (fun _ => betweenCalls) anywhere := by
  refine Path.Confines.bind (Path.Confines.read _) fun requested => ?_
  refine Path.Confines.strengthen_pre ?_ fun _ => And.left
  refine Path.Confines.bind (update_aside (fun _ => ⟨rfl, rfl, rfl⟩) fun _ => ⟨rfl, rfl⟩) fun _ => ?_
  exact Path.Confines.when fun _ => cleanup_carries trivial

/-- Shutting down leaves no thread to stop or to join. -/
theorem onShutdown_carries {previousState : Lifecycle} (possible : previousState = .unconfigured ∨
    previousState = .inactive ∨ previousState = .active) :
    Carries base (Stage none none fun _ => Between anyThreads previousState)
      (onShutdown previousState : NodePath K CallbackReturn)
      (fun result => Stage none none fun _ threads => result = .success ∧ Dormant threads) raised := by
  have passive : Carries base (Stage none none fun _ => Between anyThreads previousState)
      (onDeactivate : NodePath K _) (fun _ => Stage none none fun _ => Between anyThreads previousState)
      (Stage none none fun _ => Between anyThreads previousState) :=
    Path.Confines.bind (update_aside (fun _ => ⟨rfl, rfl, rfl⟩) fun _ => ⟨rfl, rfl⟩) fun _ =>
      Path.Confines.bind (update_aside (fun _ => ⟨rfl, rfl, rfl⟩) fun _ => ⟨rfl, rfl⟩) fun _ =>
        pure_carries _
  have cleaned : Carries base (Stage none none fun _ => Between anyThreads previousState)
      (Path.when (previousState = .active ∨ previousState = .inactive)
        (Path.tryCatch (do let _ ← onCleanup) fun _ => pure ()) : NodePath K Unit)
      (fun _ => Stage none none fun _ => Dormant) raised := by
    have cleanup : Carries base (Stage none none fun _ _ => True) (onCleanup : NodePath K _) (fun result =>
        Stage none none fun _ threads => result = .success ∧ threads = []) (fun _ => False) :=
      onCleanup_carries
    have clean : Carries base (Stage none none fun _ => Between anyThreads previousState)
        (do let _ ← onCleanup : NodePath K Unit) (fun _ => Stage none none fun _ => Dormant)
        (fun _ => False) := by
      refine Path.Confines.bind (cleanup.strengthen_pre fun _ stage =>
        ⟨stage.communication, stage.jointStateMsg, trivial⟩) fun _ _ scripted stage => ?_
      refine ⟨scripted, stage.communication, stage.jointStateMsg, ?_⟩
      rw [stage.situation.2]
      exact dormant_nil
    refine Path.Confines.ite (fun _ => Path.Confines.tryCatch clean
      fun _ _ _ impossible => impossible.elim) fun neither _ scripted stage => ?_
    have unconfigured : previousState = .unconfigured :=
      possible.resolve_right fun configured => neither configured.symm
    exact ⟨scripted, stage.communication, stage.jointStateMsg, stage.situation.2 unconfigured⟩
  refine Path.Confines.bind (Path.Confines.when fun _ => Path.Confines.tryCatch
    (Path.Confines.bind passive fun _ => pure_carries _) fun _ => pure_carries _) fun _ => ?_
  refine Path.Confines.bind cleaned fun _ node scripted stage => ?_
  exact ⟨scripted, stage.communication, stage.jointStateMsg, rfl, stage.situation⟩

theorem shutdown_carries : Carries base betweenCalls (shutdown : NodePath K Unit)
    (fun _ => betweenCalls) anywhere := by
  refine Path.Confines.bind (Path.Confines.read _) fun lifecycle => ?_
  refine Path.Confines.strengthen_pre ?_ fun _ => And.left
  refine Path.Confines.when fun possible => transition_carries trivial
    ((onShutdown_carries possible).consequence (fun _ => id) (fun result _ stage => ?_) fun _ => id)
  refine ⟨stage.communication, stage.jointStateMsg, ?_⟩
  rw [stage.situation.1]
  exact ⟨trivial, fun other => by cases other⟩

theorem jointStatePublishCallback_carries (pubNowNs nowNs : Int) : Carries base betweenCalls
    (jointStatePublishCallback pubNowNs nowNs : NodePath K _) (fun _ => betweenCalls) anywhere := by
  refine Path.Confines.bind lockJointStateMsg_carries fun _ => ?_
  have aged : Carries base (Stage none (some .exclusive) (Between anyThreads))
      (Path.updateDefined fun node : Node K =>
        (jointStateAges pubNowNs node.messages.jointRxNs node.messages.jointStateAgeMsg).map
          fun jointStateAgeMsg => { node with messages := { node.messages with jointStateAgeMsg } })
      (fun _ => Stage none (some .exclusive) (Between anyThreads)) anywhere := by
    refine Path.Confines.updateDefined fun node after scripted stage changed => ?_
    obtain ⟨ages, _, rfl⟩ := Option.map_eq_some_iff.mp changed
    exact ⟨scripted.unscripted rfl rfl, stage.communication, stage.jointStateMsg, stage.situation⟩
  refine Path.Confines.bind aged fun _ => ?_
  refine Path.Confines.bind (Path.Confines.read _) fun messages => ?_
  refine Path.Confines.strengthen_pre ?_ fun _ => And.left
  exact Path.Confines.bind unlockJointStateMsg_carries fun _ => pure_carries _

variable [StdToString K] [Libm K]

/-- An operation that is no cycle is called by the executor. -/
def Operation.called : Operation K → Bool
  | .canCycle .. => false
  | _ => true

/-- Every callback of the executor is a script from one call to the next. -/
theorem Operation.carries {operation : Operation K} (called : operation.called = true) :
    Carries base betweenCalls operation.path (fun _ => betweenCalls) anywhere := by
  cases operation with
  | configure assignment bus now => exact configure_carries
  | cleanup => exact cleanup_carries trivial
  | activate => exact ungated_carries activate_ungated
  | deactivate => exact ungated_carries deactivate_ungated
  | shutdown => exact shutdown_carries
  | jointCmd command cmdRxNs now =>
      exact ungated_carries (Path.Evolves.bind (jointCmdMsgCallback_ungated command cmdRxNs now)
        fun _ => Path.Evolves.pure _)
  | watchdogTimer => exact ungated_carries watchdogTimerCallback_ungated
  | supervisorTimer => exact supervisorCallback_carries
  | canCycle canInterface times => cases called
  | setAllMotorsOriginHere => exact setAllMotorsOriginHereCallback_carries
  | setMotorOriginHere motorId => exact setMotorOriginHereCallback_carries motorId
  | setParameters order batch =>
      exact ungated_carries (Path.Evolves.bind
        (onSetParametersCallback_offstage order batch).ungated fun _ => Path.Evolves.pure _)

end Callbacks

end CubemarsDriver.Node
