import CubemarsDriver.Foundation.Confines
import CubemarsDriver.Node.Operations

namespace CubemarsDriver.Node

open Foundation Can

/-! # Joining comm threads

A thread waits for the joined one, which may be waiting for a mutex.  No join is made
while a mutex is held, and none is made by a comm thread. -/

variable {K : Type} {index joint : Nat} {mode : LockMode}

/-- Every join was made without a mutex. -/
def Surroundings.Unheld (surroundings : Surroundings) : Prop :=
  ∀ event ∈ surroundings.joins, ∃ index, event = .threadJoined index false

/-- How the mutexes are held, and a fact about the threads. -/
structure Surroundings.Calm (communication jointStateMsg : Option LockMode)
    (threads : List CommThread → Prop) (surroundings : Surroundings) : Prop where
  communication : surroundings.communicationHold = communication
  jointStateMsg : surroundings.jointStateMsgHold = jointStateMsg
  threads : threads surroundings.commThreads

open Surroundings

/-- The path makes no join while it holds a mutex. -/
abbrev JoinsUnheld {α : Type} (pre : Surroundings → Prop) (path : NodePath K α)
    (post raised : Surroundings → Prop) : Prop :=
  Path.Confines (fun node => node.surroundings.Unheld) (fun node => pre node.surroundings) path
    (fun _ node => post node.surroundings) fun node => raised node.surroundings

/-- An exception ends the process. -/
def anywhere (_ : Surroundings) : Prop := True

def anyThreads (_ : List CommThread) : Prop := True

/-- A thread that could be joined is running, so that starting it joins nothing. -/
def LiveAt (index : Nat) (threads : List CommThread) : Prop :=
  ∀ thread, threads[index]? = some thread → thread.joinable = true → thread.running = true

def AllLive (threads : List CommThread) : Prop := ∀ index, LiveAt index threads

variable {communication jointStateMsg : Option LockMode} {threads : List CommThread → Prop}
variable {pre raised : Surroundings → Prop}

theorem Surroundings.Calm.any {surroundings : Surroundings}
    (calm : Calm communication jointStateMsg threads surroundings) :
    Calm communication jointStateMsg anyThreads surroundings :=
  ⟨calm.communication, calm.jointStateMsg, trivial⟩

theorem StandsAside.joins {α : Type} {path : NodePath K α} (aside : StandsAside path) :
    JoinsUnheld pre path pre pre :=
  Path.Confines.of_preserves aside (fun _ _ same holds => by rwa [same]) fun _ _ same holds => by
    rwa [same]

theorem pure_joins {α : Type} (value : α) :
    JoinsUnheld pre (pure value : NodePath K α) pre raised := fun _ unheld holds => ⟨unheld, holds⟩

theorem Surroundings.Unheld.recorded {node : Node K} {event : NodeEvent}
    (unheld : node.surroundings.Unheld) (other : event.isJoin = false) :
    (node.recorded event).surroundings.Unheld := by
  rw [recorded_surroundings node other]
  exact unheld

theorem recorded_join (node : Node K) (holdingMutex : Bool) :
    (node.recorded (.threadJoined index holdingMutex)).joins =
      node.joins ++ [.threadJoined index holdingMutex] := by
  rw [joins, recorded, List.filter_append]
  rfl

theorem attempt_joins {α : Type} {path : NodePath K α} (joins : JoinsUnheld pre path pre pre) :
    JoinsUnheld pre (Path.attempt path) pre raised :=
  Path.Confines.attempt (joins.consequence (fun _ => id) (fun _ _ => id) fun _ holds _ => holds)

/-- The threads that have to be joined, by their index. -/
def joinables (threads : List CommThread) (index : Nat) : Bool :=
  threads[index]?.any CommThread.joinable

section Joinables

variable {list : List CommThread} {before : Nat → Bool} {change : CommThread → CommThread}

theorem joinables_lt (joinable : joinables list index = true) : index < list.length := by
  by_contra outside
  rw [joinables, List.getElem?_eq_none (by omega)] at joinable
  cases joinable

theorem joinables_modify {joinable : Bool} (bound : index < list.length)
    (changes : ∀ thread, (change thread).joinable = joinable) :
    joinables (list.modify index change) = Function.update (joinables list) index joinable := by
  funext other
  rw [joinables, List.getElem?_modify]
  by_cases same : other = index
  · subst same
    rw [Function.update_self, List.getElem?_eq_getElem bound]
    simp [changes]
  · rw [Function.update_of_ne same, joinables]
    simp [Ne.symm same]

theorem joinables_kept (kept : ∀ thread, (change thread).joinable = thread.joinable) :
    joinables (list.modify index change) = joinables list := by
  funext other
  rw [joinables, joinables, List.getElem?_modify]
  cases list[other]? with
  | none => rfl
  | some thread => by_cases same : index = other <;> simp [same, kept]

theorem joinables_live (unjoinable : joinables list index = false) : LiveAt index list := by
  intro thread there joinable
  rw [joinables, there, Option.any_some, joinable] at unjoinable
  cases unjoinable

/-- What the path makes of the threads. -/
abbrev LeavesThreads (pre : List CommThread → Prop) (path : NodePath K Unit)
    (post : List CommThread → Prop) : Prop :=
  Path.Confines (fun _ => True) (fun node => pre node.commThreads) path
    (fun _ node => post node.commThreads) fun _ => False

theorem changeThread_leaves {pre post : List CommThread → Prop} {event : NodeEvent}
    (changes : ∀ list, pre list → index < list.length → post (list.modify index change)) :
    LeavesThreads pre (changeThread index event change : NodePath K Unit) post := by
  refine Path.Confines.updateDefined fun node after _ holds changed => ?_
  rw [Option.ite_none_right_eq_some, Option.some.injEq] at changed
  obtain ⟨bound, rfl⟩ := changed
  exact ⟨trivial, changes _ holds bound⟩

theorem joinIfJoinable_joined (index : Nat) (pre : List CommThread → Prop) : LeavesThreads pre
    (do let thread ← commThread index; Path.when thread.joinable (joinThread index) : NodePath K Unit)
    fun list => ∃ earlier, pre earlier ∧ list.length = earlier.length ∧
      joinables list = Function.update (joinables earlier) index false := by
  refine Path.Confines.bind (Path.Confines.element _) fun thread =>
    Path.Confines.ite (fun _ => ?_) fun unjoinable node _ found => ?_
  · refine Path.Confines.bind (Path.Confines.read _) fun holdingMutex => ?_
    have joined : LeavesThreads pre (changeThread index (.threadJoined index holdingMutex)
        (fun thread => { thread with joinable := false }) : NodePath K Unit) fun list =>
          ∃ earlier, pre earlier ∧ list.length = earlier.length ∧
            joinables list = Function.update (joinables earlier) index false :=
      changeThread_leaves fun list holds bound =>
        ⟨list, holds, List.length_modify .., joinables_modify bound fun _ => rfl⟩
    exact joined.strengthen_pre fun _ found => found.1.1
  · refine ⟨trivial, node.commThreads, found.1, rfl, ?_⟩
    have rest : joinables node.commThreads index = false := by
      rw [joinables, found.2, Option.any_some]
      exact Bool.eq_false_of_not_eq_true unjoinable
    rw [← rest, Function.update_eq_self]

theorem stopCommThread_joined (before : Nat → Bool) :
    LeavesThreads (joinables · = before) (stopCommThread index : NodePath K Unit)
      (joinables · = Function.update before index false) := by
  have signal : LeavesThreads (joinables · = before) (signalThread index : NodePath K Unit)
      (joinables · = before) :=
    changeThread_leaves fun list same _ => (joinables_kept fun _ => by rfl).trans same
  have joins := joinIfJoinable_joined (K := K) index (joinables · = before)
  refine Path.Confines.bind signal fun _ => joins.weaken_post fun _ node joined => ?_
  obtain ⟨earlier, rfl, _, joinables⟩ := joined
  exact joinables

/-- After all threads are stopped none can be joined. -/
theorem stopAllCommThreads_joined : LeavesThreads (fun _ => True)
    (stopAllCommThreads : NodePath K Unit) fun list => ∀ index, joinables list index = false := by
  have signals (index : Nat) : LeavesThreads (fun _ => True) (signalThread index : NodePath K Unit)
      fun _ => True := changeThread_leaves fun _ _ _ => trivial
  refine Path.Confines.bind (Path.Confines.loopBelow signals) fun _ node _ _ => ?_
  let count := node.commThreads.length
  have step (index : Nat) : LeavesThreads
      (fun list => list.length = count ∧ ∀ other < index, joinables list other = false)
      (do let thread ← commThread index; Path.when thread.joinable (joinThread index) : NodePath K Unit)
      fun list => list.length = count ∧ ∀ other < index + 1, joinables list other = false := by
    have joins := joinIfJoinable_joined (K := K) index
      fun list => list.length = count ∧ ∀ other < index, joinables list other = false
    refine joins.weaken_post fun _ node joined => ?_
    obtain ⟨earlier, ⟨length, below⟩, same, joinables⟩ := joined
    refine ⟨same.trans length, fun other within => ?_⟩
    rw [joinables]
    by_cases last : other = index
    · rw [last, Function.update_self]
    · rw [Function.update_of_ne last, below other (by omega)]
  have all := Path.Confines.loopCount count (fun index (node : Node K) =>
    node.commThreads.length = count ∧ ∀ other < index, joinables node.commThreads other = false)
    (fun _ _ holds => holds.1) step
  refine all.weaken_post (fun _ after ends index => ?_) node trivial ⟨rfl, by simp⟩
  by_contra joinable
  rw [Bool.not_eq_false] at joinable
  rw [ends.2 index (ends.1 ▸ joinables_lt joinable)] at joinable
  cases joinable

end Joinables

theorem lockCommunication_joins : JoinsUnheld (Calm communication jointStateMsg threads)
    (lockCommunication mode : NodePath K Unit) (Calm (some mode) jointStateMsg threads) raised := by
  refine Path.Confines.updateDefined fun node after unheld calm taken => ?_
  obtain ⟨mutex, acquired, rfl⟩ := Option.map_eq_some_iff.mp taken
  exact ⟨unheld.recorded rfl, Mutex.hold_of_acquire acquired, calm.jointStateMsg, calm.threads⟩

theorem unlockCommunication_joins : JoinsUnheld (Calm communication jointStateMsg threads)
    (unlockCommunication mode : NodePath K Unit) (Calm none jointStateMsg threads) raised := by
  refine Path.Confines.updateDefined fun node after unheld calm given => ?_
  obtain ⟨mutex, released, rfl⟩ := Option.map_eq_some_iff.mp given
  exact ⟨unheld.recorded rfl, Mutex.hold_of_release released, calm.jointStateMsg, calm.threads⟩

theorem lockJointStateMsg_joins : JoinsUnheld (Calm communication jointStateMsg threads)
    (lockJointStateMsg mode : NodePath K Unit) (Calm communication (some mode) threads) raised := by
  refine Path.Confines.updateDefined fun node after unheld calm taken => ?_
  obtain ⟨mutex, acquired, rfl⟩ := Option.map_eq_some_iff.mp taken
  exact ⟨unheld.recorded rfl, calm.communication, Mutex.hold_of_acquire acquired, calm.threads⟩

theorem unlockJointStateMsg_joins : JoinsUnheld (Calm communication jointStateMsg threads)
    (unlockJointStateMsg mode : NodePath K Unit) (Calm communication none threads) raised := by
  refine Path.Confines.updateDefined fun node after unheld calm given => ?_
  obtain ⟨mutex, released, rfl⟩ := Option.map_eq_some_iff.mp given
  exact ⟨unheld.recorded rfl, calm.communication, Mutex.hold_of_release released, calm.threads⟩

/-- An update of something else. -/
theorem update_joins {change : Node K → Node K}
    (aside : ∀ node, (change node).surroundings = { node.surroundings with gate := (change node).gate }) :
    JoinsUnheld (Calm communication jointStateMsg threads) (Path.update change)
      (Calm communication jointStateMsg threads) raised := by
  refine Path.Confines.update fun node unheld calm => ?_
  simp only [aside]
  exact ⟨unheld, calm.communication, calm.jointStateMsg, calm.threads⟩

/-- A step on one thread that is no join. -/
theorem changeThread_joins {threads' : List CommThread → Prop} {event : NodeEvent}
    {change : CommThread → CommThread} (other : event.isJoin = false)
    (changes : ∀ list, threads list → index < list.length → threads' (list.modify index change)) :
    JoinsUnheld (Calm communication jointStateMsg threads)
      (changeThread index event change : NodePath K Unit)
      (Calm communication jointStateMsg threads') raised := by
  refine Path.Confines.updateDefined fun node after unheld calm changed => ?_
  rw [Option.ite_none_right_eq_some, Option.some.injEq] at changed
  obtain ⟨bound, rfl⟩ := changed
  exact ⟨unheld.recorded other, calm.communication, calm.jointStateMsg,
    changes _ calm.threads bound⟩

/-- A join without a mutex. -/
theorem joinThread_joins {threads' : List CommThread → Prop}
    (changes : ∀ list, threads list → index < list.length →
      threads' (list.modify index fun thread => { thread with joinable := false })) :
    JoinsUnheld (Calm none none threads) (joinThread index : NodePath K Unit)
      (Calm none none threads') raised := by
  intro node unheld calm
  have free : node.holdsMutex = false := by
    have communication : node.canCommunicationMutex.hold = none := calm.communication
    have jointStateMsg : node.jointStateMsgMutex.hold = none := calm.jointStateMsg
    rw [holdsMutex, communication, jointStateMsg]
    rfl
  rw [joinThread, Path.read_bind, free, changeThread, Path.updateDefined_run]
  by_cases bound : index < node.commThreads.length
  · rw [if_pos bound]
    refine ⟨fun event member => ?_, calm.communication, calm.jointStateMsg,
      changes _ calm.threads bound⟩
    have joined : event ∈ node.joins ++ [.threadJoined index false] := by
      rw [← recorded_join]
      exact member
    rcases List.mem_append.mp joined with before | last
    · exact unheld event before
    · exact ⟨index, List.mem_singleton.mp last⟩
  · rw [if_neg bound]
    exact ⟨unheld, trivial⟩

theorem commThread_joins : Path.Confines (fun node : Node K => node.surroundings.Unheld)
    (fun node => Calm communication jointStateMsg threads node.surroundings) (commThread index)
    (fun thread node => Calm communication jointStateMsg
      (fun list => threads list ∧ list[index]? = some thread) node.surroundings)
    fun node => raised node.surroundings := by
  refine (Path.Confines.element _).weaken_post fun thread node found => ?_
  exact ⟨found.1.communication, found.1.jointStateMsg, found.1.threads, found.2⟩

theorem joinIfJoinable_joins : JoinsUnheld (Calm none none anyThreads)
    (do let thread ← commThread index; Path.when thread.joinable (joinThread index) : NodePath K Unit)
    (Calm none none anyThreads) raised := by
  refine Path.Confines.bind commThread_joins fun thread => ?_
  refine Path.Confines.strengthen_pre ?_ fun _ => Calm.any
  exact Path.Confines.when fun _ => joinThread_joins fun _ _ _ => trivial

/-- All threads are joined. -/
theorem stopAllCommThreads_joins : JoinsUnheld (Calm none none anyThreads)
    (stopAllCommThreads : NodePath K Unit) (Calm none none AllLive) raised := by
  have signals : JoinsUnheld (Calm none none anyThreads)
      (Path.loopBelow threadCount signalThread : NodePath K Unit) (Calm none none anyThreads) raised :=
    Path.Confines.loopBelow fun _ => changeThread_joins rfl fun _ _ _ => trivial
  have joins : JoinsUnheld (Calm none none anyThreads) (stopAllCommThreads : NodePath K Unit)
      (Calm none none anyThreads) raised :=
    Path.Confines.bind signals fun _ => Path.Confines.loopBelow fun _ => joinIfJoinable_joins
  refine (joins.and stopAllCommThreads_joined).consequence (fun _ calm => ⟨calm, trivial⟩) ?_
    fun _ => And.left
  exact fun _ node ⟨calm, joined⟩ =>
    ⟨calm.communication, calm.jointStateMsg, fun index => joinables_live (joined index)⟩

theorem stopCommThread_joins : JoinsUnheld (Calm none none anyThreads)
    (stopCommThread index : NodePath K Unit) (Calm none none (LiveAt index)) raised := by
  have signal : JoinsUnheld (Calm none none anyThreads) (signalThread index : NodePath K Unit)
      (Calm none none anyThreads) raised := changeThread_joins rfl fun _ _ _ => trivial
  have joins : JoinsUnheld (Calm none none anyThreads) (stopCommThread index : NodePath K Unit)
      (Calm none none anyThreads) raised := Path.Confines.bind signal fun _ => joinIfJoinable_joins
  intro node unheld calm
  refine ((joins.and (stopCommThread_joined (joinables node.commThreads))).consequence
    (fun _ => id) (fun _ after ends => ?_) fun _ => And.left) node unheld ⟨calm, rfl⟩
  obtain ⟨calmAfter, joined⟩ := ends
  refine ⟨calmAfter.communication, calmAfter.jointStateMsg, joinables_live ?_⟩
  have same : joinables after.surroundings.commThreads = _ := joined
  rw [same, Function.update_self]

/-- A running thread that could be joined. -/
def startedThread : CommThread := { running := true, joinable := true }

/-- Starting a thread that is known to be running or joined joins nothing. -/
theorem startCommThread_joins_none (live : ∀ list, threads list → LiveAt index list)
    (kept : ∀ list, threads list → index < list.length →
      threads (list.modify index fun _ => startedThread)) :
    JoinsUnheld (Calm communication jointStateMsg threads) (startCommThread index : NodePath K Unit)
      (Calm communication jointStateMsg threads) raised := by
  refine Path.Confines.bind commThread_joins fun thread => Path.Confines.ite (fun stopped => ?_)
    fun _ => ?_
  · have unjoinable {list : List CommThread} (known : threads list ∧ list[index]? = some thread) :
        ¬ thread.joinable = true := fun joinable => by
      rw [live list known.1 thread known.2 joinable] at stopped
      cases stopped
    have none : JoinsUnheld (Calm communication jointStateMsg
        fun list => threads list ∧ list[index]? = some thread)
        (Path.when thread.joinable (joinThread index) : NodePath K Unit)
        (Calm communication jointStateMsg threads) raised :=
      Path.Confines.ite (fun joinable _ _ calm => absurd joinable (unjoinable calm.threads))
        fun _ _ unheld calm =>
          ⟨unheld, calm.communication, calm.jointStateMsg, calm.threads.1⟩
    exact Path.Confines.bind none fun _ => changeThread_joins rfl kept
  · intro node unheld calm
    exact ⟨unheld, calm.communication, calm.jointStateMsg, calm.threads.1⟩

/-- Starting a thread without a mutex. -/
theorem startCommThread_joins : JoinsUnheld (Calm none none anyThreads)
    (startCommThread index : NodePath K Unit) (Calm none none anyThreads) raised := by
  refine Path.Confines.bind commThread_joins fun thread => Path.Confines.ite (fun _ => ?_)
    fun _ _ unheld calm => ⟨unheld, calm.any⟩
  have join : JoinsUnheld (Calm none none
      fun list => anyThreads list ∧ list[index]? = some thread)
      (Path.when thread.joinable (joinThread index) : NodePath K Unit)
      (Calm none none anyThreads) raised :=
    Path.Confines.ite (fun _ => joinThread_joins fun _ _ _ => trivial) fun _ _ unheld calm =>
      ⟨unheld, calm.any⟩
  exact Path.Confines.bind join fun _ => changeThread_joins rfl fun _ _ _ => trivial

theorem allLive_started {list : List CommThread} (live : AllLive list) :
    AllLive (list.modify index fun _ => startedThread) := by
  intro other thread there joinable
  rw [List.getElem?_modify] at there
  by_cases same : index = other
  · simp only [same, if_true, Option.map_eq_map, Option.map_eq_some_iff] at there
    obtain ⟨_, _, rfl⟩ := there
    rfl
  · exact live other thread (by simpa [same] using there) joinable

theorem jointParameters_joins :
    JoinsUnheld pre (jointParameters index joint : NodePath K (JointParameters K)) pre raised :=
  (Path.Confines.element _).weaken_post fun _ _ => And.left

theorem canInterface_joins :
    JoinsUnheld pre (canInterface index : NodePath K (CubemarsCan K)) pre raised := by
  have used : JoinsUnheld pre
      (Path.update fun node : Node K => node.recorded (.interfaceUsed index)) pre raised :=
    Path.Confines.update fun node unheld holds => by
      rw [recorded_surroundings node rfl]
      exact ⟨unheld, holds⟩
  exact Path.Confines.bind used fun _ =>
    (Path.Confines.element _).weaken_post fun _ _ => And.left

theorem clearInterfaces_joins : JoinsUnheld pre (clearInterfaces : NodePath K Unit) pre raised := by
  refine Path.Confines.update fun node unheld holds => ?_
  have same : ({ node.recorded .interfacesCleared with canInterfaces := [] } : Node K).surroundings =
      node.surroundings := recorded_surroundings node rfl
  rw [same]
  exact ⟨unheld, holds⟩

theorem respond_joins (success : Bool) (message : String) :
    JoinsUnheld pre (respond success message : NodePath K Unit) pre raised :=
  Path.Confines.update fun _ unheld holds => ⟨unheld, holds⟩

/-- No exception leaves the loop that disables the motors. -/
theorem disableMotors_joins :
    JoinsUnheld pre (disableMotors index : NodePath K Unit) pre raised := by
  have body (joint : Nat) : JoinsUnheld pre (disableMotor index joint : NodePath K Unit) pre raised :=
    Path.Confines.tryCatch (handshake_aside _).joins fun _ =>
      Path.Confines.bind jointParameters_joins fun _ => Path.Confines.bind canInterface_joins fun _ =>
        pure_joins ()
  refine Path.Confines.bind (Path.Confines.element _) fun row => ?_
  exact (Path.Confines.loopBelow body).strengthen_pre fun _ => And.left

theorem onCleanup_joins (empty : threads []) : JoinsUnheld (Calm none none anyThreads)
    (onCleanup : NodePath K CallbackReturn) (Calm none none threads) raised := by
  refine Path.Confines.bind (update_joins fun _ => rfl) fun _ => ?_
  refine Path.Confines.bind stopAllCommThreads_joins fun _ => ?_
  have clear : JoinsUnheld (Calm none none AllLive)
      (Path.update fun node : Node K => { node with commThreads := [] }) (Calm none none threads)
      raised := Path.Confines.update fun _ unheld calm =>
    ⟨unheld, calm.communication, calm.jointStateMsg, empty⟩
  refine Path.Confines.bind clear fun _ => ?_
  refine Path.Confines.bind lockCommunication_joins fun _ => ?_
  refine Path.Confines.bind lockJointStateMsg_joins fun _ => ?_
  refine Path.Confines.bind (Path.Confines.loopBelow fun _ => disableMotors_joins) fun _ => ?_
  refine Path.Confines.bind clearInterfaces_joins fun _ => ?_
  refine Path.Confines.bind (update_joins fun _ => rfl) fun _ => ?_
  refine Path.Confines.bind unlockJointStateMsg_joins fun _ => ?_
  refine Path.Confines.bind unlockCommunication_joins fun _ => ?_
  exact Path.Confines.bind (update_joins fun _ => rfl) fun _ => pure_joins _

theorem onError_joins (empty : threads []) (previousState : Lifecycle) :
    JoinsUnheld (Calm none none threads) (onError previousState : NodePath K CallbackReturn)
      (Calm none none threads) raised := by
  cases previousState with
  | unconfigured =>
      refine Path.Confines.bind (update_joins fun _ => rfl) fun _ => ?_
      refine Path.Confines.bind (stopAllCommThreads_joins.strengthen_pre fun _ calm => calm.any)
        fun _ => ?_
      have clear : JoinsUnheld (Calm none none AllLive)
          (Path.update fun node : Node K => { node with commThreads := [] })
          (Calm none none threads) raised := Path.Confines.update fun _ unheld calm =>
        ⟨unheld, calm.communication, calm.jointStateMsg, empty⟩
      refine Path.Confines.bind clear fun _ => ?_
      exact Path.Confines.bind (update_joins fun _ => rfl) fun _ => pure_joins _
  | inactive => exact pure_joins _
  | active => exact pure_joins _
  | finalized => exact pure_joins _
  | inTransition => exact pure_joins _

theorem setLifecycle_joins (lifecycle : Lifecycle) :
    JoinsUnheld (Calm communication jointStateMsg threads)
      (setLifecycle lifecycle : NodePath K Unit) (Calm communication jointStateMsg threads) raised :=
  update_joins fun _ => rfl

theorem transition_joins {start goal : Lifecycle} {callback : NodePath K CallbackReturn}
    (empty : threads []) (joins : JoinsUnheld (Calm none none threads) callback
      (Calm none none threads) (Calm none none threads)) :
    JoinsUnheld (Calm none none threads) (transition start goal callback) (Calm none none threads)
      raised := by
  refine Path.Confines.bind (Path.Confines.read _) fun _ => ?_
  refine Path.Confines.strengthen_pre ?_ fun _ => And.left
  refine Path.Confines.when fun _ => Path.Confines.bind (setLifecycle_joins _) fun _ => ?_
  refine Path.Confines.bind (Path.Confines.tryCatch joins fun _ => pure_joins _) fun result => ?_
  cases result with
  | success => exact setLifecycle_joins _
  | failure => exact setLifecycle_joins _
  | error =>
      refine Path.Confines.bind (onError_joins empty start) fun handled => ?_
      cases handled <;> exact setLifecycle_joins _

theorem cleanup_joins (empty : threads []) : JoinsUnheld (Calm none none threads)
    (cleanup : NodePath K Unit) (Calm none none threads) raised :=
  transition_joins empty ((onCleanup_joins empty).strengthen_pre fun _ calm => calm.any)

/-- Whatever the handler leaves behind, a thread that could be joined is running. -/
def OriginsCalm (surroundings : Surroundings) : Prop :=
  ∃ communication, Calm communication none AllLive surroundings

theorem allLive_nil : AllLive [] := nofun

theorem setInterfaceOrigins_joins :
    JoinsUnheld OriginsCalm (setInterfaceOrigins index : NodePath K Unit) OriginsCalm raised := by
  refine Path.Confines.tryCatch setMotorOrigins_aside.joins fun _ => ?_
  refine Path.Confines.bind canInterface_joins fun _ => ?_
  have emergency : JoinsUnheld OriginsCalm (Path.tryCatch disableAllAndOneMore fun _ => do
      let _ ← canInterface index : NodePath K Unit) OriginsCalm raised :=
    Path.Confines.tryCatch disableAllAndOneMore_aside.joins fun _ =>
      Path.Confines.bind canInterface_joins fun _ => pure_joins ()
  refine Path.Confines.bind emergency fun _ => ?_
  have unlock : JoinsUnheld OriginsCalm (unlockCommunication .exclusive : NodePath K Unit)
      (Calm none none AllLive) raised := fun node unheld ⟨_, calm⟩ =>
    unlockCommunication_joins node unheld calm
  refine Path.Confines.bind unlock fun _ => ?_
  refine Path.Confines.bind (update_joins fun _ => rfl) fun _ => ?_
  exact (cleanup_joins allLive_nil).weaken_post fun _ _ calm => ⟨none, calm⟩

theorem setAllMotorsOriginHereCallback_joins : JoinsUnheld (Calm none none anyThreads)
    (setAllMotorsOriginHereCallback : NodePath K Unit) (Calm none none anyThreads) raised := by
  refine Path.Confines.bind (Path.Confines.read _) fun _ => ?_
  refine Path.Confines.strengthen_pre ?_ fun _ => And.left
  refine Path.Confines.ite (fun _ => update_joins fun _ => rfl) fun _ => ?_
  refine Path.Confines.bind stopAllCommThreads_joins fun _ => ?_
  have lock : JoinsUnheld (Calm none none AllLive) (lockCommunication .exclusive : NodePath K Unit)
      OriginsCalm raised := lockCommunication_joins.weaken_post fun _ _ calm => ⟨_, calm⟩
  refine Path.Confines.bind lock fun _ => ?_
  refine Path.Confines.bind (Path.Confines.loopBelow fun _ => setInterfaceOrigins_joins) fun _ => ?_
  have start (index : Nat) : JoinsUnheld OriginsCalm (startCommThread index : NodePath K Unit)
      OriginsCalm raised := fun node unheld ⟨communication, calm⟩ =>
    ((startCommThread_joins_none (fun _ live => live index) fun _ live _ =>
      allLive_started live).weaken_post fun _ _ calm => ⟨communication, calm⟩) node unheld calm
  refine Path.Confines.bind (Path.Confines.loopBelow start) fun _ => ?_
  refine Path.Confines.bind (respond_joins _ _) fun _ node unheld ⟨_, calm⟩ => ?_
  exact (unlockCommunication_joins.weaken_post fun _ _ calm => calm.any) node unheld calm

theorem setMotorOriginHereCallback_joins (motorId : Int) : JoinsUnheld (Calm none none anyThreads)
    (setMotorOriginHereCallback motorId : NodePath K Unit) (Calm none none anyThreads) raised := by
  refine Path.Confines.bind (Path.Confines.read _) fun _ => ?_
  refine Path.Confines.strengthen_pre ?_ fun _ => And.left
  refine Path.Confines.ite (fun _ => respond_joins _ _) fun _ => ?_
  refine Path.Confines.bind (Path.Confines.read _) fun found => ?_
  refine Path.Confines.strengthen_pre ?_ fun _ => And.left
  rcases found with _ | ⟨index, target⟩
  · exact respond_joins _ _
  refine Path.Confines.bind stopCommThread_joins fun _ => ?_
  refine Path.Confines.bind lockCommunication_joins fun _ => ?_
  refine Path.Confines.bind (attempt_joins restartMotors_aside.joins) fun restarted => ?_
  cases restarted with
  | error exception =>
      refine Path.Confines.bind canInterface_joins fun _ => ?_
      refine Path.Confines.bind (Path.Confines.tryCatch disableAll_aside.joins fun _ =>
        pure_joins ()) fun _ => ?_
      refine Path.Confines.bind unlockCommunication_joins fun _ => ?_
      refine Path.Confines.bind (respond_joins _ _) fun _ => ?_
      exact (cleanup_joins trivial).strengthen_pre fun _ calm => calm.any
  | ok value =>
      -- the stopped thread is not joinable, so the start under the mutex joins nothing
      refine Path.Confines.bind (startCommThread_joins_none (fun _ live => live) ?_) fun _ => ?_
      · intro list live bound thread there joinable
        rw [List.getElem?_modify_eq, List.getElem?_eq_getElem bound] at there
        cases there
        rfl
      refine Path.Confines.bind jointParameters_joins fun _ => ?_
      refine Path.Confines.bind (respond_joins _ _) fun _ => ?_
      exact unlockCommunication_joins.weaken_post fun _ _ calm => calm.any

theorem read_joins {α : Type} (component : Node K → α) :
    JoinsUnheld pre (Path.read component) pre raised :=
  (Path.Confines.read component).weaken_post fun _ _ => And.left

section Configuration

variable [Scalar K] {assignment : Assignment K} {configs : JointConfigs K} {bus : Bus} {now : Int}

omit [Scalar K] in
theorem startMotors_joins : JoinsUnheld (Calm none none anyThreads) (startMotors configs)
    (Calm none none anyThreads) (Calm none none anyThreads) := by
  refine Path.Confines.bind enableMotors_aside.joins fun failed =>
    Path.Confines.ite (fun _ => ?_) fun _ => ?_
  · refine Path.Confines.bind (Path.Confines.loopBelow fun _ => disableAfterFailure_aside.joins)
      fun _ => ?_
    exact Path.Confines.bind clearInterfaces_joins fun _ => pure_joins _
  · refine Path.Confines.bind (update_joins fun _ => rfl) fun _ => ?_
    refine Path.Confines.bind startSupervisor_aside.joins fun _ => ?_
    exact Path.Confines.bind (Path.Confines.loopBelow fun _ => startCommThread_joins) fun _ =>
      pure_joins _

theorem configureNode_joins : JoinsUnheld (Calm none none anyThreads)
    (configureNode assignment bus now) (Calm none none anyThreads) (Calm none none anyThreads) := by
  refine Path.Confines.bind readGlobals_aside.joins fun jointNames => ?_
  refine Path.Confines.bind (read_joins _) fun defaults => ?_
  refine Path.Confines.bind (update_joins fun _ => rfl) fun _ => ?_
  refine Path.Confines.bind (checked_aside _).joins fun found => ?_
  cases found with
  | none => exact pure_joins _
  | some seen =>
      have prepare : JoinsUnheld (Calm none none anyThreads)
          (Path.update (prepareTables seen jointNames.length now) : NodePath K Unit)
          (Calm none none anyThreads) (Calm none none anyThreads) := Path.Confines.update fun _ unheld calm =>
        ⟨unheld, calm.communication, calm.jointStateMsg, trivial⟩
      refine Path.Confines.bind prepare fun _ => ?_
      refine Path.Confines.bind (buildTables_aside (K := K) _).joins fun built => ?_
      cases built with
      | none => exact pure_joins _
      | some configs =>
          refine Path.Confines.bind (createInterfaces_aside _).joins fun _ => ?_
          exact Path.Confines.bind startPublishing_aside.joins fun _ => startMotors_joins

theorem onConfigure_joins : JoinsUnheld (Calm none none anyThreads)
    (onConfigure assignment bus now) (Calm none none anyThreads) (Calm none none anyThreads) :=
  Path.Confines.bind (checked_aside _).joins fun _ =>
    Path.Confines.tryCatch configureNode_joins fun exception =>
      (configureHandler_aside exception).joins

end Configuration

section Cycle

variable [Scalar K] {env : CycleEnv}

theorem deactivate_joins : JoinsUnheld (Calm communication jointStateMsg threads)
    (deactivate : NodePath K Unit) (Calm communication jointStateMsg threads) raised := by
  intro node unheld calm
  rw [deactivate_run]
  split
  · exact ⟨unheld, calm.communication, calm.jointStateMsg, calm.threads⟩
  · exact ⟨unheld, calm⟩

omit [Scalar K] in
theorem observeLifecycle_joins (point : CyclePoint) :
    JoinsUnheld (Calm communication jointStateMsg threads)
      (observeLifecycle env point : NodePath K Lifecycle)
      (Calm communication jointStateMsg threads) raised :=
  Path.Confines.bind (update_joins fun _ => rfl) fun _ =>
    (Path.Confines.read _).weaken_post fun _ _ => And.left

omit [Scalar K] in
theorem observeRunning_joins (point : CyclePoint) :
    JoinsUnheld (Calm communication jointStateMsg anyThreads)
      (observeRunning env point index : NodePath K Bool)
      (Calm communication jointStateMsg anyThreads) raised := by
  intro node unheld calm
  have changed : Calm communication jointStateMsg anyThreads ({ node with
      commThreads := node.commThreads.modify index fun thread =>
        { thread with running := thread.running && !env.stops point } } : Node K).surroundings :=
    ⟨calm.communication, calm.jointStateMsg, trivial⟩
  rw [observeRunning, Path.update_bind, commThread, Path.element_bind]
  split
  · exact ⟨unheld, changed⟩
  · exact ⟨unheld, trivial⟩

/-- A cycle gives both mutexes back. -/
theorem unheldRules (index : Nat) (env : CycleEnv) :
    CycleRules (fun node : Node K => node.surroundings.Unheld)
      (fun communication jointStateMsg node =>
        Calm communication jointStateMsg anyThreads node.surroundings) index env where
  work before after same := by
    have surroundings : after.surroundings = before.surroundings := congrArg Still.surroundings same
    rw [surroundings]
    exact ⟨id, fun _ _ => id⟩
  lockCommunication _ := (lockCommunication_joins : JoinsUnheld _ _ _ anywhere)
  unlockCommunication _ := (unlockCommunication_joins : JoinsUnheld _ _ _ anywhere)
  lockJointStateMsg _ := (lockJointStateMsg_joins : JoinsUnheld _ _ _ anywhere)
  unlockJointStateMsg _ := (unlockJointStateMsg_joins : JoinsUnheld _ _ _ anywhere)
  observeLifecycle point _ := (observeLifecycle_joins point : JoinsUnheld _ _ _ anywhere)
  observeRunning point _ := (observeRunning_joins point : JoinsUnheld _ _ _ anywhere)
  deactivate := (deactivate_joins : JoinsUnheld _ _ _ anywhere)
  request _ _ unheld calm :=
    ⟨unheld, calm.communication, calm.jointStateMsg, calm.threads⟩

/-- A cycle makes no join. -/
theorem joinsRules (start : Node K) (index : Nat) (env : CycleEnv) :
    CycleRules (Path.Unchanged joins start) (fun _ _ _ => True) index env where
  work _ _ same :=
    ⟨fun reached => Eq.trans (congrArg (fun still : Still K => still.surroundings.joins) same) reached,
      fun _ _ _ => trivial⟩
  lockCommunication _ := .of_evolves (Path.Evolves.updateFound fun node _ => recorded_joins node rfl)
  unlockCommunication _ := .of_evolves (Path.Evolves.updateFound fun node _ => recorded_joins node rfl)
  lockJointStateMsg _ := .of_evolves (Path.Evolves.updateFound fun node _ => recorded_joins node rfl)
  unlockJointStateMsg _ := .of_evolves (Path.Evolves.updateFound fun node _ => recorded_joins node rfl)
  observeLifecycle _ _ := .of_evolves (Path.Evolves.bind (Path.Evolves.update fun _ => rfl)
    fun _ => Path.Evolves.read _)
  observeRunning _ _ := .of_evolves (Path.Evolves.bind (Path.Evolves.update fun _ => rfl)
    fun _ => Path.Evolves.bind (Path.Evolves.element _) fun _ => Path.Evolves.pure _)
  deactivate := .of_evolves fun node => by
    rw [deactivate_run]
    split <;> rfl
  request _ _ reached _ := ⟨reached, trivial⟩

end Cycle

section Operations

variable [Scalar K]

omit [Scalar K] in
theorem onActivate_joins : JoinsUnheld (Calm communication jointStateMsg threads)
    (onActivate : NodePath K CallbackReturn) (Calm communication jointStateMsg threads)
    (Calm communication jointStateMsg threads) := by
  refine Path.Confines.bind (read_joins _) fun _ => Path.Confines.ite (fun _ => ?_) fun _ => pure_joins _
  refine Path.Confines.bind (read_joins _) fun frequency => ?_
  refine Path.Confines.bind (createTimer_aside frequency).joins fun _ => ?_
  exact Path.Confines.bind (update_joins fun _ => rfl) fun _ => pure_joins _

theorem onDeactivate_joins : JoinsUnheld (Calm communication jointStateMsg threads)
    (onDeactivate : NodePath K CallbackReturn) (Calm communication jointStateMsg threads) raised :=
  Path.Confines.bind (update_joins fun _ => rfl) fun _ =>
    Path.Confines.bind (update_joins fun _ => rfl) fun _ => pure_joins _

theorem onShutdown_joins (previousState : Lifecycle) : JoinsUnheld (Calm none none anyThreads)
    (onShutdown previousState : NodePath K CallbackReturn) (Calm none none anyThreads) raised := by
  have deactivation : JoinsUnheld (Calm none none anyThreads)
      (Path.tryCatch (do let _ ← onDeactivate) fun _ => pure () : NodePath K Unit)
      (Calm none none anyThreads) raised :=
    Path.Confines.tryCatch (Path.Confines.bind onDeactivate_joins fun _ => pure_joins _) fun _ =>
      pure_joins _
  have cleanup : JoinsUnheld (Calm none none anyThreads)
      (Path.tryCatch (do let _ ← onCleanup) fun _ => pure () : NodePath K Unit)
      (Calm none none anyThreads) raised :=
    Path.Confines.tryCatch (Path.Confines.bind (onCleanup_joins trivial) fun _ => pure_joins _) fun _ =>
      pure_joins _
  refine Path.Confines.bind (Path.Confines.when fun _ => deactivation) fun _ => ?_
  exact Path.Confines.bind (Path.Confines.when fun _ => cleanup) fun _ => pure_joins _

variable [StdToString K] [Libm K] {node : Node K}

/-- No operation joins a thread while it holds a mutex, and each gives both back. -/
theorem Operation.joins (operation : Operation K) : JoinsUnheld (Calm none none anyThreads)
    operation.path (Calm none none anyThreads) anywhere := by
  cases operation with
  | configure assignment bus now => exact transition_joins trivial onConfigure_joins
  | cleanup => exact cleanup_joins trivial
  | activate => exact transition_joins trivial onActivate_joins
  | deactivate => exact deactivate_joins
  | shutdown =>
      exact Path.Confines.bind (read_joins _) fun lifecycle => Path.Confines.when fun _ =>
        transition_joins trivial (onShutdown_joins lifecycle)
  | jointCmd command cmdRxNs now =>
      have callback : JoinsUnheld (Calm none none anyThreads)
          (jointCmdMsgCallback command cmdRxNs now) (Calm none none anyThreads) anywhere := by
        refine Path.Confines.bind (read_joins _) fun _ => Path.Confines.ite (fun _ => ?_)
          fun _ => pure_joins _
        refine Path.Confines.bind (update_joins fun _ => rfl) fun _ => ?_
        refine Path.Confines.bind (read_joins _) fun _ => ?_
        exact Path.Confines.bind (Path.Confines.when fun _ => update_joins fun _ => rfl) fun _ =>
          pure_joins _
      exact Path.Confines.bind callback fun _ => pure_joins _
  | watchdogTimer =>
      refine Path.Confines.bind (read_joins _) fun _ => ?_
      exact Path.Confines.bind (Path.Confines.when fun _ => deactivate_joins) fun _ =>
        update_joins fun _ => rfl
  | supervisorTimer =>
      refine Path.Confines.bind (read_joins _) fun _ => ?_
      exact Path.Confines.bind (update_joins fun _ => rfl) fun _ =>
        Path.Confines.when fun _ => cleanup_joins trivial
  | canCycle canInterface times =>
      exact Path.Confines.bind (canCycleCallback_cycles (unheldRules canInterface times.env)) fun _ =>
        pure_joins _
  | setAllMotorsOriginHere => exact setAllMotorsOriginHereCallback_joins
  | setMotorOriginHere motorId => exact setMotorOriginHereCallback_joins motorId
  | setParameters order batch =>
      have callback : JoinsUnheld (Calm none none anyThreads)
          (onSetParametersCallback order batch) (Calm none none anyThreads) anywhere :=
        (onSetParametersCallback_aside order batch).joins.consequence (fun _ => id) (fun _ _ => id)
          fun _ _ => trivial
      exact Path.Confines.bind callback fun _ => pure_joins _

/-- Between operations no mutex is held, and no join was made under one. -/
def Released (node : Node K) : Prop :=
  node.surroundings.Unheld ∧ Calm none none anyThreads node.surroundings

omit [Scalar K] [StdToString K] [Libm K] in
theorem Constructed.released (constructed : Constructed node) : Released node := by
  refine ⟨fun event member => ?_, constructed.canCommunicationMutex, constructed.jointStateMsgMutex,
    trivial⟩
  have none : event ∈ node.log.filter NodeEvent.isJoin := member
  rw [constructed.log] at none
  cases none

theorem operate_released {after : Node K} {operation : Operation K} (released : Released node)
    (moved : operate node operation = some after) : Released after :=
  (Operation.joins operation).of_returned released.1 released.2 (operate_some.mp moved).2

/-- In every run, each join is made without a mutex, however the operation that makes
it ends, and no cycle of a comm thread makes any, whatever the other threads do. -/
theorem joins_hold_no_mutex {start : Node K} {operations : List (Operation K)}
    (constructed : Constructed start) (run : runSteps operate start operations = some node) :
    (∀ operation : Operation K, ∀ event ∈ (operation.path.run node).2.joins,
      ∃ index, event = .threadJoined index false) ∧
    ∀ index env, ((canCycleCallback index env).run node).2.joins = node.joins := by
  have released : Released node := invariant_of_run
    (fun _ _ _ released _ => operate_released released) constructed.released everyStep_true run
  constructor
  · exact fun operation => (Operation.joins operation).always_after released.1 released.2
  · intro index env
    exact (canCycleCallback_cycles (joinsRules node index env)).always_after rfl trivial

end Operations

section Example

attribute [local instance] libmAtRest

theorem joins_hold_no_mutex_leg : ∃ node,
    runSteps operate freshNode [.configure (legAssignment []) legBus 0] = some node ∧
    ∀ event ∈ ((Operation.cleanup : Operation ℚ).path.run node).2.joins,
      ∃ index, event = .threadJoined index false := by
  obtain ⟨node, run⟩ := Option.isSome_iff_exists.mp (show (runSteps operate freshNode
    [.configure (legAssignment []) legBus 0]).isSome = true by decide +kernel)
  exact ⟨node, run, (joins_hold_no_mutex freshNode_constructed run).1 .cleanup⟩

end Example

end CubemarsDriver.Node
