import CubemarsDriver.Foundation.Trace
import CubemarsDriver.Node.AllOrigins
import CubemarsDriver.Node.Joins

namespace CubemarsDriver

open Foundation Can Node

/-! # Comm threads and the interfaces they use

A comm thread uses its interface from its start until it is joined.  The events of a
path tell when threads are started and joined and when the interfaces are cleared. -/

/-- The event neither joins nor starts a thread nor clears the interfaces. -/
def NodeEvent.neutral : NodeEvent → Bool
  | .threadJoined .. => false
  | .threadStarted _ => false
  | .interfacesCleared => false
  | _ => true

/-- The threads that were started and not joined, and the number of interfaces. -/
structure Roster where
  joinable : Nat → Bool
  interfaces : Nat

namespace Roster

/-- Every thread that may run has its interface. -/
def Served (roster : Roster) : Prop :=
  ∀ index, roster.joinable index = true → index < roster.interfaces

theorem Served.joined {roster : Roster} (served : roster.Served) (index : Nat) :
    Served { roster with joinable := Function.update roster.joinable index false } := by
  intro other joinable
  by_cases same : other = index
  · simp [same] at joinable
  · simp only [Function.update_of_ne same] at joinable
    exact served other joinable

def after (roster : Roster) : NodeEvent → Roster
  | .threadJoined index _ => { roster with joinable := Function.update roster.joinable index false }
  | .threadStarted index => { roster with joinable := Function.update roster.joinable index true }
  | .interfacesCleared => { roster with interfaces := 0 }
  | _ => roster

theorem after_neutral (roster : Roster) {event : NodeEvent} (neutral : event.neutral = true) :
    roster.after event = roster := by
  cases event <;> first | rfl | cases neutral

end Roster

/-- What a node knows of the comm threads and interfaces. -/
structure Staff where
  threads : List CommThread
  interfaces : Nat

namespace Staff

variable {staff : Staff} {index : Nat}

def roster (staff : Staff) : Roster where
  joinable := joinables staff.threads
  interfaces := staff.interfaces

/-- There is an interface for every thread. -/
def Manned (staff : Staff) : Prop := staff.threads.length ≤ staff.interfaces

/-- There is nothing to know. -/
def Any (_ : Staff) : Prop := True

def NoThreads (staff : Staff) : Prop := staff.threads = []

/-- All threads are joined. -/
def AllJoined (staff : Staff) : Prop := ∀ index, joinables staff.threads index = false

/-- There is an interface for every thread, and none of them may run. -/
def Paused (staff : Staff) : Prop := staff.Manned ∧ staff.AllJoined

/-- A step on one thread keeps what is known. -/
def Closed (staffed : Staff → Prop) : Prop :=
  ∀ staff index change, staffed staff →
    staffed { staff with threads := staff.threads.modify index change }

theorem any_closed : Closed Any := fun _ _ _ => id

theorem manned_closed : Closed Manned := fun _ _ _ manned => (List.length_modify ..).trans_le manned

theorem NoThreads.manned (empty : staff.NoThreads) : staff.Manned := by
  rw [Manned, show staff.threads = [] from empty]
  exact Nat.zero_le _

theorem NoThreads.paused (empty : staff.NoThreads) : staff.Paused := by
  refine ⟨empty.manned, fun index => ?_⟩
  rw [show staff.threads = [] from empty]
  rfl

theorem Manned.served (manned : staff.Manned) : staff.roster.Served :=
  fun _ joinable => (joinables_lt joinable).trans_le manned

theorem AllJoined.served (joined : staff.AllJoined) : staff.roster.Served := by
  intro index joinable
  have none : staff.roster.joinable index = false := joined index
  rw [none] at joinable
  cases joinable

end Staff

namespace Node

variable {K : Type} {base node after : Node K} {index : Nat} {mode : LockMode}

def staff (node : Node K) : Staff where
  threads := node.commThreads
  interfaces := node.numInterfaces

/-- The events since `base` lead to the threads and interfaces of the node, and every
thread had its interface all the way. -/
def Follows (base node : Node K) : Prop :=
  ∃ events, node.log = base.log ++ events ∧
    events.foldl Roster.after base.staff.roster = node.staff.roster ∧
    Passes Roster.after Roster.Served base.staff.roster events

theorem follows_self (served : base.staff.roster.Served) : Follows base base :=
  ⟨[], (List.append_nil _).symm, rfl, served⟩

theorem Follows.served (follows : Follows base node) : node.staff.roster.Served := by
  obtain ⟨events, _, reached, passes⟩ := follows
  exact reached ▸ passes.finish

theorem Follows.append {more : List NodeEvent} (follows : Follows base node)
    (log : after.log = node.log ++ more)
    (reaches : more.foldl Roster.after node.staff.roster = after.staff.roster)
    (passes : Passes Roster.after Roster.Served node.staff.roster more) : Follows base after := by
  obtain ⟨events, before, reached, passed⟩ := follows
  refine ⟨events ++ more, by rw [log, before, List.append_assoc], ?_, passed.append ?_⟩
  · rw [List.foldl_append, reached, reaches]
  · rwa [reached]

/-- One more event. -/
theorem Follows.recorded {event : NodeEvent} (follows : Follows base node)
    (log : after.log = node.log ++ [event])
    (reaches : node.staff.roster.after event = after.staff.roster)
    (served : after.staff.roster.Served) : Follows base after :=
  follows.append log reaches ⟨follows.served, show Roster.Served _ from reaches ▸ served⟩

theorem Follows.unrecorded (follows : Follows base node) (log : after.log = node.log)
    (same : after.staff.roster = node.staff.roster) : Follows base after :=
  follows.append (log.trans (List.append_nil _).symm) same.symm follows.served

/-- The path changes neither the threads nor the number of interfaces. -/
def Neutral (before after : Node K) : Prop :=
  after.staff = before.staff ∧ ∃ events, after.log = before.log ++ events ∧
    ∀ event ∈ events, event.neutral = true

instance instIsPreorderNeutral : IsPreorder (Node K) Neutral where
  refl node := ⟨rfl, [], (List.append_nil _).symm, by simp⟩
  trans before middle after := by
    rintro ⟨same, events, log, all⟩ ⟨sameAfter, more, logAfter, allAfter⟩
    refine ⟨sameAfter.trans same, events ++ more, by rw [logAfter, log, List.append_assoc],
      fun event member => ?_⟩
    rcases List.mem_append.mp member with old | new
    · exact all event old
    · exact allAfter event new

theorem Follows.neutral (follows : Follows base node) (neutral : Neutral node after) :
    Follows base after := by
  obtain ⟨same, events, log, all⟩ := neutral
  have kept := passes_of_kept (fun event member =>
    Roster.after_neutral node.staff.roster (all event member)) follows.served
  exact follows.append log (by rw [kept.1, same]) kept.2

section Neutral

variable {joint : Nat}

theorem recorded_neutral {event : NodeEvent} (same : after.staff = node.staff)
    (log : after.log = node.log ++ [event]) (neutral : event.neutral = true) : Neutral node after :=
  ⟨same, [event], log, fun _ member => List.mem_singleton.mp member ▸ neutral⟩

theorem update_neutral {change : Node K → Node K} (same : ∀ node, (change node).staff = node.staff)
    (log : ∀ node, (change node).log = node.log) :
    Path.Evolves Neutral (Path.update change : NodePath K Unit) :=
  Path.Evolves.update fun node => ⟨same node, [], by simp [log], by simp⟩

theorem lockCommunication_neutral :
    Path.Evolves Neutral (lockCommunication mode : NodePath K Unit) :=
  Path.Evolves.updateFound fun _ _ => recorded_neutral rfl rfl rfl

theorem unlockCommunication_neutral :
    Path.Evolves Neutral (unlockCommunication mode : NodePath K Unit) :=
  Path.Evolves.updateFound fun _ _ => recorded_neutral rfl rfl rfl

theorem lockJointStateMsg_neutral :
    Path.Evolves Neutral (lockJointStateMsg mode : NodePath K Unit) :=
  Path.Evolves.updateFound fun _ _ => recorded_neutral rfl rfl rfl

theorem unlockJointStateMsg_neutral :
    Path.Evolves Neutral (unlockJointStateMsg mode : NodePath K Unit) :=
  Path.Evolves.updateFound fun _ _ => recorded_neutral rfl rfl rfl

theorem respond_neutral (success : Bool) (message : String) :
    Path.Evolves Neutral (respond success message : NodePath K Unit) :=
  update_neutral (fun _ => rfl) fun _ => rfl

theorem setLifecycle_neutral (lifecycle : Lifecycle) :
    Path.Evolves Neutral (setLifecycle lifecycle : NodePath K Unit) :=
  update_neutral (fun _ => rfl) fun _ => rfl

theorem canInterface_neutral : Path.Evolves Neutral (canInterface index : NodePath K (CubemarsCan K)) :=
  Path.Evolves.bind (Path.Evolves.update fun _ => recorded_neutral rfl rfl rfl) fun _ =>
    Path.Evolves.element _

theorem handshake_neutral (step : HandshakeStep) :
    Path.Evolves Neutral (handshake index step : NodePath K Unit) := by
  intro node
  cases found : node.canInterfaces[index]?.join with
  | none =>
      simp only [handshake, found]
      exact recorded_neutral rfl rfl rfl
  | some can =>
      rw [handshake_run step found]
      refine recorded_neutral ?_ rfl rfl
      exact congrArg (Staff.mk node.commThreads) List.length_set

theorem nameJoint_neutral : Path.Evolves Neutral (nameJoint index joint : NodePath K Unit) := by
  refine Path.Evolves.bind (Path.Evolves.element _) fun _ => ?_
  refine Path.Evolves.bind (Path.Evolves.bind canInterface_neutral fun can => ?_) fun _ =>
    Path.Evolves.pure _
  split
  · exact Path.Evolves.pure _
  · exact Path.Evolves.throw _

theorem jointCount_neutral : Path.Evolves Neutral (jointCount index : NodePath K Nat) :=
  Path.Evolves.bind (Path.Evolves.element _) fun _ => Path.Evolves.pure _

theorem disableMotors_neutral : Path.Evolves Neutral (disableMotors index : NodePath K Unit) :=
  Path.Evolves.bind (Path.Evolves.element _) fun _ => Path.Evolves.loopBelow fun _ =>
    Path.Evolves.tryCatch (handshake_neutral _) fun _ => Path.Evolves.bind (Path.Evolves.element _)
      fun _ => Path.Evolves.bind canInterface_neutral fun _ => Path.Evolves.pure _

theorem setMotorOrigins_neutral : Path.Evolves Neutral (setMotorOrigins index : NodePath K Unit) := by
  refine Path.Evolves.bind jointCount_neutral fun _ => Path.Evolves.loopBelow fun _ => ?_
  refine Path.Evolves.bind nameJoint_neutral fun _ => ?_
  refine Path.Evolves.bind (handshake_neutral _) fun _ => ?_
  refine Path.Evolves.bind nameJoint_neutral fun _ => ?_
  exact Path.Evolves.bind (handshake_neutral _) fun _ => nameJoint_neutral

theorem restartMotors_neutral (target : Nat) :
    Path.Evolves Neutral (restartMotors index target : NodePath K Unit) := by
  refine Path.Evolves.bind jointCount_neutral fun _ => ?_
  refine Path.Evolves.bind (Path.Evolves.loopBelow fun _ => Path.Evolves.bind nameJoint_neutral
    fun _ => handshake_neutral _) fun _ => Path.Evolves.loopBelow fun _ => ?_
  refine Path.Evolves.bind (Path.Evolves.when fun _ => nameJoint_neutral) fun _ => ?_
  exact Path.Evolves.bind (handshake_neutral _) fun _ => nameJoint_neutral

end Neutral

section Serves

variable {pre post : Node K → Prop} {path : NodePath K Unit}

/-- On the way from `base` the path takes no interface from a thread that may run.  An
exception ends the process. -/
abbrev Serves {α : Type} (base : Node K) (pre : Node K → Prop) (path : NodePath K α)
    (post : Node K → Prop) : Prop :=
  Path.Confines (Follows base) pre path (fun _ => post) fun _ => True

/-- What depends on the threads and interfaces only. -/
def Staffed (holds : Staff → Prop) (node : Node K) : Prop := holds node.staff

variable {staffed : Staff → Prop}

theorem confines_neutral {α : Type} {path : NodePath K α} (neutral : Path.Evolves Neutral path) :
    Path.Confines (Follows base) (Staffed staffed) path (fun _ => Staffed staffed)
      (Staffed staffed) :=
  Path.Confines.of_related neutral (fun _ _ neutral follows => follows.neutral neutral)
    fun _ _ neutral holds => by rwa [Staffed, neutral.1]

theorem serves_neutral {α : Type} {path : NodePath K α} (neutral : Path.Evolves Neutral path) :
    Serves base (Staffed staffed) path (Staffed staffed) :=
  (confines_neutral neutral).consequence (fun _ => id) (fun _ _ => id) fun _ _ => trivial

theorem serves_pure {α : Type} (value : α) : Serves base pre (pure value : NodePath K α) pre :=
  fun _ follows holds => ⟨follows, holds⟩

theorem Passive.keepsLifecycle {α : Type} {path : NodePath K α} {lifecycle : Lifecycle}
    (passive : Passive path) : Path.Confines (fun _ => True) (fun node => node.lifecycle = lifecycle)
      path (fun _ node => node.lifecycle = lifecycle) fun node => node.lifecycle = lifecycle :=
  Path.Confines.of_preserves passive (fun _ _ _ => id) fun _ _ same was =>
    (congrArg Gate.lifecycle same).trans was

/-- A step on one thread that is recorded. -/
theorem changeThread_serves {event : NodeEvent} {change : CommThread → CommThread}
    (closed : Staff.Closed staffed)
    (reaches : ∀ node : Node K, index < node.commThreads.length → node.staff.roster.after event =
      ⟨joinables (node.commThreads.modify index change), node.numInterfaces⟩)
    (serves : ∀ staff : Staff, staffed staff → staff.roster.Served →
      (staff.roster.after event).Served) :
    Serves base (Staffed staffed) (changeThread index event change : NodePath K Unit)
      (Staffed staffed) := by
  refine Path.Confines.updateDefined fun node after follows holds changed => ?_
  rw [Option.ite_none_right_eq_some, Option.some.injEq] at changed
  obtain ⟨bound, rfl⟩ := changed
  have served := serves node.staff holds follows.served
  rw [reaches node bound] at served
  exact ⟨follows.recorded rfl (reaches node bound) served, closed node.staff index change holds⟩

theorem signalThread_serves (closed : Staff.Closed staffed) : Serves base (Staffed staffed)
    (signalThread index : NodePath K Unit) (Staffed staffed) :=
  changeThread_serves closed (fun node _ => congrArg (Roster.mk · node.numInterfaces)
    (joinables_kept fun _ => by rfl).symm) fun _ _ => id

theorem joinThread_serves (closed : Staff.Closed staffed) : Serves base (Staffed staffed)
    (joinThread index : NodePath K Unit) (Staffed staffed) := by
  refine Path.Confines.bind (Path.Confines.read _) fun _ => ?_
  refine Path.Confines.strengthen_pre (changeThread_serves closed (fun node bound => ?_)
    fun staff _ served => served.joined index) fun _ => And.left
  exact congrArg (Roster.mk · node.numInterfaces) (joinables_modify bound fun _ => by rfl).symm

theorem joinIfJoinable_serves (closed : Staff.Closed staffed) : Serves base (Staffed staffed)
    (do let thread ← commThread index; Path.when thread.joinable (joinThread index) : NodePath K Unit)
    (Staffed staffed) :=
  Path.Confines.bind (serves_neutral (Path.Evolves.element _)) fun _ =>
    Path.Confines.when fun _ => joinThread_serves closed

theorem startCommThread_serves : Serves base (Staffed Staff.Manned)
    (startCommThread index : NodePath K Unit) (Staffed Staff.Manned) := by
  refine Path.Confines.bind (serves_neutral (Path.Evolves.element _)) fun _ =>
    Path.Confines.when fun _ => ?_
  refine Path.Confines.bind (Path.Confines.when fun _ => joinThread_serves Staff.manned_closed)
    fun _ => ?_
  refine Path.Confines.updateDefined fun node after follows manned changed => ?_
  rw [Option.ite_none_right_eq_some, Option.some.injEq] at changed
  obtain ⟨bound, rfl⟩ := changed
  have kept : Staff.Manned ⟨node.commThreads.modify index fun _ => startedThread,
    node.numInterfaces⟩ := Staff.manned_closed _ _ _ manned
  refine ⟨follows.recorded rfl ?_ kept.served, kept⟩
  exact congrArg (Roster.mk · node.numInterfaces) (joinables_modify bound fun _ => by rfl).symm

theorem stopCommThread_serves (closed : Staff.Closed staffed) : Serves base (Staffed staffed)
    (stopCommThread index : NodePath K Unit) (Staffed staffed) :=
  Path.Confines.bind (signalThread_serves closed) fun _ => joinIfJoinable_serves closed

theorem stopAllCommThreads_serves (closed : Staff.Closed staffed) :
    Serves base (Staffed staffed) (stopAllCommThreads : NodePath K Unit)
      (Staffed fun staff => staffed staff ∧ staff.AllJoined) := by
  have stops : Serves base (Staffed staffed) (stopAllCommThreads : NodePath K Unit)
      (Staffed staffed) :=
    Path.Confines.bind (Path.Confines.loopBelow fun _ => signalThread_serves closed) fun _ =>
      Path.Confines.loopBelow fun _ => joinIfJoinable_serves closed
  exact (stops.and stopAllCommThreads_joined).consequence (fun _ holds => ⟨holds, trivial⟩)
    (fun _ _ => id) fun _ _ => trivial

/-- Without a thread that may run the interfaces may go. -/
theorem clearInterfaces_serves : Serves base (Staffed Staff.AllJoined)
    (clearInterfaces : NodePath K Unit) (Staffed Staff.AllJoined) := by
  refine Path.Confines.update fun node follows joined => ?_
  have after : Staff.AllJoined ⟨node.commThreads, 0⟩ := joined
  exact ⟨follows.recorded rfl rfl after.served, after⟩

/-- After a cleanup no thread is left. -/
theorem onCleanup_serves : Serves base (Staffed Staff.Any) (onCleanup : NodePath K CallbackReturn)
    (Staffed Staff.NoThreads) := by
  refine Path.Confines.bind (serves_neutral (update_neutral (fun _ => rfl) fun _ => rfl)) fun _ => ?_
  refine Path.Confines.bind (stopAllCommThreads_serves Staff.any_closed) fun _ => ?_
  have clear : Serves base (Staffed fun staff => staff.Any ∧ staff.AllJoined)
      (Path.update fun node : Node K => { node with commThreads := [] }) (Staffed Staff.NoThreads) :=
    Path.Confines.update fun node follows joined =>
      ⟨follows.unrecorded rfl (congrArg (Roster.mk · node.numInterfaces)
        (funext fun index => (joined.2 index).symm)), rfl⟩
  refine Path.Confines.bind clear fun _ => ?_
  refine Path.Confines.bind (serves_neutral lockCommunication_neutral) fun _ => ?_
  refine Path.Confines.bind (serves_neutral lockJointStateMsg_neutral) fun _ => ?_
  refine Path.Confines.bind (serves_neutral (Path.Evolves.loopBelow fun _ => disableMotors_neutral))
    fun _ => ?_
  have gone : Serves base (Staffed Staff.NoThreads) (clearInterfaces : NodePath K Unit)
      (Staffed Staff.NoThreads) :=
    Path.Confines.update fun node follows empty => by
      have after : Staff.NoThreads ⟨node.commThreads, 0⟩ := empty
      exact ⟨follows.recorded rfl rfl after.manned.served, after⟩
  refine Path.Confines.bind gone fun _ => ?_
  refine Path.Confines.bind (serves_neutral (update_neutral (fun _ => rfl) fun _ => rfl)) fun _ => ?_
  refine Path.Confines.bind (serves_neutral unlockJointStateMsg_neutral) fun _ => ?_
  refine Path.Confines.bind (serves_neutral unlockCommunication_neutral) fun _ => ?_
  exact Path.Confines.bind (serves_neutral (update_neutral (fun _ => rfl) fun _ => rfl)) fun _ =>
    serves_pure _

theorem onCleanup_catches : Path.Catches (onCleanup : NodePath K CallbackReturn) := by
  refine Path.Confines.bind (Path.Catches.update _) fun _ => ?_
  refine Path.Confines.bind (stopAllCommThreads_joined.weaken_post fun _ _ _ => trivial) fun _ => ?_
  refine Path.Confines.bind (Path.Catches.update _) fun _ => ?_
  refine Path.Confines.bind (Path.Catches.updateDefined _) fun _ => ?_
  refine Path.Confines.bind (Path.Catches.updateDefined _) fun _ => ?_
  have disables (index joint : Nat) : Path.Catches (disableMotor index joint : NodePath K Unit) :=
    Path.Catches.tryCatch fun _ => Path.Confines.bind (Path.Catches.element _) fun _ =>
      Path.Confines.bind (Path.Confines.bind (Path.Catches.update _) fun _ => Path.Catches.element _)
        fun _ => Path.Catches.pure _
  refine Path.Confines.bind (Path.Confines.loopBelow fun index => Path.Confines.bind
    (Path.Catches.element _) fun _ => Path.Confines.loopBelow (disables index)) fun _ => ?_
  refine Path.Confines.bind (Path.Catches.update _) fun _ => ?_
  refine Path.Confines.bind (Path.Catches.update _) fun _ => ?_
  refine Path.Confines.bind (Path.Catches.updateDefined _) fun _ => ?_
  refine Path.Confines.bind (Path.Catches.updateDefined _) fun _ => ?_
  exact Path.Confines.bind (Path.Catches.update _) fun _ => Path.Catches.pure _

/-- The cleanup that follows on a device error. -/
theorem cleanup_vacates : Serves base (fun node => node.lifecycle = .inactive)
    (cleanup : NodePath K Unit) (Staffed Staff.NoThreads) := by
  refine Path.Confines.bind (Path.Confines.read _) fun lifecycle => Path.Confines.ite (fun _ => ?_)
    fun refused node follows inactive => absurd (inactive.2.symm.trans inactive.1) refused
  have begins : Serves base (Staffed Staff.Any) (setLifecycle .inTransition : NodePath K Unit)
      (Staffed Staff.Any) := serves_neutral (setLifecycle_neutral _)
  refine Path.Confines.bind (begins.strengthen_pre fun _ _ => trivial) fun _ => ?_
  have caught : Serves base (Staffed Staff.Any)
      (Path.tryCatch onCleanup fun _ => pure .error : NodePath K CallbackReturn)
      (Staffed Staff.NoThreads) :=
    Path.Confines.tryCatch ((onCleanup_serves.and onCleanup_catches).consequence
      (fun _ any => ⟨any, trivial⟩) (fun _ _ => And.left) fun _ => And.right)
      fun _ _ _ impossible => impossible.elim
  refine Path.Confines.bind caught fun result => serves_neutral ?_
  cases result with
  | success => exact setLifecycle_neutral _
  | failure => exact setLifecycle_neutral _
  | error =>
      refine Path.Evolves.bind (Path.Evolves.pure _) fun handled => ?_
      cases handled <;> exact setLifecycle_neutral _

theorem cleanup_serves (empty : ∀ staff, Staff.NoThreads staff → staffed staff) :
    Serves base (Staffed staffed) (cleanup : NodePath K Unit) (Staffed staffed) := by
  intro node follows holds
  by_cases inactive : node.lifecycle = .inactive
  · exact (cleanup_vacates.weaken_post fun _ after => empty after.staff) node follows inactive
  · rw [cleanup, transition, Path.read_bind, Path.when, if_neg inactive]
    exact ⟨follows, holds⟩

/-- An emergency loop that does not reach its end clears nothing. -/
theorem unfinished_serves {loop : NodePath K Unit} (staffed : Staff → Prop)
    (neutral : Path.Evolves Neutral loop) :
    Path.Confines (Follows base) (fun node => Staffed staffed node ∧
      ∀ after, (do loop; clearInterfaces : NodePath K Unit).run node ≠ (.returned (), after))
      (do loop; clearInterfaces) (fun _ _ => False) (Staffed staffed) := by
  intro node follows ⟨holds, unfinished⟩
  have loops := confines_neutral neutral node follows holds
  cases run : loop.run node with
  | mk outcome after =>
      rw [run] at loops
      cases outcome with
      | returned value => exact absurd (Path.bind_returned run) (unfinished _)
      | thrown exception =>
          rw [Path.bind_thrown run]
          exact loops
      | undefined =>
          rw [Path.bind_undefined run]
          exact loops

theorem exitAll_neutral (size : Node K → Nat) : Path.Evolves Neutral
    (Path.loopBelow size fun other => handshake other .exitAll : NodePath K Unit) :=
  Path.Evolves.loopBelow fun _ => handshake_neutral _

theorem setInterfaceOrigins_serves : Serves base (Staffed Staff.Paused)
    (setInterfaceOrigins index : NodePath K Unit) (Staffed Staff.Paused) := by
  refine Path.Confines.tryCatch (confines_neutral setMotorOrigins_neutral) fun _ => ?_
  refine Path.Confines.bind (serves_neutral canInterface_neutral) fun _ => ?_
  have emergency : Serves base (Staffed Staff.Paused) (Path.tryCatch disableAllAndOneMore fun _ => do
      let _ ← canInterface index : NodePath K Unit) (Staffed Staff.Paused) :=
    Path.Confines.tryCatch ((unfinished_serves _ (exitAll_neutral _)).consequence
      (fun _ paused => ⟨paused, fun _ => disableAllAndOneMore_not_returned⟩)
      (fun _ _ impossible => impossible.elim) fun _ => id) fun _ =>
        Path.Confines.bind (serves_neutral canInterface_neutral) fun _ => serves_pure _
  refine Path.Confines.bind emergency fun _ => ?_
  refine Path.Confines.bind (serves_neutral unlockCommunication_neutral) fun _ => ?_
  refine Path.Confines.bind (serves_neutral (respond_neutral _ _)) fun _ => ?_
  exact cleanup_serves fun _ => Staff.NoThreads.paused

theorem setAllMotorsOriginHereCallback_serves : Serves base (Staffed Staff.Manned)
    (setAllMotorsOriginHereCallback : NodePath K Unit) (Staffed Staff.Manned) := by
  refine Path.Confines.bind (serves_neutral (Path.Evolves.read _)) fun _ =>
    Path.Confines.ite (fun _ => serves_neutral (respond_neutral _ _)) fun _ => ?_
  refine Path.Confines.bind (stopAllCommThreads_serves Staff.manned_closed) fun _ => ?_
  refine Path.Confines.bind (serves_neutral lockCommunication_neutral) fun _ => ?_
  have origins : Serves base (Staffed Staff.Paused)
      (Path.loopBelow numInterfaces setInterfaceOrigins : NodePath K Unit) (Staffed Staff.Manned) :=
    (Path.Confines.loopBelow fun _ => setInterfaceOrigins_serves).weaken_post fun _ _ => And.left
  refine Path.Confines.bind origins fun _ => ?_
  refine Path.Confines.bind (Path.Confines.loopBelow fun _ => startCommThread_serves) fun _ => ?_
  refine Path.Confines.bind (serves_neutral (respond_neutral _ _)) fun _ => ?_
  exact serves_neutral unlockCommunication_neutral

/-- The service up to the end of its emergency loop, and whether that loop clears the
interfaces. -/
def emergency (index target : Nat) : NodePath K Bool := do
  stopCommThread index
  lockCommunication .exclusive
  match ← Path.attempt (restartMotors index target) with
  | .ok () => pure false
  | .error _ => do
      let _ ← canInterface index
      Path.tryCatch (do disableAll; pure true) fun _ => pure false

/-- A handshake of the service fails, none of its emergency loop does, and the thread of
another interface has not been joined. -/
def StrandsThread (motorId : Int) (node : Node K) : Prop :=
  node.lifecycle = .inactive ∧ ∃ location ∈ findMotor (motorId.emod (2 ^ 32)).toNat node,
    ((emergency location.1 location.2).run node).1 = .returned true ∧
      ∃ other < node.commThreads.length, other ≠ location.1 ∧
        joinables node.commThreads other = true

instance instDecidableStrandsThread (motorId : Int) (node : Node K) :
    Decidable (StrandsThread motorId node) := inferInstanceAs (Decidable (_ ∧ _))

theorem finishOrigin_serves : Serves base (fun node => node.lifecycle = .inactive)
    (do
      unlockCommunication .exclusive
      respond false canErrorMessage
      cleanup : NodePath K Unit) (Staffed Staff.Manned) := by
  have passes {path : NodePath K Unit} (neutral : Path.Evolves Neutral path)
      (passive : Passive path) : Serves base (fun node => node.lifecycle = .inactive) path
        fun node => node.lifecycle = .inactive := by
    have serves : Serves base (Staffed Staff.Any) path (Staffed Staff.Any) := serves_neutral neutral
    exact (serves.and passive.keepsLifecycle).consequence (fun _ inactive => ⟨trivial, inactive⟩)
      (fun _ _ => And.right) fun _ _ => trivial
  refine Path.Confines.bind (passes unlockCommunication_neutral unlockCommunication_passive)
    fun _ => ?_
  refine Path.Confines.bind (passes (respond_neutral _ _) (respond_aside _ _).passive) fun _ => ?_
  exact cleanup_vacates.weaken_post fun _ _ => Staff.NoThreads.manned

/-- The emergency loop from a state in which it may clear the interfaces or does not. -/
theorem tryDisableAll_serves {failed : Node K}
    (safe : ∀ after, disableAll.run failed = (.returned (), after) → failed.staff.AllJoined)
    (follows : Follows base failed) :
    Serves base (fun node => node = failed ∧ node.lifecycle = .inactive)
      (Path.tryCatch disableAll fun _ => pure () : NodePath K Unit)
      fun node => node.lifecycle = .inactive := by
  have clears : Serves base (· = failed)
      (Path.tryCatch disableAll fun _ => pure () : NodePath K Unit) fun _ => True := by
    by_cases finishes : ∃ after, disableAll.run failed = (.returned (), after)
    · obtain ⟨after, run⟩ := finishes
      have disables : Path.Confines (Follows base) (Staffed Staff.AllJoined)
          (disableAll : NodePath K Unit) (fun _ => Staffed Staff.AllJoined) fun _ => True :=
        Path.Confines.bind (serves_neutral (exitAll_neutral _)) fun _ => clearInterfaces_serves
      refine Path.Confines.tryCatch (disables.consequence ?_ (fun _ _ _ => trivial) fun _ => id)
        fun _ => serves_pure _
      rintro _ rfl
      exact safe after run
    · refine Path.Confines.tryCatch ((unfinished_serves Staff.Any (exitAll_neutral _)).consequence ?_
        (fun _ _ impossible => impossible.elim) fun _ => id) fun _ =>
          (serves_pure _).weaken_post fun _ _ _ => trivial
      rintro _ rfl
      exact ⟨trivial, fun after run => finishes ⟨after, run⟩⟩
  have passive : Passive (Path.tryCatch disableAll fun _ => pure () : NodePath K Unit) :=
    Path.Evolves.tryCatch disableAll_aside.passive fun _ => Path.Evolves.pure _
  exact (clears.and passive.keepsLifecycle).consequence (fun _ => id) (fun _ _ => And.right)
    fun _ _ => trivial

theorem setMotorOriginHereCallback_serves {motorId : Int} (safe : ¬ StrandsThread motorId base)
    (manned : base.staff.Manned) : Serves base (· = base)
      (setMotorOriginHereCallback motorId : NodePath K Unit) (Staffed Staff.Manned) := by
  have passed {α : Type} {path : NodePath K α} (neutral : Path.Evolves Neutral path) :
      Serves base (Staffed Staff.Manned) path (Staffed Staff.Manned) := serves_neutral neutral
  refine Path.Confines.bind (Path.Confines.read _) fun lifecycle => Path.Confines.ite (fun _ => ?_)
    fun possible => ?_
  · exact (passed (respond_neutral _ _)).strengthen_pre fun _ started => started.1 ▸ manned
  refine Path.Confines.bind (Path.Confines.read _) fun found => ?_
  rcases found with _ | ⟨index, target⟩
  · exact (passed (respond_neutral _ _)).strengthen_pre fun _ started => started.1.1 ▸ manned
  rintro node follows ⟨⟨rfl, rfl⟩, located⟩
  have inactive : node.lifecycle = .inactive := not_not.mp possible
  refine (Path.Confines.bind ((stopCommThread_serves Staff.manned_closed).from_state follows manned)
    fun _ => ?_) node follows rfl
  rintro stopped followsStopped ⟨mannedStopped, stopRun⟩
  refine (Path.Confines.bind ((passed lockCommunication_neutral).from_state followsStopped
    mannedStopped) fun _ => ?_) stopped followsStopped rfl
  rintro locked followsLocked ⟨mannedLocked, lockRun⟩
  refine (Path.Confines.bind ((passed (Path.Evolves.attempt (restartMotors_neutral _))).from_state
    followsLocked mannedLocked) fun restarted => ?_) locked followsLocked rfl
  rintro failed followsFailed ⟨mannedFailed, restartRun⟩
  cases restarted with
  | ok value =>
      refine (Path.Confines.bind startCommThread_serves fun _ => ?_) failed followsFailed mannedFailed
      refine Path.Confines.bind (serves_neutral (Path.Evolves.element _)) fun _ => ?_
      refine Path.Confines.bind (serves_neutral (respond_neutral _ _)) fun _ => ?_
      exact serves_neutral unlockCommunication_neutral
  | error exception =>
      refine (Path.Confines.bind ((passed canInterface_neutral).from_state followsFailed mannedFailed)
        fun can => ?_) failed followsFailed rfl
      rintro reported followsReported ⟨_, canRun⟩
      have joined : ∀ after, disableAll.run reported = (.returned (), after) →
          reported.staff.AllJoined := by
        intro after disableRun
        have same : reported.staff = stopped.staff :=
          (canInterface_neutral.of_run canRun).1.trans
            (((restartMotors_neutral _).attempt.of_run restartRun).1.trans
              (lockCommunication_neutral.of_run lockRun).1)
        have joined : joinables stopped.commThreads =
            Function.update (joinables node.commThreads) index false :=
          ((stopCommThread_joined _).of_returned trivial rfl stopRun).2
        rw [same]
        intro other
        rw [Staff.threads, staff, joined]
        by_cases stays : other = index
        · rw [stays, Function.update_self]
        rw [Function.update_of_ne stays]
        by_contra joinable
        rw [Bool.not_eq_false] at joinable
        refine safe ⟨inactive, _, located, ?_, other, joinables_lt joinable, stays, joinable⟩
        rw [emergency, Path.bind_returned stopRun, Path.bind_returned lockRun,
          Path.bind_returned restartRun, Path.bind_returned canRun,
          Path.tryCatch_returned (Path.bind_returned disableRun)]
      have stillInactive : reported.lifecycle = .inactive := by
        have gates : reported.gate = node.gate :=
          (canInterface_aside.passive.of_run canRun).trans
            ((restartMotors_aside.passive.attempt.of_run restartRun).trans
              ((lockCommunication_passive.of_run lockRun).trans
                (stopCommThread_passive.of_run stopRun)))
        exact (congrArg Gate.lifecycle gates).trans inactive
      refine (Path.Confines.bind (tryDisableAll_serves joined followsReported) fun _ =>
        finishOrigin_serves) reported followsReported ⟨rfl, stillInactive⟩

end Serves

end Node

end CubemarsDriver
