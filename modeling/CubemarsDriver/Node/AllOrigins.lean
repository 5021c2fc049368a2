import CubemarsDriver.Node.OriginSafety

namespace CubemarsDriver

open Foundation Can

/-! # The answer of `set_all_motors_origin_here` -/

/-- A handshake that ended without an exception. -/
def NodeEvent.completes (index : Nat) (step : HandshakeStep) : NodeEvent → Bool
  | .handshake canInterface other _ none => canInterface = index ∧ other = step
  | _ => false

namespace Node

variable {K : Type} {index joint count : Nat} {start node before after : Node K}

def newEvents (before after : Node K) : List NodeEvent := after.log.drop before.log.length

/-- Between the two states a handshake was completed. -/
def Completed (before after : Node K) (index : Nat) (step : HandshakeStep) : Prop :=
  ∃ event ∈ newEvents before after, event.completes index step = true

instance (before after : Node K) (index : Nat) (step : HandshakeStep) :
    Decidable (Completed before after index step) := by
  unfold Completed
  infer_instance

/-- Every motor on every interface completed both handshakes. -/
def AllCompleted (before after : Node K) : Prop :=
  ∀ index can, before.canInterfaces[index]?.join = some can →
    ∀ joint, joint < can.jointConfigs.length →
      Completed before after index (.exit joint) ∧ Completed before after index (.start joint true)

/-- A record is only added to. -/
def Grows (before after : Node K) : Prop := before.log <+: after.log

instance : IsPreorder (Node K) Grows where
  refl node := List.prefix_refl node.log
  trans _ _ _ first second := first.trans second

theorem grows_recorded (node : Node K) (event : NodeEvent) : Grows node (node.recorded event) :=
  List.prefix_append _ _

theorem newEvents_trans {middle : Node K} (first : Grows before middle) (second : Grows middle after) :
    newEvents before after = newEvents before middle ++ newEvents middle after := by
  obtain ⟨early, earlyLog⟩ := first
  obtain ⟨late, lateLog⟩ := second
  rw [newEvents, newEvents, newEvents, ← lateLog, ← earlyLog, List.append_assoc]
  simp

theorem Completed.later {step : HandshakeStep} (completed : Completed before node index step)
    (first : Grows before node) (second : Grows node after) : Completed before after index step := by
  obtain ⟨event, member, completes⟩ := completed
  exact ⟨event, by rw [newEvents_trans first second]; exact List.mem_append_left _ member, completes⟩

theorem Completed.earlier {step : HandshakeStep} (completed : Completed node after index step)
    (first : Grows before node) (second : Grows node after) : Completed before after index step := by
  obtain ⟨event, member, completes⟩ := completed
  exact ⟨event, by rw [newEvents_trans first second]; exact List.mem_append_right _ member, completes⟩

theorem nameJoint_grows : Path.Evolves Grows (nameJoint index joint : NodePath K Unit) := by
  refine Path.Evolves.bind (Path.Evolves.element _) fun _ => ?_
  refine Path.Evolves.bind (Path.Evolves.bind (Path.Evolves.bind
    (Path.Evolves.update fun node => grows_recorded node _) fun _ => Path.Evolves.element _)
    fun can => ?_) fun _ => Path.Evolves.pure _
  split
  · exact Path.Evolves.pure _
  · exact Path.Evolves.throw _

theorem handshake_grows (step : HandshakeStep) :
    Path.Evolves Grows (handshake index step : NodePath K Unit) := by
  intro node
  cases found : node.canInterfaces[index]?.join with
  | none =>
      simp only [handshake, found]
      exact grows_recorded node _
  | some can =>
      rw [handshake_run step found]
      exact grows_recorded node _

theorem setMotorOrigin_grows : Path.Evolves Grows (setMotorOrigin index joint : NodePath K Unit) := by
  refine Path.Evolves.bind nameJoint_grows fun _ => ?_
  refine Path.Evolves.bind (handshake_grows _) fun _ => ?_
  refine Path.Evolves.bind nameJoint_grows fun _ => ?_
  exact Path.Evolves.bind (handshake_grows _) fun _ => nameJoint_grows

theorem handshake_completes {step : HandshakeStep}
    (run : (handshake index step).run before = (.returned (), after)) :
    Completed before after index step := by
  cases found : before.canInterfaces[index]?.join with
  | none => simp [handshake, found] at run
  | some can =>
      rw [handshake_run step found, Prod.mk.injEq] at run
      obtain ⟨returned, rfl⟩ := run
      refine ⟨handshakeEvent index step can, ?_, ?_⟩
      · simp [newEvents, recorded]
      · simp [handshakeEvent, returned, NodeEvent.completes]

theorem setMotorOrigin_completes
    (run : (setMotorOrigin index joint).run before = (.returned (), after)) :
    Completed before after index (.exit joint) ∧ Completed before after index (.start joint true) := by
  simp only [setMotorOrigin, Path.bind_run_returned] at run
  obtain ⟨_, named, name, _, exited, exit, _, namedAgain, nameAgain, _, started, start, last⟩ := run
  have first := nameJoint_grows.of_run name
  have second := (handshake_grows _).of_run exit
  have third := nameJoint_grows.of_run nameAgain
  have fourth := (handshake_grows _).of_run start
  have fifth := nameJoint_grows.of_run last
  constructor
  · exact (handshake_completes exit).earlier first second |>.later (first.trans second)
      (third.trans (fourth.trans fifth))
  · exact (handshake_completes start).earlier (first.trans (second.trans third)) fourth |>.later
      (first.trans (second.trans (third.trans fourth))) fifth

/-- A loop over the joints that returns has completed the handshakes of all of them. -/
theorem setMotorOrigins_completes
    (run : (Path.loopBelow (fun _ => count) (setMotorOrigin index)).run before =
      (.returned (), after)) :
    Grows before after ∧ ∀ joint, joint < count →
      Completed before after index (.exit joint) ∧ Completed before after index (.start joint true) := by
  obtain ⟨reached, ⟨grows, completed⟩, finished⟩ := Path.loopBelow_returned
    (fun reached (node : Node K) => Grows before node ∧ ∀ joint, joint < reached →
      Completed before node index (.exit joint) ∧ Completed before node index (.start joint true))
    (by
      intro reached node next invariant _ step
      obtain ⟨grows, completed⟩ := invariant
      have more := setMotorOrigin_grows.of_run step
      refine ⟨grows.trans more, fun joint bound => ?_⟩
      rcases Nat.lt_succ_iff_lt_or_eq.mp bound with earlier | rfl
      · obtain ⟨exit, origin⟩ := completed joint earlier
        exact ⟨exit.later grows more, origin.later grows more⟩
      · obtain ⟨exit, origin⟩ := setMotorOrigin_completes step
        exact ⟨exit.earlier grows more, origin.earlier grows more⟩)
    ⟨List.prefix_refl _, fun joint impossible => absurd impossible (Nat.not_lt_zero joint)⟩ run
  exact ⟨grows, fun joint bound => completed joint (by omega)⟩

theorem handshake_maintains {lifecycle : Lifecycle} {held : Locks} (step : HandshakeStep) :
    Path.Maintains (Held (Cleanable lifecycle) held) (handshake index step : NodePath K Unit) := by
  intro node known
  cases found : node.canInterfaces[index]?.join with
  | none =>
      simp only [handshake, found]
      exact known
  | some can =>
      have bound := (List.getElem?_eq_some_iff.mp (Option.join_eq_some_iff.mp found)).1
      obtain ⟨count, knownJoints⟩ := known.cleanableInterface bound
      have keeps : Path.Keeps (Held (CleanableInterface (K := K) lifecycle index count) held)
          (handshake index step) := handshake_keeps (cleanableInterface_knows lifecycle) step
      have after := keeps.holds_after knownJoints
      exact ⟨after.1.1, after.2⟩

theorem disableAllAndOneMore_maintains {lifecycle : Lifecycle} {held : Locks} :
    Path.Maintains (Held (Cleanable (K := K) lifecycle) held) disableAllAndOneMore :=
  Path.Evolves.bind (Path.Evolves.loopBelow fun _ => handshake_maintains _) fun _ =>
    fun _ known => ⟨⟨fun other bound => absurd bound (Nat.not_lt_zero other), known.1.2⟩, known.2⟩

/-- The loop uses an interface that does not exist, if it gets that far. -/
theorem disableAllAndOneMore_not_returned :
    disableAllAndOneMore.run node ≠ (.returned (), after) := by
  intro run
  simp only [disableAllAndOneMore, Path.bind_run_returned] at run
  obtain ⟨_, looped, loop, _⟩ := run
  obtain ⟨reached, ⟨size, bound⟩, finished⟩ := Path.loopBelow_returned
    (fun reached (state : Node K) => state.numInterfaces = node.numInterfaces ∧
      reached ≤ node.numInterfaces)
    (by
      intro reached state next invariant _ step
      cases found : state.canInterfaces[reached]?.join with
      | none => simp [handshake, found] at step
      | some can =>
          have bound := (List.getElem?_eq_some_iff.mp (Option.join_eq_some_iff.mp found)).1
          rw [handshake_run _ found, Prod.mk.injEq] at step
          obtain ⟨_, rfl⟩ := step
          have size : state.canInterfaces.length = node.numInterfaces := invariant.1
          exact ⟨List.length_set.trans size, by omega⟩)
    ⟨rfl, Nat.zero_le _⟩ loop
  rcases finished with last | past
  · omega
  · omega

theorem handleOriginError_clears
    (known : Held (Resting index count) (some .exclusive, none) node)
    (run : (handleOriginError index).run node = (.returned (), after)) :
    Held (Cleared .unconfigured) (none, none) after := by
  have cleanable : Held (Cleanable .inactive) (some .exclusive, none) node :=
    ⟨⟨known.1.1.1.rows, known.1.1.2⟩, known.2⟩
  simp only [handleOriginError, Path.bind_run_returned] at run
  obtain ⟨_, used, use, _, disabled, disable, _, unlocked, unlock, _, answered, answer, clean⟩ := run
  have named (other : Nat) : Path.Maintains (Held (Cleanable (K := K) .inactive)
      (some .exclusive, none)) (canInterface other) :=
    Path.Evolves.bind (fun _ known => known) fun _ => Path.Evolves.element _
  have emergency : Path.Maintains (Held (Cleanable (K := K) .inactive) (some .exclusive, none))
      (Path.tryCatch disableAllAndOneMore fun _ => do let _ ← canInterface index) :=
    Path.Evolves.tryCatch disableAllAndOneMore_maintains fun _ =>
      Path.Evolves.bind (named index) fun _ => Path.Evolves.pure _
  have beforeUnlock := emergency.of_run disable ((named index).of_run use cleanable)
  have afterUnlock := (unlockCommunication_holds : Path.Ensures _ _ _ fun _ _ => False).of_returned
    beforeUnlock unlock
  have afterAnswer := (respond_stays false canErrorMessage : Stays _ _ (fun _ _ => False) _).of_returned
    afterUnlock answer
  exact (cleanup_clears : Path.Ensures _ _ _ fun _ _ => False).of_returned afterAnswer clean

/-- The handshakes of the interface were all completed, and the others are as they were. -/
structure OriginsSet (index count : Nat) (can : CubemarsCan K) (before after : Node K) : Prop where
  complete : OriginsComplete can
  known : Held (Resting index count) (some .exclusive, none) after
  size : after.numInterfaces = before.numInterfaces
  others : ∀ other, other ≠ index → after.canInterfaces[other]? = before.canInterfaces[other]?
  grows : Grows before after
  completed : ∀ joint, joint < count →
    Completed before after index (.exit joint) ∧ Completed before after index (.start joint true)

theorem setMotorOrigins_sets {can : CubemarsCan K}
    (known : Held (Resting index count) (some .exclusive, none) before)
    (found : before.canInterfaces[index]?.join = some can)
    (run : (setMotorOrigins index).run before = (.returned (), after)) :
    OriginsSet index count can before after := by
  have drives : Drives (some .exclusive, none) index count before.canInterfaces before can :=
    ⟨known, found, rfl, fun _ _ => rfl⟩
  obtain ⟨can', origins, drivesAfter⟩ := setMotorOrigins_simulates.of_run drives run
  simp only [setMotorOrigins, jointCount, Path.bind_run_returned, Path.element_run_returned] at run
  obtain ⟨joints, _, ⟨row, _, ⟨rowFound, rfl⟩, counted⟩, loop⟩ := run
  cases counted
  obtain ⟨rows, _, rowsFound, fit, size, _⟩ := known.1.2.rows known.1.1.1.rows
  have sameRow : some row = some rows.params :=
    rowFound.symm.trans (interfaceRows_eq_some.mp rowsFound).2.2.2.1
  obtain ⟨grows, completed⟩ := setMotorOrigins_completes loop
  refine ⟨by rw [OriginsComplete, origins], drivesAfter.known, drivesAfter.size,
    drivesAfter.others, grows, ?_⟩
  rw [Option.some.inj sameRow, fit.params, size] at completed
  exact completed

/-- An interface after which the service goes on: its origins are set, or
everything has been cleared. -/
theorem setInterfaceOrigins_cases {can : CubemarsCan K}
    (known : Held (Resting index count) (some .exclusive, none) before)
    (found : before.canInterfaces[index]?.join = some can)
    (run : (setInterfaceOrigins index).run before = (.returned (), after)) :
    OriginsSet index count can before after ∨ Held (Cleared .unconfigured) (none, none) after := by
  cases origins : (setMotorOrigins index).run before with
  | mk outcome middle =>
      cases outcome with
      | returned value =>
          rw [setInterfaceOrigins, Path.tryCatch_returned origins, Prod.mk.injEq] at run
          obtain ⟨_, rfl⟩ := run
          exact .inl (setMotorOrigins_sets known found origins)
      | thrown exception =>
          have drives : Drives (some .exclusive, none) index count before.canInterfaces before can :=
            ⟨known, found, rfl, fun _ _ => rfl⟩
          obtain ⟨_, _, drivesAfter⟩ := setMotorOrigins_simulates.of_run drives origins
          rw [setInterfaceOrigins, Path.tryCatch_thrown origins] at run
          exact .inr (handleOriginError_clears drivesAfter.known run)
      | undefined =>
          rw [setInterfaceOrigins, Path.tryCatch_undefined origins] at run
          simp at run

/-- A valid setup in a given lifecycle state. -/
def ValidIn (lifecycle : Lifecycle) (setup : Setup K) (state : Lifecycle) : Prop :=
  setup.Valid ∧ state = lifecycle

/-- The condition under which the service succeeds. -/
def EveryOriginCompletes (node : Node K) : Prop :=
  ∀ (index : Nat) can, node.canInterfaces[index]?.join = some can → OriginsComplete can

theorem Held.resting {held : Locks} (known : Held (ValidIn .inactive) held node)
    (bound : index < node.numInterfaces) :
    ∃ count can, node.canInterfaces[index]?.join = some can ∧ can.jointConfigs.length = count ∧
      Held (Resting index count) held node := by
  obtain ⟨rows, found, _⟩ := known.1.1.rows index bound
  obtain ⟨can, canFound, _⟩ := Option.map_eq_some_iff.mp (interfaceRows_eq_some.mp found).1
  have canFound : node.canInterfaces[index]?.join = some can := canFound
  refine ⟨_, can, canFound, rfl, ⟨known.1, ?_⟩, known.2⟩
  rw [Setup.HasJoints, setup, canFound, Option.map_some]

/-- The interfaces up to an index have their origins set. -/
structure OriginsSetBelow (start : Node K) (reached : Nat) (node : Node K) : Prop where
  known : Held (ValidIn .inactive) (some .exclusive, none) node
  size : node.numInterfaces = start.numInterfaces
  rest : ∀ other, reached ≤ other → node.canInterfaces[other]? = start.canInterfaces[other]?
  grows : Grows start node
  complete : ∀ index can, index < reached → start.canInterfaces[index]?.join = some can →
    OriginsComplete can ∧ ∀ joint, joint < can.jointConfigs.length →
      Completed start node index (.exit joint) ∧ Completed start node index (.start joint true)

theorem OriginsSetBelow.step {can : CubemarsCan K} (below : OriginsSetBelow start index before)
    (bound : index < start.numInterfaces) (found : start.canInterfaces[index]?.join = some can)
    (set : OriginsSet index can.jointConfigs.length can before after) :
    OriginsSetBelow start (index + 1) after := by
  refine ⟨⟨set.known.1.1, set.known.2⟩, set.size.trans below.size, fun other above => ?_,
    below.grows.trans set.grows, fun other otherCan earlier otherFound => ?_⟩
  · rw [set.others other (by omega), below.rest other (by omega)]
  · rcases Nat.lt_succ_iff_lt_or_eq.mp earlier with before | rfl
    · obtain ⟨complete, completed⟩ := below.complete other otherCan before otherFound
      exact ⟨complete, fun joint bound => (completed joint bound).imp
        (·.later below.grows set.grows) (·.later below.grows set.grows)⟩
    · cases found.symm.trans otherFound
      exact ⟨set.complete, fun joint bound => (set.completed joint bound).imp
        (·.earlier below.grows set.grows) (·.earlier below.grows set.grows)⟩

theorem startCommThreads_stays {lifecycle : Lifecycle} {held : Locks}
    {raised : Exception → Node K → Prop} :
    Stays (ValidIn lifecycle) held raised (Path.loopBelow numInterfaces (startCommThread (K := K))) := by
  refine Path.Ensures.loopWithin fun index => ?_
  have threaded : Threaded (fun (setup : Setup K) state =>
      ValidIn lifecycle setup state ∧ index < setup.canInterfaces.length) index :=
    fun setup _ known => known.1.1.threads.symm ▸ known.2
  exact (startCommThread_stays threaded : Stays _ held (fun _ _ => False) _).consequence
    (fun _ known => ⟨⟨known.1.1, known.2⟩, known.1.2⟩) (fun _ _ known => ⟨known.1.1, known.2⟩)
    fun _ _ => False.elim

/-- The interfaces are as they were. -/
def Idle (before after : Node K) : Prop :=
  after.canInterfaces = before.canInterfaces ∧ Grows before after

instance : IsPreorder (Node K) Idle where
  refl node := ⟨rfl, List.prefix_refl node.log⟩
  trans _ _ _ first second := ⟨second.1.trans first.1, first.2.trans second.2⟩

theorem changeThread_idles (event : NodeEvent) (change : CommThread → CommThread) :
    Path.Evolves Idle (changeThread index event change : NodePath K Unit) := by
  refine Path.Evolves.updateDefined fun before after changed => ?_
  rw [Option.ite_none_right_eq_some, Option.some.injEq] at changed
  obtain ⟨_, rfl⟩ := changed
  exact ⟨rfl, grows_recorded before event⟩

theorem joinIfJoinable_idles (thread : CommThread) :
    Path.Evolves Idle (Path.when (thread.joinable = true) (joinThread index) : NodePath K Unit) :=
  Path.Evolves.when fun _ => Path.Evolves.bind (Path.Evolves.read _) fun _ => changeThread_idles _ _

theorem stopAllCommThreads_idles : Path.Evolves Idle (stopAllCommThreads : NodePath K Unit) :=
  Path.Evolves.bind (Path.Evolves.loopBelow fun _ => changeThread_idles _ _) fun _ =>
    Path.Evolves.loopBelow fun _ =>
      Path.Evolves.bind (Path.Evolves.element _) fun thread => joinIfJoinable_idles thread

theorem startCommThread_idles : Path.Evolves Idle (startCommThread index : NodePath K Unit) :=
  Path.Evolves.bind (Path.Evolves.element _) fun thread =>
    Path.Evolves.when fun _ => Path.Evolves.bind (joinIfJoinable_idles thread) fun _ =>
      changeThread_idles _ _

theorem lockCommunication_idles (mode : LockMode) :
    Path.Evolves Idle (lockCommunication mode : NodePath K Unit) := by
  refine Path.Evolves.updateDefined fun before after changed => ?_
  obtain ⟨mutex, _, rfl⟩ := Option.map_eq_some_iff.mp changed
  exact ⟨rfl, grows_recorded before _⟩

theorem unlockCommunication_idles (mode : LockMode) :
    Path.Evolves Idle (unlockCommunication mode : NodePath K Unit) := by
  refine Path.Evolves.updateDefined fun before after changed => ?_
  obtain ⟨mutex, _, rfl⟩ := Option.map_eq_some_iff.mp changed
  exact ⟨rfl, grows_recorded before _⟩

theorem OriginsSetBelow.initial (known : Held (ValidIn .inactive) (some .exclusive, none) node)
    (idle : Idle start node) : OriginsSetBelow start 0 node where
  known := known
  size := congrArg List.length idle.1
  rest other _ := by rw [idle.1]
  grows := idle.2
  complete _ _ impossible := absurd impossible (Nat.not_lt_zero _)

/-- What the service does before the first handshake. -/
theorem pauseCommThreads_initial (known : Held (ValidIn .inactive) (none, none) start) :
    ∃ paused locked, (stopAllCommThreads (K := K)).run start = (.returned (), paused) ∧
      (lockCommunication .exclusive).run paused = (.returned (), locked) ∧
      OriginsSetBelow start 0 locked := by
  obtain ⟨_, paused, stop, knownPaused⟩ :=
    (stopAllCommThreads_stays : Stays _ _ (fun _ _ => False) _).returns known
  obtain ⟨_, locked, lock, knownLocked⟩ :=
    (lockCommunication_holds : Path.Ensures _ _ _ fun _ _ => False).returns knownPaused
  have idle := trans_of Idle (stopAllCommThreads_idles.of_run stop)
    ((lockCommunication_idles _).of_run lock)
  exact ⟨paused, locked, stop, lock, OriginsSetBelow.initial knownLocked idle⟩

theorem setInterfaceOrigins_sets (complete : EveryOriginCompletes start)
    (bound : index < start.numInterfaces) :
    Path.Ensures (OriginsSetBelow start index) (setInterfaceOrigins index)
      (fun _ => OriginsSetBelow start (index + 1)) fun _ _ => False := by
  refine Path.Ensures.of_runs fun node below => ?_
  obtain ⟨count, can, found, rfl, resting⟩ := below.known.resting (below.size.symm ▸ bound)
  have foundAtStart : start.canInterfaces[index]?.join = some can := by
    rw [← below.rest index le_rfl, found]
  have drives : Drives (some .exclusive, none) index _ node.canInterfaces node can :=
    ⟨resting, found, rfl, fun _ _ => rfl⟩
  have completes : (originSequence.run can).1 = .returned () := complete index can foundAtStart
  obtain ⟨after, run, _⟩ := setMotorOrigins_simulates.to_run drives
    (Prod.ext completes rfl : originSequence.run can = (.returned (), _))
  exact ⟨(), after, Path.tryCatch_returned run,
    below.step bound foundAtStart (setMotorOrigins_sets resting found run)⟩

/-- With every handshake completed the service succeeds. -/
theorem setAllMotorsOriginHereCallback_succeeds (known : Held (ValidIn .inactive) (none, none) start)
    (complete : EveryOriginCompletes start) :
    ∃ after, setAllMotorsOriginHereCallback.run start = (.returned (), after) ∧
      Held (ValidIn .inactive) (none, none) after ∧ after.response.success = true := by
  obtain ⟨paused, locked, stop, lock, initial⟩ := pauseCommThreads_initial known
  obtain ⟨_, origins, loop, set⟩ := (Path.Ensures.loopBelow start.numInterfaces
    (OriginsSetBelow start) (fun _ _ below => below.size)
    fun index bound => setInterfaceOrigins_sets complete bound).returns initial
  obtain ⟨_, resumed, resume, knownResumed⟩ :=
    (startCommThreads_stays : Stays _ _ (fun _ _ => False) _).returns set.known
  have knownAnswered : Held (ValidIn .inactive) (some .exclusive, none)
      { resumed with response := { success := true, message := allMotorsSetMessage } } :=
    knownResumed
  obtain ⟨_, unlocked, unlock, knownUnlocked⟩ :=
    (unlockCommunication_holds : Path.Ensures _ _ _ fun _ _ => False).returns knownAnswered
  refine ⟨unlocked, ?_, knownUnlocked, ?_⟩
  · have inactive : start.lifecycle = .inactive := known.1.2
    rw [setAllMotorsOriginHereCallback, Path.read_bind, if_neg (not_not.mpr inactive),
      Path.bind_returned stop, Path.bind_returned lock, Path.bind_returned loop,
      Path.bind_returned resume, respond, Path.update_bind, unlock]
  · rw [unlockCommunication, Path.updateDefined_run_returned, Option.map_eq_some_iff] at unlock
    obtain ⟨mutex, _, rfl⟩ := unlock
    rfl

/-- If the service returns, every handshake was completed. -/
theorem setAllMotorsOriginHereCallback_completes
    (known : Held (ValidIn .inactive) (none, none) start)
    (run : setAllMotorsOriginHereCallback.run start = (.returned (), after)) :
    EveryOriginCompletes start ∧ AllCompleted start after := by
  have inactive : start.lifecycle = .inactive := known.1.2
  obtain ⟨paused, locked, stop, lock, initial⟩ := pauseCommThreads_initial known
  rw [setAllMotorsOriginHereCallback, Path.read_bind, if_neg (not_not.mpr inactive),
    Path.bind_returned stop, Path.bind_returned lock] at run
  simp only [Path.bind_run_returned] at run
  obtain ⟨_, origins, loop, _, resumed, resume, _, answered, answer, unlock⟩ := run
  obtain ⟨reached, invariant, finished⟩ := Path.loopBelow_returned
    (fun reached node => OriginsSetBelow start reached node ∨
      Held (Cleared .unconfigured) (none, none) node)
    (by
      intro index before after invariant bound step
      rcases invariant with below | cleared
      · obtain ⟨count, can, found, rfl, resting⟩ := below.known.resting bound
        have foundAtStart : start.canInterfaces[index]?.join = some can := by
          rw [← below.rest index le_rfl, found]
        exact (setInterfaceOrigins_cases resting found step).imp_left
          (below.step (below.size ▸ bound) foundAtStart)
      · have none : before.canInterfaces = [] := cleared.1.1
        simp [numInterfaces, none] at bound)
    (.inl initial) loop
  rcases invariant with below | cleared
  · have resumes : Idle origins resumed :=
      (Path.Evolves.loopBelow fun _ => startCommThread_idles).of_run resume
    have answers : Idle resumed answered := by
      cases answer
      exact ⟨rfl, List.prefix_refl _⟩
    have later : Grows origins after := resumes.2.trans
      (answers.2.trans ((unlockCommunication_idles _).of_run unlock).2)
    have all : start.numInterfaces ≤ reached := by
      have size : locked.numInterfaces = start.numInterfaces := initial.size
      have sizeAfter := below.size
      omega
    have complete (index : Nat) (can : CubemarsCan K)
        (found : start.canInterfaces[index]?.join = some can) :=
      below.complete index can (((List.getElem?_eq_some_iff.mp
        (Option.join_eq_some_iff.mp found)).1).trans_le all) found
    refine ⟨fun index can found => (complete index can found).1, ?_⟩
    intro index can found joint bound
    exact ((complete index can found).2 joint bound).imp (·.later below.grows later)
      (·.later below.grows later)
  · have none : origins.canInterfaces = [] := cleared.1.1
    have resumedSame : resumed = origins := by
      rw [Path.loopBelow, Path.read_bind, numInterfaces, none] at resume
      cases resume
      rfl
    cases answer
    rw [unlockCommunication, Path.updateDefined_run_returned, Option.map_eq_some_iff] at unlock
    obtain ⟨mutex, released, _⟩ := unlock
    have free : origins.locks = (Option.none, Option.none) := cleared.2
    rw [locks, Prod.mk.injEq] at free
    rw [resumedSame, Mutex.release_not_held (by simp [free.1])] at released
    cases released

theorem setAllMotorsOriginHereCallback_reports (known : Held (ValidIn .inactive) (none, none) start) :
    (∃ after, setAllMotorsOriginHereCallback.run start = (.returned (), after) ∧
      (after.response.success = true ↔ AllCompleted start after)) ↔ EveryOriginCompletes start := by
  constructor
  · rintro ⟨after, run, _⟩
    exact (setAllMotorsOriginHereCallback_completes known run).1
  · intro complete
    obtain ⟨after, run, _, success⟩ := setAllMotorsOriginHereCallback_succeeds known complete
    exact ⟨after, run, fun _ => (setAllMotorsOriginHereCallback_completes known run).2,
      fun _ => success⟩

/-- The answer of the service is right exactly if no handshake fails. -/
theorem all_origins_reported_iff (valid : start.setup.Valid) (inactive : start.lifecycle = .inactive)
    (free : start.locks = (none, none)) :
    (∃ after, setAllMotorsOriginHereCallback.run start = (.returned (), after) ∧
      (after.response.success = true ↔ AllCompleted start after)) ↔ EveryOriginCompletes start :=
  setAllMotorsOriginHereCallback_reports ⟨⟨valid, inactive⟩, free⟩

section Example

/-- The motor answers all three handshakes of the service. -/
def answeringNode : Node ℚ := exampleNode .inactive 1 [{
  writes := List.replicate 3 (.written 10)
  reads := List.replicate 3 (.frame
    { frame := { canId := 1, len := 8, data := #v[1, 0, 0, 0, 0, 0, 0, 0] }
      rxNs := 0, rxHwNs := 0, dequeueNs := 0 }) }]

theorem answeringNode_completes : EveryOriginCompletes answeringNode := by
  intro index can found
  have only : index = 0 :=
    Nat.lt_one_iff.mp (List.getElem?_eq_some_iff.mp (Option.join_eq_some_iff.mp found)).1
  subst only
  cases found
  decide +kernel

theorem all_origins_reported_iff_answering :
    ∃ after, setAllMotorsOriginHereCallback.run answeringNode = (.returned (), after) ∧
      (after.response.success = true ↔ AllCompleted answeringNode after) :=
  (all_origins_reported_iff (exampleNode_valid _ _ _) rfl rfl).mpr answeringNode_completes

/-- The motor answers nothing. -/
def silentMotorNode : Node ℚ := exampleNode .inactive 1 [{}]

/-- No handshake is completed, yet the answer is a success before the mutex that
the handler has given back is given back again. -/
theorem failed_origins_reported :
    silentMotorNode.setup.Valid ∧ silentMotorNode.lifecycle = .inactive ∧
      silentMotorNode.locks = (none, none) ∧
      (setAllMotorsOriginHereCallback.run silentMotorNode).1 = .undefined ∧
      ¬ ((setAllMotorsOriginHereCallback.run silentMotorNode).2.response.success = true ↔
        AllCompleted silentMotorNode (setAllMotorsOriginHereCallback.run silentMotorNode).2) := by
  refine ⟨exampleNode_valid _ _ _, rfl, rfl, by decide +kernel, fun answer => ?_⟩
  have success : (setAllMotorsOriginHereCallback.run silentMotorNode).2.response.success = true := by
    decide +kernel
  have exit := (answer.mp success 0 _ rfl 0 Nat.one_pos).1
  exact absurd exit (by decide +kernel)

end Example

end Node

end CubemarsDriver
