import CubemarsDriver.Can.OriginFrames
import CubemarsDriver.Node.Fresh
import CubemarsDriver.Node.TablesInStep

namespace CubemarsDriver

open Foundation Can

/-! # Setting the origin of one motor

The service restarts all motors of an interface.  Of the frames it sends, however it ends, at
most one sets an origin. -/

variable {K : Type}

/-- The frames of an event that set an origin, with their interface. -/
def NodeEvent.origins : NodeEvent → List (Nat × CanFrame)
  | .handshake canInterface _ attempts _ => (Can.origins attempts).map (canInterface, ·)
  | _ => []

def NodeEvent.isHandshake : NodeEvent → Bool
  | .handshake .. => true
  | _ => false

theorem NodeEvent.silent_origins {event : NodeEvent} (silent : event.silent = true) :
    event.origins = [] := by
  cases event <;> first | rfl | cases silent

namespace Node

variable {index joint target count : Nat} {before node after : Node K}

def originFrames (events : List NodeEvent) : List (Nat × CanFrame) := events.flatMap NodeEvent.origins

theorem originFrames_append (events more : List NodeEvent) :
    originFrames (events ++ more) = originFrames events ++ originFrames more :=
  List.flatMap_append

/-- The motor of a joint. -/
def motorAt (node : Node K) (index joint : Nat) : Option (JointConfig K) :=
  node.jointLists[index]?.join.bind fun joints => joints[joint]?

/-- The path has recorded events without a frame that sets an origin. -/
def Originless (before after : Node K) : Prop :=
  ∃ events, after.log = before.log ++ events ∧ originFrames events = []

instance instIsPreorderOriginless : IsPreorder (Node K) Originless where
  refl node := ⟨[], by simp, rfl⟩
  trans before middle after first second := by
    obtain ⟨events, log, none⟩ := first
    obtain ⟨more, logAfter, noneAfter⟩ := second
    exact ⟨events ++ more, by rw [logAfter, log, List.append_assoc],
      by rw [originFrames_append, none, noneAfter, List.append_nil]⟩

theorem originless_of_log (same : after.log = node.log) : Originless node after :=
  ⟨[], by rw [same, List.append_nil], rfl⟩

theorem originless_recorded {event : NodeEvent} (none : event.origins = [])
    (log : after.log = node.log ++ [event]) : Originless node after :=
  ⟨[event], log, by simp [originFrames, none]⟩

theorem Silent.originless {α : Type} {path : NodePath K α} (silent : Silent path) :
    Path.Evolves Originless path := by
  refine silent.weaken fun _ _ proceeds => ?_
  obtain ⟨_, events, log, all⟩ := proceeds
  refine ⟨events, log, List.flatMap_eq_nil_iff.mpr fun event member => ?_⟩
  exact NodeEvent.silent_origins (all event member)

theorem handshakeEvent_origins {can : CubemarsCan K} {step : HandshakeStep} {attempted : List WriteAttempt}
    (log : ((step.path : CanPath K Unit).run can).2.attempts = can.attempts ++ attempted) :
    (handshakeEvent index step can).origins = (Can.origins attempted).map (index, ·) := by
  simp only [CubemarsCan.attempts] at log
  simp only [handshakeEvent, NodeEvent.origins, log, List.drop_left]

theorem handshake_originless {step : HandshakeStep}
    (free : Path.Evolves OriginFree (step.path : CanPath K Unit)) :
    Path.Evolves Originless (handshake index step : NodePath K Unit) := by
  intro node
  cases found : node.canInterfaces[index]?.join with
  | none =>
      simp only [handshake, found]
      exact originless_recorded rfl rfl
  | some can =>
      rw [handshake_run step found]
      obtain ⟨attempted, log, none⟩ := free can
      refine originless_recorded ?_ rfl
      rw [handshakeEvent_origins log, none, List.map_nil]

theorem exit_originless : Path.Evolves Originless (handshake index (.exit joint) : NodePath K Unit) :=
  handshake_originless (endMotorControlMode_originFree joint)

theorem exitAll_originless : Path.Evolves Originless (handshake index .exitAll : NodePath K Unit) :=
  handshake_originless endMotorControlModeAll_originFree

theorem clearInterfaces_originless : Path.Evolves Originless (clearInterfaces : NodePath K Unit) :=
  Path.Evolves.update fun _ => originless_recorded rfl rfl

theorem update_originless {change : Node K → Node K} (log : ∀ node, (change node).log = node.log) :
    Path.Evolves Originless (Path.update change : NodePath K Unit) :=
  Path.Evolves.update fun node => originless_of_log (log node)

theorem onCleanup_originless : Path.Evolves Originless (onCleanup : NodePath K CallbackReturn) := by
  refine Path.Evolves.bind (update_originless fun _ => rfl) fun _ => ?_
  refine Path.Evolves.bind stopAllCommThreads_proceeds.originless fun _ => ?_
  refine Path.Evolves.bind (update_originless fun _ => rfl) fun _ => ?_
  refine Path.Evolves.bind lockCommunication_proceeds.originless fun _ => ?_
  refine Path.Evolves.bind lockJointStateMsg_proceeds.originless fun _ => ?_
  refine Path.Evolves.bind (Path.Evolves.loopBelow fun index =>
    Path.Evolves.bind (Path.Evolves.element _) fun row => Path.Evolves.loopBelow fun joint =>
      Path.Evolves.tryCatch exit_originless fun _ => Path.Evolves.bind (Path.Evolves.element _) fun _ =>
        Path.Evolves.bind canInterface_proceeds.originless fun _ => Path.Evolves.pure _) fun _ => ?_
  refine Path.Evolves.bind clearInterfaces_originless fun _ => ?_
  refine Path.Evolves.bind (update_originless fun _ => rfl) fun _ => ?_
  refine Path.Evolves.bind unlockJointStateMsg_proceeds.originless fun _ => ?_
  refine Path.Evolves.bind unlockCommunication_proceeds.originless fun _ => ?_
  exact Path.Evolves.bind (update_originless fun _ => rfl) fun _ => Path.Evolves.pure _

theorem onError_originless (start : Lifecycle) :
    Path.Evolves Originless (onError start : NodePath K CallbackReturn) := by
  cases start with
  | unconfigured =>
      refine Path.Evolves.bind (update_originless fun _ => rfl) fun _ => ?_
      refine Path.Evolves.bind stopAllCommThreads_proceeds.originless fun _ => ?_
      refine Path.Evolves.bind (update_originless fun _ => rfl) fun _ => ?_
      exact Path.Evolves.bind (update_originless fun _ => rfl) fun _ => Path.Evolves.pure _
  | _ => exact Path.Evolves.pure _

theorem cleanup_originless : Path.Evolves Originless (cleanup : NodePath K Unit) := by
  have settles (lifecycle : Lifecycle) :
      Path.Evolves Originless (setLifecycle lifecycle : NodePath K Unit) :=
    update_originless fun _ => rfl
  refine Path.Evolves.bind (Path.Evolves.read _) fun _ => Path.Evolves.when fun _ => ?_
  refine Path.Evolves.bind (settles _) fun _ => ?_
  refine Path.Evolves.bind (Path.Evolves.tryCatch onCleanup_originless fun _ => Path.Evolves.pure _)
    fun result => ?_
  cases result with
  | success => exact settles _
  | failure => exact settles _
  | error =>
      refine Path.Evolves.bind (onError_originless _) fun handled => ?_
      cases handled <;> exact settles _

/-- The path has sent at most one frame that sets an origin, to the motor of this joint. -/
def SetsOnceTo (index target : Nat) (before after : Node K) : Prop :=
  ∃ events, after.log = before.log ++ events ∧ (originFrames events = [] ∨
    ∃ config frame, motorAt before index target = some config ∧
      originFrames events = [(index, frame)] ∧ frame.SetsOriginOf config)

theorem Originless.setsOnceTo (originless : Originless before node) : SetsOnceTo index target before node := by
  obtain ⟨events, log, none⟩ := originless
  exact ⟨events, log, .inl none⟩

theorem SetsOnceTo.later (once : SetsOnceTo index target before node) (originless : Originless node after) :
    SetsOnceTo index target before after := by
  obtain ⟨events, log, sets⟩ := once
  obtain ⟨more, logAfter, none⟩ := originless
  refine ⟨events ++ more, by rw [logAfter, log, List.append_assoc], ?_⟩
  rwa [originFrames_append, none, List.append_nil]

/-- The joints are those from before, and no origin has been set. -/
def Spared (before node : Node K) : Prop := node.jointLists = before.jointLists ∧ Originless before node

instance instIsPreorderSpared : IsPreorder (Node K) Spared where
  refl node := ⟨rfl, refl_of Originless node⟩
  trans _ _ _ first second :=
    ⟨second.1.trans first.1, trans_of Originless first.2 second.2⟩

theorem motorAt_eq (same : node.jointLists = before.jointLists) :
    motorAt node index joint = motorAt before index joint := by
  rw [motorAt, same, motorAt]

theorem motorAt_of_interface {can : CubemarsCan K} (found : node.canInterfaces[index]?.join = some can) :
    motorAt node index joint = can.jointConfigs[joint]? := by
  rw [motorAt, jointLists, List.getElem?_map, Option.join_eq_some_iff.mp found]
  rfl

theorem handshake_jointLists (step : HandshakeStep) :
    Path.Preserves jointLists (handshake index step : NodePath K Unit) :=
  (handshake_layout step).weaken fun _ _ same => congrArg Prod.fst same

theorem nameJoint_jointLists : Path.Preserves jointLists (nameJoint index joint : NodePath K Unit) :=
  nameJoint_proceeds.weaken fun _ _ proceeds => congrArg Prod.fst proceeds.1

/-- Enabling the motor sets its origin once at most. -/
theorem start_setsOnce {setZero : Bool} (spared : Spared before node) : SetsOnceTo index joint before
    ((handshake index (.start joint setZero)).run node).2 := by
  cases found : node.canInterfaces[index]?.join with
  | none =>
      simp only [handshake, found]
      exact spared.2.setsOnceTo.later (originless_recorded rfl rfl)
  | some can =>
      rw [handshake_run _ found]
      cases motor : can.jointConfigs[joint]? with
      | none =>
          have log : ((HandshakeStep.path (.start joint setZero)).run can).2.attempts =
              can.attempts ++ [] := by
            rw [HandshakeStep.path, startMotorControlMode_missing motor, List.append_nil]
          exact spared.2.setsOnceTo.later (originless_recorded (handshakeEvent_origins log) rfl)
      | some config =>
          have once : SetsOnce config can ((HandshakeStep.path (.start joint setZero)).run can).2 :=
            startMotorControlMode_setsOnce motor
          obtain ⟨attempted, attempts, none | ⟨frame, one, own⟩⟩ := once
          · refine spared.2.setsOnceTo.later (originless_recorded ?_ rfl)
            rw [handshakeEvent_origins attempts, none, List.map_nil]
          · obtain ⟨events, log, none⟩ := spared.2
            refine ⟨events ++ [handshakeEvent index (.start joint setZero) can], ?_,
              .inr ⟨config, frame, ?_, ?_, own⟩⟩
            · rw [recorded, log, List.append_assoc]
            · rw [← motorAt_eq spared.1, motorAt_of_interface found, motor]
            · rw [originFrames_append, none, List.nil_append, originFrames, List.flatMap_singleton,
                handshakeEvent_origins attempts, one, List.map_singleton]

theorem nameJoint_spared : Path.Evolves Spared (nameJoint index joint : NodePath K Unit) :=
  fun node => ⟨nameJoint_jointLists node, nameJoint_proceeds.originless node⟩

theorem handshake_spared {step : HandshakeStep}
    (free : Path.Evolves OriginFree (step.path : CanPath K Unit)) :
    Path.Evolves Spared (handshake index step : NodePath K Unit) :=
  fun node => ⟨handshake_jointLists step node, handshake_originless free node⟩

/-- Up to the joint no origin has been set. -/
def SparedUpTo (before : Node K) (target joint : Nat) (node : Node K) : Prop :=
  node.jointLists = before.jointLists ∧ (joint ≤ target → Originless before node)

theorem SparedUpTo.spared (upTo : SparedUpTo before target joint node) (within : joint ≤ target) :
    Spared before node := ⟨upTo.1, upTo.2 within⟩

/-- Of all the motors that are restarted, the loop sets the origin of one only. -/
theorem restartMotors_setsOnce : Path.Confines (SetsOnceTo index target before) (Spared before)
    (restartMotors index target : NodePath K Unit) (fun _ _ => True) fun _ => True := by
  have spares {α : Type} {path : NodePath K α} {joint : Nat} (spared : Path.Evolves Spared path) :
      Path.Confines (SetsOnceTo index target before) (SparedUpTo before target joint) path
        (fun _ => SparedUpTo before target joint) fun _ => True :=
    (Path.Confines.of_related spared (fun _ _ related once => once.later related.2)
      fun _ _ related upTo => ⟨related.1.trans upTo.1, fun within =>
        trans_of Originless (upTo.2 within) related.2⟩).consequence
      (fun _ => id) (fun _ _ => id) fun _ _ => trivial
  have start (joint : Nat) : Path.Confines (SetsOnceTo index target before)
      (SparedUpTo before target joint) (handshake index (.start joint (joint = target)) : NodePath K Unit)
      (fun _ => SparedUpTo before target (joint + 1)) fun _ => True := by
    by_cases same : joint = target
    · subst same
      refine Path.Confines.weaken_post (Path.Confines.of_run (fun node _ upTo =>
        start_setsOnce (upTo.spared le_rfl)) fun _ _ _ _ _ _ => trivial) ?_
      rintro _ after ⟨node, _, upTo, run⟩
      refine ⟨((handshake_jointLists _).of_run run).trans upTo.1, fun past => absurd past (by omega)⟩
    · rw [decide_eq_false same]
      refine (spares (handshake_spared (startMotorControlMode_originFree joint))).weaken_post
        fun _ node upTo => ⟨upTo.1, fun within => upTo.2 (by omega)⟩
  have begins : Path.Confines (SetsOnceTo index target before) (SparedUpTo before target 0)
      (restartMotors index target : NodePath K Unit) (fun _ _ => True) fun _ => True := by
    refine Path.Confines.bind (spares (Path.Evolves.bind (Path.Evolves.element _) fun _ =>
      Path.Evolves.pure _)) fun count => ?_
    refine Path.Confines.bind (spares (Path.Evolves.loopBelow fun joint =>
      Path.Evolves.bind nameJoint_spared fun _ =>
        handshake_spared (endMotorControlMode_originFree joint))) fun _ => ?_
    refine (Path.Confines.loopCount count (SparedUpTo before target) (fun _ _ _ => rfl)
      fun joint => ?_).weaken_post fun _ _ _ => trivial
    refine Path.Confines.bind (spares (Path.Evolves.when fun _ => nameJoint_spared)) fun _ => ?_
    exact Path.Confines.bind (start joint) fun _ => spares nameJoint_spared
  exact begins.strengthen_pre fun node spared => ⟨spared.1, fun _ => spared.2⟩

theorem Silent.spared {α : Type} {path : NodePath K α} (silent : Silent path) :
    Path.Evolves Spared path := fun node =>
  ⟨congrArg Prod.fst (silent node).1, silent.originless node⟩

/-- The service, however it ends. -/
theorem setMotorOriginHereCallback_setsOnce {motorId : Int} (inactive : node.lifecycle = .inactive)
    (found : findMotor (motorId.emod (2 ^ 32)).toNat node = some (index, target)) :
    SetsOnceTo index target node ((setMotorOriginHereCallback motorId).run node).2 := by
  have spares {path : NodePath K Unit} (silent : Silent path) : Path.Confines
      (SetsOnceTo index target node) (Spared node) path (fun _ => Spared node) fun _ => True :=
    (Path.Confines.of_related silent.spared (fun _ _ related once => once.later related.2)
      fun _ _ related spared => trans_of Spared spared related).consequence
      (fun _ => id) (fun _ _ => id) fun _ _ => trivial
  have later {path : NodePath K Unit} (originless : Path.Evolves Originless path) : Path.Confines
      (SetsOnceTo index target node) (fun _ => True) path (fun _ _ => True) fun _ => True :=
    Path.Confines.of_related originless (fun _ _ related once => once.later related) fun _ _ _ => id
  rw [setMotorOriginHereCallback, Path.read_bind, if_neg (not_not.mpr inactive), Path.read_bind, found]
  refine Path.Confines.always_after (?_ : Path.Confines (SetsOnceTo index target node) (Spared node) _
    (fun _ _ => True) fun _ => True) (refl_of Originless node).setsOnceTo (refl_of Spared node)
  refine Path.Confines.bind (spares stopCommThread_proceeds) fun _ => ?_
  refine Path.Confines.bind (spares lockCommunication_proceeds) fun _ => ?_
  have attempted : Path.Confines (SetsOnceTo index target node) (Spared node)
      (Path.attempt (restartMotors index target)) (fun _ _ => True) fun _ => True :=
    Path.Confines.attempt (restartMotors_setsOnce.consequence (fun _ => id) (fun _ _ => id)
      fun _ _ _ => trivial)
  refine Path.Confines.bind attempted fun result => ?_
  cases result with
  | error exception =>
      refine later ?_
      refine Path.Evolves.bind canInterface_proceeds.originless fun _ => ?_
      refine Path.Evolves.bind (Path.Evolves.tryCatch (Path.Evolves.bind (Path.Evolves.loopBelow
        fun _ => exitAll_originless) fun _ => clearInterfaces_originless)
          fun _ => Path.Evolves.pure _) fun _ => ?_
      refine Path.Evolves.bind unlockCommunication_proceeds.originless fun _ => ?_
      exact Path.Evolves.bind (respond_proceeds _ _).originless fun _ => cleanup_originless
  | ok value =>
      refine later ?_
      refine Path.Evolves.bind startCommThread_proceeds.originless fun _ => ?_
      refine Path.Evolves.bind (Path.Evolves.element _) fun _ => ?_
      exact Path.Evolves.bind (respond_proceeds _ _).originless fun _ =>
        unlockCommunication_proceeds.originless

theorem findMotor_entry {motorId : Nat} (found : findMotor motorId node = some (index, joint)) :
    jointEntry (indexRows node.tables) index joint = some motorId := by
  obtain ⟨⟨row, place⟩, member, located⟩ := List.exists_of_findSome?_eq_some found
  rw [List.mem_zipIdx_iff_getElem?] at member
  obtain ⟨position, positionFound, same⟩ := Option.map_eq_some_iff.mp located
  cases same
  obtain ⟨bound, matched, _⟩ := List.findIdx?_eq_some_iff_getElem.mp positionFound
  rw [jointEntry_indexRows, jointEntry, member, Option.bind_some, List.getElem?_eq_getElem bound,
    Option.map_some, eq_of_beq matched]

theorem findMotor_none {motorId : Nat} (none : findMotor motorId node = none) (index joint : Nat) :
    jointEntry (indexRows node.tables) index joint ≠ some motorId := by
  intro entry
  rw [jointEntry_indexRows, Option.map_eq_some_iff] at entry
  obtain ⟨params, entry, same⟩ := entry
  obtain ⟨row, rowFound, found⟩ := Option.bind_eq_some_iff.mp entry
  have unmatched := List.findSome?_eq_none_iff.mp none (row, index)
    (List.mem_zipIdx_iff_getElem?.mpr rowFound)
  rw [Option.map_eq_none_iff, List.findIdx?_eq_none_iff] at unmatched
  have other := unmatched params (List.mem_of_getElem? found)
  simp [same] at other

/-- The exchanges with motors, in order. -/
def exchanges (events : List NodeEvent) : List NodeEvent := events.filter (·.isHandshake)

/-- The motor was sent the frame that disables it. -/
def Exited (before : Node K) (index joint : Nat) (event : NodeEvent) : Prop :=
  ∃ config frame, motorAt before index joint = some config ∧
    event = .handshake index (.exit joint) [⟨frame, true⟩] none ∧ frame.Disables config

/-- The motor was sent the frame that enables it, after all others. -/
def Started (before : Node K) (index target joint : Nat) (event : NodeEvent) : Prop :=
  ∃ config attempted frame, motorAt before index joint = some config ∧
    event = .handshake index (.start joint (joint = target)) (attempted ++ [⟨frame, true⟩]) none ∧
    frame.Enables config

theorem Exited.of_lists {event : NodeEvent} (same : node.jointLists = before.jointLists)
    (exited : Exited node index joint event) : Exited before index joint event := by
  obtain ⟨config, frame, motor, rest⟩ := exited
  exact ⟨config, frame, (motorAt_eq same).symm.trans motor, rest⟩

theorem Started.of_lists {event : NodeEvent} (same : node.jointLists = before.jointLists)
    (started : Started node index target joint event) : Started before index target joint event := by
  obtain ⟨config, attempted, frame, motor, rest⟩ := started
  exact ⟨config, attempted, frame, (motorAt_eq same).symm.trans motor, rest⟩

/-- One exchange of a kind with each of the first joints, in order. -/
def Exchanged (kind : Nat → NodeEvent → Prop) (reached : Nat) (before node : Node K) : Prop :=
  node.jointLists = before.jointLists ∧ ∃ events, node.log = before.log ++ events ∧
    List.Forall₂ kind (List.range reached) (exchanges events)

theorem silent_exchanges {events : List NodeEvent} (silent : ∀ event ∈ events, event.silent = true) :
    exchanges events = [] := by
  refine List.filter_eq_nil_iff.mpr fun event member => ?_
  have quiet := silent event member
  cases event <;> first | exact Bool.false_ne_true | cases quiet

theorem exchanges_append (events more : List NodeEvent) :
    exchanges (events ++ more) = exchanges events ++ exchanges more := List.filter_append ..

variable {kind : Nat → NodeEvent → Prop} {reached : Nat}

theorem Exchanged.silent {α : Type} {path : NodePath K α} {outcome : Outcome Exception α}
    (silent : Silent path) (run : path.run node = (outcome, after))
    (exchanged : Exchanged kind reached before node) : Exchanged kind reached before after := by
  obtain ⟨lists, events, log, inOrder⟩ := exchanged
  obtain ⟨layout, more, logAfter, quiet⟩ := silent.of_run run
  refine ⟨(congrArg Prod.fst layout).trans lists, events ++ more,
    by rw [logAfter, log, List.append_assoc], ?_⟩
  rwa [exchanges_append, silent_exchanges quiet, List.append_nil]

/-- A handshake that has been completed is recorded with what its interface has attempted. -/
theorem handshake_recorded {step : HandshakeStep}
    (run : (handshake index step).run node = (.returned (), after)) : ∃ can changed : CubemarsCan K,
      node.canInterfaces[index]?.join = some can ∧ step.path.run can = (.returned (), changed) ∧
      ∀ attempted, changed.attempts = can.attempts ++ attempted →
        after.log = node.log ++ [.handshake index step attempted none] := by
  cases found : node.canInterfaces[index]?.join with
  | none => simp [handshake, found] at run
  | some can =>
      rw [handshake_run step found, Prod.mk.injEq] at run
      obtain ⟨returned, rfl⟩ := run
      refine ⟨can, _, rfl, Prod.ext returned rfl, fun attempted log => ?_⟩
      simp only [CubemarsCan.attempts] at log
      simp only [recorded, handshakeEvent, returned, log, List.drop_left]

theorem Exchanged.next {step : HandshakeStep} (exchanged : Exchanged kind reached before node)
    (run : (handshake index step).run node = (.returned (), after)) {attempted : List WriteAttempt}
    (log : after.log = node.log ++ [.handshake index step attempted none])
    (own : kind reached (.handshake index step attempted none)) :
    Exchanged kind (reached + 1) before after := by
  obtain ⟨lists, events, logBefore, inOrder⟩ := exchanged
  refine ⟨((handshake_jointLists step).of_run run).trans lists, events ++ [_],
    by rw [log, logBefore, List.append_assoc], ?_⟩
  rw [exchanges_append, List.range_succ]
  exact List.rel_append inOrder (.cons own .nil)

/-- The first loop of the service. -/
theorem exits_exchanged (run : (Path.loopBelow (fun _ => count) fun joint => do
      nameJoint index joint
      handshake index (.exit joint)).run node = (.returned (), after)) :
    Exchanged (Exited node index) count node after := by
  obtain ⟨reached, ⟨exchanged, bound⟩, finished⟩ := Path.loopBelow_returned
    (fun reached after => Exchanged (Exited node index) reached node after ∧ reached ≤ count)
    (by
      intro reached middle next invariant within step
      obtain ⟨exchanged, _⟩ := invariant
      obtain ⟨_, named, name, step⟩ := Path.bind_run_returned.mp step
      have first := exchanged.silent nameJoint_proceeds name
      obtain ⟨can, changed, found, handshake, recorded⟩ := handshake_recorded step
      obtain ⟨config, frame, motor, attempts, disables⟩ := endMotorControlMode_returned handshake
      refine ⟨first.next step (recorded _ attempts) ⟨config, frame, ?_, rfl, disables⟩, within⟩
      rw [← motorAt_eq first.1, motorAt_of_interface found, motor])
    ⟨⟨rfl, [], by simp, .nil⟩, Nat.zero_le count⟩ run
  obtain rfl : reached = count := by omega
  exact exchanged

/-- The second loop. -/
theorem starts_exchanged (run : (Path.loopBelow (fun _ => count) fun joint => do
      Path.when (joint = target) (nameJoint index joint)
      handshake index (.start joint (joint = target))
      nameJoint index joint).run node = (.returned (), after)) :
    Exchanged (Started node index target) count node after := by
  obtain ⟨reached, ⟨exchanged, bound⟩, finished⟩ := Path.loopBelow_returned
    (fun reached after => Exchanged (Started node index target) reached node after ∧ reached ≤ count)
    (by
      intro reached middle next invariant within step
      obtain ⟨exchanged, _⟩ := invariant
      simp only [Path.bind_run_returned] at step
      obtain ⟨_, named, name, _, started, start, last⟩ := step
      have first := exchanged.silent (Path.Evolves.when fun _ => nameJoint_proceeds) name
      obtain ⟨can, changed, found, handshake, recorded⟩ := handshake_recorded start
      obtain ⟨config, attempted, frame, motor, attempts, enables⟩ :=
        startMotorControlMode_returned handshake
      rw [List.append_assoc] at attempts
      refine ⟨(first.next start (recorded _ attempts)
        ⟨config, attempted, frame, ?_, rfl, enables⟩).silent nameJoint_proceeds last, within⟩
      rw [← motorAt_eq first.1, motorAt_of_interface found, motor])
    ⟨⟨rfl, [], by simp, .nil⟩, Nat.zero_le count⟩ run
  obtain rfl : reached = count := by omega
  exact exchanged

/-- A service that has restarted all motors of the interface, joint by joint. -/
def RestartedInOrder (index target : Nat) (before after : Node K) : Prop :=
  ∃ joints exits starts, before.jointLists[index]?.join = some joints ∧
    exchanges (newEvents before after) = exits ++ starts ∧
    List.Forall₂ (Exited before index) (List.range joints.length) exits ∧
    List.Forall₂ (Started before index target) (List.range joints.length) starts

theorem restartMotors_exchanged (run : (restartMotors index target).run node = (.returned (), after)) :
    ∃ row exits starts events, node.tables.jointParametersPerCanInterface[index]? = some row ∧
      after.log = node.log ++ events ∧ exchanges events = exits ++ starts ∧
      List.Forall₂ (Exited node index) (List.range row.length) exits ∧
      List.Forall₂ (Started node index target) (List.range row.length) starts := by
  simp only [restartMotors, jointCount, Path.bind_run_returned, Path.element_run_returned] at run
  obtain ⟨_, _, ⟨row, _, ⟨found, rfl⟩, ends⟩, _, exited, exiting, starting⟩ := run
  cases ends
  obtain ⟨lists, earlier, log, exits⟩ := exits_exchanged (by
    simpa only [Path.bind_run_returned] using exiting)
  obtain ⟨_, later, logAfter, starts⟩ := starts_exchanged starting
  exact ⟨row, _, _, earlier ++ later, found, by rw [logAfter, log, List.append_assoc],
    exchanges_append earlier later, exits, starts.imp fun joint event => Started.of_lists lists⟩

theorem stopAllCommThreads_response :
    Path.Preserves Node.response (stopAllCommThreads : NodePath K Unit) := by
  have changes (index : Nat) (event : NodeEvent) (change : CommThread → CommThread) :
      Path.Preserves Node.response (changeThread index event change : NodePath K Unit) := by
    refine Path.Evolves.updateDefined fun before after changed => ?_
    rw [Option.ite_none_right_eq_some, Option.some.injEq] at changed
    obtain ⟨_, rfl⟩ := changed
    rfl
  refine Path.Evolves.bind (Path.Evolves.loopBelow fun index => changes index _ _) fun _ => ?_
  refine Path.Evolves.loopBelow fun index => Path.Evolves.bind (Path.Evolves.element _) fun _ => ?_
  exact Path.Evolves.when fun _ => Path.Evolves.bind (Path.Evolves.read _) fun _ => changes index _ _

theorem handshake_response (step : HandshakeStep) :
    Path.Preserves Node.response (handshake index step : NodePath K Unit) := by
  intro node
  cases found : node.canInterfaces[index]?.join with
  | none =>
      simp only [handshake, found]
      rfl
  | some can =>
      rw [handshake_run step found]
      rfl

theorem cleanup_response : Path.Preserves Node.response (cleanup : NodePath K Unit) := by
  have settles (lifecycle : Lifecycle) :
      Path.Preserves Node.response (setLifecycle lifecycle : NodePath K Unit) :=
    Path.Evolves.update fun _ => rfl
  have cleans : Path.Preserves Node.response (onCleanup : NodePath K CallbackReturn) := by
    refine Path.Evolves.bind (Path.Evolves.update fun _ => rfl) fun _ => ?_
    refine Path.Evolves.bind stopAllCommThreads_response fun _ => ?_
    refine Path.Evolves.bind (Path.Evolves.update fun _ => rfl) fun _ => ?_
    refine Path.Evolves.bind (Path.Evolves.updateFound fun _ _ => rfl) fun _ => ?_
    refine Path.Evolves.bind (Path.Evolves.updateFound fun _ _ => rfl) fun _ => ?_
    refine Path.Evolves.bind (Path.Evolves.loopBelow fun index =>
      Path.Evolves.bind (Path.Evolves.element _) fun row => Path.Evolves.loopBelow fun joint =>
        Path.Evolves.tryCatch (handshake_response _) fun _ => Path.Evolves.bind
          (Path.Evolves.element _) fun _ => Path.Evolves.bind (canInterface_preserves fun _ _ => rfl)
            fun _ => Path.Evolves.pure _) fun _ => ?_
    refine Path.Evolves.bind (Path.Evolves.update fun _ => rfl) fun _ => ?_
    refine Path.Evolves.bind (Path.Evolves.update fun _ => rfl) fun _ => ?_
    refine Path.Evolves.bind (Path.Evolves.updateFound fun _ _ => rfl) fun _ => ?_
    refine Path.Evolves.bind (Path.Evolves.updateFound fun _ _ => rfl) fun _ => ?_
    exact Path.Evolves.bind (Path.Evolves.update fun _ => rfl) fun _ => Path.Evolves.pure _
  refine Path.Evolves.bind (Path.Evolves.read _) fun _ => Path.Evolves.when fun _ => ?_
  refine Path.Evolves.bind (settles _) fun _ => ?_
  refine Path.Evolves.bind (Path.Evolves.tryCatch cleans fun _ => Path.Evolves.pure _) fun result => ?_
  cases result with
  | success => exact settles _
  | failure => exact settles _
  | error =>
      refine Path.Evolves.bind (Path.Evolves.pure _) fun handled => ?_
      cases handled <;> exact settles _

/-- An answer of success means that all motors of the interface have been restarted. -/
theorem setMotorOriginHereCallback_restarted {motorId : Int} (inactive : node.lifecycle = .inactive)
    (found : findMotor (motorId.emod (2 ^ 32)).toNat node = some (index, target))
    (run : (setMotorOriginHereCallback motorId).run node = (.returned (), after))
    (success : after.response.success = true) :
    ∃ row exits starts, node.tables.jointParametersPerCanInterface[index]? = some row ∧
      exchanges (newEvents node after) = exits ++ starts ∧
      List.Forall₂ (Exited node index) (List.range row.length) exits ∧
      List.Forall₂ (Started node index target) (List.range row.length) starts := by
  rw [setMotorOriginHereCallback, Path.read_bind, if_neg (not_not.mpr inactive), Path.read_bind,
    found] at run
  simp only [Path.bind_run_returned] at run
  obtain ⟨_, stopped, stop, _, locked, lock, result, restarted, restart, run⟩ := run
  cases result with
  | error exception =>
      simp only [Path.bind_run_returned] at run
      obtain ⟨_, _, _, _, _, _, _, _, _, _, answered, answer, clean⟩ := run
      cases answer
      have same := cleanup_response.of_run clean
      rw [same] at success
      cases success
  | ok value =>
      have pauses : Silent (do
          stopCommThread index
          lockCommunication .exclusive : NodePath K Unit) :=
        Path.Evolves.bind stopCommThread_proceeds fun _ => lockCommunication_proceeds
      obtain ⟨layout, early, earlyLog, earlySilent⟩ := pauses.of_run
        (Path.bind_run_returned.mpr ⟨_, _, stop, lock⟩)
      obtain ⟨row, exits, starts, events, params, log, parts, exitsInOrder, startsInOrder⟩ :=
        restartMotors_exchanged (Path.attempt_run_ok.mp restart)
      have resumes : Silent (do
          startCommThread index
          let params ← jointParameters index target
          respond true (motorSetMessage motorId params.name)
          unlockCommunication .exclusive : NodePath K Unit) :=
        Path.Evolves.bind startCommThread_proceeds fun _ => Path.Evolves.bind (Path.Evolves.element _)
          fun _ => Path.Evolves.bind (respond_proceeds _ _) fun _ => unlockCommunication_proceeds
      obtain ⟨_, late, lateLog, lateSilent⟩ := resumes.of_run run
      simp only [Node.layout, Prod.mk.injEq] at layout
      refine ⟨row, exits, starts, by rw [← layout.2, params], ?_,
        exitsInOrder.imp fun _ _ => Exited.of_lists layout.1,
        startsInOrder.imp fun _ _ => Started.of_lists layout.1⟩
      have whole : after.log = node.log ++ (early ++ events ++ late) := by
        rw [lateLog, log, earlyLog]
        simp only [List.append_assoc]
      rw [newEvents, whole, List.drop_left, exchanges_append, exchanges_append,
        silent_exchanges earlySilent, silent_exchanges lateSilent, parts, List.nil_append,
        List.append_nil]

/-- An interface has as many joints as its row of parameters has entries. -/
def Aligned (node : Node K) : Prop :=
  ∀ (index : Nat) (joints : List (JointConfig K)) (row : List (JointParameters K)),
    node.jointLists[index]? = some (some joints) →
      node.tables.jointParametersPerCanInterface[index]? = some row → row.length = joints.length

theorem Aligned.of_sizes (aligned : Aligned node) (lists : after.jointLists = node.jointLists)
    (sizes : after.tables.jointParametersPerCanInterface.map List.length =
      node.tables.jointParametersPerCanInterface.map List.length) : Aligned after := by
  intro index joints row listed found
  have size := congrArg (fun sizes => sizes[index]?) sizes
  simp only [List.getElem?_map, found, Option.map_some] at size
  obtain ⟨other, otherFound, same⟩ := Option.map_eq_some_iff.mp size.symm
  rw [← same, aligned index joints other (by rw [← lists, listed]) otherFound]

theorem Aligned.retained (aligned : Aligned node) (retains : Retains node after) : Aligned after := by
  rcases retains.lists with cleared | lists
  · intro index joints row listed
    simp [cleared] at listed
  · rcases retains.tables with wiped | ⟨tables, _⟩
    · intro index joints row _ found
      simp [wiped.1] at found
    · exact aligned.of_sizes lists (by rw [tables])

section Runs

variable [Scalar K] {motorId : Int} {outcome : Outcome Exception Unit}

theorem ConfiguredBy.aligned {assignment : Assignment K} {left : Node K} {accepted : Accepted K}
    (configured : ConfiguredBy assignment left accepted node) : Aligned node := by
  intro index joints row listed found
  rw [configured.lists, List.getElem?_map, Option.map_eq_some_iff] at listed
  obtain ⟨_, listed, same⟩ := listed
  obtain rfl := Option.some.inj same
  rw [configured.params_eq] at found
  have sizes := (rowsOf_sizes accepted.settings accepted.count (·.params)).trans
    (rowsOf_sizes accepted.settings accepted.count (·.config)).symm
  have size := congrArg (fun sizes => sizes[index]?) sizes
  simpa only [List.getElem?_map, found, listed, Option.map_some, Option.some.injEq] using size

theorem operate_aligned [StdToString K] [Libm K] {operation : Operation K}
    (aligned : node.lifecycle = .inactive ∨ node.lifecycle = .active → Aligned node)
    (moved : operate node operation = some after) :
    after.lifecycle = .inactive ∨ after.lifecycle = .active → Aligned after := by
  refine operate_whileConfigured (fun _ _ _ _ _ _ configured =>
    Aligned.of_sizes configured.aligned rfl rfl) (fun other => ?_) aligned moved
  refine Operation.keeps (fun _ _ retains aligned => aligned.retained retains)
    (fun index times _ _ aligned => (canCycleCallback_cycles (reworkRules index times.env
      fun before after reworks aligned => Aligned.of_sizes aligned reworks.lists
        (by rw [reworks.tables.2.1]))).always_after aligned trivial)
    (fun order batch _ => onSetParametersCallback_evolves (fun _ _ => id)
      (fun _ _ _ _ _ applied aligned => ?_) order batch) other
  simp only [applyToTables, Option.bind_eq_bind, Option.bind_eq_some_iff, Option.some.injEq] at applied
  obtain ⟨_, params, _, _, _, _, _, _, rfl⟩ := applied
  exact aligned.of_sizes rfl (changeEntry_sizes params)

/-- The motor ids are unique and fit the type of the request. -/
structure UniqueMotorIds (tables : JointTables K) : Prop where
  unshared : Unshared (indexRows tables)
  below : ∀ index joint msgIdx, jointEntry (indexRows tables) index joint = some msgIdx →
    msgIdx < 2 ^ 31

omit [Scalar K] in
theorem UniqueMotorIds.found (unique : UniqueMotorIds node.tables) {msgIdx : Nat}
    (entry : jointEntry (indexRows node.tables) index joint = some msgIdx)
    (requested : (msgIdx : Int) = motorId) :
    findMotor (motorId.emod (2 ^ 32)).toNat node = some (index, joint) := by
  have same : (motorId.emod (2 ^ 32)).toNat = msgIdx := by
    have below := unique.below index joint msgIdx entry
    subst requested
    show ((msgIdx : Int) % 2 ^ 32).toNat = msgIdx
    omega
  rw [same]
  cases found : findMotor msgIdx node with
  | none => exact absurd entry (findMotor_none found index joint)
  | some place =>
      obtain ⟨rfl, rfl⟩ := unique.unshared _ _ _ _ _ entry (findMotor_entry found)
      rfl

omit [Scalar K] in
theorem UniqueMotorIds.not_found (unique : UniqueMotorIds node.tables)
    (lower : -2 ^ 31 ≤ motorId) (upper : motorId < 2 ^ 31)
    (absent : ∀ index joint msgIdx, jointEntry (indexRows node.tables) index joint = some msgIdx →
      (msgIdx : Int) ≠ motorId) : findMotor (motorId.emod (2 ^ 32)).toNat node = none := by
  cases found : findMotor (motorId.emod (2 ^ 32)).toNat node with
  | none => rfl
  | some place =>
      have entry := findMotor_entry found
      have below := unique.below _ _ _ entry
      refine absurd ?_ (absent _ _ _ entry)
      show (((motorId % 2 ^ 32).toNat : Nat) : Int) = motorId
      change (motorId % 2 ^ 32).toNat < 2 ^ 31 at below
      omega

/-- For every configuration, every request and every pattern of failures: the service sends at
most one frame that sets an origin, to the joint with the requested id; if it succeeds it has
disabled and then enabled all motors of that joint's interface in their order and has exchanged
nothing else; and without such a joint it does nothing that others can observe. -/
theorem sets_one_origin [StdToString K] [Libm K] {start : Node K} {operations : List (Operation K)}
    (constructed : Constructed start) (run : runSteps operate start operations = some node)
    (inactive : node.lifecycle = .inactive) (unique : UniqueMotorIds node.tables)
    (lower : -2 ^ 31 ≤ motorId) (upper : motorId < 2 ^ 31)
    (call : (setMotorOriginHereCallback motorId).run node = (outcome, after)) :
    (∀ index joint msgIdx, jointEntry (indexRows node.tables) index joint = some msgIdx →
      (msgIdx : Int) = motorId → SetsOnceTo index joint node after ∧
        (outcome = .returned () → after.response.success = true →
          RestartedInOrder index joint node after)) ∧
    ((∀ index joint msgIdx, jointEntry (indexRows node.tables) index joint = some msgIdx →
      (msgIdx : Int) ≠ motorId) → newEvents node after = []) := by
  constructor
  · intro index joint msgIdx entry requested
    have found := unique.found entry requested
    have once := setMotorOriginHereCallback_setsOnce inactive found
    rw [call] at once
    refine ⟨once, fun returned success => ?_⟩
    rw [returned] at call
    obtain ⟨row, exits, starts, params, parts, exitsInOrder, startsInOrder⟩ :=
      setMotorOriginHereCallback_restarted inactive found call success
    have unready : ¬ (start.lifecycle = .inactive ∨ start.lifecycle = .active) := by
      rw [constructed.lifecycle]
      decide
    have aligned : Aligned node := invariant_of_run (fun _ _ _ ready _ => operate_aligned ready)
      (fun ready => absurd ready unready) everyStep_true run (.inl inactive)
    have within : joint < row.length := by
      rw [jointEntry_indexRows, jointEntry, params, Option.map_eq_some_iff] at entry
      obtain ⟨_, there, _⟩ := entry
      exact (List.getElem?_eq_some_iff.mp there).1
    obtain ⟨event, _, exited⟩ := forall₂_exists exitsInOrder (List.mem_range.mpr within)
    obtain ⟨config, frame, motor, _⟩ := exited
    obtain ⟨joints, listed, _⟩ := Option.bind_eq_some_iff.mp motor
    have size := aligned index joints row (Option.join_eq_some_iff.mp listed) params
    rw [size] at exitsInOrder startsInOrder
    exact ⟨joints, exits, starts, listed, parts, exitsInOrder, startsInOrder⟩
  · intro absent
    rw [setMotorOriginHereCallback, Path.read_bind, if_neg (not_not.mpr inactive), Path.read_bind,
      unique.not_found lower upper absent] at call
    cases call
    simp [newEvents]

end Runs

section Example

attribute [local instance] libmAtRest

/-- Both motors answer while they are enabled and while the second one gets a new origin. -/
def patientBus : Node.Bus where
  setup _ _ := true
  socket _ :=
    let hip := exampleReply 1 1
    let knee := exampleReply 0x80002902 0
    { writes := List.replicate 9 (.written 0)
      reads := [hip, knee, knee, hip, knee, hip, knee, knee, knee] }

def patientRun : List (Operation ℚ) := [.configure (legAssignment []) patientBus 0]

theorem twoMotors_unique {tables : JointTables ℚ} (same : indexRows tables = [[0, 1]]) :
    UniqueMotorIds tables := by
  have entries (index joint msgIdx : Nat)
      (found : jointEntry (indexRows tables) index joint = some msgIdx) :
      index = 0 ∧ joint = msgIdx ∧ msgIdx < 2 := by
    rw [same] at found
    obtain ⟨row, rowFound, there⟩ := Option.bind_eq_some_iff.mp found
    rcases index with _ | index
    · obtain rfl : [0, 1] = row := Option.some.inj rowFound
      rcases joint with _ | _ | joint
      · cases there
        exact ⟨rfl, rfl, by decide⟩
      · cases there
        exact ⟨rfl, rfl, by decide⟩
      · simp at there
    · simp at rowFound
  constructor
  case unshared =>
    intro index joint index' joint' msgIdx found found'
    have first := entries index joint msgIdx found
    have second := entries index' joint' msgIdx found'
    omega
  case below =>
    intro index joint msgIdx found
    have bound := (entries index joint msgIdx found).2.2
    omega

theorem sets_one_origin_knee : ∃ node after : Node ℚ, runSteps operate freshNode patientRun = some node ∧
    (setMotorOriginHereCallback 1).run node = (.returned (), after) ∧
      (originFrames (newEvents node after)).length = 1 ∧
      SetsOnceTo 0 1 node after ∧ RestartedInOrder 0 1 node after := by
  obtain ⟨node, run, observed⟩ := Option.map_eq_some_iff.mp
    (show (runSteps operate freshNode patientRun).map (fun node =>
      let ended := (setMotorOriginHereCallback 1).run node
      ((node.lifecycle, indexRows node.tables), (ended.1, ended.2.response.success),
        (originFrames (newEvents node ended.2)).length)) =
      some ((.inactive, [[0, 1]]), (.returned (), true), 1) by decide +kernel)
  simp only [Prod.mk.injEq] at observed
  obtain ⟨⟨inactive, rows⟩, ⟨returned, success⟩, one⟩ := observed
  obtain ⟨once, restarted⟩ := (sets_one_origin freshNode_constructed run inactive
    (twoMotors_unique rows) (by decide) (by decide) (Prod.ext returned rfl)).1 0 1 1
      (by rw [rows]; rfl) rfl
  exact ⟨node, _, run, Prod.ext returned rfl, one, once, restarted rfl success⟩

end Example

end Node

end CubemarsDriver
