import CubemarsDriver.Can.Disabling
import CubemarsDriver.Foundation.Confines
import CubemarsDriver.Foundation.Trace
import CubemarsDriver.Node.ConfiguredBy
import CubemarsDriver.Node.Origin

namespace CubemarsDriver

open Foundation Can

/-! # Disabling the motors before their interfaces are gone

Three paths clear the interfaces after they have tried to disable the motors.  A
motor is accounted for if its disable frame was attempted, or if the loops over the
interfaces and joints have not reached it yet. -/

variable {K : Type}

def NodeEvent.enables : NodeEvent → Bool
  | .handshake _ (.start ..) _ _ => true
  | _ => false

/-- The event neither enables a motor nor clears the interfaces. -/
def NodeEvent.harmless : NodeEvent → Bool
  | .handshake _ (.start ..) _ _ => false
  | .interfacesCleared => false
  | _ => true

/-- The event is neither a handshake nor the end of the interfaces. -/
def NodeEvent.silent : NodeEvent → Bool
  | .handshake .. => false
  | .interfacesCleared => false
  | _ => true

theorem NodeEvent.silent_harmless {event : NodeEvent} (silent : event.silent = true) :
    event.harmless = true := by
  cases event <;> first | rfl | cases silent

theorem NodeEvent.harmless_enables {event : NodeEvent} (harmless : event.harmless = true) :
    event.enables = false := by
  unfold enables
  split
  · exact harmless.symm
  · rfl

theorem NodeEvent.harmless_keeps {event : NodeEvent} (harmless : event.harmless = true) :
    event ≠ .interfacesCleared := by
  rintro rfl
  exact Bool.false_ne_true harmless

/-- The event hands a disable frame of the motor to its interface. -/
def NodeEvent.Disables (index : Nat) (config : JointConfig K) (event : NodeEvent) : Prop :=
  event.enables = false ∧ ∃ step attempts raised, event = .handshake index step attempts raised ∧
    ∃ attempt ∈ attempts, attempt.frame.Disables config

namespace Node

/-- A disable frame was attempted, and no motor has been enabled since. -/
def DisableAttempted (index : Nat) (config : JointConfig K) (events : List NodeEvent) : Prop :=
  OccursSince (·.enables = true) (·.Disables index config) events

/-- Whenever the interfaces are cleared, all these motors have been attempted to disable. -/
def DisabledFirst (motors : Nat → JointConfig K → Prop) (events : List NodeEvent) : Prop :=
  Precedes (fun earlier => ∀ index config, motors index config →
    DisableAttempted index config earlier) (· = .interfacesCleared) events

/-- What the loops over interfaces and joints run through. -/
def layout (node : Node K) : List (Option (List (JointConfig K))) × JointTables K :=
  (node.jointLists, node.tables)

/-- The path has recorded only events of a kind, and left the layout alone. -/
def Proceeds (kind : NodeEvent → Prop) (before after : Node K) : Prop :=
  after.layout = before.layout ∧ ∃ events, after.log = before.log ++ events ∧
    ∀ event ∈ events, kind event

instance instIsPreorderProceeds (kind : NodeEvent → Prop) : IsPreorder (Node K) (Proceeds kind) where
  refl node := ⟨rfl, [], by simp, by simp⟩
  trans before middle after first second := by
    obtain ⟨same, events, log, all⟩ := first
    obtain ⟨sameAfter, more, logAfter, allAfter⟩ := second
    refine ⟨sameAfter.trans same, events ++ more, by rw [logAfter, log, List.append_assoc],
      fun event member => ?_⟩
    rcases List.mem_append.mp member with old | new
    · exact all event old
    · exact allAfter event new

/-- The path neither enables motors nor clears interfaces. -/
abbrev Proceeding {α : Type} (path : NodePath K α) : Prop :=
  Path.Evolves (Proceeds (·.harmless = true)) path

/-- The path exchanges nothing with motors and clears no interfaces. -/
abbrev Silent {α : Type} (path : NodePath K α) : Prop :=
  Path.Evolves (Proceeds (·.silent = true)) path

theorem Silent.proceeding {α : Type} {path : NodePath K α} (silent : Silent path) : Proceeding path :=
  silent.weaken fun _ _ proceeds => ⟨proceeds.1, proceeds.2.imp fun _ recorded =>
    ⟨recorded.1, fun event member => NodeEvent.silent_harmless (recorded.2 event member)⟩⟩

section Proceeding

variable {kind : NodeEvent → Prop} {node after : Node K} {index joint : Nat} {mode : LockMode}

theorem recorded_proceeds {event : NodeEvent} (same : after.layout = node.layout)
    (log : after.log = node.log ++ [event]) (allowed : kind event) : Proceeds kind node after := by
  refine ⟨same, [event], log, fun other member => ?_⟩
  rwa [List.mem_singleton.mp member]

theorem unrecorded_proceeds (same : after.layout = node.layout) (log : after.log = node.log) :
    Proceeds kind node after := ⟨same, [], by simp [log], by simp⟩

theorem update_proceeds {change : Node K → Node K}
    (same : ∀ node, (change node).layout = node.layout)
    (log : ∀ node, (change node).log = node.log) :
    Silent (Path.update change : NodePath K Unit) :=
  Path.Evolves.update fun node => unrecorded_proceeds (same node) (log node)

theorem startSupervisor_proceeds : Silent (startSupervisor : NodePath K Unit) :=
  startSupervisor_evolves fun _ => unrecorded_proceeds rfl rfl

theorem lockCommunication_proceeds : Silent (lockCommunication mode : NodePath K Unit) :=
  Path.Evolves.updateFound fun _ _ => recorded_proceeds rfl rfl rfl

theorem unlockCommunication_proceeds : Silent (unlockCommunication mode : NodePath K Unit) :=
  Path.Evolves.updateFound fun _ _ => recorded_proceeds rfl rfl rfl

theorem lockJointStateMsg_proceeds : Silent (lockJointStateMsg mode : NodePath K Unit) :=
  Path.Evolves.updateFound fun _ _ => recorded_proceeds rfl rfl rfl

theorem unlockJointStateMsg_proceeds : Silent (unlockJointStateMsg mode : NodePath K Unit) :=
  Path.Evolves.updateFound fun _ _ => recorded_proceeds rfl rfl rfl

theorem changeThread_proceeds {event : NodeEvent} (silent : event.silent = true)
    (change : CommThread → CommThread) :
    Silent (changeThread index event change : NodePath K Unit) := by
  refine Path.Evolves.updateDefined fun before after changed => ?_
  rw [Option.ite_none_right_eq_some, Option.some.injEq] at changed
  obtain ⟨_, rfl⟩ := changed
  exact recorded_proceeds rfl rfl silent

theorem joinThread_proceeds : Silent (joinThread index : NodePath K Unit) :=
  Path.Evolves.bind (Path.Evolves.read _) fun _ => changeThread_proceeds rfl _

theorem startCommThread_proceeds : Silent (startCommThread index : NodePath K Unit) :=
  Path.Evolves.bind (Path.Evolves.element _) fun _ => Path.Evolves.when fun _ =>
    Path.Evolves.bind (Path.Evolves.when fun _ => joinThread_proceeds) fun _ =>
      changeThread_proceeds rfl _

theorem stopCommThread_proceeds : Silent (stopCommThread index : NodePath K Unit) :=
  Path.Evolves.bind (changeThread_proceeds rfl _) fun _ =>
    Path.Evolves.bind (Path.Evolves.element _) fun _ =>
      Path.Evolves.when fun _ => joinThread_proceeds

theorem stopAllCommThreads_proceeds : Silent (stopAllCommThreads : NodePath K Unit) :=
  Path.Evolves.bind (Path.Evolves.loopBelow fun _ => changeThread_proceeds rfl _)
    fun _ => Path.Evolves.loopBelow fun _ => Path.Evolves.bind (Path.Evolves.element _) fun _ =>
      Path.Evolves.when fun _ => joinThread_proceeds

theorem respond_proceeds (success : Bool) (message : String) :
    Silent (respond success message : NodePath K Unit) :=
  update_proceeds (fun _ => rfl) fun _ => rfl

theorem canInterface_proceeds : Silent (canInterface index : NodePath K (CubemarsCan K)) :=
  Path.Evolves.bind (Path.Evolves.update fun _ => recorded_proceeds rfl rfl rfl) fun _ =>
    Path.Evolves.element _

theorem nameJoint_proceeds : Silent (nameJoint index joint : NodePath K Unit) := by
  refine Path.Evolves.bind (Path.Evolves.element _) fun _ => ?_
  refine Path.Evolves.bind (Path.Evolves.bind canInterface_proceeds fun can => ?_) fun _ =>
    Path.Evolves.pure _
  split
  · exact Path.Evolves.pure _
  · exact Path.Evolves.throw _

theorem nameConfig_proceeds {configs : JointConfigs K} :
    Silent (nameConfig configs index joint : NodePath K Unit) :=
  Path.Evolves.bind canInterface_proceeds fun _ =>
    Path.Evolves.bind (Path.Evolves.element _) fun _ => Path.Evolves.pure _

theorem handshake_layout (step : HandshakeStep) :
    Path.Preserves layout (handshake index step : NodePath K Unit) :=
  (handshake_outline step).weaken fun _ _ same =>
    congrArg (fun outline : Outline K => (outline.jointLists, outline.tables)) same

/-- A handshake records itself, and its interface before it where there is none. -/
theorem handshake_proceeds (step : HandshakeStep)
    (allowed : ∀ attempts raised, kind (.handshake index step attempts raised))
    (used : kind (.interfaceUsed index)) :
    Path.Evolves (Proceeds kind) (handshake index step : NodePath K Unit) := by
  intro node
  refine ⟨handshake_layout step node, ?_⟩
  cases found : node.canInterfaces[index]?.join with
  | none =>
      simp only [handshake, found]
      exact ⟨[_], rfl, fun event member => List.mem_singleton.mp member ▸ used⟩
  | some can =>
      rw [handshake_run step found]
      exact ⟨[_], rfl, fun event member => List.mem_singleton.mp member ▸ allowed _ _⟩

theorem handshake_proceeding (index : Nat) (step : HandshakeStep)
    (harmless : ∀ attempts raised,
      (NodeEvent.handshake index step attempts raised).harmless = true) :
    Proceeding (handshake index step : NodePath K Unit) := handshake_proceeds step harmless rfl

end Proceeding

section Accounting

variable {motors : Nat → JointConfig K → Prop} {base : List NodeEvent}
variable {lists : List (Option (List (JointConfig K)))} {rows : JointTables K → List Nat}
variable {counts : List Nat} {done done' : Nat → Nat → Prop} {node : Node K} {index joint : Nat}

/-- Since the log was `base`, the interfaces were cleared only with the motors disabled. -/
def Disciplined (motors : Nat → JointConfig K → Prop) (base : List NodeEvent) (node : Node K) :
    Prop := ∃ events, node.log = base ++ events ∧ DisabledFirst motors events

/-- The motor is at a place among the interfaces' joints that is not done. -/
def Waiting (lists : List (Option (List (JointConfig K)))) (done : Nat → Nat → Prop) (index : Nat)
    (config : JointConfig K) : Prop :=
  ∃ joints joint, lists[index]? = some (some joints) ∧ joints[joint]? = some config ∧
    ¬ done index joint

structure Accounted (motors : Nat → JointConfig K → Prop) (base : List NodeEvent)
    (lists : List (Option (List (JointConfig K)))) (rows : JointTables K → List Nat)
    (counts : List Nat) (done : Nat → Nat → Prop) (node : Node K) : Prop where
  listed : node.jointLists = lists
  counted : rows node.tables = counts
  disabled : ∃ events, node.log = base ++ events ∧ ∀ index config, motors index config →
    DisableAttempted index config events ∨ Waiting lists done index config

/-- The places before a joint. -/
def Before (index joint other place : Nat) : Prop := other < index ∨ other = index ∧ place < joint

/-- Every interface has at least as many entries in its row as it has joints. -/
def Covers (counts : List Nat) (lists : List (Option (List (JointConfig K)))) : Prop :=
  ∀ (index : Nat) joints count, lists[index]? = some (some joints) → counts[index]? = some count →
    joints.length ≤ count

theorem Accounted.log (accounted : Accounted motors base lists rows counts done node) :
    base <+: node.log := by
  obtain ⟨events, log, _⟩ := accounted.disabled
  exact log ▸ List.prefix_append base events

theorem Disciplined.proceeds {kind : NodeEvent → Prop} {after : Node K}
    (keeps : ∀ event, kind event → event ≠ .interfacesCleared) (proceeds : Proceeds kind node after)
    (disciplined : Disciplined motors base node) : Disciplined motors base after := by
  obtain ⟨events, log, first⟩ := disciplined
  obtain ⟨_, more, logAfter, all⟩ := proceeds
  exact ⟨events ++ more, by rw [logAfter, log, List.append_assoc],
    first.append fun event member => keeps event (all event member)⟩

theorem Accounted.proceeds {after : Node K} (proceeds : Proceeds (·.harmless = true) node after)
    (accounted : Accounted motors base lists rows counts done node) :
    Accounted motors base lists rows counts done after := by
  obtain ⟨same, more, logAfter, harmless⟩ := proceeds
  obtain ⟨events, log, all⟩ := accounted.disabled
  refine ⟨(congrArg Prod.fst same).trans accounted.listed,
    (congrArg (fun layout => rows layout.2) same).trans accounted.counted, events ++ more,
    by rw [logAfter, log, List.append_assoc], fun index config motor => ?_⟩
  exact (all index config motor).imp_left fun attempted =>
    attempted.append fun event member =>
      (NodeEvent.harmless_enables (harmless event member)).symm ▸ Bool.false_ne_true

theorem Accounted.weaken (accounted : Accounted motors base lists rows counts done node)
    (fewer : ∀ index joint, done' index joint → done index joint) :
    Accounted motors base lists rows counts done' node := by
  obtain ⟨events, log, all⟩ := accounted.disabled
  refine ⟨accounted.listed, accounted.counted, events, log, fun index config motor => ?_⟩
  refine (all index config motor).imp_right fun waiting => ?_
  obtain ⟨joints, joint, listed, found, open_⟩ := waiting
  exact ⟨joints, joint, listed, found, fun finished => open_ (fewer _ _ finished)⟩

/-- The rows are as long as the joints, so after a row its interface is done. -/
theorem Accounted.nextRow {count : Nat} (covers : Covers counts lists)
    (found : counts[index]? = some count)
    (accounted : Accounted motors base lists rows counts (Before index count) node) :
    Accounted motors base lists rows counts (Before (index + 1) 0) node := by
  obtain ⟨events, log, all⟩ := accounted.disabled
  refine ⟨accounted.listed, accounted.counted, events, log, fun other config motor => ?_⟩
  refine (all other config motor).imp_right fun waiting => ?_
  obtain ⟨joints, joint, listed, there, open_⟩ := waiting
  refine ⟨joints, joint, listed, there, ?_⟩
  rintro (earlier | ⟨_, impossible⟩)
  · rcases Nat.lt_succ_iff_lt_or_eq.mp earlier with before | rfl
    · exact open_ (.inl before)
    · have bound := (List.getElem?_eq_some_iff.mp there).1
      have covered := covers _ _ _ listed found
      exact open_ (.inr ⟨rfl, by omega⟩)
  · exact absurd impossible (Nat.not_lt_zero _)

/-- After the last interface every motor has been attempted. -/
theorem Accounted.all
    (accounted : Accounted motors base lists rows counts (Before lists.length 0) node) :
    ∃ events, node.log = base ++ events ∧
      ∀ index config, motors index config → DisableAttempted index config events := by
  obtain ⟨events, log, all⟩ := accounted.disabled
  refine ⟨events, log, fun index config motor => ?_⟩
  rcases all index config motor with attempted | ⟨_, _, listed, _, open_⟩
  · exact attempted
  · exact absurd (.inl (List.getElem?_eq_some_iff.mp listed).1) open_

/-- What a handshake that enables no motor adds. -/
theorem Accounted.handshake {can : CubemarsCan K} {step : HandshakeStep}
    (accounted : Accounted motors base lists rows counts done node)
    (found : node.canInterfaces[index]?.join = some can)
    (passive : (handshakeEvent index step can).enables = false)
    (newly : ∀ joint config, done' index joint → ¬ done index joint →
      can.jointConfigs[joint]? = some config →
      (handshakeEvent index step can).Disables index config)
    (others : ∀ other joint, done' other joint → ¬ done other joint → other = index) :
    Accounted motors base lists rows counts done' ((Node.handshake index step).run node).2 := by
  have same : ((Node.handshake index step).run node).2.layout = node.layout :=
    handshake_layout step node
  have log : ((Node.handshake index step).run node).2.log =
      node.log ++ [handshakeEvent index step can] := by
    rw [handshake_run step found]
    rfl
  have listed : lists[index]? = some (some can.jointConfigs) := by
    rw [← accounted.listed, jointLists, List.getElem?_map, Option.join_eq_some_iff.mp found]
    rfl
  obtain ⟨events, logBefore, all⟩ := accounted.disabled
  refine ⟨(congrArg Prod.fst same).trans accounted.listed,
    (congrArg (fun layout => rows layout.2) same).trans accounted.counted,
    events ++ [handshakeEvent index step can], by rw [log, logBefore, List.append_assoc],
    fun other config motor => ?_⟩
  rcases all other config motor with attempted | ⟨joints, joint, there, at_, open_⟩
  · exact .inl (attempted.append fun event member => by simp_all)
  · by_cases finished : done' other joint
    · obtain rfl := others other joint finished open_
      rw [listed, Option.some.injEq, Option.some.injEq] at there
      subst there
      exact .inl (occursSince_concat (newly joint config finished open_ at_))
    · exact .inr ⟨joints, joint, there, at_, finished⟩

/-- The path clears the interfaces only with the motors disabled. -/
abbrev Accounts {α : Type} (motors : Nat → JointConfig K → Prop) (base : List NodeEvent)
    (before : Node K → Prop) (path : NodePath K α) (after : Node K → Prop) : Prop :=
  Path.Confines (Disciplined motors base) before path (fun _ => after) fun _ => True

theorem Proceeding.confines {α : Type} {path : NodePath K α} (proceeding : Proceeding path) :
    Path.Confines (Disciplined motors base) (Accounted motors base lists rows counts done) path
      (fun _ => Accounted motors base lists rows counts done)
      (Accounted motors base lists rows counts done) :=
  Path.Confines.of_related proceeding
    (fun _ _ => Disciplined.proceeds fun _ => NodeEvent.harmless_keeps)
    fun _ _ => Accounted.proceeds

theorem Proceeding.accounts {α : Type} {path : NodePath K α} (proceeding : Proceeding path) :
    Accounts motors base (Accounted motors base lists rows counts done) path
      (Accounted motors base lists rows counts done) :=
  proceeding.confines.consequence (fun _ => id) (fun _ _ => id) fun _ _ => trivial

theorem Proceeding.finishes {α : Type} {path : NodePath K α} (proceeding : Proceeding path) :
    Accounts motors base (fun _ => True) path fun _ => True :=
  Path.Confines.of_related proceeding
    (fun _ _ => Disciplined.proceeds fun _ => NodeEvent.harmless_keeps) fun _ _ _ => id

theorem accounts_pure {α : Type} {pre : Node K → Prop} (value : α) :
    Accounts motors base pre (pure value : NodePath K α) pre := fun _ kept holds => ⟨kept, holds⟩

theorem accounts_read {α : Type} {pre : Node K → Prop} (component : Node K → α) :
    Accounts motors base pre (Path.read component : NodePath K α) pre :=
  (Path.Confines.read component).weaken_post fun _ _ => And.left

/-- An update that records nothing. -/
theorem finishes_update {pre : Node K → Prop} {change : Node K → Node K}
    (same : ∀ node, (change node).log = node.log) :
    Accounts motors base pre (Path.update change : NodePath K Unit) fun _ => True := by
  refine Path.Confines.update fun node kept _ => ⟨?_, trivial⟩
  obtain ⟨events, log, first⟩ := kept
  exact ⟨events, (same node).trans log, first⟩

theorem handshake_disciplined {step : HandshakeStep}
    (harmless : ∀ attempts raised,
      (NodeEvent.handshake index step attempts raised).harmless = true)
    (kept : Disciplined motors base node) :
    Disciplined motors base ((Node.handshake index step).run node).2 :=
  ((handshake_proceeding index step harmless).finishes node kept trivial).1

/-- One motor is done, whether it answered or not. -/
theorem exit_confines : Path.Confines (Disciplined motors base)
    (Accounted motors base lists rows counts (Before index joint))
    (Node.handshake index (.exit joint) : NodePath K Unit)
    (fun _ => Accounted motors base lists rows counts (Before index (joint + 1)))
    (Accounted motors base lists rows counts (Before index (joint + 1))) := by
  intro node kept accounted
  refine ⟨handshake_disciplined (fun _ _ => rfl) kept, ?_⟩
  cases found : node.canInterfaces[index]?.join with
  | none => simp only [Node.handshake, found]
  | some can =>
      have exited : Accounted motors base lists rows counts (Before index (joint + 1))
          ((Node.handshake index (.exit joint)).run node).2 := by
        refine accounted.handshake found rfl (fun place config finished open_ at_ => ?_)
          fun other place finished open_ => ?_
        · have same : place = joint := by
            unfold Before at finished open_
            omega
          subst same
          obtain ⟨attempt, disables, attempts⟩ := endMotorControlMode_attempts at_
          refine ⟨rfl, _, _, _, rfl, attempt, ?_, disables⟩
          simp only [CubemarsCan.attempts] at attempts
          simp [HandshakeStep.path, attempts]
        · unfold Before at finished open_
          omega
      cases run : (Node.handshake index (.exit joint)).run node with
      | mk outcome after =>
          rw [run] at exited
          cases outcome with
          | returned value => exact exited
          | thrown exception => exact exited
          | undefined => trivial

/-- All motors of an interface are done if none of them failed. -/
theorem exitAll_confines : Path.Confines (Disciplined motors base)
    (Accounted motors base lists rows counts (Before index 0))
    (Node.handshake index .exitAll : NodePath K Unit)
    (fun _ => Accounted motors base lists rows counts (Before (index + 1) 0))
    (Accounted motors base lists rows counts (Before 0 0)) := by
  intro node kept accounted
  refine ⟨handshake_disciplined (fun _ _ => rfl) kept, ?_⟩
  cases found : node.canInterfaces[index]?.join with
  | none => simp only [Node.handshake, found]
  | some can =>
      rw [handshake_run _ found]
      cases run : endMotorControlModeAll.run can with
      | mk outcome disabled =>
          have ended : (HandshakeStep.exitAll.path.run can).1 = outcome := congrArg Prod.fst run
          rw [ended]
          cases outcome with
          | returned value =>
              obtain ⟨attempted, attempts, all⟩ := endMotorControlModeAll_attempts run
              have exited : Accounted motors base lists rows counts (Before (index + 1) 0)
                  ((Node.handshake index .exitAll).run node).2 :=
                accounted.handshake found
                  (show (handshakeEvent index .exitAll can).enables = false from rfl)
                  (fun place config _ _ at_ => by
                    obtain ⟨attempt, member, disables⟩ := all config (List.mem_of_getElem? at_)
                    refine ⟨rfl, _, _, _, rfl, attempt, ?_, disables⟩
                    simp only [CubemarsCan.attempts] at attempts
                    simpa [HandshakeStep.path, run, attempts] using member)
                  (fun other place finished open_ => by
                    unfold Before at finished open_
                    omega)
              rwa [handshake_run _ found] at exited
          | thrown exception =>
              have stayed := accounted.proceeds
                (handshake_proceeding index .exitAll (fun _ _ => rfl) node)
              rw [handshake_run _ found] at stayed
              exact stayed.weaken fun other place never => by
                unfold Before at never
                omega
          | undefined => trivial

theorem exitOrHandle_accounts {handler : Exception → NodePath K Unit}
    (handled : ∀ exception, Proceeding (handler exception)) :
    Accounts motors base (Accounted motors base lists rows counts (Before index joint))
      (Path.tryCatch (Node.handshake index (.exit joint)) handler)
      (Accounted motors base lists rows counts (Before index (joint + 1))) :=
  Path.Confines.tryCatch (exit_confines.consequence (fun _ => id) (fun _ _ => id) fun _ => id)
    fun exception => (handled exception).accounts

/-- A loop over a row that goes on after exceptions. -/
theorem disableRow_accounts {count : Nat} {handler : Nat → Exception → NodePath K Unit}
    (handled : ∀ joint exception, Proceeding (handler joint exception))
    (covers : Covers counts lists) (found : counts[index]? = some count) :
    Accounts motors base (Accounted motors base lists rows counts (Before index 0))
      (Path.loopBelow (fun _ => count) fun joint =>
        Path.tryCatch (Node.handshake index (.exit joint)) (handler joint))
      (Accounted motors base lists rows counts (Before (index + 1) 0)) :=
  (Path.Confines.loopCount count
    (fun joint => Accounted motors base lists rows counts (Before index joint))
    (fun _ _ _ => rfl) fun joint => exitOrHandle_accounts (handled joint)).weaken_post
      fun _ _ accounted => accounted.nextRow covers found

theorem disableInterfaces_accounts {body : Nat → NodePath K Unit}
    (step : ∀ index, Accounts motors base
      (Accounted motors base lists rows counts (Before index 0)) (body index)
      (Accounted motors base lists rows counts (Before (index + 1) 0))) :
    Accounts motors base (Accounted motors base lists rows counts (Before 0 0))
      (Path.loopBelow numInterfaces body)
      (Accounted motors base lists rows counts (Before lists.length 0)) :=
  Path.Confines.loopCount lists.length
    (fun index => Accounted motors base lists rows counts (Before index 0))
    (fun index node accounted => by rw [← accounted.listed, jointLists, List.length_map]; rfl) step

/-- With all motors done the interfaces may go. -/
theorem clearInterfaces_confines {raised : Node K → Prop} :
    Path.Confines (Disciplined motors base)
      (Accounted motors base lists rows counts (Before lists.length 0))
      (clearInterfaces : NodePath K Unit)
      (fun _ => Accounted motors base [] rows counts (Before 0 0)) raised := by
  refine Path.Confines.update fun node kept accounted => ?_
  obtain ⟨events, log, all⟩ := accounted.all
  obtain ⟨same, logSame, first⟩ := kept
  obtain rfl : same = events := List.append_cancel_left (logSame.symm.trans log)
  have logAfter : node.log ++ [NodeEvent.interfacesCleared] =
      base ++ (same ++ [.interfacesCleared]) := by rw [log, List.append_assoc]
  refine ⟨⟨_, logAfter, first.concat fun _ => all⟩, rfl, accounted.counted, _, logAfter,
    fun index config motor => .inl ((all index config motor).append fun event member => ?_)⟩
  rw [List.mem_singleton.mp member]
  exact Bool.false_ne_true

end Accounting

end Node

end CubemarsDriver
