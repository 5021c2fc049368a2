import CubemarsDriver.Node.DisabledFirst
import CubemarsDriver.Node.Operations

namespace CubemarsDriver.Node

open Foundation Can

/-! # The tables and interfaces that callbacks leave

No callback but `on_configure` adds to the tables or to the interfaces: they stay as
they are, or they are gone altogether. -/

variable {K : Type} {node after : Node K} {index joint : Nat} {start goal : Lifecycle}

/-- The error counters of the interfaces. -/
abbrev counters (node : Node K) : List Nat := node.interfaces.numCanErrorsPerInterfaces

/-- No tables are left, and no arrival times. -/
def Emptied (node : Node K) : Prop := node.tables = {} ∧ node.messages.jointRxNs = []

theorem Emptied.stays (emptied : Emptied node) (tables : Emptied after ∨ after.tables = node.tables)
    (messages : Emptied after ∨ after.messages = node.messages) : Emptied after := by
  rcases tables with done | tables
  · exact done
  · rcases messages with done | messages
    · exact done
    · exact ⟨tables.trans emptied.1, by rw [messages, emptied.2]⟩

/-- The tables stayed or were wiped, the interfaces stayed or were cleared.  The node
has not become unconfigured without its tables being wiped, and a command it has got
since fits the messages, which stayed as long as the tables did. -/
structure Retains (before after : Node K) : Prop where
  tables : Emptied after ∨ after.tables = before.tables ∧
    (after.lifecycle = .unconfigured → before.lifecycle = .unconfigured)
  lists : after.jointLists = [] ∨ after.jointLists = before.jointLists
  messages : Emptied after ∨ after.messages = before.messages
  jointMsgLength : after.jointMsgLength = before.jointMsgLength
  command : after.jointCmdPtr = before.jointCmdPtr ∨
    ∀ command, after.jointCmdPtr = some command → command.Sized after.jointMsgLength
  counters : after.counters = [] ∨ after.counters = before.counters ∧
    (after.lifecycle = .unconfigured → before.lifecycle = .unconfigured)
  declaredMsgIdxs : after.declaredMsgIdxs = before.declaredMsgIdxs

instance instIsPreorderRetains : IsPreorder (Node K) Retains where
  refl _ := ⟨.inr ⟨rfl, id⟩, .inr rfl, .inr rfl, rfl, .inl rfl, .inr ⟨rfl, id⟩, rfl⟩
  trans before middle after first second := by
    constructor
    case tables =>
      rcases second.tables with emptied | ⟨same, stayed⟩
      · exact .inl emptied
      · rcases first.tables with emptied | ⟨sameBefore, stayedBefore⟩
        · exact .inl (emptied.stays (.inr same) second.messages)
        · exact .inr ⟨same.trans sameBefore, stayedBefore ∘ stayed⟩
    case lists =>
      rcases second.lists with cleared | same
      · exact .inl cleared
      · rw [same]
        exact first.lists
    case messages =>
      rcases second.messages with emptied | same
      · exact .inl emptied
      · rcases first.messages with emptied | sameBefore
        · exact .inl (emptied.stays (second.tables.imp_right And.left) (.inr same))
        · exact .inr (same.trans sameBefore)
    case jointMsgLength => exact second.jointMsgLength.trans first.jointMsgLength
    case command =>
      rcases second.command with same | sized
      · rw [same, second.jointMsgLength]
        exact first.command
      · exact .inr sized
    case counters =>
      rcases second.counters with wiped | ⟨same, stayed⟩
      · exact .inl wiped
      · rw [same]
        exact first.counters.imp_right fun ⟨sameBefore, stayedBefore⟩ =>
          ⟨sameBefore, stayedBefore ∘ stayed⟩
    case declaredMsgIdxs => exact second.declaredMsgIdxs.trans first.declaredMsgIdxs

abbrev Retaining {α : Type} (path : NodePath K α) : Prop := Path.Evolves Retains path

/-- Nothing has happened but to the lifecycle and to other parts of the node. -/
theorem Retains.of_same (stayed : after.lifecycle = .unconfigured → node.lifecycle = .unconfigured)
    (same : (after.tables, after.jointLists, after.messages, after.jointMsgLength, after.jointCmdPtr,
        after.counters, after.declaredMsgIdxs) =
      (node.tables, node.jointLists, node.messages, node.jointMsgLength, node.jointCmdPtr,
        node.counters, node.declaredMsgIdxs)) : Retains node after := by
  simp only [Prod.mk.injEq] at same
  obtain ⟨tables, lists, messages, length, command, counters, declared⟩ := same
  exact ⟨.inr ⟨tables, stayed⟩, .inr lists, .inr messages, length, .inl command,
    .inr ⟨counters, stayed⟩, declared⟩

theorem Retains.of_outline (passive : after.gate = node.gate) (same : after.outline = node.outline) :
    Retains node after :=
  .of_same (fun ended => (congrArg Gate.lifecycle passive).symm.trans ended)
    (congrArg (fun outline => (outline.tables, outline.jointLists, outline.messages,
      outline.jointMsgLength, outline.jointCmdPtr, outline.interfaces.numCanErrorsPerInterfaces,
      outline.declaredMsgIdxs)) same)

theorem Passive.retaining {α : Type} {path : NodePath K α} (passive : Passive path)
    (same : Path.Preserves outline path) : Retaining path :=
  fun node => .of_outline (passive node) (same node)

section Steps

variable {mode : LockMode}

theorem lockCommunication_outline : Path.Preserves outline (lockCommunication mode : NodePath K Unit) :=
  Path.Evolves.updateFound fun _ _ => rfl

theorem unlockCommunication_outline :
    Path.Preserves outline (unlockCommunication mode : NodePath K Unit) :=
  Path.Evolves.updateFound fun _ _ => rfl

theorem lockJointStateMsg_outline : Path.Preserves outline (lockJointStateMsg mode : NodePath K Unit) :=
  Path.Evolves.updateFound fun _ _ => rfl

theorem unlockJointStateMsg_outline :
    Path.Preserves outline (unlockJointStateMsg mode : NodePath K Unit) :=
  Path.Evolves.updateFound fun _ _ => rfl

theorem stopCommThread_outline : Path.Preserves outline (stopCommThread index : NodePath K Unit) :=
  Path.Evolves.bind (changeThread_outline _ _) fun _ => Path.Evolves.bind (Path.Evolves.element _)
    fun _ => Path.Evolves.when fun _ => Path.Evolves.bind (Path.Evolves.read _) fun _ =>
      changeThread_outline _ _

theorem stopAllCommThreads_outline : Path.Preserves outline (stopAllCommThreads : NodePath K Unit) :=
  Path.Evolves.bind (Path.Evolves.loopBelow fun _ => changeThread_outline _ _) fun _ =>
    Path.Evolves.loopBelow fun _ => Path.Evolves.bind (Path.Evolves.element _) fun _ =>
      Path.Evolves.when fun _ => Path.Evolves.bind (Path.Evolves.read _) fun _ =>
        changeThread_outline _ _

theorem nameJoint_outline : Path.Preserves outline (nameJoint index joint : NodePath K Unit) := by
  refine Path.Evolves.bind (Path.Evolves.element _) fun _ => ?_
  refine Path.Evolves.bind (Path.Evolves.bind canInterface_outline fun can => ?_) fun _ =>
    Path.Evolves.pure _
  split
  · exact Path.Evolves.pure _
  · exact Path.Evolves.throw _

theorem lockCommunication_retaining : Retaining (lockCommunication mode : NodePath K Unit) :=
  lockCommunication_passive.retaining lockCommunication_outline

theorem unlockCommunication_retaining : Retaining (unlockCommunication mode : NodePath K Unit) :=
  unlockCommunication_passive.retaining unlockCommunication_outline

theorem lockJointStateMsg_retaining : Retaining (lockJointStateMsg mode : NodePath K Unit) :=
  lockJointStateMsg_passive.retaining lockJointStateMsg_outline

theorem unlockJointStateMsg_retaining : Retaining (unlockJointStateMsg mode : NodePath K Unit) :=
  unlockJointStateMsg_passive.retaining unlockJointStateMsg_outline

theorem startCommThread_retaining : Retaining (startCommThread index : NodePath K Unit) :=
  startCommThread_passive.retaining startCommThread_outline

theorem stopCommThread_retaining : Retaining (stopCommThread index : NodePath K Unit) :=
  stopCommThread_passive.retaining stopCommThread_outline

theorem stopAllCommThreads_retaining : Retaining (stopAllCommThreads : NodePath K Unit) :=
  stopAllCommThreads_passive.retaining stopAllCommThreads_outline

theorem handshake_retaining (step : HandshakeStep) :
    Retaining (handshake index step : NodePath K Unit) :=
  (handshake_aside step).passive.retaining (handshake_outline step)

theorem canInterface_retaining : Retaining (canInterface index : NodePath K (CubemarsCan K)) :=
  canInterface_aside.passive.retaining canInterface_outline

theorem nameJoint_retaining : Retaining (nameJoint index joint : NodePath K Unit) :=
  nameJoint_aside.passive.retaining nameJoint_outline

theorem clearInterfaces_retaining : Retaining (clearInterfaces : NodePath K Unit) :=
  Path.Evolves.update fun _ =>
    ⟨.inr ⟨rfl, id⟩, .inl rfl, .inr rfl, rfl, .inl rfl, .inr ⟨rfl, id⟩, rfl⟩

theorem respond_retaining (success : Bool) (message : String) :
    Retaining (respond success message : NodePath K Unit) :=
  Path.Evolves.update fun _ => .of_same id rfl

theorem setLifecycle_retaining {lifecycle : Lifecycle} (configured : lifecycle ≠ .unconfigured) :
    Retaining (setLifecycle lifecycle : NodePath K Unit) :=
  Path.Evolves.update fun _ => .of_same (fun ended => absurd ended configured) rfl

end Steps

/-- Neither tables nor counters are left. -/
def Wiped (node : Node K) : Prop := Emptied node ∧ node.counters = []

theorem Wiped.retained (wiped : Wiped node) (retains : Retains node after) : Wiped after :=
  ⟨wiped.1.stays (retains.tables.imp_right And.left) retains.messages,
    retains.counters.elim id fun same => same.1.trans wiped.2⟩

theorem clearTables_retains (node : Node K) : Retains node (clearTables node) :=
  ⟨.inl ⟨rfl, rfl⟩, .inr rfl, .inl ⟨rfl, rfl⟩, rfl, .inl rfl, .inl rfl, rfl⟩

/-- After the tables the messages are cleared. -/
theorem clearMessages_retains {base : Node K} (retains : Retains base node) (wiped : Wiped node) :
    Retains base (clearMessages node) :=
  ⟨.inl wiped.1, retains.lists, .inl wiped.1, retains.jointMsgLength, .inr nofun, .inl wiped.2,
    retains.declaredMsgIdxs⟩

/-- The end of a cleanup, once the tables have been wiped. -/
theorem releaseAll_retains (base : Node K) : Path.Confines (Retains base) Wiped
    (do
      unlockJointStateMsg .exclusive
      unlockCommunication .exclusive
      Path.update clearMessages
      pure .success : NodePath K CallbackReturn) (fun _ _ => True) fun _ => True := by
  have unlocks {path : NodePath K Unit} (retaining : Retaining path) :
      Path.Confines (Retains base) Wiped path (fun _ => Wiped) fun _ => True :=
    (Path.Confines.of_related retaining (fun _ _ related reached => trans_of Retains reached related)
      fun _ _ related wiped => wiped.retained related).consequence
      (fun _ => id) (fun _ _ => id) fun _ _ => trivial
  refine Path.Confines.bind (unlocks unlockJointStateMsg_retaining) fun _ => ?_
  refine Path.Confines.bind (unlocks unlockCommunication_retaining) fun _ => ?_
  refine Path.Confines.bind (Path.Confines.update fun node reached wiped =>
    ⟨clearMessages_retains reached wiped, trivial⟩ : Path.Confines _ _ _ (fun _ _ => True) _) fun _ => ?_
  exact fun _ kept _ => ⟨kept, trivial⟩

theorem onCleanup_retaining : Retaining (onCleanup : NodePath K CallbackReturn) := by
  refine Path.Evolves.bind (Path.Evolves.update fun _ => .of_same id rfl) fun _ => ?_
  refine Path.Evolves.bind stopAllCommThreads_retaining fun _ => ?_
  refine Path.Evolves.bind (Path.Evolves.update fun _ => .of_same id rfl) fun _ => ?_
  refine Path.Evolves.bind lockCommunication_retaining fun _ => ?_
  refine Path.Evolves.bind lockJointStateMsg_retaining fun _ => ?_
  refine Path.Evolves.bind (Path.Evolves.loopBelow fun index =>
    Path.Evolves.bind (Path.Evolves.element _) fun row => Path.Evolves.loopBelow fun joint =>
      Path.Evolves.tryCatch (handshake_retaining _) fun _ =>
        Path.Evolves.bind (Path.Evolves.element _) fun _ =>
          Path.Evolves.bind canInterface_retaining fun _ => Path.Evolves.pure _) fun _ => ?_
  refine Path.Evolves.bind clearInterfaces_retaining fun _ node => ?_
  rw [Path.update_bind]
  exact (releaseAll_retains node).always_after (clearTables_retains node) ⟨⟨rfl, rfl⟩, rfl⟩

/-- A cleanup that gets to its end leaves no tables. -/
theorem onCleanup_wipes {result : CallbackReturn}
    (run : onCleanup.run node = (.returned result, after)) : Wiped after := by
  simp only [onCleanup, Path.update_bind, Path.bind_run_returned] at run
  obtain ⟨_, _, _, _, _, _, _, _, _, _, _, _, _, cleared, _, _, unlocked, unlocking, _, released,
    releasing, ends⟩ := run
  have wiped : Wiped released := by
    have empty : Wiped (clearTables cleared) := ⟨⟨rfl, rfl⟩, rfl⟩
    exact (empty.retained (unlockJointStateMsg_retaining.of_run unlocking)).retained
      (unlockCommunication_retaining.of_run releasing)
  cases ends
  exact wiped

theorem onError_retaining (start : Lifecycle) :
    Retaining (onError start : NodePath K CallbackReturn) := by
  cases start with
  | unconfigured =>
      refine Path.Evolves.bind (Path.Evolves.update fun _ => .of_same id rfl) fun _ => ?_
      refine Path.Evolves.bind stopAllCommThreads_retaining fun _ => ?_
      refine Path.Evolves.bind (Path.Evolves.update fun _ => .of_same id rfl) fun _ => ?_
      exact Path.Evolves.bind (Path.Evolves.update fun _ =>
        ⟨.inl ⟨rfl, rfl⟩, .inr rfl, .inl ⟨rfl, rfl⟩, rfl, .inr nofun, .inl rfl, rfl⟩) fun _ =>
          Path.Evolves.pure _
  | inactive => exact Path.Evolves.pure _
  | active => exact Path.Evolves.pure _
  | finalized => exact Path.Evolves.pure _
  | inTransition => exact Path.Evolves.pure _

/-- An error that is handled leaves no tables. -/
theorem onError_wipes (run : (onError start).run node = (.returned .success, after)) :
    Wiped after := by
  cases start with
  | unconfigured =>
      simp only [onError, Path.update_bind, Path.bind_run_returned] at run
      obtain ⟨_, _, _, ends⟩ := run
      cases ends
      exact ⟨⟨rfl, rfl⟩, rfl⟩
  | inactive => cases run
  | active => cases run
  | finalized => cases run
  | inTransition => cases run

theorem settle_retains {result : CallbackReturn}
    (wiped : goal = .unconfigured → result = .success → Wiped node)
    (configured : start = .unconfigured → result ≠ .failure) :
    Retains node ((settle start goal result).run node).2 := by
  have settled (lifecycle : Lifecycle) (fate : lifecycle = .unconfigured → Wiped node) :
      Retains node { node with lifecycle } := by
    by_cases ended : lifecycle = .unconfigured
    · exact ⟨.inl (fate ended).1, .inr rfl, .inr rfl, rfl, .inl rfl, .inl (fate ended).2, rfl⟩
    · exact .of_same (fun same => absurd same ended) rfl
  cases result with
  | success => exact settled goal fun ended => wiped ended rfl
  | failure => exact settled start fun ended => absurd rfl (configured ended)
  | error =>
      have handling := onError_retaining start node
      rw [settle, Path.bind_run]
      cases run : (onError start).run node with
      | mk outcome errored =>
          rw [run] at handling
          cases outcome with
          | returned handled =>
              cases handled with
              | success =>
                  have wiped := onError_wipes run
                  have ended : Retains errored { errored with lifecycle := .unconfigured } :=
                    ⟨.inl wiped.1, .inr rfl, .inr rfl, rfl, .inl rfl, .inl wiped.2, rfl⟩
                  exact trans_of Retains handling ended
              | failure => exact trans_of Retains handling (setLifecycle_retaining (by decide) _)
              | error => exact trans_of Retains handling (setLifecycle_retaining (by decide) _)
          | thrown exception => exact handling
          | undefined => exact handling

/-- A transition that reaches the unconfigured state only with its tables wiped. -/
theorem transition_retaining {callback : NodePath K CallbackReturn} (retaining : Retaining callback)
    (wiped : ∀ node after, callback.run node = (.returned .success, after) →
      goal = .unconfigured → Wiped after)
    (configured : ∀ node after, callback.run node = (.returned .failure, after) →
      start ≠ .unconfigured) : Retaining (transition start goal callback) := by
  refine Path.Evolves.bind (Path.Evolves.read _) fun _ => Path.Evolves.when fun _ => ?_
  refine Path.Evolves.bind (setLifecycle_retaining (by decide)) fun _ node => ?_
  have called : Retaining (Path.tryCatch callback fun _ => pure .error) :=
    Path.Evolves.tryCatch retaining fun _ => Path.Evolves.pure _
  have before := called node
  rw [Path.bind_run]
  cases run : (Path.tryCatch callback fun _ => pure .error).run node with
  | mk outcome middle =>
      rw [run] at before
      cases outcome with
      | returned result =>
          refine trans_of Retains before (settle_retains (fun ended success => ?_)
            fun started failure => ?_)
          · subst success
            rcases Path.tryCatch_run_returned.mp run with returned | ⟨_, _, _, handled⟩
            · exact wiped _ _ returned ended
            · cases handled
          · subst failure
            rcases Path.tryCatch_run_returned.mp run with returned | ⟨_, _, _, handled⟩
            · exact configured _ _ returned started
            · cases handled
      | thrown exception => exact before
      | undefined => exact before

theorem cleanup_retaining : Retaining (cleanup : NodePath K Unit) :=
  transition_retaining onCleanup_retaining (fun _ _ run _ => onCleanup_wipes run) fun _ _ _ =>
    by decide

section Configurations

variable {fact : Node K → Prop} {assignment : Assignment K} {bus : Bus} {now : Int}

/-- A fact about the tables or the interfaces that configurations keep if their attempts do. -/
theorem configure_maintains [Scalar K]
    (retained : ∀ before after : Node K, Retains before after → fact before → fact after)
    (moves : ∀ (node : Node K) lifecycle, fact node → fact { node with lifecycle })
    (attempt : Path.Maintains fact (configureNode assignment bus now)) :
    Path.Maintains fact (configure assignment bus now) := by
  have callback : Path.Maintains fact (onConfigure assignment bus now) := by
    refine Path.Evolves.bind (checked_evolves _) fun _ => ?_
    refine Path.Evolves.tryCatch attempt fun exception => ?_
    cases exception with
    | parameterUninitialized name => exact Path.Evolves.pure _
    | canInterfaceError =>
        exact Path.Evolves.bind (clearInterfaces_retaining.weaken retained) fun _ =>
          Path.Evolves.pure _
    | _ => exact Path.Evolves.throw _
  have settles (lifecycle : Lifecycle) : Path.Maintains fact (setLifecycle lifecycle : NodePath K Unit) :=
    Path.Evolves.update fun node => moves node lifecycle
  refine Path.Evolves.bind (Path.Evolves.read _) fun _ => Path.Evolves.when fun _ => ?_
  refine Path.Evolves.bind (settles _) fun _ => ?_
  refine Path.Evolves.bind (Path.Evolves.tryCatch callback fun _ => Path.Evolves.pure _)
    fun result => ?_
  cases result with
  | success => exact settles _
  | failure => exact settles _
  | error =>
      refine Path.Evolves.bind ((onError_retaining _).weaken retained) fun handled => ?_
      cases handled <;> exact settles _

end Configurations

theorem setMotorOrigin_retaining : Retaining (setMotorOrigin index joint : NodePath K Unit) :=
  Path.Evolves.bind nameJoint_retaining fun _ => Path.Evolves.bind (handshake_retaining _) fun _ =>
    Path.Evolves.bind nameJoint_retaining fun _ => Path.Evolves.bind (handshake_retaining _)
      fun _ => nameJoint_retaining

theorem restartMotors_retaining {target : Nat} :
    Retaining (restartMotors index target : NodePath K Unit) := by
  refine Path.Evolves.bind (Path.Evolves.bind (Path.Evolves.element _) fun _ => Path.Evolves.pure _)
    fun _ => ?_
  refine Path.Evolves.bind (Path.Evolves.loopBelow fun _ => Path.Evolves.bind nameJoint_retaining
    fun _ => handshake_retaining _) fun _ => Path.Evolves.loopBelow fun _ => ?_
  exact Path.Evolves.bind (Path.Evolves.when fun _ => nameJoint_retaining) fun _ =>
    Path.Evolves.bind (handshake_retaining _) fun _ => nameJoint_retaining

theorem exitInterfaces_retaining (size : Node K → Nat) : Retaining (do
    Path.loopBelow size fun other => handshake other .exitAll
    clearInterfaces : NodePath K Unit) :=
  Path.Evolves.bind (Path.Evolves.loopBelow fun _ => handshake_retaining _) fun _ =>
    clearInterfaces_retaining

theorem handleOriginError_retaining : Retaining (handleOriginError index : NodePath K Unit) := by
  refine Path.Evolves.bind canInterface_retaining fun _ => ?_
  refine Path.Evolves.bind (Path.Evolves.tryCatch (exitInterfaces_retaining _) fun _ =>
    Path.Evolves.bind canInterface_retaining fun _ => Path.Evolves.pure _) fun _ => ?_
  refine Path.Evolves.bind unlockCommunication_retaining fun _ => ?_
  exact Path.Evolves.bind (respond_retaining _ _) fun _ => cleanup_retaining

theorem setAllMotorsOriginHereCallback_retaining :
    Retaining (setAllMotorsOriginHereCallback : NodePath K Unit) := by
  refine Path.Evolves.bind (Path.Evolves.read _) fun _ => Path.Evolves.ite
    (fun _ => respond_retaining _ _) fun _ => ?_
  refine Path.Evolves.bind stopAllCommThreads_retaining fun _ => ?_
  refine Path.Evolves.bind lockCommunication_retaining fun _ => ?_
  refine Path.Evolves.bind (Path.Evolves.loopBelow fun index => Path.Evolves.tryCatch
    (Path.Evolves.bind (Path.Evolves.bind (Path.Evolves.element _) fun _ => Path.Evolves.pure _)
      fun _ => Path.Evolves.loopBelow fun _ => setMotorOrigin_retaining)
    fun _ => handleOriginError_retaining) fun _ => ?_
  refine Path.Evolves.bind (Path.Evolves.loopBelow fun _ => startCommThread_retaining) fun _ => ?_
  exact Path.Evolves.bind (respond_retaining _ _) fun _ =>
    unlockCommunication_retaining

theorem setMotorOriginHereCallback_retaining (motorId : Int) :
    Retaining (setMotorOriginHereCallback motorId : NodePath K Unit) := by
  refine Path.Evolves.bind (Path.Evolves.read _) fun _ => Path.Evolves.ite
    (fun _ => respond_retaining _ _) fun _ => ?_
  refine Path.Evolves.bind (Path.Evolves.read _) fun found => ?_
  rcases found with _ | ⟨index, target⟩
  · exact respond_retaining _ _
  refine Path.Evolves.bind stopCommThread_retaining fun _ => ?_
  refine Path.Evolves.bind lockCommunication_retaining fun _ => ?_
  refine Path.Evolves.bind (Path.Evolves.attempt restartMotors_retaining) fun restarted => ?_
  cases restarted with
  | error exception =>
      refine Path.Evolves.bind canInterface_retaining fun _ => ?_
      refine Path.Evolves.bind (Path.Evolves.tryCatch (exitInterfaces_retaining _) fun _ =>
        Path.Evolves.pure _) fun _ => ?_
      refine Path.Evolves.bind unlockCommunication_retaining fun _ => ?_
      exact Path.Evolves.bind (respond_retaining _ _) fun _ => cleanup_retaining
  | ok value =>
      refine Path.Evolves.bind startCommThread_retaining fun _ => ?_
      refine Path.Evolves.bind (Path.Evolves.element _) fun _ => ?_
      exact Path.Evolves.bind (respond_retaining _ _) fun _ =>
        unlockCommunication_retaining

section Operations

variable [Scalar K]

theorem dampingCommand_sized (node : Node K) : node.dampingCommand.Sized node.jointMsgLength := by
  simp [dampingCommand, JointCommand.Sized]

theorem storeDamping_retains (node : Node K) : Retains node node.storeDamping := by
  refine ⟨.inr ⟨rfl, id⟩, .inr rfl, .inr rfl, rfl, .inr fun command stored => ?_, .inr ⟨rfl, id⟩, rfl⟩
  cases stored
  exact dampingCommand_sized node

theorem onDeactivate_retaining : Retaining (onDeactivate : NodePath K CallbackReturn) :=
  Path.Evolves.bind (Path.Evolves.update storeDamping_retains) fun _ =>
    Path.Evolves.bind (Path.Evolves.update fun _ => .of_same id rfl) fun _ => Path.Evolves.pure _

theorem deactivate_retaining : Retaining (deactivate : NodePath K Unit) := by
  intro node
  rw [deactivate_run]
  split
  · have ended : Retains node.storeDamping node.deactivated := .of_same nofun rfl
    exact trans_of Retains (storeDamping_retains node) ended
  · exact refl_of Retains node

theorem onShutdown_retaining (previousState : Lifecycle) :
    Retaining (onShutdown previousState : NodePath K CallbackReturn) := by
  refine Path.Evolves.bind (Path.Evolves.when fun _ => Path.Evolves.tryCatch
    (Path.Evolves.bind onDeactivate_retaining fun _ => Path.Evolves.pure _) fun _ =>
      Path.Evolves.pure _) fun _ => ?_
  exact Path.Evolves.bind (Path.Evolves.when fun _ => Path.Evolves.tryCatch
    (Path.Evolves.bind onCleanup_retaining fun _ => Path.Evolves.pure _) fun _ =>
      Path.Evolves.pure _) fun _ => Path.Evolves.pure _

theorem shutdown_retaining : Retaining (shutdown : NodePath K Unit) := by
  refine Path.Evolves.bind (Path.Evolves.read _) fun lifecycle => Path.Evolves.when fun _ => ?_
  refine transition_retaining (onShutdown_retaining lifecycle) (fun _ _ _ ended => by cases ended)
    fun node after failed => ?_
  -- the callback always reports a success
  simp only [onShutdown, Path.bind_run_returned] at failed
  obtain ⟨_, _, _, _, _, _, impossible⟩ := failed
  cases impossible

theorem jointCmdMsgCallback_retaining (command : JointCommand K) (cmdRxNs now : Int) :
    Retaining (jointCmdMsgCallback command cmdRxNs now) := by
  intro node
  rw [jointCmdMsgCallback, Path.read_bind]
  split
  · rename_i sized
    rw [Path.update_bind, Path.read_bind, Path.when]
    split
    · refine ⟨.inr ⟨rfl, id⟩, .inr rfl, .inr rfl, rfl, .inr fun stored same => ?_, .inr ⟨rfl, id⟩, rfl⟩
      cases same
      exact sized
    · exact .of_same id rfl
  · exact refl_of Retains node

/-- What a cycle does not do: it adds no joints, rows or entries, and it loads no command
of another length. -/
structure Reworks (before after : Node K) : Prop where
  lists : after.jointLists = before.jointLists
  tables : Reworked before.tables after.tables
  messages : after.messages.lengths = before.messages.lengths
  jointMsgLength : after.jointMsgLength = before.jointMsgLength
  command : after.jointCmdPtr = before.jointCmdPtr ∨
    ∀ command, after.jointCmdPtr = some command → command.Sized after.jointMsgLength
  declaredMsgIdxs : after.declaredMsgIdxs = before.declaredMsgIdxs

instance instIsPreorderReworks : IsPreorder (Node K) Reworks where
  refl _ := ⟨rfl, ⟨rfl, rfl, rfl⟩, rfl, rfl, .inl rfl, rfl⟩
  trans before middle after first second := by
    constructor
    case lists => exact second.lists.trans first.lists
    case tables =>
      exact ⟨second.tables.1.trans first.tables.1, second.tables.2.1.trans first.tables.2.1,
        second.tables.2.2.trans first.tables.2.2⟩
    case messages => exact second.messages.trans first.messages
    case jointMsgLength => exact second.jointMsgLength.trans first.jointMsgLength
    case command =>
      rcases second.command with same | sized
      · rw [same, second.jointMsgLength]
        exact first.command
      · exact .inr sized
    case declaredMsgIdxs => exact second.declaredMsgIdxs.trans first.declaredMsgIdxs

omit [Scalar K] in
theorem Reworks.of_same (same : (after.tables, after.jointLists, after.messages, after.jointMsgLength,
      after.jointCmdPtr, after.declaredMsgIdxs) =
      (node.tables, node.jointLists, node.messages, node.jointMsgLength, node.jointCmdPtr,
        node.declaredMsgIdxs)) : Reworks node after := by
  simp only [Prod.mk.injEq] at same
  obtain ⟨tables, lists, messages, length, command, declared⟩ := same
  exact ⟨lists, by rw [tables]; exact ⟨rfl, rfl, rfl⟩, by rw [messages], length, .inl command, declared⟩

omit [Scalar K] in
theorem Reworks.of_still (same : after.still = node.still) : Reworks node after where
  lists := congrArg Still.jointLists same
  tables := ⟨congrArg Still.commandCounts same, congrArg Still.jointParameters same,
    congrArg Still.jointNames same⟩
  messages := congrArg Still.messageLengths same
  jointMsgLength := congrArg Still.jointMsgLength same
  command := .inl (congrArg Still.jointCmdPtr same)
  declaredMsgIdxs := congrArg Still.declaredMsgIdxs same

theorem deactivate_reworks : Path.Evolves Reworks (deactivate : NodePath K Unit) := by
  intro node
  rw [deactivate_run]
  split
  · refine ⟨rfl, ⟨rfl, rfl, rfl⟩, rfl, rfl, .inr fun command stored => ?_, rfl⟩
    cases stored
    exact dampingCommand_sized node
  · exact refl_of Reworks node

/-- The rules for a fact that a cycle keeps unless it does one of these. -/
theorem reworkRules {fact : Node K → Prop} (index : Nat) (env : CycleEnv)
    (same : ∀ before after : Node K, Reworks before after → fact before → fact after) :
    CycleRules fact (fun _ _ _ => True) index env := by
  have keeps {α : Type} {path : NodePath K α} (evolves : Path.Evolves Reworks path) :
      Path.Confines fact (fun _ => True) path (fun _ _ => True) fun _ => True :=
    .of_related evolves same fun _ _ _ => id
  have leaf {α : Type} {path : NodePath K α} (outlined : Path.Preserves outline path) :
      Path.Evolves Reworks path := outlined.weaken fun _ _ outlineSame =>
    .of_same (congrArg (fun outline => (outline.tables, outline.jointLists, outline.messages,
      outline.jointMsgLength, outline.jointCmdPtr, outline.declaredMsgIdxs)) outlineSame)
  constructor
  case work => exact fun before after still => ⟨same before after (.of_still still), fun _ _ => id⟩
  case lockCommunication => exact fun _ => keeps (leaf lockCommunication_outline)
  case unlockCommunication => exact fun _ => keeps (leaf unlockCommunication_outline)
  case lockJointStateMsg => exact fun _ => keeps (leaf lockJointStateMsg_outline)
  case unlockJointStateMsg => exact fun _ => keeps (leaf unlockJointStateMsg_outline)
  case observeLifecycle =>
    exact fun _ _ => keeps (Path.Evolves.bind (Path.Evolves.update fun _ => .of_same rfl) fun _ =>
      Path.Evolves.read _)
  case observeRunning =>
    exact fun _ _ => keeps (Path.Evolves.bind (Path.Evolves.update fun _ => .of_same rfl) fun _ =>
      Path.Evolves.bind (Path.Evolves.element _) fun _ => Path.Evolves.pure _)
  case deactivate => exact keeps deactivate_reworks
  case request => exact fun node _ kept _ => ⟨same node _ (.of_same rfl) kept, trivial⟩

variable [StdToString K] [Libm K]

/-- A fact that operations keep, if cycles and changes of parameters keep it and it does
not need tables or interfaces. -/
theorem Operation.keeps {fact : Node K → Prop} {operation : Operation K}
    (retained : ∀ before after : Node K, Retains before after → fact before → fact after)
    (cycles : ∀ index times, operation = .canCycle index times →
      Path.Maintains fact (canCycleCallback index (CycleTimes.env times)))
    (parameters : ∀ order batch, operation = .setParameters order batch →
      Path.Maintains fact (onSetParametersCallback order batch))
    (other : ∀ assignment bus now, operation ≠ .configure assignment bus now) :
    Path.Maintains fact operation.path := by
  have keeps {path : NodePath K Unit} (retaining : Retaining path) : Path.Maintains fact path :=
    retaining.weaken retained
  cases operation with
  | configure assignment bus now => exact absurd rfl (other assignment bus now)
  | cleanup => exact keeps cleanup_retaining
  | activate =>
      exact keeps (transition_retaining (onActivate_evolves fun _ => .of_same id rfl)
        (fun _ _ _ ended => by cases ended) fun _ _ _ => by decide)
  | deactivate => exact keeps deactivate_retaining
  | shutdown => exact keeps shutdown_retaining
  | jointCmd command cmdRxNs now =>
      exact keeps (Path.Evolves.bind (jointCmdMsgCallback_retaining command cmdRxNs now) fun _ =>
        Path.Evolves.pure _)
  | watchdogTimer =>
      refine keeps (Path.Evolves.bind (Path.Evolves.read _) fun _ => ?_)
      exact Path.Evolves.bind (Path.Evolves.when fun _ => deactivate_retaining) fun _ =>
        Path.Evolves.update fun _ => .of_same id rfl
  | supervisorTimer =>
      refine keeps (Path.Evolves.bind (Path.Evolves.read _) fun _ => ?_)
      refine Path.Evolves.bind (Path.Evolves.update fun _ => .of_same id rfl) fun _ => ?_
      exact Path.Evolves.when fun _ => cleanup_retaining
  | canCycle canInterface times =>
      exact Path.Evolves.bind (cycles canInterface times rfl) fun _ => Path.Evolves.pure _
  | setAllMotorsOriginHere => exact keeps setAllMotorsOriginHereCallback_retaining
  | setMotorOriginHere motorId => exact keeps (setMotorOriginHereCallback_retaining motorId)
  | setParameters order batch =>
      exact Path.Evolves.bind (parameters order batch rfl) fun _ => Path.Evolves.pure _

end Operations

end CubemarsDriver.Node
