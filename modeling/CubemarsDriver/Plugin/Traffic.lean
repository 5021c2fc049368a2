import CubemarsDriver.Foundation.Interleaving
import CubemarsDriver.Plugin.Component

namespace CubemarsDriver.Plugin

open Can Foundation

/-! # What the plugin does on the bus

Each callback has its own events, which the results of the system calls and the state before it
determine.  The loops that talk to the motors change nothing but what has been measured. -/

variable {K : Type} {count : Nat}

/-- Every handshake is tried, whatever became of the ones before it. -/
def exitEvents : List ControlHandshake → List Bool → List ReadResult → List SocketEvent
  | [], _, _ => []
  | handshake :: rest, writes, reads =>
      if writes.head?.getD false then
        .wrote handshake.frame true :: .read (reads.head?.getD .failed) ::
          exitEvents rest writes.tail reads.tail
      else .wrote handshake.frame false :: exitEvents rest writes.tail reads

def exitHandshakes (joints : List (JointConfig K)) : List ControlHandshake :=
  joints.map fun joint => exitHandshake joint.canId

/-- The first frame that is refused is the last. -/
def sentEvents : List CanFrame → List Bool → List SocketEvent
  | [], _ => []
  | frame :: rest, writes =>
      if writes.head?.getD false then .wrote frame true :: sentEvents rest writes.tail
      else [.wrote frame false]

/-- The first read that gives no harmless frame is the last. -/
def readEvents (configs : Vector (JointConfig K) count) : Nat → List ReadResult → List SocketEvent
  | 0, _ => []
  | remaining + 1, reads =>
      match reads.head?.getD .failed with
      | .frame frame => .read (.frame frame) ::
          if Harmless configs frame then readEvents configs remaining reads.tail else []
      | result => [.read result]

/-- All of the writes are accepted. -/
def Accepts (frames : Nat) (writes : List Bool) : Prop := List.replicate frames true <+: writes

instance instDecidableAccepts (frames : Nat) (writes : List Bool) : Decidable (Accepts frames writes) :=
  inferInstanceAs (Decidable (_ <+: _))

section Events

variable [Scalar K]

def commandFrame (plugin : ConnectedInterface K count) (joint : Fin count) : CanFrame :=
  packCmd (plugin.cmd joint) (plugin.hwJointConfigs.get joint) (plugin.hwControlLevel.get joint)

def commandFrames (plugin : ConnectedInterface K count) : List CanFrame :=
  (sortedIdx plugin.hwJointConfigs).map (commandFrame plugin)

def cycleEvents (plugin : ConnectedInterface K count) (writes : List Bool) (reads : List ReadResult) :
    List SocketEvent :=
  sentEvents (commandFrames plugin) writes ++
    if Accepts count writes then readEvents plugin.hwJointConfigs count reads else []

def callbackEvents (plugin : ConnectedInterface K count) : Callback K count → List SocketEvent
  | .onActivate writes reads =>
      handshakeEvents (activationHandshakes plugin.setZeroPosOnStartup plugin.hwJointConfigs.toList)
        writes reads
  | .onDeactivate writes reads | .destroy writes reads =>
      exitEvents (exitHandshakes plugin.hwJointConfigs.toList) writes reads
  | .write writes reads => cycleEvents plugin writes reads
  | _ => []

end Events

/-- Only what has been measured, and the socket, may have changed. -/
structure OnlyHeard (before after : ConnectedInterface K count) : Prop where
  jointNames : after.jointNames = before.jointNames
  hwJointConfigs : after.hwJointConfigs = before.hwJointConfigs
  setZeroPosOnStartup : after.setZeroPosOnStartup = before.setZeroPosOnStartup
  hwControlLevel : after.hwControlLevel = before.hwControlLevel
  cmd : after.cmd = before.cmd

variable {plugin between after : ConnectedInterface K count}

theorem OnlyHeard.refl (plugin : ConnectedInterface K count) : OnlyHeard plugin plugin :=
  ⟨rfl, rfl, rfl, rfl, rfl⟩

theorem OnlyHeard.trans (first : OnlyHeard plugin between) (second : OnlyHeard between after) :
    OnlyHeard plugin after where
  jointNames := second.jointNames.trans first.jointNames
  hwJointConfigs := second.hwJointConfigs.trans first.hwJointConfigs
  setZeroPosOnStartup := second.setZeroPosOnStartup.trans first.setZeroPosOnStartup
  hwControlLevel := second.hwControlLevel.trans first.hwControlLevel
  cmd := second.cmd.trans first.cmd

theorem writeToCan_onlyHeard (frame : CanFrame) : OnlyHeard plugin (writeToCan frame plugin).2 :=
  ⟨rfl, rfl, rfl, rfl, rfl⟩

theorem readFromCan_onlyHeard : OnlyHeard plugin (readFromCan plugin).2 := ⟨rfl, rfl, rfl, rfl, rfl⟩

section Model

variable [Scalar K]

theorem unpackReply_onlyHeard (frame : CanFrame) : OnlyHeard plugin (unpackReply frame plugin).2 := by
  unfold unpackReply
  cases findCanId plugin.hwJointConfigs frame.canId with
  | none => exact OnlyHeard.refl plugin
  | some joint => exact ⟨rfl, rfl, rfl, rfl, rfl⟩

def CanSocket.afterHandshake (frame : CanFrame) (socket : CanSocket) : CanSocket :=
  if socket.writes.head?.getD false then
    { writes := socket.writes.tail
      reads := socket.reads.tail
      log := socket.log ++ [.wrote frame true, .read (socket.reads.head?.getD .failed)] }
  else { socket with
    writes := socket.writes.tail
    log := socket.log ++ [.wrote frame false] }

/-- Whatever comes of it, a handshake whose frame is accepted reads once. -/
theorem sendControlFrame_socket (handshake : ControlHandshake) (plugin : ConnectedInterface K count) :
    OnlyHeard plugin (sendControlFrame handshake.canId handshake.controlSequence plugin).2 ∧
      (sendControlFrame handshake.canId handshake.controlSequence plugin).2.canSocket =
        plugin.canSocket.afterHandshake handshake.frame := by
  have heard (frame : CanFrame) : OnlyHeard plugin
      (unpackReply frame (readFromCan (writeToCan handshake.frame plugin).2).2).2 :=
    ((writeToCan_onlyHeard _).trans readFromCan_onlyHeard).trans (unpackReply_onlyHeard frame)
  cases accepted : plugin.canSocket.writes.head?.getD false with
  | false =>
      simp only [sendControlFrame, writeToCan, accepted, CanSocket.afterHandshake,
        ControlHandshake.frame, Bool.false_eq_true, if_false, and_true]
      exact ⟨rfl, rfl, rfl, rfl, rfl⟩
  | true =>
      cases result : plugin.canSocket.reads.head?.getD .failed with
      | frame frame =>
          simp only [sendControlFrame, writeToCan, accepted, readFromCan, result, if_true,
            CanSocket.afterHandshake, ControlHandshake.frame, List.append_assoc,
            List.cons_append, List.nil_append]
          split
          · exact ⟨⟨rfl, rfl, rfl, rfl, rfl⟩, rfl⟩
          · rw [unpackReply_canSocket]
            simpa [writeToCan, readFromCan, accepted, result, ControlHandshake.frame] using heard frame
      | _ =>
          simp only [sendControlFrame, writeToCan, accepted, readFromCan, result, if_true,
            CanSocket.afterHandshake, ControlHandshake.frame, List.append_assoc,
            List.cons_append, List.nil_append, and_true]
          exact ⟨rfl, rfl, rfl, rfl, rfl⟩

theorem sendControlFrame_ok_iff {handshake : ControlHandshake} (known : handshake.canId ∈ canIds plugin.hwJointConfigs) :
    (sendControlFrame handshake.canId handshake.controlSequence plugin).1 = .ok ↔
      plugin.canSocket.writes.head?.getD false = true ∧
        Answers handshake.canId (plugin.canSocket.reads.head?.getD .failed) := by
  by_cases answered : plugin.canSocket.writes.head?.getD false = true ∧
      Answers handshake.canId (plugin.canSocket.reads.head?.getD .failed)
  · obtain ⟨after, run, _⟩ := sendControlFrame_answered known answered.1 answered.2
    simp only [run, answered, and_self]
  · obtain ⟨after, run, _⟩ := sendControlFrame_unanswered known answered
    simp only [run, answered, reduceCtorEq]

theorem activateJoints_onlyHeard (joints : List (JointConfig K)) :
    OnlyHeard plugin (activateJoints joints plugin).2 := by
  rw [activateJoints_eq]
  have performed (handshakes : List ControlHandshake) (plugin : ConnectedInterface K count) :
      OnlyHeard plugin (performHandshakes handshakes plugin).2 := by
    induction handshakes generalizing plugin with
    | nil => exact OnlyHeard.refl plugin
    | cons handshake rest ih =>
        have first := (sendControlFrame_socket handshake plugin).1
        rw [performHandshakes]
        split
        next after failed => rwa [failed] at first
        next after ok =>
          rw [ok] at first
          exact first.trans (ih after)
  have heard := performed (activationHandshakes plugin.setZeroPosOnStartup joints) plugin
  split
  next after ended => rwa [ended] at heard
  next after ended => rwa [ended] at heard

/-- A joint that fails does not end the loop, and the call succeeds if none does. -/
theorem deactivateJoints_run {joints : List (JointConfig K)} {retVal : CallbackReturn}
    (known : ∀ joint ∈ joints, joint.canId ∈ canIds plugin.hwJointConfigs) :
    ((deactivateJoints joints retVal plugin).1 = .success ↔ retVal = .success ∧
      Answered (exitHandshakes joints) plugin.canSocket.writes plugin.canSocket.reads) ∧
    (deactivateJoints joints retVal plugin).2.canSocket.log = plugin.canSocket.log ++
      exitEvents (exitHandshakes joints) plugin.canSocket.writes plugin.canSocket.reads ∧
    OnlyHeard plugin (deactivateJoints joints retVal plugin).2 := by
  induction joints generalizing plugin retVal with
  | nil => simp [deactivateJoints, exitHandshakes, Answered, exitEvents, OnlyHeard.refl]
  | cons joint rest ih =>
      let handshake := exitHandshake joint.canId
      have own : handshake.canId ∈ canIds plugin.hwJointConfigs := known joint List.mem_cons_self
      have ok := sendControlFrame_ok_iff own
      obtain ⟨heard, socket⟩ := sendControlFrame_socket handshake plugin
      obtain ⟨sentResult, sent⟩ : ∃ result : ReturnType × ConnectedInterface K count,
          sendControlFrame handshake.canId handshake.controlSequence plugin = result := ⟨_, rfl⟩
      have exit : exitMotorControlMode joint.canId plugin = sentResult := sent
      rw [sent] at ok heard socket
      have knownRest : ∀ other ∈ rest, other.canId ∈ canIds sentResult.2.hwJointConfigs := by
        intro other member
        rw [heard.hwJointConfigs]
        exact known other (List.mem_cons_of_mem joint member)
      have unfolded : deactivateJoints (joint :: rest) retVal plugin =
          deactivateJoints rest (if sentResult.1 = .ok then retVal else .error) sentResult.2 := by
        rw [deactivateJoints, exit]
        obtain ⟨result, after⟩ := sentResult
        cases result <;> rfl
      obtain ⟨result, log, heardLater⟩ :=
        @ih sentResult.2 (if sentResult.1 = .ok then retVal else .error) knownRest
      rw [unfolded]
      refine ⟨?_, ?_, heard.trans heardLater⟩
      · rw [result]
        by_cases answered : sentResult.1 = .ok
        · have accepted := (ok.mp answered).1
          rw [if_pos answered, socket, CanSocket.afterHandshake, if_pos accepted]
          exact and_congr_right fun _ => ⟨fun others => ⟨ok.mp answered, others⟩, And.right⟩
        · rw [if_neg answered]
          constructor
          · intro failed
            cases failed.1
          · intro all
            exact absurd (ok.mpr all.2.1) answered
      · rw [log, socket, CanSocket.afterHandshake]
        cases accepted : plugin.canSocket.writes.head?.getD false <;>
          simp [exitHandshakes, exitEvents, accepted, handshake]

theorem onDeactivate_run (plugin : ConnectedInterface K count) :
    ((onDeactivate plugin).1 = .success ↔ Answered (exitHandshakes plugin.hwJointConfigs.toList)
      plugin.canSocket.writes plugin.canSocket.reads) ∧
    (onDeactivate plugin).2.canSocket.log = plugin.canSocket.log ++ exitEvents
      (exitHandshakes plugin.hwJointConfigs.toList) plugin.canSocket.writes plugin.canSocket.reads ∧
    OnlyHeard plugin (onDeactivate plugin).2 := by
  have known : ∀ joint ∈ plugin.hwJointConfigs.toList, joint.canId ∈ canIds plugin.hwJointConfigs :=
    fun joint member => List.mem_map_of_mem member
  have run : ((deactivateJoints plugin.hwJointConfigs.toList .success plugin).1 = .success ↔ _) ∧ _ :=
    deactivateJoints_run known
  simp only [true_and] at run
  exact run

omit [Scalar K] in
theorem OnlyWrote.onlyHeard (wrote : OnlyWrote plugin after) : OnlyHeard plugin after := by
  obtain ⟨writes, events, _, rfl⟩ := wrote
  exact ⟨rfl, rfl, rfl, rfl, rfl⟩

theorem writeCommands_log (joints : List (Fin count)) (plugin : ConnectedInterface K count) :
    (writeCommands joints plugin).2.canSocket.log = plugin.canSocket.log ++
      sentEvents (joints.map (commandFrame plugin)) plugin.canSocket.writes := by
  induction joints generalizing plugin with
  | nil => simp [writeCommands, sentEvents]
  | cons joint rest ih =>
      cases accepted : plugin.canSocket.writes.head?.getD false with
      | false =>
          simp only [writeCommands, writeToCan, accepted, List.map_cons, sentEvents,
            Bool.false_eq_true, if_false]
          rfl
      | true =>
          simp only [writeCommands, writeToCan, accepted, List.map_cons, sentEvents, if_true]
          rw [ih]
          simp only [List.append_assoc, List.cons_append, List.nil_append]
          rfl

theorem readReplies_run (joints : List (Fin count)) (plugin : ConnectedInterface K count) :
    (readReplies joints plugin).2.canSocket.log = plugin.canSocket.log ++
        readEvents plugin.hwJointConfigs joints.length plugin.canSocket.reads ∧
      OnlyHeard plugin (readReplies joints plugin).2 := by
  induction joints generalizing plugin with
  | nil => simp [readReplies, readEvents, OnlyHeard.refl]
  | cons joint rest ih =>
      cases result : plugin.canSocket.reads.head?.getD .failed with
      | failed =>
          simp only [readReplies, readFromCan, result, List.length_cons, readEvents, true_and]
          exact ⟨rfl, rfl, rfl, rfl, rfl⟩
      | nothing =>
          simp only [readReplies, readFromCan, result, List.length_cons, readEvents, true_and]
          exact ⟨rfl, rfl, rfl, rfl, rfl⟩
      | frame frame =>
          have readResult : readFromCan plugin = (.frame frame, (readFromCan plugin).2) := by
            simp [readFromCan, result]
          have readLog : (readFromCan plugin).2.canSocket.log =
              plugin.canSocket.log ++ [.read (.frame frame)] := by
            simp [readFromCan, result]
          have heard : OnlyHeard plugin (readFromCan plugin).2 := readFromCan_onlyHeard
          rw [readReplies, readResult]
          simp only [List.length_cons, readEvents, result]
          split
          next zero =>
            have harmful : ¬Harmless plugin.hwJointConfigs frame := fun harmless => harmless.1 zero
            rw [if_neg harmful]
            exact ⟨readLog, heard⟩
          next nonzero =>
            have fine_iff : (unpackReply frame (readFromCan plugin).2).1 = .noFault ↔
                Harmless plugin.hwJointConfigs frame := by
              rw [unpackReply_noFault_iff, Harmless, and_iff_right nonzero]
              rfl
            have unpacked : OnlyHeard plugin (unpackReply frame (readFromCan plugin).2).2 :=
              heard.trans (unpackReply_onlyHeard frame)
            have unpackedLog : (unpackReply frame (readFromCan plugin).2).2.canSocket.log =
                plugin.canSocket.log ++ [.read (.frame frame)] := by
              rw [unpackReply_canSocket, readLog]
            have unpackedReads : (unpackReply frame (readFromCan plugin).2).2.canSocket.reads =
                plugin.canSocket.reads.tail := by
              rw [unpackReply_canSocket]
              rfl
            split
            next after fine =>
              rw [fine] at fine_iff unpacked unpackedLog unpackedReads
              obtain ⟨log, later⟩ := ih after
              rw [if_pos (fine_iff.mp rfl), log, unpackedLog, unpackedReads, unpacked.hwJointConfigs,
                List.append_assoc]
              exact ⟨rfl, unpacked.trans later⟩
            next code after fault ended =>
              rw [ended] at fine_iff unpacked unpackedLog
              rw [if_neg fun harmless => fault (fine_iff.mpr harmless)]
              exact ⟨unpackedLog, unpacked⟩

theorem write_run (plugin : ConnectedInterface K count) :
    (write plugin).2.canSocket.log = plugin.canSocket.log ++
        cycleEvents plugin plugin.canSocket.writes plugin.canSocket.reads ∧
      OnlyHeard plugin (write plugin).2 := by
  have log := writeCommands_log (sortedIdx plugin.hwJointConfigs) plugin
  have wrote := writeCommands_onlyWrote (sortedIdx plugin.hwJointConfigs) plugin
  have accepts : (writeCommands (sortedIdx plugin.hwJointConfigs) plugin).1 = .ok ↔
      Accepts count plugin.canSocket.writes := by
    rw [writeCommands_ok_iff, sortedIdx_length]
    exact ⟨fun ⟨later, split⟩ => ⟨later, split.symm⟩, fun ⟨later, split⟩ => ⟨later, split.symm⟩⟩
  rw [write, cycleEvents]
  split
  next written refused =>
    rw [refused] at log wrote accepts
    have refusing : ¬Accepts count plugin.canSocket.writes := fun accepted => by
      cases accepts.mpr accepted
    rw [if_neg refusing, List.append_nil]
    exact ⟨log, wrote.onlyHeard⟩
  next written accepted =>
    rw [accepted] at log wrote accepts
    have heard := wrote.onlyHeard
    obtain ⟨readLog, read⟩ := readReplies_run (sortedIdx written.hwJointConfigs) written
    have reads : written.canSocket.reads = plugin.canSocket.reads := by
      obtain ⟨_, _, _, same⟩ := wrote
      exact congrArg (fun plugin => plugin.canSocket.reads) same
    refine ⟨?_, heard.trans read⟩
    rw [if_pos (accepts.mp rfl), readLog, log, sortedIdx_length, heard.hwJointConfigs, reads,
      List.append_assoc]
    rfl

variable [StdNumbers K] {names : InterfaceNames} {component next : ManagedInterface K count}
variable {callback : Callback K count}

/-- What was done on the descriptor of the time. -/
def ManagedInterface.transfers (component : ManagedInterface K count) (events : List SocketEvent) :
    List Transfer :=
  events.map fun event => { descriptor := component.canSocketFd, event }

theorem configureJoints_setup (names : InterfaceNames) (infoJoints : Vector ComponentInfo count)
    (joints : List (Fin count)) (plugin : ConnectedInterface K count) :
    SameSetup plugin (configureJoints names infoJoints joints plugin).2 ∧
      (configureJoints names infoJoints joints plugin).2.hwControlLevel = plugin.hwControlLevel ∧
      (configureJoints names infoJoints joints plugin).2.jointNames = plugin.jointNames := by
  induction joints generalizing plugin with
  | nil => exact ⟨⟨rfl, rfl⟩, rfl, rfl⟩
  | cons joint rest ih =>
      rw [configureJoints]
      split
      · exact ⟨⟨rfl, rfl⟩, rfl, rfl⟩
      next cmd _ =>
        exact ih ((plugin.setCmd joint cmd).setStates joint zeroStates)

omit [StdNumbers K] in
theorem switch_jointNames {startInterfaces stopInterfaces : List String}
    {plugin : CubemarsHardwareInterface K count} :
    (prepareCommandModeSwitch names startInterfaces stopInterfaces plugin).2.jointNames =
      plugin.jointNames := by
  have stopped (keys : List String) (plugin : CubemarsHardwareInterface K count) :
      (keys.foldl stopInterface plugin).jointNames = plugin.jointNames := by
    induction keys generalizing plugin with
    | nil => rfl
    | cons key rest ih => rw [List.foldl_cons, ih, stopInterface_jointNames]
  unfold prepareCommandModeSwitch
  split
  · rfl
  · exact stopped stopInterfaces plugin

omit [Scalar K] [StdNumbers K] in
theorem setupSocket_plugin (calls : SocketCalls) (component : ManagedInterface K count) :
    (setupSocket calls component).2.toConnectedInterface = component.toConnectedInterface ∧
      (setupSocket calls component).2.infoJoints = component.infoJoints ∧
      (setupSocket calls component).2.traffic = component.traffic := by
  unfold setupSocket
  cases calls.socket <;> exact ⟨rfl, rfl, rfl⟩

/-- No callback but `prepare_command_mode_switch` changes the modes, and none what the plugin was
initialised with. -/
structure KeepsSetup (callback : Callback K count) (before after : ConnectedInterface K count) :
    Prop where
  jointNames : after.jointNames = before.jointNames
  hwJointConfigs : after.hwJointConfigs = before.hwJointConfigs
  setZeroPosOnStartup : after.setZeroPosOnStartup = before.setZeroPosOnStartup
  hwControlLevel : (∀ start stop, callback ≠ .prepareCommandModeSwitch start stop) →
    after.hwControlLevel = before.hwControlLevel

omit [Scalar K] [StdNumbers K] in
theorem OnlyHeard.keepsSetup {before : ConnectedInterface K count} (heard : OnlyHeard before after) :
    KeepsSetup callback before after :=
  ⟨heard.jointNames, heard.hwJointConfigs, heard.setZeroPosOnStartup, fun _ => heard.hwControlLevel⟩

omit [Scalar K] [StdNumbers K] in
theorem onBus_run {α : Type}
    {loop : ConnectedInterface K count → α × ConnectedInterface K count}
    {writes : List Bool} {reads : List ReadResult} {events : List SocketEvent}
    (run : (loop { component.toConnectedInterface with canSocket := { writes, reads } }).2.canSocket.log =
        [] ++ events ∧
      OnlyHeard { component.toConnectedInterface with canSocket := { writes, reads } }
        (loop { component.toConnectedInterface with canSocket := { writes, reads } }).2) :
    (onBus loop writes reads component).2.traffic = component.traffic ++ component.transfers events ∧
      OnlyHeard component.toConnectedInterface
        (onBus loop writes reads component).2.toConnectedInterface := by
  obtain ⟨log, heard⟩ := run
  constructor
  · simp only [onBus, log, List.nil_append]
    rfl
  · exact ⟨heard.jointNames, heard.hwJointConfigs, heard.setZeroPosOnStartup, heard.hwControlLevel,
      heard.cmd⟩

omit [StdNumbers K] in
theorem onActivate_bus (writes : List Bool) (reads : List ReadResult)
    (component : ManagedInterface K count) :
    (onBus onActivate writes reads component).2.traffic = component.traffic ++
        component.transfers (callbackEvents component.toConnectedInterface (.onActivate writes reads)) ∧
      OnlyHeard component.toConnectedInterface
        (onBus onActivate writes reads component).2.toConnectedInterface := by
  apply onBus_run
  refine ⟨?_, activateJoints_onlyHeard _⟩
  obtain ⟨_, events⟩ := onActivate_run { component.toConnectedInterface with
    canSocket := { writes, reads } }
  exact events

omit [StdNumbers K] in
theorem onDeactivate_bus (writes : List Bool) (reads : List ReadResult)
    (component : ManagedInterface K count) :
    (onBus onDeactivate writes reads component).2.traffic = component.traffic ++
        component.transfers (callbackEvents component.toConnectedInterface (.onDeactivate writes reads)) ∧
      OnlyHeard component.toConnectedInterface
        (onBus onDeactivate writes reads component).2.toConnectedInterface :=
  onBus_run (onDeactivate_run _).2

omit [StdNumbers K] in
theorem write_bus (writes : List Bool) (reads : List ReadResult)
    (component : ManagedInterface K count) :
    (onBus write writes reads component).2.traffic = component.traffic ++
        component.transfers (callbackEvents component.toConnectedInterface (.write writes reads)) ∧
      OnlyHeard component.toConnectedInterface
        (onBus write writes reads component).2.toConnectedInterface :=
  onBus_run (write_run _)

theorem onConfigure_keeps (calls : SocketCalls) (component : ManagedInterface K count) :
    (onConfigure names calls component).2.traffic = component.traffic ∧
      KeepsSetup callback component.toConnectedInterface
        (onConfigure names calls component).2.toConnectedInterface := by
  obtain ⟨plugin, infoJoints, traffic⟩ := setupSocket_plugin calls component
  rw [onConfigure]
  split
  next after failed =>
    rw [failed] at plugin traffic
    exact ⟨traffic, by rw [plugin]; exact (OnlyHeard.refl _).keepsSetup⟩
  next after prepared =>
    rw [prepared] at plugin traffic
    obtain ⟨⟨configs, setZero⟩, modes, jointNames⟩ := configureJoints_setup names after.infoJoints
      (List.finRange count) (zeroCommands after.toConnectedInterface)
    have same : after.toConnectedInterface = component.toConnectedInterface := plugin
    refine ⟨traffic, jointNames.trans ?_, configs.trans ?_, setZero.trans ?_, fun _ => modes.trans ?_⟩
    all_goals rw [same]; rfl

/-- What a callback does on the bus, and what it leaves as it was. -/
theorem operate_run (ran : operate names component callback = some next) :
    next.traffic = component.traffic ++
        component.transfers (callbackEvents component.toConnectedInterface callback) ∧
      KeepsSetup callback component.toConnectedInterface next.toConnectedInterface := by
  have silent (after : ManagedInterface K count) (traffic : after.traffic = component.traffic) :
      after.traffic = component.traffic ++ component.transfers [] := by
    rw [traffic]
    exact (List.append_nil _).symm
  unfold operate at ran
  split at ran
  · cases ran
  cases callback with
  | onConfigure calls =>
      simp only at ran
      split at ran
      · cases ran
      cases ran
      obtain ⟨traffic, keeps⟩ := onConfigure_keeps calls component
      exact ⟨silent _ traffic, keeps⟩
  | onActivate writes reads =>
      cases ran
      obtain ⟨traffic, heard⟩ := onActivate_bus writes reads component
      exact ⟨traffic, heard.keepsSetup⟩
  | onDeactivate writes reads =>
      cases ran
      obtain ⟨traffic, heard⟩ := onDeactivate_bus writes reads component
      exact ⟨traffic, heard.keepsSetup⟩
  | write writes reads =>
      cases ran
      obtain ⟨traffic, heard⟩ := write_bus writes reads component
      exact ⟨traffic, heard.keepsSetup⟩
  | destroy writes reads =>
      cases ran
      obtain ⟨traffic, heard⟩ := onDeactivate_bus writes reads component
      exact ⟨traffic, heard.jointNames, heard.hwJointConfigs, heard.setZeroPosOnStartup,
        fun _ => heard.hwControlLevel⟩
  | prepareCommandModeSwitch startInterfaces stopInterfaces =>
      cases ran
      refine ⟨silent _ rfl, ?_, rfl, rfl, fun other => absurd rfl (other _ _)⟩
      exact switch_jointNames
  | _ =>
      cases ran
      exact ⟨silent _ rfl, rfl, rfl, rfl, fun _ => rfl⟩

end Model

end CubemarsDriver.Plugin
