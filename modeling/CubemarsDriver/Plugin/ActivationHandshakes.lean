import CubemarsDriver.Plugin.WriteReplies

namespace CubemarsDriver.Plugin

open Can

/-! # An activation of the plugin that fails half way

`on_activate` goes through the handshakes of all joints and returns at the first one that is
not answered.  It sends no exit frame to the joints it has started by then. -/

variable {K : Type} {count : Nat}

structure ControlHandshake where
  canId : BitVec 32
  controlSequence : Payload

def ControlHandshake.frame (handshake : ControlHandshake) : CanFrame where
  canId := handshake.canId
  len := 8
  data := handshake.controlSequence

/-- The joint replies under its identifier and without a fault. -/
def Answers (canId : BitVec 32) : ReadResult → Prop
  | .frame frame => frame.canId = canId ∧ ErrorCode.ofByte frame.data.errorByte = .noFault
  | _ => False

instance instDecidableAnswers (canId : BitVec 32) : (result : ReadResult) →
    Decidable (Answers canId result)
  | .failed => inferInstanceAs (Decidable False)
  | .nothing => inferInstanceAs (Decidable False)
  | .frame _ => inferInstanceAs (Decidable (_ ∧ _))

/-- Every handshake of the list is written and answered, when the socket's next results are
these. -/
def Answered : List ControlHandshake → List Bool → List ReadResult → Prop
  | [], _, _ => True
  | handshake :: rest, writes, reads =>
      (writes.head?.getD false = true ∧ Answers handshake.canId (reads.head?.getD .failed)) ∧
        Answered rest writes.tail reads.tail

instance instDecidableAnswered : (handshakes : List ControlHandshake) → (writes : List Bool) →
    (reads : List ReadResult) → Decidable (Answered handshakes writes reads)
  | [], _, _ => inferInstanceAs (Decidable True)
  | _ :: rest, writes, reads =>
      have := instDecidableAnswered rest writes.tail reads.tail
      inferInstanceAs (Decidable (_ ∧ _))

/-- What the handshakes do on the socket: the first one that is not answered is the last. -/
def handshakeEvents : List ControlHandshake → List Bool → List ReadResult → List SocketEvent
  | [], _, _ => []
  | handshake :: rest, writes, reads =>
      let result := reads.head?.getD .failed
      if writes.head?.getD false then
        .wrote handshake.frame true :: .read result ::
          if Answers handshake.canId result then handshakeEvents rest writes.tail reads.tail else []
      else [.wrote handshake.frame false]

/-- The handshakes of `on_activate`. -/
def activationHandshakes (setZeroPos : Bool) (joints : List (JointConfig K)) :
    List ControlHandshake :=
  joints.flatMap fun joint =>
    (if setZeroPos then [{ canId := joint.canId, controlSequence := setZeroPositionSequence }]
      else []) ++ [{ canId := joint.canId, controlSequence := startMotorControlModeSequence }]

variable {handshake : ControlHandshake} {handshakes : List ControlHandshake}
variable {writes : List Bool} {reads : List ReadResult}
variable {plugin : ConnectedInterface K count}

/-- The joint has been written the frame and has answered it. -/
def Confirmed (events : List SocketEvent) (handshake : ControlHandshake) : Prop :=
  ∃ result, Answers handshake.canId result ∧
    [SocketEvent.wrote handshake.frame true, .read result] <:+: events

/-- Only handshakes of the list are confirmed, and all those before it are too. -/
theorem confirmed_answered
    (confirmed : Confirmed (handshakeEvents handshakes writes reads) handshake) :
    ∃ done rest, handshakes = done ++ handshake :: rest ∧
      Answered (done ++ [handshake]) writes reads := by
  induction handshakes generalizing writes reads with
  | nil =>
      obtain ⟨result, _, inside⟩ := confirmed
      simp [handshakeEvents] at inside
  | cons first rest ih =>
      obtain ⟨result, answers, inside⟩ := confirmed
      rw [handshakeEvents] at inside
      split at inside
      next accepted =>
        simp only [List.infix_cons_iff, List.cons_prefix_cons, SocketEvent.wrote.injEq,
          SocketEvent.read.injEq, reduceCtorEq, false_and, false_or] at inside
        rcases inside with ⟨⟨same, _⟩, rfl, _⟩ | later
        · have equal : handshake = first := by
            cases handshake
            cases first
            simp only [ControlHandshake.frame, CanFrame.mk.injEq, true_and] at same
            rw [same.1, same.2]
          subst equal
          exact ⟨[], rest, rfl, ⟨accepted, answers⟩, trivial⟩
        · split at later
          next firstAnswers =>
            obtain ⟨done, others, split, answered⟩ := ih ⟨result, answers, later⟩
            refine ⟨first :: done, others, ?_, ⟨accepted, firstAnswers⟩, answered⟩
            rw [split, List.cons_append]
          next => simp at later
      next => simp [List.infix_cons_iff] at inside

theorem confirmed_of_answered {done rest : List ControlHandshake}
    (answered : Answered (done ++ [handshake]) writes reads) :
    Confirmed (handshakeEvents (done ++ handshake :: rest) writes reads) handshake := by
  induction done generalizing writes reads with
  | nil =>
      obtain ⟨⟨accepted, answers⟩, _⟩ := answered
      refine ⟨reads.head?.getD .failed, answers, ?_⟩
      rw [List.nil_append, handshakeEvents]
      simp only [accepted, if_true]
      exact List.IsPrefix.isInfix ⟨_, rfl⟩
  | cons first done ih =>
      obtain ⟨⟨accepted, answers⟩, later⟩ := answered
      obtain ⟨result, own, inside⟩ := ih later
      refine ⟨result, own, ?_⟩
      rw [List.cons_append, handshakeEvents]
      simp only [accepted, answers, if_true]
      exact (inside.trans (List.suffix_cons _ _).isInfix).trans (List.suffix_cons _ _).isInfix

/-- Every frame written is the frame of a handshake of the list. -/
theorem wrote_handshake {frame : CanFrame} {accepted : Bool}
    (wrote : .wrote frame accepted ∈ handshakeEvents handshakes writes reads) :
    ∃ handshake ∈ handshakes, handshake.frame = frame := by
  induction handshakes generalizing writes reads with
  | nil => simp [handshakeEvents] at wrote
  | cons first rest ih =>
      rw [handshakeEvents] at wrote
      split at wrote
      · simp only [List.mem_cons, SocketEvent.wrote.injEq, reduceCtorEq, false_or] at wrote
        rcases wrote with ⟨rfl, _⟩ | later
        · exact ⟨first, List.mem_cons_self, rfl⟩
        · split at later
          · obtain ⟨handshake, member, same⟩ := ih later
            exact ⟨handshake, List.mem_cons_of_mem first member, same⟩
          · simp at later
      · simp only [List.mem_singleton, SocketEvent.wrote.injEq] at wrote
        exact ⟨first, List.mem_cons_self, wrote.1.symm⟩

section Model

variable [Scalar K]

/-- The call changes nothing of what the plugin was configured with. -/
def SameSetup (before after : ConnectedInterface K count) : Prop :=
  after.hwJointConfigs = before.hwJointConfigs ∧
    after.setZeroPosOnStartup = before.setZeroPosOnStartup

theorem unpackReply_setZero (frame : CanFrame) (plugin : ConnectedInterface K count) :
    (unpackReply frame plugin).2.setZeroPosOnStartup = plugin.setZeroPosOnStartup := by
  unfold unpackReply
  cases findCanId plugin.hwJointConfigs frame.canId <;> rfl

theorem unpackReply_code {frame : CanFrame} (known : frame.canId ∈ canIds plugin.hwJointConfigs) :
    (unpackReply frame plugin).1 = ErrorCode.ofByte frame.data.errorByte := by
  obtain ⟨joint, own⟩ := exists_of_mem_canIds known
  unfold unpackReply
  cases found : findCanId plugin.hwJointConfigs frame.canId with
  | none => exact absurd own (findCanId_none found joint)
  | some index => rfl

/-- The joint's own reply decides the handshake. -/
theorem sendControlFrame_own {frame : CanFrame}
    (known : handshake.canId ∈ canIds plugin.hwJointConfigs)
    (accepted : plugin.canSocket.writes.head?.getD false = true)
    (result : plugin.canSocket.reads.head?.getD .failed = .frame frame)
    (own : frame.canId = handshake.canId) :
    ∃ after, sendControlFrame handshake.canId handshake.controlSequence plugin =
        (if ErrorCode.ofByte frame.data.errorByte = .noFault then .ok else .error, after) ∧
      SameSetup plugin after ∧ after.canSocket =
        { writes := plugin.canSocket.writes.tail
          reads := plugin.canSocket.reads.tail
          log := plugin.canSocket.log ++ [.wrote handshake.frame true, .read (.frame frame)] } := by
  let heard : CanSocket :=
    { writes := plugin.canSocket.writes.tail
      reads := plugin.canSocket.reads.tail
      log := plugin.canSocket.log ++ [.wrote handshake.frame true, .read (.frame frame)] }
  let between : ConnectedInterface K count := { plugin with canSocket := heard }
  have run : sendControlFrame handshake.canId handshake.controlSequence plugin =
      (if (unpackReply frame between).1 = .noFault then .ok else .error,
        (unpackReply frame between).2) := by
    simp only [sendControlFrame, writeToCan, accepted, if_true, readFromCan, result, own, ne_eq,
      not_true, if_false, List.append_assoc, List.cons_append, List.nil_append]
    rfl
  have knownSender : frame.canId ∈ canIds between.hwJointConfigs := by rwa [own]
  rw [unpackReply_code knownSender] at run
  exact ⟨(unpackReply frame between).2, run, ⟨unpackReply_configs, unpackReply_setZero _ _⟩,
    unpackReply_canSocket⟩

theorem sendControlFrame_answered (known : handshake.canId ∈ canIds plugin.hwJointConfigs)
    (accepted : plugin.canSocket.writes.head?.getD false = true)
    (answers : Answers handshake.canId (plugin.canSocket.reads.head?.getD .failed)) :
    ∃ after, sendControlFrame handshake.canId handshake.controlSequence plugin = (.ok, after) ∧
      SameSetup plugin after ∧ after.canSocket =
        { writes := plugin.canSocket.writes.tail
          reads := plugin.canSocket.reads.tail
          log := plugin.canSocket.log ++ [.wrote handshake.frame true,
            .read (plugin.canSocket.reads.head?.getD .failed)] } := by
  cases result : plugin.canSocket.reads.head?.getD .failed with
  | failed => simp [Answers, result] at answers
  | nothing => simp [Answers, result] at answers
  | frame frame =>
      rw [result] at answers
      have sent := sendControlFrame_own known accepted result answers.1
      rwa [if_pos answers.2] at sent

theorem sendControlFrame_unanswered (known : handshake.canId ∈ canIds plugin.hwJointConfigs)
    (unanswered : ¬(plugin.canSocket.writes.head?.getD false = true ∧
      Answers handshake.canId (plugin.canSocket.reads.head?.getD .failed))) :
    ∃ after, sendControlFrame handshake.canId handshake.controlSequence plugin = (.error, after) ∧
      after.canSocket.log = plugin.canSocket.log ++
        if plugin.canSocket.writes.head?.getD false then
          [.wrote handshake.frame true, .read (plugin.canSocket.reads.head?.getD .failed)]
        else [.wrote handshake.frame false] := by
  by_cases accepted : plugin.canSocket.writes.head?.getD false = true
  · cases result : plugin.canSocket.reads.head?.getD .failed with
    | failed => simp [sendControlFrame, writeToCan, accepted, readFromCan, result, ControlHandshake.frame]
    | nothing => simp [sendControlFrame, writeToCan, accepted, readFromCan, result, ControlHandshake.frame]
    | frame frame =>
        by_cases own : frame.canId = handshake.canId
        · obtain ⟨after, run, _, socket⟩ := sendControlFrame_own known accepted result own
          have fault : ErrorCode.ofByte frame.data.errorByte ≠ .noFault := by
            intro fine
            rw [result] at unanswered
            exact unanswered ⟨accepted, own, fine⟩
          rw [if_neg fault] at run
          refine ⟨after, run, ?_⟩
          rw [socket, if_pos accepted]
        · simp [sendControlFrame, writeToCan, accepted, readFromCan, result, own,
            ControlHandshake.frame]
  · simp [sendControlFrame, writeToCan, accepted, ControlHandshake.frame]

def performHandshakes : List ControlHandshake → ConnectedInterface K count →
    ReturnType × ConnectedInterface K count
  | [], plugin => (.ok, plugin)
  | handshake :: rest, plugin =>
      match sendControlFrame handshake.canId handshake.controlSequence plugin with
      | (.error, plugin) => (.error, plugin)
      | (.ok, plugin) => performHandshakes rest plugin

theorem performHandshakes_run
    (known : ∀ handshake ∈ handshakes, handshake.canId ∈ canIds plugin.hwJointConfigs) :
    ((performHandshakes handshakes plugin).1 = .ok ↔
      Answered handshakes plugin.canSocket.writes plugin.canSocket.reads) ∧
    (performHandshakes handshakes plugin).2.canSocket.log = plugin.canSocket.log ++
      handshakeEvents handshakes plugin.canSocket.writes plugin.canSocket.reads := by
  induction handshakes generalizing plugin with
  | nil => simp [performHandshakes, Answered, handshakeEvents]
  | cons handshake rest ih =>
      have knownFirst := known handshake List.mem_cons_self
      by_cases answered : plugin.canSocket.writes.head?.getD false = true ∧
          Answers handshake.canId (plugin.canSocket.reads.head?.getD .failed)
      · obtain ⟨after, run, same, socket⟩ :=
          sendControlFrame_answered knownFirst answered.1 answered.2
        have knownRest : ∀ handshake ∈ rest, handshake.canId ∈ canIds after.hwJointConfigs := by
          intro other member
          rw [same.1]
          exact known other (List.mem_cons_of_mem handshake member)
        obtain ⟨ok, log⟩ := ih knownRest
        rw [socket] at ok log
        constructor
        · simp only [performHandshakes, run, ok, Answered, answered, true_and]
        · simp only [performHandshakes, run, log, handshakeEvents, answered, if_true,
            List.append_assoc, List.cons_append, List.nil_append]
      · obtain ⟨after, run, log⟩ := sendControlFrame_unanswered knownFirst answered
        constructor
        · simp only [performHandshakes, run, Answered, answered, false_and, reduceCtorEq]
        · simp only [performHandshakes, run, log, handshakeEvents]
          split
          next accepted =>
            have silent : ¬Answers handshake.canId (plugin.canSocket.reads.head?.getD .failed) :=
              fun answers => answered ⟨accepted, answers⟩
            rw [if_neg silent]
          next => rfl

theorem sendControlFrame_setZero {canId : BitVec 32} {controlSequence : Payload}
    {result : ReturnType} {after : ConnectedInterface K count}
    (sent : sendControlFrame canId controlSequence plugin = (result, after)) :
    after.setZeroPosOnStartup = plugin.setZeroPosOnStartup := by
  obtain rfl := congrArg Prod.snd sent
  unfold sendControlFrame
  cases accepted : plugin.canSocket.writes.head?.getD false with
  | false => simp [writeToCan, accepted]
  | true =>
      simp only [writeToCan, accepted, if_true]
      cases result : plugin.canSocket.reads.head?.getD .failed with
      | failed => simp [readFromCan, result]
      | nothing => simp [readFromCan, result]
      | frame frame =>
          simp only [readFromCan, result]
          split
          · rfl
          · exact unpackReply_setZero frame _

theorem activateJoints_eq (joints : List (JointConfig K)) (plugin : ConnectedInterface K count) :
    activateJoints joints plugin =
      match performHandshakes (activationHandshakes plugin.setZeroPosOnStartup joints) plugin with
      | (.error, after) => (.error, after)
      | (.ok, after) => (.success, after) := by
  induction joints generalizing plugin with
  | nil => rfl
  | cons joint rest ih =>
      cases setZero : plugin.setZeroPosOnStartup with
      | false =>
          simp only [activateJoints, setZero, Bool.false_eq_true, if_false, startMotorControlMode,
            activationHandshakes, List.flatMap_cons, List.nil_append, List.cons_append,
            performHandshakes]
          cases start : sendControlFrame joint.canId startMotorControlModeSequence plugin with
          | mk result after =>
              cases result with
              | error => rfl
              | ok =>
                  have same := sendControlFrame_setZero start
                  rw [setZero] at same
                  simp only [ih, same, activationHandshakes, Bool.false_eq_true, if_false,
                    List.nil_append]
      | true =>
          simp only [activateJoints, setZero, if_true, setZeroPosition, startMotorControlMode,
            activationHandshakes, List.flatMap_cons, List.nil_append, List.cons_append,
            performHandshakes]
          cases zero : sendControlFrame joint.canId setZeroPositionSequence plugin with
          | mk result between =>
              cases result with
              | error => rfl
              | ok =>
                  have sameZero := sendControlFrame_setZero zero
                  simp only
                  cases start : sendControlFrame joint.canId startMotorControlModeSequence between with
                  | mk result after =>
                      cases result with
                      | error => rfl
                      | ok =>
                          have same := (sendControlFrame_setZero start).trans (sameZero.trans setZero)
                          simp only [ih, same, activationHandshakes, if_true, List.cons_append,
                            List.nil_append]

def startHandshake (canId : BitVec 32) : ControlHandshake where
  canId
  controlSequence := startMotorControlModeSequence

def exitHandshake (canId : BitVec 32) : ControlHandshake where
  canId
  controlSequence := exitMotorControlModeSequence

/-- After an activation that fails, every joint it has started has been sent an exit frame. -/
def AllOrNothing (plugin : ConnectedInterface K count) : Prop :=
  let events := eventsOf plugin (onActivate plugin).2
  (onActivate plugin).1 = .error → ∀ joint : Fin count,
    Confirmed events (startHandshake (plugin.hwJointConfigs.get joint).canId) →
      .wrote (exitHandshake (plugin.hwJointConfigs.get joint).canId).frame true ∈ events

omit [Scalar K] in
theorem activationHandshakes_sequence {setZeroPos : Bool} {joints : List (JointConfig K)}
    (member : handshake ∈ activationHandshakes setZeroPos joints) :
    (∃ joint ∈ joints, joint.canId = handshake.canId) ∧
      (handshake.controlSequence = setZeroPositionSequence ∨
        handshake.controlSequence = startMotorControlModeSequence) := by
  obtain ⟨joint, among, own⟩ := List.mem_flatMap.mp member
  rcases List.mem_append.mp own with zero | start
  · split at zero
    · obtain rfl := List.mem_singleton.mp zero
      exact ⟨⟨joint, among, rfl⟩, .inl rfl⟩
    · simp at zero
  · obtain rfl := List.mem_singleton.mp start
    exact ⟨⟨joint, among, rfl⟩, .inr rfl⟩

theorem onActivate_run (plugin : ConnectedInterface K count) :
    let handshakes := activationHandshakes plugin.setZeroPosOnStartup plugin.hwJointConfigs.toList
    let socket := plugin.canSocket
    ((onActivate plugin).1 = .error ↔ ¬Answered handshakes socket.writes socket.reads) ∧
      eventsOf plugin (onActivate plugin).2 =
        handshakeEvents handshakes socket.writes socket.reads := by
  intro handshakes socket
  have known : ∀ handshake ∈ handshakes, handshake.canId ∈ canIds plugin.hwJointConfigs := by
    intro handshake member
    obtain ⟨⟨joint, among, same⟩, _⟩ := activationHandshakes_sequence member
    rw [← same]
    exact List.mem_map_of_mem among
  obtain ⟨ok, log⟩ := performHandshakes_run known
  rw [onActivate, activateJoints_eq]
  cases performed : performHandshakes handshakes plugin with
  | mk result after =>
      rw [performed] at ok log
      simp only at log
      rw [← ok]
      cases result <;> simp [log, eventsOf, socket]

omit [Scalar K] in
/-- A joint can only be started after the first one. -/
theorem first_answered {setZeroPos : Bool} {joints : List (JointConfig K)} {canId : BitVec 32}
    {done rest : List ControlHandshake}
    (split : activationHandshakes setZeroPos joints = done ++ startHandshake canId :: rest)
    (answered : Answered (done ++ [startHandshake canId]) writes reads) :
    Answered (activationHandshakes setZeroPos (joints.take 1)) writes reads := by
  cases joints with
  | nil => simp [activationHandshakes] at split
  | cons joint later =>
      simp only [List.take_succ_cons, List.take_zero, activationHandshakes, List.flatMap_cons,
        List.flatMap_nil, List.append_nil] at split ⊢
      cases setZeroPos with
      | false =>
          simp only [Bool.false_eq_true, if_false, List.nil_append, List.cons_append] at split ⊢
          cases done with
          | nil =>
              rw [List.nil_append, List.cons.injEq] at split
              rwa [split.1]
          | cons first done =>
              rw [List.cons_append, List.cons.injEq] at split
              rw [split.1]
              exact ⟨answered.1, trivial⟩
      | true =>
          simp only [if_true, List.cons_append, List.nil_append] at split ⊢
          cases done with
          | nil =>
              rw [List.nil_append, List.cons.injEq] at split
              have sequences : setZeroPositionSequence = startMotorControlModeSequence :=
                congrArg ControlHandshake.controlSequence split.1
              exact absurd sequences (by decide)
          | cons first done =>
              rw [List.cons_append, List.cons.injEq] at split
              rw [split.1]
              refine ⟨answered.1, ?_⟩
              cases done with
              | nil =>
                  rw [List.nil_append, List.cons.injEq] at split
                  rw [split.2.1]
                  exact answered.2
              | cons second done =>
                  rw [List.cons_append, List.cons.injEq] at split
                  rw [split.2.1]
                  exact ⟨answered.2.1, trivial⟩

/-- A failed activation leaves no joint running exactly if it fails at the first joint. -/
theorem all_or_nothing_iff (plugin : ConnectedInterface K count) :
    AllOrNothing plugin ↔
      Answered (activationHandshakes plugin.setZeroPosOnStartup plugin.hwJointConfigs.toList)
          plugin.canSocket.writes plugin.canSocket.reads ∨
        ¬Answered (activationHandshakes plugin.setZeroPosOnStartup
          (plugin.hwJointConfigs.toList.take 1)) plugin.canSocket.writes plugin.canSocket.reads := by
  obtain ⟨error, events⟩ := onActivate_run plugin
  have noExit (canId : BitVec 32) :
      .wrote (exitHandshake canId).frame true ∉ eventsOf plugin (onActivate plugin).2 := by
    rw [events]
    intro wrote
    obtain ⟨handshake, member, same⟩ := wrote_handshake wrote
    have exit : handshake.controlSequence = exitMotorControlModeSequence := congrArg CanFrame.data same
    rcases (activationHandshakes_sequence member).2 with zero | start
    · exact absurd (zero.symm.trans exit) (by decide)
    · exact absurd (start.symm.trans exit) (by decide)
  constructor
  · intro atomic
    by_contra both
    obtain ⟨unanswered, firstAnswered⟩ := not_or.mp both
    rw [not_not] at firstAnswered
    cases joints : plugin.hwJointConfigs.toList with
    | nil =>
        rw [joints] at unanswered
        exact unanswered trivial
    | cons joint later =>
        obtain ⟨index, own⟩ : ∃ index : Fin count, plugin.hwJointConfigs.get index = joint := by
          have member : joint ∈ plugin.hwJointConfigs := by
            rw [← Vector.mem_toList_iff, joints]
            exact List.mem_cons_self
          obtain ⟨index, inRange, same⟩ := Vector.getElem_of_mem member
          exact ⟨⟨index, inRange⟩, same⟩
        have started : Confirmed (eventsOf plugin (onActivate plugin).2)
            (startHandshake joint.canId) := by
          rw [joints] at firstAnswered
          rw [events, joints, activationHandshakes, List.flatMap_cons, List.append_assoc,
            List.cons_append, List.nil_append]
          apply confirmed_of_answered
          simpa [activationHandshakes] using firstAnswered
        rw [← own] at started
        exact noExit _ (atomic (error.mpr unanswered) index started)
  · rintro (answered | firstFails) failed joint started
    · exact absurd answered (error.mp failed)
    · rw [events] at started
      obtain ⟨done, rest, split, answered⟩ := confirmed_answered started
      exact absurd (first_answered split answered) firstFails

end Model

section Example

def activatedMotors : ConnectedInterface ℚ 2 :=
  twoMotors [.frame (motorFrame 1), .failed]

/-- The first motor stays in motor control mode. -/
theorem not_all_or_nothing : ¬AllOrNothing activatedMotors := by
  intro atomic
  have started : Confirmed (eventsOf activatedMotors (onActivate activatedMotors).2)
      (startHandshake 1) := ⟨.frame (motorFrame 1), ⟨rfl, rfl⟩, by decide +kernel⟩
  have exit := atomic (by decide +kernel) 0 started
  exact absurd exit (by decide +kernel)

end Example

end CubemarsDriver.Plugin
