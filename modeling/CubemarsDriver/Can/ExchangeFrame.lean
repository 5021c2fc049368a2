import CubemarsDriver.Can.Delivery
import CubemarsDriver.Foundation.Relations

namespace CubemarsDriver.Can

open Foundation

/-! # What every exchange leaves alone

Whatever the sizes and however it ends, an exchange keeps the joints of its
interface and the number of states. -/

variable {K : Type}

instance instIsPreorderFrame : IsPreorder (Exchange K) Exchange.Frame where
  refl exchange := Exchange.Frame.refl exchange
  trans _ _ _ first second := first.trans second

/-- What a step that hands no frame to the socket leaves alone. -/
structure Exchange.Silent (before after : Exchange K) : Prop extends Exchange.Frame before after where
  sendFrame : after.can.sendFrame = before.can.sendFrame
  attempts : after.can.socket.attempts = before.can.socket.attempts

instance instIsPreorderSilent : IsPreorder (Exchange K) Exchange.Silent where
  refl exchange := ⟨Exchange.Frame.refl exchange, rfl, rfl⟩
  trans _ _ _ first second := ⟨first.toFrame.trans second.toFrame,
    second.sendFrame.trans first.sendFrame, second.attempts.trans first.attempts⟩

theorem updateState_silent (index : Nat) (change : JointState K → JointState K) :
    Path.Evolves Exchange.Silent
      (Path.updateDefined (Exchange.updateState index change) : ExchangePath K Unit) := by
  refine Path.Evolves.updateDefined fun exchange after changed => ?_
  rw [Exchange.updateState, Option.ite_none_right_eq_some, Option.some.injEq] at changed
  obtain ⟨_, rfl⟩ := changed
  exact ⟨⟨rfl, List.length_modify _ _ _⟩, rfl, rfl⟩

theorem setSendOk_silent (index : Nat) (ok : Bool) : Path.Evolves Exchange.Silent
    (Path.updateDefined (Exchange.setSendOk index ok) : ExchangePath K Unit) := by
  refine Path.Evolves.updateDefined fun exchange after changed => ?_
  rw [Exchange.setSendOk, Option.ite_none_right_eq_some, Option.some.injEq] at changed
  obtain ⟨_, rfl⟩ := changed
  exact ⟨⟨rfl, rfl⟩, rfl, rfl⟩

theorem setRecvOk_silent (index : Nat) (ok : Bool) : Path.Evolves Exchange.Silent
    (Path.updateDefined (Exchange.setRecvOk index ok) : ExchangePath K Unit) := by
  refine Path.Evolves.updateDefined fun exchange after changed => ?_
  rw [Exchange.setRecvOk, Option.ite_none_right_eq_some, Option.some.injEq] at changed
  obtain ⟨_, rfl⟩ := changed
  exact ⟨⟨rfl, rfl⟩, rfl, rfl⟩

theorem clockGettime_silent :
    Path.Evolves Exchange.Silent (clockGettime : ExchangePath K Int) := by
  intro exchange
  have attempts : exchange.can.socket.now.2.attempts = exchange.can.socket.attempts := by
    unfold Socket.now
    split <;> rfl
  exact ⟨⟨rfl, rfl⟩, rfl, attempts⟩

section Phases

variable [Scalar K]

/-- What follows the write of a command. -/
def recordWrite (index : Nat) : WriteResult → ExchangePath K Unit
  | .failed errno => do
      Path.updateDefined (Exchange.updateState index fun state => { state with
        comErrno := errno, communicationStatus := .canWriteFailed })
      Path.updateDefined (Exchange.setSendOk index false)
  | .written enqueueNs => do
      Path.updateDefined (Exchange.updateState index fun state => { state with
        enqueueTimestampNs := enqueueNs })
      Path.updateDefined (Exchange.setSendOk index true)
      Path.updateDefined (Exchange.updateState index fun state => { state with
        communicationStatus := .canNoResponse })

theorem writeCommand_eq (cmds : List (JointCmd K)) (index : Nat) : writeCommand cmds index = (do
    let config ← Path.element fun exchange => exchange.can.jointConfigs[index]?
    let cmd ← Path.element fun _ => cmds[index]?
    Path.update fun exchange => { exchange with can := { exchange.can with
      sendFrame := { exchange.can.sendFrame with
        data := commandPayload config cmd, canId := commandCanId config } } }
    Path.updateDefined (Exchange.updateState index fun state => { state with
      sendTimestampNs := 0, dequeueTimestampNs := 0, enqueueTimestampNs := 0 })
    let result ← writeFrame
    recordWrite index result) := rfl

omit [Scalar K] in
theorem recordWrite_silent (index : Nat) (result : WriteResult) :
    Path.Evolves Exchange.Silent (recordWrite index result : ExchangePath K Unit) := by
  cases result with
  | failed errno => exact Path.Evolves.bind (updateState_silent _ _) fun _ => setSendOk_silent _ _
  | written enqueueNs =>
      refine Path.Evolves.bind (updateState_silent _ _) fun _ => ?_
      exact Path.Evolves.bind (setSendOk_silent _ _) fun _ => updateState_silent _ _

theorem writeCommand_frames (cmds : List (JointCmd K)) (index : Nat) :
    Path.Evolves Exchange.Frame (writeCommand cmds index) := by
  have written : Path.Evolves Exchange.Frame (writeFrame : ExchangePath K WriteResult) :=
    fun _ => ⟨rfl, rfl⟩
  rw [writeCommand_eq]
  refine Path.Evolves.bind (Path.Evolves.element _) fun config => ?_
  refine Path.Evolves.bind (Path.Evolves.element _) fun cmd => ?_
  refine Path.Evolves.bind (Path.Evolves.update fun _ => ⟨rfl, rfl⟩) fun _ => ?_
  refine Path.Evolves.bind ((updateState_silent _ _).weaken fun _ _ => Exchange.Silent.toFrame)
    fun _ => ?_
  refine Path.Evolves.bind written fun result => ?_
  exact (recordWrite_silent index result).weaken fun _ _ => Exchange.Silent.toFrame

theorem receiveSlot_silent (index : Nat) :
    Path.Evolves Exchange.Silent (receiveSlot index : ExchangePath K Unit) := by
  have received : Path.Evolves Exchange.Silent (receiveReply : ExchangePath K (Option Reply)) :=
    fun _ => ⟨⟨rfl, rfl⟩, rfl, rfl⟩
  refine Path.Evolves.bind (Path.Evolves.element _) fun sendOk =>
    Path.Evolves.ite (fun _ => ?_) fun _ => Path.Evolves.pure _
  refine Path.Evolves.bind (setRecvOk_silent _ _) fun _ => ?_
  refine Path.Evolves.bind received fun reply => ?_
  cases reply with
  | none => exact Path.Evolves.bind (Path.Evolves.read _) fun _ => updateState_silent _ _
  | some reply =>
      refine Path.Evolves.bind (Path.Evolves.read _) fun configs => ?_
      cases resolve configs reply.frame with
      | none => exact Path.Evolves.pure _
      | some joint =>
          refine Path.Evolves.bind (Path.Evolves.element _) fun config => ?_
          refine Path.Evolves.bind (setRecvOk_silent _ _) fun _ => ?_
          exact Path.Evolves.bind (Path.Evolves.element _) fun _ => updateState_silent _ _

omit [Scalar K] in
theorem collectTxTimestamps_silent :
    Path.Evolves Exchange.Silent (collectTxTimestamps : ExchangePath K Unit) := by
  refine Path.Evolves.bind (Path.Evolves.update fun _ => ⟨⟨rfl, rfl⟩, rfl, rfl⟩) fun _ => ?_
  refine Path.Evolves.bind (Path.Evolves.read _) fun entries => ?_
  refine Path.Evolves.bind (Path.Evolves.update fun _ => ⟨⟨rfl, rfl⟩, rfl, rfl⟩) fun _ => ?_
  refine Path.Evolves.forEach (fun entry => ?_) _
  refine Path.Evolves.bind (Path.Evolves.update fun _ => ⟨⟨rfl, rfl⟩, rfl, rfl⟩) fun _ => ?_
  refine Path.Evolves.ite (fun _ => ?_) fun _ => Path.Evolves.pure _
  refine Path.Evolves.bind (Path.Evolves.read _) fun found => ?_
  cases found with
  | none => exact Path.Evolves.pure _
  | some joint => exact updateState_silent _ _

omit [Scalar K] in
theorem checkSizes_silent (cmds : List (JointCmd K)) :
    Path.Evolves Exchange.Silent (checkSizes cmds) := by
  refine Path.Evolves.bind (Path.Evolves.read _) fun _ => ?_
  refine Path.Evolves.bind (Path.Evolves.read _) fun _ => ?_
  refine Path.Evolves.ite (fun _ => ?_) fun _ => Path.Evolves.pure _
  exact Path.Evolves.ite (fun _ => Path.Evolves.throw _) fun _ => Path.Evolves.element _

/-- What follows the loop of writes. -/
def receivePhase (txFillStartNs : Int) : ExchangePath K Unit := do
  let txFillEndNs ← clockGettime
  Path.update fun exchange => { exchange with can := { exchange.can with
    txFillEndNs, txFillDurationNs := txFillEndNs - txFillStartNs, lastErrorCount := 0 } }
  Path.loopBelow numJoints receiveSlot
  let receivedNs ← clockGettime
  Path.update fun exchange => { exchange with can := { exchange.can with
    rxDurationNs := receivedNs - exchange.can.txFillEndNs } }
  let enableTxTimestamping ← Path.read fun exchange => exchange.can.enableTxTimestamping
  if enableTxTimestamping then collectTxTimestamps

theorem sendAndReceive_eq (cmds : List (JointCmd K)) : sendAndReceive cmds = (do
    checkSizes cmds
    let txFillStartNs ← clockGettime
    Path.loopBelow numJoints (writeCommand cmds)
    receivePhase txFillStartNs) := rfl

theorem receivePhase_silent (txFillStartNs : Int) :
    Path.Evolves Exchange.Silent (receivePhase txFillStartNs : ExchangePath K Unit) := by
  refine Path.Evolves.bind clockGettime_silent fun _ => ?_
  refine Path.Evolves.bind (Path.Evolves.update fun _ => ⟨⟨rfl, rfl⟩, rfl, rfl⟩) fun _ => ?_
  refine Path.Evolves.bind (Path.Evolves.loopBelow fun _ => receiveSlot_silent _) fun _ => ?_
  refine Path.Evolves.bind clockGettime_silent fun _ => ?_
  refine Path.Evolves.bind (Path.Evolves.update fun _ => ⟨⟨rfl, rfl⟩, rfl, rfl⟩) fun _ => ?_
  refine Path.Evolves.bind (Path.Evolves.read _) fun _ => ?_
  exact Path.Evolves.ite (fun _ => collectTxTimestamps_silent) fun _ => Path.Evolves.pure _

theorem sendAndReceive_frames (cmds : List (JointCmd K)) :
    Path.Evolves Exchange.Frame (sendAndReceive cmds) := by
  rw [sendAndReceive_eq]
  refine Path.Evolves.bind ((checkSizes_silent cmds).weaken fun _ _ => Exchange.Silent.toFrame)
    fun _ => ?_
  refine Path.Evolves.bind (clockGettime_silent.weaken fun _ _ => Exchange.Silent.toFrame)
    fun _ => ?_
  refine Path.Evolves.bind (Path.Evolves.loopBelow fun _ => writeCommand_frames cmds _) fun _ => ?_
  exact (receivePhase_silent _).weaken fun _ _ => Exchange.Silent.toFrame

end Phases

end CubemarsDriver.Can
