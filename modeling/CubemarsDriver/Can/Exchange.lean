import CubemarsDriver.Can.Device

namespace CubemarsDriver.Can

open Foundation

/-! # `send_and_receive`

One cycle of an interface: write every command, then read one reply for every
command that was written. -/

/-- What `send_and_receive` works on: the interface and the caller's states. -/
structure Exchange (K : Type) where
  can : CubemarsCan K
  states : List (JointState K)

abbrev ExchangePath (K : Type) := Path (Exchange K) Exception

variable {K : Type} [Scalar K]

namespace Exchange

/-- `states[index] = change(states[index])`, undefined past the end. -/
def updateState (index : Nat) (change : JointState K → JointState K)
    (exchange : Exchange K) : Option (Exchange K) :=
  if index < exchange.states.length then
    some { exchange with states := exchange.states.modify index change }
  else none

def setSendOk (index : Nat) (ok : Bool) (exchange : Exchange K) : Option (Exchange K) :=
  if index < exchange.can.sendOk.length then
    some { exchange with can := { exchange.can with
      sendOk := exchange.can.sendOk.set index ok
      sendOkSized := List.length_set.trans exchange.can.sendOkSized } }
  else none

def setRecvOk (index : Nat) (ok : Bool) (exchange : Exchange K) : Option (Exchange K) :=
  if index < exchange.can.recvOk.length then
    some { exchange with can := { exchange.can with
      recvOk := exchange.can.recvOk.set index ok
      recvOkSized := List.length_set.trans exchange.can.recvOkSized } }
  else none

end Exchange

open Exchange

def clockGettime : ExchangePath K Int where
  run exchange :=
    let (time, socket) := exchange.can.socket.now
    (.returned time, { exchange with can := { exchange.can with socket } })

/-- `::write` of the prepared `send_frame_`. -/
def writeFrame : ExchangePath K WriteResult where
  run exchange :=
    let (result, socket) := exchange.can.socket.write exchange.can.sendFrame
    (.returned result, { exchange with can := { exchange.can with socket } })

/-- One iteration of the write loop. -/
def writeCommand (cmds : List (JointCmd K)) (index : Nat) : ExchangePath K Unit := do
  let config ← Path.element fun exchange => exchange.can.jointConfigs[index]?
  let cmd ← Path.element fun _ => cmds[index]?
  Path.update fun exchange => { exchange with can := { exchange.can with
    sendFrame := { exchange.can.sendFrame with
      data := commandPayload config cmd, canId := commandCanId config } } }
  Path.updateDefined (updateState index fun state => { state with
    sendTimestampNs := 0, dequeueTimestampNs := 0, enqueueTimestampNs := 0 })
  match ← writeFrame with
  | .failed errno =>
      Path.updateDefined (updateState index fun state => { state with
        comErrno := errno, communicationStatus := .canWriteFailed })
      Path.updateDefined (setSendOk index false)
  | .written enqueueNs =>
      Path.updateDefined (updateState index fun state => { state with
        enqueueTimestampNs := enqueueNs })
      Path.updateDefined (setSendOk index true)
      Path.updateDefined (updateState index fun state => { state with
        communicationStatus := .canNoResponse })

/-- The result of the inner receive loop: the reply it stopped at, if any, the
error frames it skipped and the results it left unread. -/
structure SlotRead where
  reply : Option Reply
  errorCanids : List (BitVec 32)
  errno : Option Int
  rest : List ReadResult

def maxErrorSkips : Nat := 16

/-- Read the next non-error frame.  Error frames are skipped, and the sixteenth
of them ends the reading as if it had failed. -/
def readSlot (errSkips : Nat) : List ReadResult → SlotRead
  | [] => { reply := none, errorCanids := [], errno := some eagain, rest := [] }
  | .failed errno :: rest => { reply := none, errorCanids := [], errno := some errno, rest }
  | .frame reply :: rest =>
      if reply.frame.canId &&& canErrFlag ≠ 0 then
        if errSkips + 1 ≥ maxErrorSkips then
          { reply := none, errorCanids := [reply.frame.canId], errno := none, rest }
        else
          let remaining := readSlot (errSkips + 1) rest
          { remaining with errorCanids := reply.frame.canId :: remaining.errorCanids }
      else { reply := some reply, errorCanids := [], errno := none, rest }

def receiveReply : ExchangePath K (Option Reply) where
  run exchange :=
    let slot := readSlot 0 exchange.can.socket.reads
    (.returned slot.reply, { exchange with can := { exchange.can with
      lastErrorCount := exchange.can.lastErrorCount + slot.errorCanids.length
      lastErrorCanid := slot.errorCanids.getLast?.getD exchange.can.lastErrorCanid
      socket := { exchange.can.socket with
        reads := slot.rest
        errno := slot.errno.getD exchange.can.socket.errno } } })

/-- The state of a joint after its reply has been decoded. -/
def repliedState (config : JointConfig K) (sendOk : Bool) (reply : Reply)
    (state : JointState K) : JointState K :=
  let measurement := decodeReply config reply.frame
  { state with
    rxTimestampNs := reply.rxNs
    rxHwTimestampNs := reply.rxHwNs
    dequeueTimestampNs := reply.dequeueNs
    pos := measurement.pos
    vel := measurement.vel
    torque := measurement.torque
    temp := measurement.temp
    deviceStatus := measurement.deviceStatus
    communicationStatus := if sendOk then .success else .canWriteFailedButResponseReceived }

/-- One iteration of the receive loop.  The slot belongs to the joint `index`,
the reply to whichever joint it resolves to. -/
def receiveSlot (index : Nat) : ExchangePath K Unit := do
  let sendOk ← Path.element fun exchange => exchange.can.sendOk[index]?
  if sendOk then
    Path.updateDefined (setRecvOk index false)
    match ← receiveReply with
    | none =>
        let errno ← Path.read fun exchange => exchange.can.socket.errno
        Path.updateDefined (updateState index fun state => { state with
          communicationStatus := .canReadFailed, comErrno := errno })
    | some reply =>
        let configs ← Path.read fun exchange => exchange.can.jointConfigs
        match resolve configs reply.frame with
        | none => pure ()
        | some joint =>
            let config ← Path.element fun _ => configs[joint]?
            Path.updateDefined (setRecvOk joint true)
            let jointSendOk ← Path.element fun exchange => exchange.can.sendOk[joint]?
            Path.updateDefined (updateState joint (repliedState config jointSendOk reply))

/-- One entry of the drained error queue. -/
def collectTxTimestamp (entry : ErrorQueueEntry) : ExchangePath K Unit := do
  Path.update fun exchange => { exchange with can := { exchange.can with
    lastTxErrqCount := exchange.can.lastTxErrqCount + 1 } }
  if entry.txNs ≠ 0 then
    let canId := if entry.frame.canId &&& canEffFlag ≠ 0 then entry.frame.canId &&& 0xFF
      else entry.frame.canId &&& canSffMask
    match ← Path.read fun exchange =>
        exchange.can.jointConfigs.findIdx? fun config => config.canId == canId with
    | none => pure ()
    | some joint => Path.updateDefined (updateState joint fun state => { state with
        sendTimestampNs := entry.txNs })

def collectTxTimestamps : ExchangePath K Unit := do
  Path.update fun exchange => { exchange with can := { exchange.can with lastTxErrqCount := 0 } }
  let entries ← Path.read fun exchange => exchange.can.socket.errorQueues.head?.getD []
  Path.update fun exchange => { exchange with can := { exchange.can with
    socket := { exchange.can.socket with errorQueues := exchange.can.socket.errorQueues.tail } } }
  Path.forEach collectTxTimestamp entries

/-- The length of the literal the size error is built from.  The source adds the
number of joints to the literal's address instead of appending it. -/
def sizeMessageLength : Nat := "cmds, states have to have the correct size of ".length

def numJoints (exchange : Exchange K) : Nat := exchange.can.jointConfigs.length

def checkSizes (cmds : List (JointCmd K)) : ExchangePath K Unit := do
  let size ← Path.read fun exchange => exchange.states.length
  let joints ← Path.read numJoints
  if cmds.length ≠ size ∧ cmds.length ≠ joints then
    if joints ≤ sizeMessageLength then Path.throw .outOfRange
    else Path.element fun _ => none

def sendAndReceive (cmds : List (JointCmd K)) : ExchangePath K Unit := do
  checkSizes cmds
  let txFillStartNs ← clockGettime
  Path.loopBelow numJoints (writeCommand cmds)
  let txFillEndNs ← clockGettime
  Path.update fun exchange => { exchange with can := { exchange.can with
    txFillEndNs, txFillDurationNs := txFillEndNs - txFillStartNs, lastErrorCount := 0 } }
  Path.loopBelow numJoints receiveSlot
  let receivedNs ← clockGettime
  Path.update fun exchange => { exchange with can := { exchange.can with
    rxDurationNs := receivedNs - exchange.can.txFillEndNs } }
  let enableTxTimestamping ← Path.read fun exchange => exchange.can.enableTxTimestamping
  if enableTxTimestamping then collectTxTimestamps

end CubemarsDriver.Can
