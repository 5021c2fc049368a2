import CubemarsDriver.Can.Frame
import CubemarsDriver.Foundation.Path

namespace CubemarsDriver.Can

/-! # A CAN interface and its socket

What the operating system will answer is part of the state: each system call
consumes the next result, and a list of results that is used up answers with a
timeout.  A claim about every pattern of results is a claim about every socket. -/

def eagain : Int := 11

inductive WriteResult where
  | written (enqueueNs : Int)
  | failed (errno : Int)
deriving DecidableEq, Repr

/-- A frame comes with its software and hardware arrival times and with the
time at which it was read. -/
structure Reply where
  frame : CanFrame
  rxNs : Int
  rxHwNs : Int
  dequeueNs : Int
deriving DecidableEq, Repr

inductive ReadResult where
  | frame (reply : Reply)
  | failed (errno : Int)
deriving DecidableEq, Repr

structure WriteAttempt where
  frame : CanFrame
  accepted : Bool
deriving DecidableEq, Repr

/-- An echoed command frame with its software transmission time. -/
structure ErrorQueueEntry where
  frame : CanFrame
  txNs : Int
deriving DecidableEq, Repr

structure CanFilter where
  canId : BitVec 32
  canMask : BitVec 32
deriving DecidableEq, Repr

def CanFilter.Matches (filter : CanFilter) (canId : BitVec 32) : Prop :=
  canId &&& filter.canMask = filter.canId &&& filter.canMask

instance instDecidableMatches (filter : CanFilter) (canId : BitVec 32) :
    Decidable (filter.Matches canId) :=
  inferInstanceAs (Decidable (_ = _))

/-- The kernel lets a frame through that one of the filters matches. -/
def Passes (filters : List CanFilter) (frame : CanFrame) : Prop :=
  ∃ filter ∈ filters, filter.Matches frame.canId

instance instDecidablePasses (filters : List CanFilter) (frame : CanFrame) :
    Decidable (Passes filters frame) :=
  inferInstanceAs (Decidable (∃ filter ∈ filters, _))

structure Socket where
  writes : List WriteResult := []
  reads : List ReadResult := []
  /-- What each draining of the error queue finds. -/
  errorQueues : List (List ErrorQueueEntry) := []
  /-- The results of `setsockopt(SO_RCVTIMEO)` after construction. -/
  timeoutSettings : List Bool := []
  /-- The results of `clock_gettime(CLOCK_REALTIME)` outside the per-frame times. -/
  clock : List Int := []
  errno : Int := 0
  receiveTimeout : Int × Int := (0, 0)
  filters : List CanFilter := []
  /-- Every frame handed to `::write`, oldest first. -/
  attempts : List WriteAttempt := []
deriving DecidableEq, Repr

structure CubemarsCan (K : Type) where
  canInterface : String
  enableLoopback : Bool
  enableTxTimestamping : Bool
  enableCanErrorFrames : Bool
  jointConfigs : List (JointConfig K)
  socketTimeoutSec : Int
  socketTimeoutUsec : Int
  maxInitialConnectionTrials : Nat
  sendOk : List Bool
  recvOk : List Bool
  sendOkSized : sendOk.length = jointConfigs.length
  recvOkSized : recvOk.length = jointConfigs.length
  txFillDurationNs : Int := 0
  rxDurationNs : Int := 0
  txFillEndNs : Int := 0
  lastTxErrqCount : Nat := 0
  lastErrorCount : Nat := 0
  lastErrorCanid : BitVec 32 := 0
  sendFrame : CanFrame
  socket : Socket
deriving DecidableEq

namespace Socket

def write (socket : Socket) (frame : CanFrame) : WriteResult × Socket :=
  match socket.writes with
  | [] => (.failed eagain,
      { socket with errno := eagain, attempts := socket.attempts ++ [⟨frame, false⟩] })
  | .failed errno :: rest => (.failed errno,
      { socket with writes := rest, errno, attempts := socket.attempts ++ [⟨frame, false⟩] })
  | .written enqueueNs :: rest => (.written enqueueNs,
      { socket with writes := rest, attempts := socket.attempts ++ [⟨frame, true⟩] })

def read (socket : Socket) : ReadResult × Socket :=
  match socket.reads with
  | [] => (.failed eagain, { socket with errno := eagain })
  | .failed errno :: rest => (.failed errno, { socket with reads := rest, errno })
  | .frame reply :: rest => (.frame reply, { socket with reads := rest })

def now (socket : Socket) : Int × Socket :=
  match socket.clock with
  | [] => (0, socket)
  | time :: rest => (time, { socket with clock := rest })

/-- `setsockopt(SO_RCVTIMEO)`; `false` if the call failed. -/
def setReceiveTimeout (socket : Socket) (sec usec : Int) : Bool × Socket :=
  match socket.timeoutSettings with
  | false :: rest => (false, { socket with timeoutSettings := rest })
  | true :: rest => (true, { socket with timeoutSettings := rest, receiveTimeout := (sec, usec) })
  | [] => (true, { socket with receiveTimeout := (sec, usec) })

end Socket

/-- The system calls of the constructor, in order. -/
inductive SetupStep where
  | socket
  | loopback
  | filter
  | interfaceIndex
  | bind
  | receiveTimeout
  | timestampns
  | timestamping
  | errorFilter
deriving DecidableEq, Repr

def setupSteps (enableCanErrorFrames : Bool) : List SetupStep :=
  [.socket, .loopback, .filter, .interfaceIndex, .bind, .receiveTimeout, .timestampns,
    .timestamping] ++ if enableCanErrorFrames then [.errorFilter] else []

/-- The filter entry of one joint.  `zero_added` is never set, so the entry for
identifier zero is added for every V2 joint that does not reply on its own id. -/
def jointFilter {K : Type} (config : JointConfig K) : CanFilter :=
  match config.seriesType with
  | .v2 =>
      if config.replyOnOwnId then ⟨config.canId, canSffMask ||| canEffFlag⟩
      else ⟨0, canSffMask ||| canEffFlag⟩
  | .v3 => ⟨config.canId ||| (CanPacketId.response <<< 8) ||| canEffFlag, canEffMask ||| canEffFlag⟩

/-- The constructor.  `setup` says which of its system calls succeed. -/
def CubemarsCan.create {K : Type} (canInterface : String) (enableLoopback : Bool)
    (jointConfigs : List (JointConfig K)) (socketTimeoutSec socketTimeoutUsec : Int)
    (maxInitConnectTrials : Nat) (enableTxTimestamping enableCanErrorFrames : Bool)
    (setup : SetupStep → Bool) (socket : Socket) : Except Exception (CubemarsCan K) :=
  if (setupSteps enableCanErrorFrames).all setup then
    .ok {
      canInterface, enableLoopback, enableTxTimestamping, enableCanErrorFrames, jointConfigs
      socketTimeoutSec, socketTimeoutUsec
      maxInitialConnectionTrials := maxInitConnectTrials
      sendOk := List.replicate jointConfigs.length false
      recvOk := List.replicate jointConfigs.length false
      sendOkSized := List.length_replicate
      recvOkSized := List.length_replicate
      sendFrame := { canId := 0, len := canMaxDlen, data := Vector.replicate 8 0 }
      socket := { socket with
        filters := jointConfigs.map jointFilter
        receiveTimeout := (socketTimeoutSec, socketTimeoutUsec) } }
  else .error .canInterfaceError

section Example

def freshState : JointState ℚ where
  pos := 0
  vel := 0
  torque := 0
  temp := 0
  deviceStatus := .noFault
  communicationStatus := .success
  comErrno := 0
  rxTimestampNs := 0
  sendTimestampNs := 0
  dequeueTimestampNs := 0
  enqueueTimestampNs := 0
  rxHwTimestampNs := 0

def exampleCan (canId : BitVec 32) (socket : Socket) : CubemarsCan ℚ where
  canInterface := "can0"
  enableLoopback := true
  enableTxTimestamping := false
  enableCanErrorFrames := false
  jointConfigs := [ak80 canId]
  socketTimeoutSec := 0
  socketTimeoutUsec := 1000
  maxInitialConnectionTrials := 10
  sendOk := [false]
  recvOk := [false]
  sendOkSized := rfl
  recvOkSized := rfl
  sendFrame := { canId := 0, len := 8, data := Vector.replicate 8 0 }
  socket

end Example

end CubemarsDriver.Can
