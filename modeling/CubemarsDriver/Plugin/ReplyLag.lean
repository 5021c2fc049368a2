import CubemarsDriver.Plugin.Traffic

namespace CubemarsDriver.Plugin

open Can Foundation

/-! # How far the replies lag behind the commands

A cycle reads as many replies as it has written commands, but it gives up when a write or a read
fails.  The replies that it leaves in the socket's queue are read by the callbacks after it in
place of their own, until the socket is closed or another one is set up. -/

variable {K : Type} {count : Nat}

def SocketEvent.accepted? : SocketEvent → Option CanFrame
  | .wrote frame true => some frame
  | _ => none

def SocketEvent.heard? : SocketEvent → Option CanFrame
  | .read (.frame frame) => some frame
  | _ => none

def acceptedFrames (events : List SocketEvent) : List CanFrame :=
  events.filterMap SocketEvent.accepted?

def heardFrames (events : List SocketEvent) : List CanFrame := events.filterMap SocketEvent.heard?

@[simp] theorem acceptedFrames_append (events more : List SocketEvent) :
    acceptedFrames (events ++ more) = acceptedFrames events ++ acceptedFrames more :=
  List.filterMap_append

@[simp] theorem heardFrames_append (events more : List SocketEvent) :
    heardFrames (events ++ more) = heardFrames events ++ heardFrames more := List.filterMap_append

/-- No more frames are heard than have been accepted. -/
def Answerable (events : List SocketEvent) : Prop :=
  (heardFrames events).length ≤ (acceptedFrames events).length

variable {handshakes : List ControlHandshake} {frames : List CanFrame} {writes : List Bool}
variable {reads : List ReadResult} {configs : Vector (JointConfig K) count}

@[simp] theorem acceptedFrames_cons_wrote {frame : CanFrame} {events : List SocketEvent} :
    acceptedFrames (.wrote frame true :: events) = frame :: acceptedFrames events := rfl

@[simp] theorem acceptedFrames_cons_refused {frame : CanFrame} {events : List SocketEvent} :
    acceptedFrames (.wrote frame false :: events) = acceptedFrames events := rfl

@[simp] theorem acceptedFrames_cons_read {result : ReadResult} {events : List SocketEvent} :
    acceptedFrames (.read result :: events) = acceptedFrames events := rfl

@[simp] theorem heardFrames_cons_wrote {frame : CanFrame} {accepted : Bool} {events : List SocketEvent} :
    heardFrames (.wrote frame accepted :: events) = heardFrames events := rfl

@[simp] theorem heardFrames_cons_frame {frame : CanFrame} {events : List SocketEvent} :
    heardFrames (.read (.frame frame) :: events) = frame :: heardFrames events := rfl

theorem heardFrames_cons_read_le (result : ReadResult) (events : List SocketEvent) :
    (heardFrames (.read result :: events)).length ≤ (heardFrames events).length + 1 := by
  cases result with
  | frame frame => exact le_rfl
  | _ => exact Nat.le_succ _

theorem handshakeEvents_answerable : Answerable (handshakeEvents handshakes writes reads) := by
  induction handshakes generalizing writes reads with
  | nil => exact le_rfl
  | cons handshake rest ih =>
      rw [handshakeEvents]
      split
      · have later : Answerable (if Answers handshake.canId (reads.head?.getD .failed) then
            handshakeEvents rest writes.tail reads.tail else []) := by
          split
          · exact ih
          · exact le_rfl
        have read := heardFrames_cons_read_le (reads.head?.getD .failed)
          (if Answers handshake.canId (reads.head?.getD .failed) then
            handshakeEvents rest writes.tail reads.tail else [])
        simp only [Answerable, heardFrames_cons_wrote, acceptedFrames_cons_wrote,
          acceptedFrames_cons_read, List.length_cons] at later ⊢
        omega
      · exact Nat.zero_le _

theorem exitEvents_answerable : Answerable (exitEvents handshakes writes reads) := by
  induction handshakes generalizing writes reads with
  | nil => exact le_rfl
  | cons handshake rest ih =>
      rw [exitEvents]
      split
      · have later : Answerable (exitEvents rest writes.tail reads.tail) := ih
        have read := heardFrames_cons_read_le (reads.head?.getD .failed)
          (exitEvents rest writes.tail reads.tail)
        simp only [Answerable, heardFrames_cons_wrote, acceptedFrames_cons_wrote,
          acceptedFrames_cons_read, List.length_cons] at later ⊢
        omega
      · exact ih

theorem sentEvents_heard : heardFrames (sentEvents frames writes) = [] := by
  induction frames generalizing writes with
  | nil => rfl
  | cons frame rest ih =>
      rw [sentEvents]
      split
      · exact ih
      · rfl

theorem sentEvents_accepted (accepts : Accepts frames.length writes) :
    acceptedFrames (sentEvents frames writes) = frames := by
  induction frames generalizing writes with
  | nil => rfl
  | cons frame rest ih =>
      obtain ⟨later, rfl⟩ := accepts
      have acceptsRest : Accepts rest.length (List.replicate rest.length true ++ later) := ⟨later, rfl⟩
      simp only [List.length_cons, List.replicate_succ, List.cons_append, sentEvents,
        List.head?_cons, Option.getD_some, if_true, List.tail_cons, acceptedFrames_cons_wrote,
        ih acceptsRest]

theorem readEvents_heard_le {remaining : Nat} :
    (heardFrames (readEvents configs remaining reads)).length ≤ remaining ∧
      acceptedFrames (readEvents configs remaining reads) = [] := by
  induction remaining generalizing reads with
  | zero => exact ⟨le_rfl, rfl⟩
  | succ remaining ih =>
      cases result : reads.head?.getD .failed with
      | frame frame =>
          simp only [readEvents, result, heardFrames_cons_frame, acceptedFrames_cons_read,
            List.length_cons]
          split
          · exact ⟨Nat.succ_le_succ ih.1, ih.2⟩
          · exact ⟨Nat.succ_le_succ (Nat.zero_le _), rfl⟩
      | _ =>
          simp only [readEvents, result]
          exact ⟨Nat.zero_le _, rfl⟩

theorem readEvents_heard {later : List ReadResult} (delivered : reads = frames.map .frame ++ later)
    (harmless : ∀ frame ∈ frames, Harmless configs frame) :
    heardFrames (readEvents configs frames.length reads) = frames := by
  induction frames generalizing reads with
  | nil => rfl
  | cons frame rest ih =>
      rw [delivered]
      simp only [List.map_cons, List.cons_append, List.length_cons, readEvents, List.head?_cons,
        Option.getD_some, List.tail_cons, heardFrames_cons_frame,
        if_pos (harmless frame List.mem_cons_self)]
      rw [ih rfl fun other member => harmless other (List.mem_cons_of_mem frame member)]

section Model

variable [Scalar K] {plugin : ConnectedInterface K count} {callback : Callback K count}

theorem commandFrames_length : (commandFrames plugin).length = count := by
  rw [commandFrames, List.length_map, sortedIdx_length]

theorem cycleEvents_answerable : Answerable (cycleEvents plugin writes reads) := by
  rw [Answerable, cycleEvents, heardFrames_append, acceptedFrames_append, sentEvents_heard]
  split
  next accepts =>
    have few : (heardFrames (readEvents plugin.hwJointConfigs count reads)).length ≤ count :=
      readEvents_heard_le.1
    have all : acceptedFrames (sentEvents (commandFrames plugin) writes) = commandFrames plugin :=
      sentEvents_accepted (by rwa [commandFrames_length])
    rw [all, List.nil_append, List.length_append, commandFrames_length]
    exact few.trans (Nat.le_add_right _ _)
  next => exact Nat.zero_le _

theorem callbackEvents_answerable : Answerable (callbackEvents plugin callback) := by
  cases callback with
  | onActivate writes reads => exact handshakeEvents_answerable
  | onDeactivate writes reads => exact exitEvents_answerable
  | destroy writes reads => exact exitEvents_answerable
  | write writes reads => exact cycleEvents_answerable
  | _ => exact le_rfl

/-- A cycle that succeeds has all its commands accepted and hears as many frames. -/
theorem cycleEvents_ok
    (ok : (write { plugin with canSocket := { writes, reads } }).1 = .ok) :
    acceptedFrames (cycleEvents plugin writes reads) = commandFrames plugin ∧
      (heardFrames (cycleEvents plugin writes reads)).length = count := by
  obtain ⟨frames, served⟩ := served_of_ok ok
  obtain ⟨later, delivered⟩ := served.delivered
  have accepts : Accepts count writes := by
    obtain ⟨others, accepted⟩ := served.accepted
    exact ⟨others, accepted.symm⟩
  have heard := readEvents_heard delivered served.harmless
  have one_each : frames.length = count := served.one_each
  have all : acceptedFrames (sentEvents (commandFrames plugin) writes) = commandFrames plugin :=
    sentEvents_accepted (by rwa [commandFrames_length])
  rw [cycleEvents, if_pos accepts, acceptedFrames_append, heardFrames_append, all, sentEvents_heard,
    readEvents_heard_le.2, List.append_nil, List.nil_append]
  rw [one_each] at heard
  exact ⟨rfl, (congrArg List.length heard).trans one_each⟩

variable [StdNumbers K] {names : InterfaceNames} {start component after : ManagedInterface K count}
variable {callbacks : List (Callback K count)}

/-- A callback that neither closes the socket nor sets up another one. -/
def Callback.KeepsSocket : Callback K count → Prop
  | .onConfigure _ | .onCleanup => False
  | _ => True

/-- What has been done on the bus from one state to a later one. -/
def eventsSince (start component : ManagedInterface K count) : List SocketEvent :=
  (component.traffic.drop start.traffic.length).map Transfer.event

def sentSince (start component : ManagedInterface K count) : Nat :=
  (acceptedFrames (eventsSince start component)).length

/-- The frames that have been accepted and no reply has been read for, in a run on one socket. -/
def backlog (start component : ManagedInterface K count) : Nat :=
  sentSince start component - (heardFrames (eventsSince start component)).length

/-- The callback hears a frame for each one that it has sent. -/
def Balanced (component : ManagedInterface K count) (callback : Callback K count) : Prop :=
  (heardFrames (callbackEvents component.toConnectedInterface callback)).length =
    (acceptedFrames (callbackEvents component.toConnectedInterface callback)).length

/-- The traffic of a run, which hears as many frames as it sends only if each callback does. -/
theorem run_traffic (run : runSteps (operate names) start callbacks = some component) :
    ∃ transfers, component.traffic = start.traffic ++ transfers ∧
      Answerable (transfers.map Transfer.event) ∧
      ((heardFrames (transfers.map Transfer.event)).length =
          (acceptedFrames (transfers.map Transfer.event)).length ↔
        EveryStep (operate names) Balanced start callbacks) := by
  induction callbacks generalizing start with
  | nil =>
      cases run
      exact ⟨[], (List.append_nil _).symm, le_rfl, iff_of_true rfl trivial⟩
  | cons callback rest ih =>
      obtain ⟨next, taken, remaining⟩ := runSteps_cons.mp run
      obtain ⟨later, traffic, answerable, balanced⟩ := ih remaining
      obtain ⟨first, _⟩ := operate_run taken
      have events : (start.transfers (callbackEvents start.toConnectedInterface callback)).map
          Transfer.event = callbackEvents start.toConnectedInterface callback := by
        rw [ManagedInterface.transfers, List.map_map]
        exact List.map_id _
      have own : Answerable (callbackEvents start.toConnectedInterface callback) :=
        callbackEvents_answerable
      refine ⟨_, by rw [traffic, first, List.append_assoc], ?_, ?_⟩
      all_goals rw [List.map_append, events]
      · simp only [Answerable, heardFrames_append, acceptedFrames_append, List.length_append] at *
        omega
      · have everyStep : EveryStep (operate names) Balanced start (callback :: rest) ↔
            Balanced start callback ∧ EveryStep (operate names) Balanced next rest := by
          rw [EveryStep, taken]
          simp
        rw [everyStep, ← balanced]
        simp only [Answerable, Balanced, heardFrames_append, acceptedFrames_append,
          List.length_append] at *
        omega

omit [Scalar K] [StdNumbers K] in
theorem eventsSince_of_traffic {transfers : List Transfer}
    (traffic : component.traffic = start.traffic ++ transfers) :
    eventsSince start component = transfers.map Transfer.event := by
  rw [eventsSince, traffic, List.drop_left]

omit [Scalar K] [StdNumbers K] in
theorem events_of_transfers (events : List SocketEvent) :
    (component.transfers events).map Transfer.event = events := by
  rw [ManagedInterface.transfers, List.map_map]
  exact List.map_id _

theorem operate_keepsSocket {callback : Callback K count} (keeps : callback.KeepsSocket)
    (ran : operate names component callback = some after) :
    after.canSocketFd = component.canSocketFd := by
  unfold operate at ran
  split at ran
  · cases ran
  cases callback with
  | onConfigure calls => exact keeps.elim
  | onCleanup => exact keeps.elim
  | _ =>
      cases ran
      rfl

/-- Everything that such callbacks do on the bus is done on one socket. -/
theorem run_keepsSocket (keep : ∀ callback ∈ callbacks, callback.KeepsSocket)
    (run : runSteps (operate names) start callbacks = some component) :
    component.canSocketFd = start.canSocketFd ∧
      ∀ transfer ∈ component.traffic.drop start.traffic.length,
        transfer.descriptor = start.canSocketFd := by
  induction callbacks generalizing start with
  | nil =>
      cases run
      refine ⟨rfl, fun transfer member => ?_⟩
      rw [List.drop_length] at member
      cases member
  | cons callback rest ih =>
      obtain ⟨next, taken, remaining⟩ := runSteps_cons.mp run
      have same := operate_keepsSocket (keep callback List.mem_cons_self) taken
      obtain ⟨fd, later⟩ := ih (fun other member => keep other (List.mem_cons_of_mem callback member))
        remaining
      obtain ⟨first, _⟩ := operate_run taken
      obtain ⟨transfers, traffic, _⟩ := run_traffic remaining
      refine ⟨fd.trans same, fun transfer member => ?_⟩
      rw [traffic, List.drop_left, same] at later
      rw [traffic, first, List.append_assoc, List.drop_left, List.mem_append] at member
      rcases member with own | others
      · obtain ⟨event, _, rfl⟩ := List.mem_map.mp own
        rfl
      · exact later transfer others

/-- The backlog grows with the callbacks that miss a reply, and nothing makes it smaller. -/
theorem backlog_le (run : runSteps (operate names) start callbacks = some component)
    {more : List (Callback K count)}
    (goesOn : runSteps (operate names) component more = some after) :
    backlog start component ≤ backlog start after := by
  obtain ⟨early, traffic, answerable, _⟩ := run_traffic run
  obtain ⟨late, trafficLate, answerableLate, _⟩ := run_traffic goesOn
  rw [traffic, List.append_assoc] at trafficLate
  rw [backlog, backlog, sentSince, sentSince, eventsSince_of_traffic traffic,
    eventsSince_of_traffic trafficLate]
  simp only [Answerable, List.map_append, heardFrames_append, acceptedFrames_append,
    List.length_append] at *
  omega

/-- While the plugin keeps its socket, on a bus that answers each frame once and in order: a cycle
that succeeds hears the replies to the frames that were sent a whole backlog before its own
commands.  They are the replies to its own commands exactly if every callback since then has heard
as many frames as it has sent, and a backlog remains until the socket is closed or replaced. -/
theorem replies_lag {answer : Nat → CanFrame}
    (oneSocket : ∀ callback ∈ callbacks, callback.KeepsSocket)
    (run : runSteps (operate names) start callbacks = some component)
    (written : operate names component (.write writes reads) = some after)
    (ok : (onBus write writes reads component).1 = .ok)
    (inOrder : heardFrames (eventsSince start after) =
      (List.range (heardFrames (eventsSince start after)).length).map answer) :
    (∀ transfer ∈ after.traffic.drop start.traffic.length,
        transfer.descriptor = start.canSocketFd) ∧
      heardFrames (eventsSince component after) =
        (List.range' (sentSince start component - backlog start component) count).map answer ∧
      acceptedFrames (eventsSince component after) = commandFrames component.toConnectedInterface ∧
      (backlog start component = 0 ↔ EveryStep (operate names) Balanced start callbacks) ∧
      ∀ (later : ManagedInterface K count) (more : List (Callback K count)),
        (∀ callback ∈ more, callback.KeepsSocket) →
        runSteps (operate names) after more = some later →
          backlog start component ≤ backlog start later := by
  obtain ⟨early, traffic, answerable, balanced⟩ := run_traffic run
  obtain ⟨trafficWritten, _⟩ := operate_run written
  obtain ⟨sent, heard⟩ := cycleEvents_ok ok
  have own : eventsSince component after = cycleEvents component.toConnectedInterface writes reads := by
    rw [eventsSince_of_traffic trafficWritten, events_of_transfers]
    rfl
  have trafficBoth := trafficWritten
  rw [traffic, List.append_assoc] at trafficBoth
  have before := eventsSince_of_traffic traffic
  have both := eventsSince_of_traffic trafficBoth
  rw [List.map_append, events_of_transfers, ← before] at both
  have split : eventsSince start after = eventsSince start component ++ eventsSince component after := by
    rw [both, own]
    rfl
  rw [← before] at answerable balanced
  have number : sentSince start component - backlog start component =
      (heardFrames (eventsSince start component)).length := by
    simp only [backlog, sentSince, Answerable] at *
    omega
  have first : runSteps (operate names) component [.write writes reads] = some after :=
    runSteps_cons.mpr ⟨after, written, rfl⟩
  refine ⟨?_, ?_, own ▸ sent, ?_, fun later more _ goesOn => ?_⟩
  · refine (run_keepsSocket (fun callback member => ?_) (runSteps_append.mpr ⟨component, run, first⟩)).2
    rcases List.mem_append.mp member with earlier | last
    · exact oneSocket callback earlier
    · cases List.mem_singleton.mp last
      trivial
  · rw [← own] at heard
    rw [split, heardFrames_append, List.length_append, heard, List.range_add, List.map_append] at inOrder
    have parts := List.append_inj inOrder (by rw [List.length_map, List.length_range])
    rw [number, parts.2, List.range'_eq_map_range, List.map_map]
  · rw [← balanced, backlog, sentSince]
    simp only [Answerable] at answerable
    omega
  · exact backlog_le run (runSteps_append.mpr ⟨after, first, goesOn⟩)

end Model

section Example

/-- Numbers as the example's description has them. -/
@[reducible] def plainNumbers : StdNumbers ℚ where
  stoi _ := some 1
  stod _ := some 0
  quietNaN := 0

attribute [local instance] plainNumbers

def pairDescription : ComponentInfo where
  name := "left"
  parameters _ := ""
  commandInterfaces := []

/-- Two motors with a socket whose queue is empty. -/
def managedPair : ManagedInterface ℚ 2 where
  toConnectedInterface := { twoMotors [] with canSocket := {} }
  infoJoints := .replicate 2 pairDescription
  canInterface := "can0"
  enableLoopback := false
  canSocketFd := some 5
  openSockets := [{ descriptor := 5 }]

/-- The command of the first motor, which comes last, is refused. -/
def laggingPair : ManagedInterface ℚ 2 := (onBus write [true, false] [] managedPair).2

def bothFromSecond : List ReadResult := [.frame (motorFrame 2), .frame (motorFrame 2)]

/-- Only the second motor has been written to before the cycle that succeeds. -/
def replyNumber (number : Nat) : CanFrame := motorFrame (if number < 2 then 2 else 1)

/-- The cycle after a refused write hears the second motor twice and the first one not at all. -/
theorem replies_lag_pair : ∃ after : ManagedInterface ℚ 2,
    operate interfaceNames laggingPair (.write [true, true] bothFromSecond) = some after ∧
      backlog managedPair laggingPair = 1 ∧
      heardFrames (eventsSince laggingPair after) = [replyNumber 0, replyNumber 1] ∧
      ¬EveryStep (operate interfaceNames) Balanced managedPair [.write [true, false] []] := by
  have run : runSteps (operate interfaceNames) managedPair [.write [true, false] []] =
      some laggingPair := rfl
  have written : operate interfaceNames laggingPair (.write [true, true] bothFromSecond) =
      some (onBus write [true, true] bothFromSecond laggingPair).2 := rfl
  have missed : backlog managedPair laggingPair = 1 := by decide +kernel
  have sent : sentSince managedPair laggingPair = 1 := by decide +kernel
  have inOrder : heardFrames (eventsSince managedPair (onBus write [true, true] bothFromSecond
      laggingPair).2) = (List.range 2).map replyNumber := by decide +kernel
  have oneSocket : ∀ callback ∈ [(Callback.write [true, false] [] : Callback ℚ 2)],
      callback.KeepsSocket := by
    intro callback member
    cases List.mem_singleton.mp member
    trivial
  obtain ⟨_, heard, _, balanced, _⟩ := replies_lag oneSocket run written (by decide +kernel) inOrder
  rw [missed] at heard balanced
  rw [sent] at heard
  exact ⟨_, written, missed, heard, fun every => absurd (balanced.mpr every) (by decide)⟩

end Example

end CubemarsDriver.Plugin
