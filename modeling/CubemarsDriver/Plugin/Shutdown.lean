import CubemarsDriver.Plugin.ReplyLag

namespace CubemarsDriver.Plugin

open Can Foundation

/-! # How the plugin ends

A deactivation and the destructor send an exit frame to every joint, whatever has failed before.
`on_cleanup` closes the socket in use, and one that was only set up half way stays open. -/

variable {K : Type} {count : Nat}

def SocketEvent.written? : SocketEvent → Option CanFrame
  | .wrote frame _ => some frame
  | .read _ => none

def writtenFrames (events : List SocketEvent) : List CanFrame :=
  events.filterMap SocketEvent.written?

/-- The frame that was addressed to an identifier last. -/
def lastFrameTo (canId : BitVec 32) (events : List SocketEvent) : Option CanFrame :=
  ((writtenFrames events).filter fun frame => frame.canId = canId).getLast?

theorem exitEvents_written {handshakes : List ControlHandshake} {writes : List Bool}
    {reads : List ReadResult} :
    writtenFrames (exitEvents handshakes writes reads) = handshakes.map ControlHandshake.frame := by
  induction handshakes generalizing writes reads with
  | nil => rfl
  | cons handshake rest ih =>
      rw [exitEvents]
      split
      · exact congrArg (handshake.frame :: ·) ih
      · exact congrArg (handshake.frame :: ·) ih

theorem getLast?_append_same {α : Type} {earlier later : List α} {value : α}
    (some : later ≠ []) (same : ∀ other ∈ later, other = value) :
    (earlier ++ later).getLast? = .some value := by
  have last := List.getLast_mem some
  rw [List.getLast?_append, List.getLast?_eq_some_getLast some, same _ last]
  rfl

theorem last_of_exit {joints : List (JointConfig K)} {joint : JointConfig K} (member : joint ∈ joints)
    (earlier : List CanFrame) :
    ((earlier ++ (exitHandshakes joints).map ControlHandshake.frame).filter
      fun frame => frame.canId = joint.canId).getLast? = some (exitHandshake joint.canId).frame := by
  rw [List.filter_append]
  have own : (exitHandshake joint.canId).frame ∈ ((exitHandshakes joints).map
      ControlHandshake.frame).filter fun frame => frame.canId = joint.canId := by
    refine List.mem_filter.mpr ⟨?_, decide_eq_true rfl⟩
    exact List.mem_map_of_mem (List.mem_map_of_mem member)
  apply getLast?_append_same (List.ne_nil_of_mem own)
  intro other among
  obtain ⟨exit, addressed⟩ := List.mem_filter.mp among
  obtain ⟨handshake, listed, rfl⟩ := List.mem_map.mp exit
  obtain ⟨config, _, rfl⟩ := List.mem_map.mp listed
  have same : config.canId = joint.canId := of_decide_eq_true addressed
  rw [same]

section Exit

variable [Scalar K] [StdNumbers K] {names : InterfaceNames}
variable {start component final : ManagedInterface K count} {callbacks : List (Callback K count)}
variable {ending : Callback K count} {writes : List Bool} {reads : List ReadResult}

/-- The callback that takes the motors out of motor control mode. -/
def SwitchesOff (writes : List Bool) (reads : List ReadResult) (ending : Callback K count) : Prop :=
  ending = .onDeactivate writes reads ∨ ending = .destroy writes reads

omit [StdNumbers K] in
theorem SwitchesOff.events {plugin : ConnectedInterface K count}
    (ends : SwitchesOff writes reads ending) : callbackEvents plugin ending =
      exitEvents (exitHandshakes plugin.hwJointConfigs.toList) writes reads := by
  rcases ends with rfl | rfl <;> rfl

theorem destroyed_operate (gone : component.destroyed = true) (callback : Callback K count) :
    operate names component callback = none := by
  unfold operate
  rw [if_pos gone]

/-- At the end of every run that a deactivation or the destructor ends, the last frame addressed to
each joint is its exit frame: none is left out, whatever was refused or not answered before.  The
deactivation succeeds exactly if every exit frame is accepted and answered by its own joint without
a fault, and nothing follows the destructor. -/
theorem ends_with_exit (ends : SwitchesOff writes reads ending)
    (run : runSteps (operate names) start (callbacks ++ [ending]) = some final) :
    ∃ component, runSteps (operate names) start callbacks = some component ∧
      writtenFrames (eventsSince component final) =
        component.hwJointConfigs.toList.map (fun joint => (exitHandshake joint.canId).frame) ∧
      (∀ joint : Fin count, lastFrameTo (final.hwJointConfigs.get joint).canId
        (final.traffic.map Transfer.event) =
          some (exitHandshake (final.hwJointConfigs.get joint).canId).frame) ∧
      ((onBus onDeactivate writes reads component).1 = .success ↔
        Answered (exitHandshakes component.hwJointConfigs.toList) writes reads) ∧
      (ending = .destroy writes reads → ∀ callback, operate names final callback = none) := by
  obtain ⟨component, before, last⟩ := runSteps_append.mp run
  obtain ⟨next, taken, same⟩ := runSteps_cons.mp last
  cases same
  obtain ⟨traffic, keeps⟩ := operate_run taken
  rw [ends.events] at traffic
  have configs : final.hwJointConfigs = component.hwJointConfigs := keeps.hwJointConfigs
  refine ⟨component, before, ?_, fun joint => ?_, (onDeactivate_run _).1, ?_⟩
  · rw [eventsSince_of_traffic traffic, events_of_transfers, exitEvents_written, exitHandshakes,
      List.map_map]
    rfl
  · have member : component.hwJointConfigs.get joint ∈ component.hwJointConfigs.toList := by
      rw [Vector.mem_toList_iff]
      exact Vector.getElem_mem joint.isLt
    rw [configs, lastFrameTo, traffic, List.map_append, events_of_transfers, writtenFrames,
      List.filterMap_append]
    have exits : (exitEvents (exitHandshakes component.hwJointConfigs.toList) writes reads).filterMap
        SocketEvent.written? = _ := exitEvents_written
    rw [exits]
    exact last_of_exit member _
  · rintro rfl callback
    apply destroyed_operate
    unfold operate at taken
    split at taken
    · cases taken
    · cases taken
      rfl

/-- A write fails, then the destructor comes: the first motor's exit frame is refused, and the
second one's is sent all the same. -/
theorem ends_with_exit_pair : ∃ final : ManagedInterface ℚ 2,
    @runSteps _ _ (@operate ℚ 2 _ plainNumbers interfaceNames) managedPair
        [.write [true, false] [], .destroy [false, true] []] = some final ∧
      (onBus write [true, false] [] managedPair).1 = .error ∧
      ∀ joint : Fin 2, lastFrameTo (final.hwJointConfigs.get joint).canId
        (final.traffic.map Transfer.event) =
          some (exitHandshake (final.hwJointConfigs.get joint).canId).frame := by
  let := plainNumbers
  have written : operate interfaceNames managedPair (.write [true, false] []) = some laggingPair := rfl
  have taken : operate interfaceNames laggingPair (.destroy [false, true] []) =
      some { (onBus onDeactivate [false, true] [] laggingPair).2 with destroyed := true } := rfl
  have run := runSteps_append.mpr ⟨laggingPair, runSteps_cons.mpr ⟨_, written, runSteps_nil⟩,
    runSteps_cons.mpr ⟨_, taken, runSteps_nil⟩⟩
  obtain ⟨_, _, _, last, _⟩ := ends_with_exit (.inr rfl) run
  exact ⟨_, run, by decide +kernel, last⟩

end Exit

/-- The plugin's descriptor is that of an open socket that was set up to the end. -/
def Connected (component : ManagedInterface K count) : Prop :=
  ∃ socket ∈ component.openSockets, some socket.descriptor = component.canSocketFd ∧
    socket.receiveTimeoutUs.isSome

instance instDecidableConnected (component : ManagedInterface K count) :
    Decidable (Connected component) :=
  inferInstanceAs (Decidable (∃ socket ∈ component.openSockets, _))

/-- What a socket is set up as. -/
def RawSocket.ServesAs (socket : RawSocket) (component : ManagedInterface K count) : Prop :=
  socket.loopback = some component.enableLoopback ∧
    socket.filter = some (rfilter component.hwJointConfigs) ∧
    socket.boundTo = some component.canInterface ∧ socket.receiveTimeoutUs = some 500000

def SocketCalls.getToTheEnd (calls : SocketCalls) : Bool :=
  calls.setLoopback && calls.setFilter && calls.findIndex && calls.bind && calls.setTimeout

/-- A configuration that creates a socket and fails in a call of `setup_socket` after that. -/
def Callback.losesSocket : Callback K count → Bool
  | .onConfigure calls => calls.socket.isSome && !calls.getToTheEnd
  | _ => false

/-- The framework configures a component that is not configured, and cleans up one that is.  A
configuration that throws at a parameter comes after the socket has been set up to the end: the
component counts as configured, and configuring it again is out of order. -/
def Orderly (component : ManagedInterface K count) : Callback K count → Prop
  | .onConfigure _ => ¬Connected component
  | .onCleanup => Connected component
  | _ => True

/-- The open sockets are the one in use and those that were lost. -/
structure Accounted (component : ManagedInterface K count) (lost : Nat) : Prop where
  distinct : component.descriptors.Nodup
  complete : ∀ socket ∈ component.openSockets, socket.receiveTimeoutUs.isSome →
    some socket.descriptor = component.canSocketFd ∧ socket.ServesAs component
  count : component.openSockets.length = lost + if Connected component then 1 else 0

/-- The socket gets its timeout last, and then it has been set up as asked for. -/
theorem prepareSocket_run (calls : SocketCalls) (enableLoopback : Bool) (filter : List CanFilter)
    (canInterface : String) (descriptor : Nat) :
    let prepared := (prepareSocket calls enableLoopback filter canInterface { descriptor }).2
    prepared.descriptor = descriptor ∧
      prepared.receiveTimeoutUs.isSome = calls.getToTheEnd ∧
      (prepared.receiveTimeoutUs.isSome → prepared = {
        descriptor
        loopback := some enableLoopback
        filter := some filter
        boundTo := some canInterface
        receiveTimeoutUs := some 500000 }) := by
  unfold prepareSocket SocketCalls.getToTheEnd
  split_ifs <;> simp_all

/-- Of items with distinct keys, one is left out where a key is. -/
theorem length_filter_ne {α β : Type} [DecidableEq β] (key : α → β) {items : List α}
    (distinct : (items.map key).Nodup) {item : α} (member : item ∈ items) :
    (items.filter fun other => key other ≠ key item).length + 1 = items.length := by
  have erased := distinct.erase_eq_filter (key item)
  have mapped : ((items.map key).filter (· != key item)).length =
      (items.filter fun other => key other ≠ key item).length := by
    rw [List.filter_map, List.length_map]
    apply congrArg List.length
    apply List.filter_congr
    intro other _
    by_cases same : key other = key item <;> simp [same]
  have length := List.length_erase_of_mem (List.mem_map_of_mem (f := key) member)
  rw [erased, mapped, List.length_map] at length
  have positive := List.length_pos_of_mem member
  omega

section Sockets

variable {component after : ManagedInterface K count} {lost : Nat}

theorem Accounted.same (accounted : Accounted component lost)
    (fd : after.canSocketFd = component.canSocketFd)
    (sockets : after.openSockets = component.openSockets)
    (loopback : after.enableLoopback = component.enableLoopback)
    (interface : after.canInterface = component.canInterface)
    (configs : after.hwJointConfigs = component.hwJointConfigs) : Accounted after lost := by
  have connected : Connected after ↔ Connected component := by rw [Connected, Connected, fd, sockets]
  refine ⟨?_, fun socket member complete => ?_, ?_⟩
  · rw [ManagedInterface.descriptors, sockets]
    exact accounted.distinct
  · rw [sockets] at member
    rw [RawSocket.ServesAs, fd, loopback, interface, configs]
    exact accounted.complete socket member complete
  · rw [sockets, accounted.count]
    simp only [connected]

/-- A socket is created where none is in use. -/
theorem Accounted.opened {socket : RawSocket} (accounted : Accounted component lost)
    (idle : ¬Connected component) (fresh : socket.descriptor ∉ component.descriptors)
    (serves : socket.receiveTimeoutUs.isSome → socket.ServesAs after)
    (fd : after.canSocketFd = some socket.descriptor)
    (sockets : after.openSockets = socket :: component.openSockets) :
    Accounted after (lost + if socket.receiveTimeoutUs.isSome then 0 else 1) := by
  have incomplete : ∀ other ∈ component.openSockets, ¬other.receiveTimeoutUs.isSome = true :=
    fun other member complete =>
      idle ⟨other, member, (accounted.complete other member complete).1, complete⟩
  have connected : Connected after ↔ socket.receiveTimeoutUs.isSome = true := by
    rw [Connected, sockets]
    constructor
    · rintro ⟨other, member, _, complete⟩
      rcases List.mem_cons.mp member with rfl | old
      · exact complete
      · exact absurd complete (incomplete other old)
    · intro complete
      exact ⟨socket, List.mem_cons_self, fd.symm, complete⟩
  refine ⟨?_, fun other member complete => ?_, ?_⟩
  · rw [ManagedInterface.descriptors, sockets, List.map_cons, List.nodup_cons]
    exact ⟨fresh, accounted.distinct⟩
  · rw [sockets] at member
    rcases List.mem_cons.mp member with rfl | old
    · exact ⟨fd.symm, serves complete⟩
    · exact absurd complete (incomplete other old)
  · have before := accounted.count
    rw [if_neg idle] at before
    rw [sockets, List.length_cons, before]
    by_cases complete : socket.receiveTimeoutUs.isSome = true
    · rw [if_pos complete, if_pos (connected.mpr complete)]
    · rw [if_neg complete, if_neg (complete ∘ connected.mp)]

theorem Accounted.closed (accounted : Accounted component lost) (connected : Connected component) :
    Accounted (onCleanup component).2 lost := by
  obtain ⟨used, member, own, complete⟩ := connected
  have kept : (onCleanup component).2.openSockets = component.openSockets.filter fun socket =>
      some socket.descriptor ≠ component.canSocketFd := rfl
  have idle : ¬Connected (onCleanup component).2 := by
    rintro ⟨socket, among, same, _⟩
    rw [kept] at among
    exact absurd same (of_decide_eq_true (List.mem_filter.mp among).2)
  refine ⟨?_, fun socket among finished => ?_, ?_⟩
  · exact accounted.distinct.sublist (List.filter_sublist.map _)
  · have there := (List.mem_filter.mp among).1
    exact accounted.complete socket there finished
  · have one := length_filter_ne RawSocket.descriptor accounted.distinct member
    have before := accounted.count
    rw [if_pos ⟨used, member, own, complete⟩] at before
    rw [if_neg idle, kept]
    simp only [← own, ne_eq, Option.some.injEq] at one ⊢
    omega

variable [Scalar K] [StdNumbers K] {names : InterfaceNames}

theorem onConfigure_socket (calls : SocketCalls) (component : ManagedInterface K count) :
    let configured := (onConfigure names calls component).2
    configured.canSocketFd = (setupSocket calls component).2.canSocketFd ∧
      configured.openSockets = (setupSocket calls component).2.openSockets ∧
      configured.enableLoopback = component.enableLoopback ∧
      configured.canInterface = component.canInterface := by
  have setup : (setupSocket calls component).2.enableLoopback = component.enableLoopback ∧
      (setupSocket calls component).2.canInterface = component.canInterface := by
    unfold setupSocket
    cases calls.socket <;> exact ⟨rfl, rfl⟩
  rw [onConfigure]
  split
  next failed => rw [failed] at setup ⊢; exact ⟨rfl, rfl, setup⟩
  next prepared => rw [prepared] at setup ⊢; exact ⟨rfl, rfl, setup⟩

theorem Accounted.step {callback : Callback K count} (accounted : Accounted component lost)
    (orderly : Orderly component callback)
    (ran : operate names component callback = some after) :
    Accounted after (lost + if callback.losesSocket then 1 else 0) := by
  have configs : after.hwJointConfigs = component.hwJointConfigs := (operate_run ran).2.hwJointConfigs
  unfold operate at ran
  split at ran
  · cases ran
  cases callback with
  | onConfigure calls =>
      simp only at ran
      split at ran
      · cases ran
      next fresh =>
      cases ran
      obtain ⟨fd, sockets, loopback, interface⟩ :=
        @onConfigure_socket K count _ _ names calls component
      cases created : calls.socket with
      | none =>
          simp only [setupSocket, created] at fd sockets
          simp only [Callback.losesSocket, created, Option.isSome_none, Bool.false_and,
            Bool.false_eq_true, if_false]
          exact accounted.same fd sockets loopback interface configs
      | some descriptor =>
          simp only [setupSocket, created] at fd sockets
          obtain ⟨same, finished, serves⟩ := prepareSocket_run calls component.enableLoopback
            (rfilter component.hwJointConfigs) component.canInterface descriptor
          rw [← same] at fd
          have new : (prepareSocket calls component.enableLoopback (rfilter component.hwJointConfigs)
              component.canInterface { descriptor }).2.descriptor ∉ component.descriptors := by
            rw [same]
            exact fun used => fresh ⟨descriptor, created, used⟩
          have opened := accounted.opened orderly new (fun complete => ?_) fd sockets
          · rw [finished] at opened
            simp only [Callback.losesSocket, created, Option.isSome_some, Bool.true_and]
            cases ended : calls.getToTheEnd <;> simpa [ended] using opened
          · rw [serves complete, RawSocket.ServesAs, loopback, interface, configs]
            exact ⟨rfl, rfl, rfl, rfl⟩
  | onCleanup =>
      cases ran
      exact accounted.closed orderly
  | _ =>
      cases ran
      exact accounted.same rfl rfl rfl rfl configs

theorem Accounted.run {callbacks : List (Callback K count)} (accounted : Accounted component lost)
    (orderly : EveryStep (operate names) Orderly component callbacks)
    (run : runSteps (operate names) component callbacks = some after) :
    Accounted after (lost + callbacks.countP Callback.losesSocket) := by
  induction callbacks generalizing component lost with
  | nil =>
      cases run
      exact accounted
  | cons callback rest ih =>
      obtain ⟨next, taken, remaining⟩ := runSteps_cons.mp run
      have later := ih (accounted.step orderly.1 taken) (orderly.2 next taken) remaining
      rwa [Nat.add_assoc, Nat.add_comm _ (rest.countP _), ← List.countP_cons] at later

theorem onInit_accounted {initialised : Bool} {info : HardwareInfo count}
    (init : onInit initialised info = .success component) : Accounted component 0 := by
  have none : component.openSockets = [] := by
    simp only [onInit] at init
    split_ifs at init
    cases init
    rfl
  have idle : ¬Connected component := by
    rw [Connected, none]
    rintro ⟨socket, member, _⟩
    cases member
  refine ⟨?_, fun socket member => ?_, ?_⟩
  · rw [ManagedInterface.descriptors, none]
    exact List.nodup_nil
  · rw [none] at member
    cases member
  · rw [none, if_neg idle]
    rfl

/-- In every run of an initialised plugin in which the framework configures it only while it is
not configured, and cleans it up only while it is, the sockets that are open are the one in use
and one for each configuration that failed in a call of `setup_socket` after `socket`, which
nothing closes any more.
The one in use has the loopback, the filter and the interface of the robot description. -/
theorem sockets_accounted {initialised : Bool} {info : HardwareInfo count}
    {start final : ManagedInterface K count} {callbacks : List (Callback K count)}
    (init : onInit initialised info = .success start)
    (orderly : EveryStep (operate names) Orderly start callbacks)
    (run : runSteps (operate names) start callbacks = some final) :
    final.openSockets.length =
        callbacks.countP Callback.losesSocket + (if Connected final then 1 else 0) ∧
      final.descriptors.Nodup ∧
      ∀ socket ∈ final.openSockets, socket.receiveTimeoutUs.isSome →
        some socket.descriptor = final.canSocketFd ∧ socket.ServesAs final := by
  have accounted := (onInit_accounted init).run orderly run
  rw [Nat.zero_add] at accounted
  exact ⟨accounted.count, accounted.distinct, accounted.complete⟩

section Example

attribute [local instance] plainNumbers

/-- One motor on `can0`, described by texts that all read as numbers. -/
def singleMotor : HardwareInfo 1 where
  hardwareParameters key := if key = "can_interface" then "can0" else ""
  joints := .replicate 1 pairDescription

/-- The interface is not there at first. -/
def twoAttempts : List (Callback ℚ 1) :=
  [.onConfigure { socket := some 5, findIndex := false }, .onConfigure { socket := some 6 }]

/-- The socket of a configuration that has failed stays open beside the one in use. -/
theorem sockets_accounted_single : ∃ start final : ManagedInterface ℚ 1,
    onInit true singleMotor = .success start ∧
      runSteps (operate interfaceNames) start twoAttempts = some final ∧
      Connected final ∧ final.openSockets.length = 2 := by
  refine ⟨_, _, rfl, rfl, by decide +kernel, ?_⟩
  have accounted := fun orderly => @sockets_accounted ℚ 1 _ _ interfaceNames true singleMotor _ _
    twoAttempts rfl orderly rfl
  refine (accounted ⟨?_, fun next taken => ⟨?_, fun _ _ => trivial⟩⟩).1.trans ?_
  · show ¬Connected _
    decide +kernel
  · cases taken
    show ¬Connected _
    decide +kernel
  · decide +kernel

end Example

end Sockets

end CubemarsDriver.Plugin
