import CubemarsDriver.Can.ReplyStatus
import CubemarsDriver.Foundation.Interleaving

namespace CubemarsDriver.Can

open Foundation

/-! # Motors, the wire and the receive queue

Each motor answers every command frame it gets with one reply.  A reply may
arrive at any later time and is then queued; a read takes the oldest queued
reply and times out on an empty queue.  Replies are told apart by the joint and
the call of the command they answer, which the driver cannot see. -/

/-- The reply to the command written for a joint in a call. -/
structure Answer where
  joint : Nat
  call : Nat
deriving DecidableEq, Repr

structure Wire where
  inFlight : List Answer := []
  queue : List Answer := []
deriving DecidableEq, Repr

namespace Wire

/-- The answers of the list arrive in order, if they are on their way. -/
def arrive (wire : Wire) : List Answer → Wire
  | [] => wire
  | answer :: rest =>
      if answer ∈ wire.inFlight then
        arrive { inFlight := wire.inFlight.erase answer, queue := wire.queue ++ [answer] } rest
      else arrive wire rest

/-- Every command that was written is answered. -/
def written (wire : Wire) (flags : List Bool) (call : Nat) : Wire :=
  { wire with inFlight := wire.inFlight ++
      ((List.range flags.length).filter fun joint => flags[joint]?.getD false).map (⟨·, call⟩) }

end Wire

/-- How a receive slot ends. -/
inductive SlotAnswer where
  | skipped
  | timeout
  | answered (answer : Answer)
deriving DecidableEq, Repr

/-- The receive slots of a call.  Before each read the next batch arrives. -/
def Wire.slots : List Bool → List (List Answer) → Wire → List SlotAnswer × Wire
  | [], _, wire => ([], wire)
  | false :: flags, arrivals, wire =>
      let later := slots flags arrivals wire
      (.skipped :: later.1, later.2)
  | true :: flags, arrivals, wire =>
      let wire := wire.arrive (arrivals.head?.getD [])
      match wire.queue with
      | [] =>
          let later := slots flags arrivals.tail wire
          (.timeout :: later.1, later.2)
      | answer :: queue =>
          let later := slots flags arrivals.tail { wire with queue }
          (.answered answer :: later.1, later.2)

/-- What the socket returns in a slot. -/
def SlotAnswer.result (replies : Answer → Reply) : SlotAnswer → Option ReadResult
  | .skipped => none
  | .timeout => some (.failed eagain)
  | .answered answer => some (.frame (replies answer))

def SlotAnswer.event (replies : Answer → Reply) : SlotAnswer → SlotEvent
  | .skipped => .skipped
  | .timeout => .failed
  | .answered answer => .received (replies answer)

/-- The last answer of a joint that was read in the first `count` slots. -/
def lastAnswer (slots : List SlotAnswer) (joint : Nat) : Nat → Option Answer
  | 0 => none
  | count + 1 =>
      match slots[count]? with
      | some (.answered answer) =>
          if answer.joint = joint then some answer else lastAnswer slots joint count
      | _ => lastAnswer slots joint count

section Model

variable {K : Type} [Scalar K]

/-- A frame a motor replies with: a standard frame that carries the motor's id
in its first byte, or an extended one that carries it in its identifier. -/
def MotorReply (config : JointConfig K) (frame : CanFrame) : Prop :=
  frame.canId &&& canErrFlag = 0 ∧
    match config.seriesType with
    | .v2 => frame.canId &&& canEffFlag = 0 ∧ frame.data.motorId.setWidth 32 = config.canId
    | .v3 => frame.canId &&& canEffFlag ≠ 0 ∧
        (frame.canId &&& canEffMask) >>> 8 = CanPacketId.response ∧
        frame.canId &&& 0xFF = config.canId

structure Bus (K : Type) where
  exchange : Exchange K
  wire : Wire
  calls : Nat

/-- What one call depends on: the commands, which of them the socket accepts and
what arrives before each read. -/
structure Call (K : Type) where
  cmds : List (JointCmd K)
  writes : List WriteResult
  arrivals : List (List Answer)

def Bus.flags (bus : Bus K) (call : Call K) : List Bool :=
  sendFlags bus.exchange.can.jointConfigs.length call.writes

def Bus.slots (bus : Bus K) (call : Call K) : List SlotAnswer × Wire :=
  Wire.slots (bus.flags call) call.arrivals (bus.wire.written (bus.flags call) bus.calls)

/-- The interface and the states when the call starts. -/
def Bus.before (replies : Answer → Reply) (bus : Bus K) (call : Call K) : Exchange K :=
  { bus.exchange with can := { bus.exchange.can with socket := { bus.exchange.can.socket with
      writes := call.writes
      reads := (bus.slots call).1.filterMap (SlotAnswer.result replies) } } }

/-- One call of `send_and_receive`; `none` if it does not return. -/
def Bus.step (replies : Answer → Reply) (bus : Bus K) (call : Call K) : Option (Bus K) :=
  match (sendAndReceive call.cmds).run (bus.before replies call) with
  | (.returned (), exchange) => some { exchange, wire := (bus.slots call).2, calls := bus.calls + 1 }
  | _ => none

/-- Every joint the call leaves successful reports the reply to its command of this call. -/
def ReportsOwnReplies (replies : Answer → Reply) (bus : Bus K) (call : Call K) : Prop :=
  ∀ next, bus.step replies call = some next →
    ∀ joint state config, next.exchange.states[joint]? = some state →
      bus.exchange.can.jointConfigs[joint]? = some config →
      state.communicationStatus = .success →
      ∃ answer, lastAnswer (bus.slots call).1 joint bus.exchange.can.jointConfigs.length =
          some answer ∧ answer = ⟨joint, bus.calls⟩ ∧
        Report.ofState state = (replies answer).report config true

section Resolution

variable {configs : List (JointConfig K)} {config : JointConfig K} {joint : Nat}

omit [Scalar K] in
theorem findIdx_canId (distinct : (configs.map JointConfig.canId).Nodup)
    (found : configs[joint]? = some config) :
    configs.findIdx? (fun other => other.canId == config.canId) = some joint := by
  obtain ⟨bound, value⟩ := List.getElem?_eq_some_iff.mp found
  rw [List.findIdx?_eq_some_iff_getElem]
  refine ⟨bound, by simp [value], fun earlier before => ?_⟩
  have unequal := List.pairwise_iff_getElem.mp distinct earlier joint (by simp; omega)
    (by simpa using bound) before
  simpa [value] using unequal

omit [Scalar K] in
/-- With distinct ids a motor's reply resolves to its own joint. -/
theorem MotorReply.resolves {frame : CanFrame} (reply : MotorReply config frame)
    (distinct : (configs.map JointConfig.canId).Nodup) (found : configs[joint]? = some config) :
    resolve configs frame = some joint := by
  obtain ⟨_, form⟩ := reply
  unfold resolve
  cases series : config.seriesType with
  | v2 =>
      simp only [series] at form
      rw [if_neg (by simpa using form.1), form.2]
      exact findIdx_canId distinct found
  | v3 =>
      simp only [series] at form
      rw [if_pos form.1, if_neg (by simpa using form.2.1), form.2.2]
      exact findIdx_canId distinct found

end Resolution

/-- The motors answer as their configuration says. -/
def MotorsReply (configs : List (JointConfig K)) (replies : Answer → Reply) : Prop :=
  ∀ answer config, configs[answer.joint]? = some config → MotorReply config (replies answer).frame

/-- Every answer is to a command of a joint, written in an earlier call. -/
def Wire.Within (joints calls : Nat) (wire : Wire) : Prop :=
  ∀ answer ∈ wire.inFlight ++ wire.queue, answer.joint < joints ∧ answer.call < calls

end Model

namespace Wire

variable {wire : Wire} {joints calls : Nat} {flags : List Bool}

theorem Within.arrive (within : wire.Within joints calls) (answers : List Answer) :
    (wire.arrive answers).Within joints calls := by
  induction answers generalizing wire with
  | nil => exact within
  | cons answer rest ih =>
      rw [Wire.arrive]
      split
      · rename_i flying
        apply ih
        intro other member
        apply within
        simp only [List.mem_append, List.mem_singleton] at member ⊢
        rcases member with left | queued | rfl
        · exact .inl (List.mem_of_mem_erase left)
        · exact .inr queued
        · exact .inl flying
      · exact ih within

theorem Within.written (within : wire.Within joints calls) (count : flags.length ≤ joints) :
    (wire.written flags calls).Within joints (calls + 1) := by
  intro answer member
  simp only [Wire.written, List.mem_append, List.mem_map, List.mem_filter, List.mem_range] at member
  rcases member with (flying | ⟨joint, ⟨below, _⟩, rfl⟩) | queued
  · have earlier := within answer (List.mem_append_left _ flying)
    exact ⟨earlier.1, by omega⟩
  · exact ⟨by show joint < joints; omega, Nat.lt_succ_self _⟩
  · have earlier := within answer (List.mem_append_right _ queued)
    exact ⟨earlier.1, by omega⟩

/-- What the slots of a call preserve, and what holds of every answer they read. -/
theorem slots_ensure (invariant : Wire → Prop) (allowed : Answer → Prop)
    {arrivals : List (List Answer)} (arriving : ∀ batch ∈ arrivals, ∀ wire, invariant wire → invariant (wire.arrive batch))
    (reading : ∀ wire answer queue, invariant wire → wire.queue = answer :: queue →
      allowed answer ∧ invariant { wire with queue })
    (holds : invariant wire) :
    (∀ answer, .answered answer ∈ (slots flags arrivals wire).1 → allowed answer) ∧
      invariant (slots flags arrivals wire).2 := by
  induction flags generalizing arrivals wire with
  | nil => exact ⟨nofun, holds⟩
  | cons flag flags ih =>
      cases flag with
      | false =>
          obtain ⟨answers, kept⟩ := ih arriving holds
          simp only [slots]
          exact ⟨fun answer member => answers answer (by simpa using member), kept⟩
      | true =>
          have arrived : invariant (wire.arrive (arrivals.head?.getD [])) := by
            cases arrivals with
            | nil => exact holds
            | cons batch rest => exact arriving batch List.mem_cons_self wire holds
          have later : ∀ batch ∈ arrivals.tail, ∀ wire, invariant wire →
              invariant (wire.arrive batch) :=
            fun batch member => arriving batch (List.mem_of_mem_tail member)
          simp only [slots]
          split
          · obtain ⟨answers, kept⟩ := ih later arrived
            exact ⟨fun answer member => answers answer (by simpa using member), kept⟩
          · rename_i first queue queued
            obtain ⟨allowedFirst, popped⟩ := reading _ first queue arrived queued
            obtain ⟨answers, kept⟩ := ih later popped
            refine ⟨fun answer member => ?_, kept⟩
            rcases List.mem_cons.mp member with same | member
            · cases same
              exact allowedFirst
            · exact answers answer member

end Wire

section Model

variable {K : Type} [Scalar K]

omit [Scalar K] in
theorem readSlot_frame {reply : Reply} (plain : reply.frame.canId &&& canErrFlag = 0)
    (rest : List ReadResult) : readSlot 0 (.frame reply :: rest) =
      { reply := some reply, errorCanids := [], errno := none, rest } := by
  rw [readSlot, if_neg (by simpa using plain)]

/-- The events of a call's slots are the ones the wire produces. -/
theorem slotEvents_wire {replies : Answer → Reply} {flags : List Bool}
    {arrivals : List (List Answer)} {wire : Wire}
    (plain : ∀ answer, .answered answer ∈ (wire.slots flags arrivals).1 →
      (replies answer).frame.canId &&& canErrFlag = 0) :
    slotEvents flags ((wire.slots flags arrivals).1.filterMap (SlotAnswer.result replies)) =
      (wire.slots flags arrivals).1.map (SlotAnswer.event replies) := by
  induction flags generalizing arrivals wire with
  | nil => rfl
  | cons flag flags ih =>
      cases flag with
      | false =>
          simp only [Wire.slots, List.mem_cons, reduceCtorEq, false_or] at plain ⊢
          simp [List.filterMap_cons, SlotAnswer.result, SlotAnswer.event, slotEvents, ih plain]
      | true =>
          simp only [Wire.slots] at plain ⊢
          split at plain <;> rename_i queued
          · simp only [List.mem_cons, reduceCtorEq, false_or] at plain
            simp [SlotAnswer.result, SlotAnswer.event, slotEvents, readSlot, SlotRead.event, ih plain]
          · rename_i first queue
            have plainFirst := plain first List.mem_cons_self
            have plainLater := fun answer member =>
              plain answer (List.mem_cons_of_mem _ member)
            simp [SlotAnswer.result, SlotAnswer.event, slotEvents, readSlot_frame plainFirst,
              SlotRead.event, ih plainLater]

end Model

end CubemarsDriver.Can
