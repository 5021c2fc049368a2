import CubemarsDriver.Can.Exchange

namespace CubemarsDriver.Can

/-! # What one call writes and reads

A call is described by the results its socket returns: which commands were
accepted, and which reply, if any, each receive slot ended with.  Slots belong
to the joints whose command was accepted, while a reply belongs to the joint it
resolves to, whichever slot it is read in. -/

def WriteResult.accepted : WriteResult → Bool
  | .written _ => true
  | .failed _ => false

/-- The command of a joint was written successfully. -/
def commandWritten (writes : List WriteResult) (joint : Nat) : Bool :=
  (writes[joint]?.map WriteResult.accepted).getD false

def sendFlags (count : Nat) (writes : List WriteResult) : List Bool :=
  (List.range count).map (commandWritten writes)

inductive SlotEvent where
  | skipped
  | failed
  | received (reply : Reply)
deriving DecidableEq, Repr

def SlotRead.event (slot : SlotRead) : SlotEvent :=
  match slot.reply with
  | some reply => .received reply
  | none => .failed

/-- The events of the receive slots, given which commands were written. -/
def slotEvents : List Bool → List ReadResult → List SlotEvent
  | [], _ => []
  | false :: more, reads => .skipped :: slotEvents more reads
  | true :: more, reads => (readSlot 0 reads).event :: slotEvents more (readSlot 0 reads).rest

/-- The results the receive slots leave unread. -/
def slotRest : List Bool → List ReadResult → List ReadResult
  | [], reads => reads
  | false :: more, reads => slotRest more reads
  | true :: more, reads => slotRest more (readSlot 0 reads).rest

@[simp] theorem slotEvents_length (flags : List Bool) (reads : List ReadResult) :
    (slotEvents flags reads).length = flags.length := by
  induction flags generalizing reads with
  | nil => rfl
  | cons flag more ih => cases flag <;> simp [slotEvents, ih]

theorem slotEvents_append (first second : List Bool) (reads : List ReadResult) :
    slotEvents (first ++ second) reads =
      slotEvents first reads ++ slotEvents second (slotRest first reads) := by
  induction first generalizing reads with
  | nil => rfl
  | cons flag more ih => cases flag <;> simp [slotEvents, slotRest, ih]

theorem slotRest_append (first second : List Bool) (reads : List ReadResult) :
    slotRest (first ++ second) reads = slotRest second (slotRest first reads) := by
  induction first generalizing reads with
  | nil => rfl
  | cons flag more ih => cases flag <;> simp [slotRest, ih]

/-- The event of one slot is what remains unread before it yields. -/
theorem slotEvents_getElem? {flags : List Bool} {reads : List ReadResult} {slot : Nat} {flag : Bool}
    (found : flags[slot]? = some flag) :
    (slotEvents flags reads)[slot]? =
      some (if flag then (readSlot 0 (slotRest (flags.take slot) reads)).event else .skipped) := by
  obtain ⟨bound, value⟩ := List.getElem?_eq_some_iff.mp found
  have split : flags = flags.take slot ++ flag :: flags.drop (slot + 1) := by
    rw [← value, List.cons_getElem_drop_succ, List.take_append_drop]
  have position : (slotEvents (flags.take slot) reads).length = slot := by
    rw [slotEvents_length, List.length_take, Nat.min_eq_left bound.le]
  have events := slotEvents_append (flags.take slot) (flag :: flags.drop (slot + 1)) reads
  rw [← split] at events
  rw [events, List.getElem?_append_right position.le, position, Nat.sub_self]
  cases flag <;> rfl

theorem slotRest_take_succ {flags : List Bool} {reads : List ReadResult} {slot : Nat} {flag : Bool}
    (found : flags[slot]? = some flag) :
    slotRest (flags.take (slot + 1)) reads =
      if flag then (readSlot 0 (slotRest (flags.take slot) reads)).rest
      else slotRest (flags.take slot) reads := by
  rw [List.take_add_one, found, slotRest_append]
  cases flag <;> rfl

section Reports

variable {K : Type} [Scalar K]

/-- What a call reports about one joint.  The error number and the send, enqueue
and dequeue times are diagnostics and left out. -/
structure Report (K : Type) where
  measurement : Measurement K
  rxNs : Int
  rxHwNs : Int
  communicationStatus : ComStatus

def Report.ofState (state : JointState K) : Report K where
  measurement := {
    pos := state.pos, vel := state.vel, torque := state.torque, temp := state.temp
    deviceStatus := state.deviceStatus }
  rxNs := state.rxTimestampNs
  rxHwNs := state.rxHwTimestampNs
  communicationStatus := state.communicationStatus

def Report.withStatus (report : Report K) (status : ComStatus) : Report K :=
  { report with communicationStatus := status }

/-- The status the write phase leaves. -/
def writtenStatus (sent : Bool) : ComStatus := if sent then .canNoResponse else .canWriteFailed

/-- The status a reply leaves. -/
def repliedStatus (sent : Bool) : ComStatus :=
  if sent then .success else .canWriteFailedButResponseReceived

def Reply.report (reply : Reply) (config : JointConfig K) (sent : Bool) : Report K where
  measurement := decodeReply config reply.frame
  rxNs := reply.rxNs
  rxHwNs := reply.rxHwNs
  communicationStatus := repliedStatus sent

theorem report_repliedState (config : JointConfig K) (sent : Bool) (reply : Reply)
    (state : JointState K) :
    Report.ofState (repliedState config sent reply state) = reply.report config sent := rfl

/-- What a joint's report becomes when a slot ends with an event.  A failed read
is charged to the joint the slot belongs to, a reply counts for the joint it
resolves to. -/
def SlotEvent.observe (configs : List (JointConfig K)) (config : JointConfig K) (sent : Bool)
    (joint slot : Nat) (event : SlotEvent) (report : Report K) : Report K :=
  match event with
  | .skipped => report
  | .failed => if slot = joint then report.withStatus .canReadFailed else report
  | .received reply =>
      if resolve configs reply.frame = some joint then reply.report config sent else report

section Observe

variable {configs : List (JointConfig K)} {config : JointConfig K} {sent : Bool}
variable {joint slot : Nat} {reply : Reply}

theorem observe_skipped :
    SlotEvent.observe configs config sent joint slot .skipped = id := rfl

theorem observe_own_failure : SlotEvent.observe configs config sent joint joint .failed =
    (Report.withStatus · .canReadFailed) := by
  funext report
  exact if_pos rfl

theorem observe_other_failure (other : slot ≠ joint) :
    SlotEvent.observe configs config sent joint slot .failed = id := by
  funext report
  exact if_neg other

theorem observe_own_reply (resolved : resolve configs reply.frame = some joint) :
    SlotEvent.observe configs config sent joint slot (.received reply) =
      fun _ => reply.report config sent := by
  funext report
  exact if_pos resolved

theorem observe_other_reply (other : resolve configs reply.frame ≠ some joint) :
    SlotEvent.observe configs config sent joint slot (.received reply) = id := by
  funext report
  exact if_neg other

end Observe

/-- A joint's report after the first `count` receive slots. -/
def reportAfter (configs : List (JointConfig K)) (config : JointConfig K) (sent : Bool)
    (joint : Nat) (events : List SlotEvent) (start : Report K) : Nat → Report K
  | 0 => start
  | count + 1 =>
      match events[count]? with
      | some event => event.observe configs config sent joint count
          (reportAfter configs config sent joint events start count)
      | none => reportAfter configs config sent joint events start count

theorem reportAfter_succ {configs : List (JointConfig K)} {config : JointConfig K} {sent : Bool}
    {joint count : Nat} {events : List SlotEvent} {start : Report K} {event : SlotEvent}
    (found : events[count]? = some event) :
    reportAfter configs config sent joint events start (count + 1) =
      event.observe configs config sent joint count
        (reportAfter configs config sent joint events start count) := by
  rw [reportAfter, found]

/-- The last reply of a joint that was read in the first `count` slots. -/
def lastReply (configs : List (JointConfig K)) (events : List SlotEvent) (joint : Nat) :
    Nat → Option Reply
  | 0 => none
  | count + 1 =>
      match events[count]? with
      | some (.received reply) =>
          if resolve configs reply.frame = some joint then some reply
          else lastReply configs events joint count
      | _ => lastReply configs events joint count

section LastReply

variable {configs : List (JointConfig K)} {config : JointConfig K} {events : List SlotEvent}
variable {joint count : Nat} {sent : Bool} {start : Report K}

/-- After any number of slots a report holds the joint's last reply, or still
what it held before the first slot. -/
theorem reportAfter_measurement (count : Nat) :
    (reportAfter configs config sent joint events start count).measurement =
        ((lastReply configs events joint count).map fun reply =>
          decodeReply config reply.frame).getD start.measurement ∧
      (reportAfter configs config sent joint events start count).rxNs =
        ((lastReply configs events joint count).map Reply.rxNs).getD start.rxNs := by
  induction count with
  | zero => exact ⟨rfl, rfl⟩
  | succ count ih =>
      rw [reportAfter, lastReply]
      rcases events[count]? with _ | _ | _ | reply
      · exact ih
      · exact ih
      · simp only [SlotEvent.observe]
        split <;> exact ih
      · simp only [SlotEvent.observe]
        split
        · exact ⟨rfl, rfl⟩
        · exact ih

/-- A successful report is the joint's last reply. -/
theorem reportAfter_success (written : start.communicationStatus ≠ .success)
    (success : (reportAfter configs config sent joint events start count).communicationStatus =
      .success) :
    ∃ reply, lastReply configs events joint count = some reply ∧
      reportAfter configs config sent joint events start count = reply.report config sent := by
  induction count with
  | zero => exact absurd success written
  | succ count ih =>
      rw [reportAfter] at success ⊢
      rw [lastReply]
      rcases found : events[count]? with _ | _ | _ | reply <;> rw [found] at success
      · exact ih success
      · exact ih success
      · simp only [SlotEvent.observe] at success ⊢
        split at success
        · exact nomatch success
        · rename_i other
          rw [if_neg other]
          exact ih success
      · simp only [SlotEvent.observe] at success ⊢
        split at success
        · rename_i resolved
          exact ⟨reply, if_pos resolved, if_pos resolved⟩
        · rename_i other
          rw [if_neg other, if_neg other]
          exact ih success

end LastReply

end Reports

end CubemarsDriver.Can
