import CubemarsDriver.Can.Delivery

namespace CubemarsDriver.Can

/-! # When `SUCCESS` means what it says

A joint's status is meant to be `SUCCESS` if its command was written and a
reply of it was read.  The receive loop charges a failed read to the joint the
slot belongs to, even if that joint's reply was already read in an earlier slot. -/

variable {K : Type} [Scalar K]

/-- A reply of the joint was read in a slot from `low` up to, but not including, `high`. -/
def RepliedBetween (configs : List (JointConfig K)) (events : List SlotEvent)
    (joint low high : Nat) : Prop :=
  ∃ slot, low ≤ slot ∧ slot < high ∧ ∃ reply, events[slot]? = some (.received reply) ∧
    resolve configs reply.frame = some joint

section Status

variable {configs : List (JointConfig K)} {config : JointConfig K} {events : List SlotEvent}
variable {joint low high count : Nat} {sent : Bool} {start : Report K}

omit [Scalar K] in
theorem repliedBetween_empty (empty : high ≤ low) :
    ¬ RepliedBetween configs events joint low high := by
  rintro ⟨slot, above, below, _⟩
  omega

omit [Scalar K] in
theorem repliedBetween_succ : RepliedBetween configs events joint low (high + 1) ↔
    RepliedBetween configs events joint low high ∨ low ≤ high ∧
      ∃ reply, events[high]? = some (.received reply) ∧
        resolve configs reply.frame = some joint := by
  constructor
  · rintro ⟨slot, above, below, found⟩
    by_cases last : slot = high
    · subst last
      exact .inr ⟨above, found⟩
    · exact .inl ⟨slot, above, by omega, found⟩
  · rintro (⟨slot, above, below, found⟩ | ⟨above, found⟩)
    · exact ⟨slot, above, by omega, found⟩
    · exact ⟨high, above, Nat.lt_succ_self _, found⟩

omit [Scalar K] in
/-- A slot that does not end with a reply of the joint adds nothing. -/
theorem repliedBetween_other (other : ∀ reply, events[high]? = some (.received reply) →
    resolve configs reply.frame ≠ some joint) :
    RepliedBetween configs events joint low (high + 1) ↔
      RepliedBetween configs events joint low high := by
  rw [repliedBetween_succ]
  constructor
  · rintro (before | ⟨_, reply, found, resolved⟩)
    · exact before
    · exact absurd resolved (other reply found)
  · exact .inl

/-- No slot makes a joint whose command was not written successful. -/
theorem reportAfter_not_sent (written : start.communicationStatus ≠ .success) (count : Nat) :
    (reportAfter configs config false joint events start count).communicationStatus ≠ .success := by
  induction count with
  | zero => exact written
  | succ count ih =>
      rw [reportAfter]
      split
      · rename_i event found
        cases event with
        | skipped => exact ih
        | failed =>
            rw [SlotEvent.observe]
            split
            · simp [Report.withStatus]
            · exact ih
        | received reply =>
            rw [SlotEvent.observe]
            split
            · simp [Reply.report, repliedStatus]
            · exact ih
      · exact ih

/-- A reply of a joint survives the joint's own slot: if the read of that slot
failed, another reply was read after it. -/
def SurvivesOwnSlot (configs : List (JointConfig K)) (events : List SlotEvent)
    (joint count : Nat) : Prop :=
  joint < count → events[joint]? = some .failed →
    RepliedBetween configs events joint (joint + 1) count

/-- The invariant of the receive loop for a joint whose command was written. -/
theorem reportAfter_success_iff (written : start.communicationStatus ≠ .success) (count : Nat) :
    (reportAfter configs config true joint events start count).communicationStatus = .success ↔
      RepliedBetween configs events joint 0 count ∧
        SurvivesOwnSlot configs events joint count := by
  induction count with
  | zero => simp [reportAfter, written, repliedBetween_empty]
  | succ count ih =>
      have unaffected (other : ∀ reply, events[count]? = some (.received reply) →
          resolve configs reply.frame ≠ some joint)
          (notOwn : count = joint → events[count]? ≠ some .failed) :
          (RepliedBetween configs events joint 0 (count + 1) ∧
            SurvivesOwnSlot configs events joint (count + 1)) ↔
          (RepliedBetween configs events joint 0 count ∧
            SurvivesOwnSlot configs events joint count) := by
        rw [SurvivesOwnSlot, SurvivesOwnSlot, repliedBetween_other other, repliedBetween_other other]
        refine and_congr_right fun _ => ⟨fun survives below => survives (by omega), ?_⟩
        intro survives below failed
        by_cases own : count = joint
        · subst own
          exact absurd failed (notOwn rfl)
        · exact survives (by omega) failed
      rw [reportAfter]
      cases found : events[count]? with
      | none => rw [unaffected (by simp [found]) (by simp [found])]; exact ih
      | some event =>
          cases event with
          | skipped => rw [unaffected (by simp [found]) (by simp [found])]; exact ih
          | failed =>
              by_cases own : count = joint
              · subst own
                simp only [observe_own_failure]
                constructor
                · simp [Report.withStatus]
                · intro both
                  exact absurd (both.2 (Nat.lt_succ_self _) found) (repliedBetween_empty le_rfl)
              · rw [unaffected (by simp [found]) (fun same => absurd same own)]
                simp only [observe_other_failure own]
                exact ih
          | received reply =>
              by_cases resolved : resolve configs reply.frame = some joint
              · simp only [observe_own_reply resolved]
                have last : ∀ low, low ≤ count →
                    RepliedBetween configs events joint low (count + 1) := fun low below =>
                  ⟨count, below, Nat.lt_succ_self _, reply, found, resolved⟩
                refine ⟨fun _ => ⟨last 0 (Nat.zero_le _), fun below failed => last _ ?_⟩, fun _ => rfl⟩
                have notOwn : joint ≠ count := by
                  rintro rfl
                  cases found.symm.trans failed
                omega
              · have other : ∀ reply', events[count]? = some (.received reply') →
                    resolve configs reply'.frame ≠ some joint := by
                  intro reply' same
                  cases found.symm.trans same
                  exact resolved
                rw [unaffected other (by simp [found])]
                simp only [observe_other_reply resolved]
                exact ih

end Status

/-- The slot events of a call from the state it starts in. -/
def Exchange.events (exchange : Exchange K) : List SlotEvent :=
  slotEvents (sendFlags exchange.can.jointConfigs.length exchange.can.socket.writes)
    exchange.can.socket.reads

/-- What the status of every joint is meant to say after a call. -/
def StatusFaithful (before after : Exchange K) : Prop :=
  ∀ joint state, after.states[joint]? = some state →
    (state.communicationStatus = .success ↔
      commandWritten before.can.socket.writes joint = true ∧
        RepliedBetween before.can.jointConfigs before.events joint 0 before.can.jointConfigs.length)

/-- Where the state of a joint comes from. -/
theorem Delivered.state_report {cmds : List (JointCmd K)} {before after : Exchange K}
    {joint : Nat} {state : JointState K} (delivered : Delivered cmds before after)
    (sized : before.Sized) (found : after.states[joint]? = some state) :
    ∃ config first, before.can.jointConfigs[joint]? = some config ∧
      before.states[joint]? = some first ∧
      Report.ofState state = deliveredReport before joint config (Report.ofState first) := by
  have bound : joint < before.can.jointConfigs.length := by
    have present := (List.getElem?_eq_some_iff.mp found).1
    rwa [delivered.frame.states, sized] at present
  obtain ⟨config, configFound⟩ : ∃ config, before.can.jointConfigs[joint]? = some config :=
    ⟨_, List.getElem?_eq_getElem bound⟩
  obtain ⟨first, firstFound⟩ : ∃ first, before.states[joint]? = some first :=
    ⟨_, List.getElem?_eq_getElem (by rw [sized]; exact bound)⟩
  have report := delivered.report joint config configFound
  rw [Exchange.report, found, Exchange.report, firstFound] at report
  exact ⟨config, first, configFound, firstFound, Option.some.inj report⟩

omit [Scalar K] in
theorem writtenStatus_ne_success (sent : Bool) (report : Report K) :
    (report.withStatus (writtenStatus sent)).communicationStatus ≠ .success := by
  cases sent <;> exact ComStatus.noConfusion

/-- The status of one joint after a call. -/
theorem Delivered.success_iff {cmds : List (JointCmd K)} {before after : Exchange K}
    {joint : Nat} {state : JointState K} (delivered : Delivered cmds before after)
    (sized : before.Sized) (found : after.states[joint]? = some state) :
    state.communicationStatus = .success ↔
      commandWritten before.can.socket.writes joint = true ∧
        RepliedBetween before.can.jointConfigs before.events joint 0
          before.can.jointConfigs.length ∧
        SurvivesOwnSlot before.can.jointConfigs before.events joint
          before.can.jointConfigs.length := by
  obtain ⟨config, first, _, _, report⟩ := delivered.state_report sized found
  have status : state.communicationStatus =
      (deliveredReport before joint config (Report.ofState first)).communicationStatus :=
    congrArg Report.communicationStatus report
  rw [status, deliveredReport]
  cases commandWritten before.can.socket.writes joint with
  | false =>
      simp only [Bool.false_eq_true, false_and, iff_false]
      exact reportAfter_not_sent (writtenStatus_ne_success false _) _
  | true =>
      simp only [true_and]
      exact reportAfter_success_iff (writtenStatus_ne_success true _) _

/-- A successful joint's state is its last reply of the call. -/
theorem Delivered.success_report {cmds : List (JointCmd K)} {before after : Exchange K}
    {joint : Nat} {state : JointState K} (delivered : Delivered cmds before after)
    (sized : before.Sized) (found : after.states[joint]? = some state)
    (success : state.communicationStatus = .success) :
    ∃ config reply, before.can.jointConfigs[joint]? = some config ∧
      lastReply before.can.jointConfigs before.events joint before.can.jointConfigs.length =
        some reply ∧
      Report.ofState state = reply.report config true := by
  obtain ⟨config, first, configFound, _, report⟩ := delivered.state_report sized found
  have sent := ((delivered.success_iff sized found).mp success).1
  rw [deliveredReport, sent] at report
  have status := congrArg Report.communicationStatus report
  rw [show (Report.ofState state).communicationStatus = _ from success] at status
  obtain ⟨reply, last, replied⟩ := reportAfter_success (writtenStatus_ne_success true _) status.symm
  exact ⟨config, reply, configFound, last, report.trans replied⟩

/-- The joint's reply, once read, is not taken back: if its own slot's read
failed after a reply of it was read, then another one was read later. -/
def ReplyKept (before : Exchange K) (joint : Nat) : Prop :=
  commandWritten before.can.socket.writes joint = true →
    before.events[joint]? = some .failed →
    RepliedBetween before.can.jointConfigs before.events joint 0 joint →
    RepliedBetween before.can.jointConfigs before.events joint (joint + 1)
      before.can.jointConfigs.length

/-- The statuses are faithful exactly if no reply is taken back. -/
theorem status_faithful_iff {cmds : List (JointCmd K)} {before : Exchange K}
    (sized : before.Sized) (counted : cmds.length = before.can.jointConfigs.length) :
    ∃ after, (sendAndReceive cmds).run before = (.returned (), after) ∧
      (StatusFaithful before after ↔
        ∀ joint, joint < before.can.jointConfigs.length → ReplyKept before joint) := by
  obtain ⟨after, run, delivered⟩ := sendAndReceive_delivers sized counted
  refine ⟨after, run, ?_⟩
  constructor
  · intro faithful joint bound written failed early
    obtain ⟨state, found⟩ : ∃ state, after.states[joint]? = some state :=
      ⟨_, List.getElem?_eq_getElem (by rw [delivered.frame.states, sized]; exact bound)⟩
    obtain ⟨slot, above, below, reply⟩ := early
    have replied : RepliedBetween before.can.jointConfigs before.events joint 0
        before.can.jointConfigs.length := ⟨slot, above, by omega, reply⟩
    have success := (faithful joint state found).mpr ⟨written, replied⟩
    exact ((delivered.success_iff sized found).mp success).2.2 bound failed
  · intro kept joint state found
    rw [delivered.success_iff sized found]
    refine and_congr_right fun written => and_iff_left_of_imp ?_
    rintro ⟨slot, above, below, reply, event, resolved⟩ bound failed
    rcases Nat.lt_trichotomy slot joint with early | own | late
    · exact kept joint bound written failed ⟨slot, above, early, reply, event, resolved⟩
    · subst own
      cases event.symm.trans failed
    · exact ⟨slot, late, below, reply, event, resolved⟩

section Example

def ak80Reply (canId : BitVec 8) : Reply where
  frame := {
    canId := canId.setWidth 32
    len := 8
    data := #v[canId, 0x7F, 0xFF, 0x7F, 0xF7, 0xFF, 65, 0] }
  rxNs := 2000
  rxHwNs := 1000
  dequeueNs := 3000

def zeroCmd : JointCmd ℚ where
  pos := 0
  vel := 0
  torque := 0
  kp := 0
  kd := 0

/-- Joints 1 and 2 on one interface whose socket accepts both commands. -/
def pairExchange (reads : List ReadResult) : Exchange ℚ where
  can := {
    canInterface := "can0"
    enableLoopback := false
    enableTxTimestamping := false
    enableCanErrorFrames := false
    jointConfigs := [ak80 1, ak80 2]
    socketTimeoutSec := 0
    socketTimeoutUsec := 1000
    maxInitialConnectionTrials := 10
    sendOk := [false, false]
    recvOk := [false, false]
    sendOkSized := rfl
    recvOkSized := rfl
    sendFrame := { canId := 0, len := 8, data := Vector.replicate 8 0 }
    socket := { writes := [.written 10, .written 20], reads } }
  states := [freshState, freshState]

theorem status_faithful_iff_pair :
    ∃ after, (sendAndReceive [zeroCmd, zeroCmd]).run
        (pairExchange [.frame (ak80Reply 1), .frame (ak80Reply 2)]) = (.returned (), after) ∧
      (StatusFaithful (pairExchange [.frame (ak80Reply 1), .frame (ak80Reply 2)]) after ↔
        ∀ joint, joint < 2 →
          ReplyKept (pairExchange [.frame (ak80Reply 1), .frame (ak80Reply 2)]) joint) :=
  status_faithful_iff rfl rfl

/-- The second joint's reply comes first and the first joint is missing: the
second joint's command was written and its reply read, yet it is not successful. -/
theorem status_not_faithful :
    ¬ ∀ (before after : Exchange ℚ) (cmds : List (JointCmd ℚ)),
      (before.can.jointConfigs.map JointConfig.canId).Nodup → before.Sized →
      cmds.length = before.can.jointConfigs.length →
      (sendAndReceive cmds).run before = (.returned (), after) → StatusFaithful before after := by
  intro claim
  let before := pairExchange [.frame (ak80Reply 2), .failed eagain]
  have sized : before.Sized := rfl
  have counted : [zeroCmd, zeroCmd].length = before.can.jointConfigs.length := rfl
  obtain ⟨after, run, delivered⟩ := sendAndReceive_delivers sized counted
  obtain ⟨state, found⟩ : ∃ state, after.states[1]? = some state :=
    ⟨_, List.getElem?_eq_getElem (by rw [delivered.frame.states]; decide)⟩
  have events : before.events = [.received (ak80Reply 2), .failed] := by decide
  have resolved : resolve before.can.jointConfigs (ak80Reply 2).frame = some 1 := by decide
  have replied : RepliedBetween before.can.jointConfigs before.events 1 0 2 :=
    ⟨0, by decide, by decide, ak80Reply 2, by rw [events]; rfl, resolved⟩
  have faithful := claim before after [zeroCmd, zeroCmd] (by decide) sized counted run
  have success := (faithful 1 state found).mpr ⟨by decide, replied⟩
  have survives := ((delivered.success_iff sized found).mp success).2.2
  exact repliedBetween_empty le_rfl (survives (by decide) (by rw [events]; rfl))

end Example

end CubemarsDriver.Can
