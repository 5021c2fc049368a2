import CubemarsDriver.Can.ReplyStatus

namespace CubemarsDriver.Can

/-! # The reply a joint is left with

The receive slots take a first part of what the socket returns.  The frames in
it that are not error frames are the replies of the call, and a joint is left
with the last of them that resolves to it. -/

/-- A result that is a frame, but not an error frame. -/
def ReadResult.reply? : ReadResult → Option Reply
  | .failed _ => none
  | .frame reply => if reply.frame.canId &&& canErrFlag ≠ 0 then none else some reply

def SlotEvent.reply? : SlotEvent → Option Reply
  | .received reply => some reply
  | _ => none

/-- The last of the replies that resolves to a joint. -/
def lastResolved {K : Type} (configs : List (JointConfig K)) (joint : Nat)
    (replies : List Reply) : Option Reply :=
  (replies.filter fun reply => resolve configs reply.frame = some joint).getLast?

/-- A slot takes at most sixteen results, and the only reply among them is the one it ends with. -/
theorem readSlot_consumes (reads : List ReadResult) {errSkips : Nat}
    (below : errSkips < maxErrorSkips) :
    ∃ consumed, reads = consumed ++ (readSlot errSkips reads).rest ∧
      consumed.length + errSkips ≤ maxErrorSkips ∧
      consumed.filterMap ReadResult.reply? = (readSlot errSkips reads).reply.toList := by
  induction reads generalizing errSkips with
  | nil => exact ⟨[], rfl, by simpa using below.le, rfl⟩
  | cons result rest ih =>
      cases result with
      | failed errno => exact ⟨[.failed errno], rfl, by simp; omega, rfl⟩
      | frame reply =>
          rw [readSlot]
          by_cases error : reply.frame.canId &&& canErrFlag ≠ 0
          · have skipped : ReadResult.reply? (.frame reply) = none := if_pos error
            rw [if_pos error]
            by_cases last : errSkips + 1 ≥ maxErrorSkips
            · rw [if_pos last]
              exact ⟨[.frame reply], rfl, by simp; omega, by simp [skipped]⟩
            · rw [if_neg last]
              obtain ⟨consumed, split, count, replies⟩ := ih (Nat.lt_of_not_le last)
              refine ⟨.frame reply :: consumed, ?_, ?_, ?_⟩
              · rw [List.cons_append, ← split]
              · rw [List.length_cons]
                omega
              · rw [List.filterMap_cons_none skipped, replies]
          · have kept : ReadResult.reply? (.frame reply) = some reply := if_neg error
            rw [if_neg error]
            exact ⟨[.frame reply], rfl, by simp; omega, by simp [kept]⟩

theorem SlotRead.reply?_event (slot : SlotRead) : slot.event.reply? = slot.reply := by
  unfold SlotRead.event
  cases slot.reply <;> rfl

/-- The replies of the slots are those among the results they take, at most
sixteen for each command that was written. -/
theorem slotEvents_consume (flags : List Bool) (reads : List ReadResult) :
    ∃ consumed, reads = consumed ++ slotRest flags reads ∧
      consumed.length ≤ maxErrorSkips * flags.count true ∧
      consumed.filterMap ReadResult.reply? =
        (slotEvents flags reads).filterMap SlotEvent.reply? := by
  induction flags generalizing reads with
  | nil => exact ⟨[], rfl, Nat.zero_le _, rfl⟩
  | cons flag flags ih =>
      cases flag with
      | false =>
          obtain ⟨consumed, split, count, replies⟩ := ih reads
          refine ⟨consumed, split, by simpa using count, ?_⟩
          rw [slotEvents, List.filterMap_cons_none (by rfl), replies]
      | true =>
          obtain ⟨first, firstSplit, firstCount, firstReply⟩ :=
            readSlot_consumes reads (by decide : 0 < maxErrorSkips)
          obtain ⟨later, laterSplit, laterCount, laterReplies⟩ := ih (readSlot 0 reads).rest
          refine ⟨first ++ later, ?_, ?_, ?_⟩
          · rw [slotRest, List.append_assoc, ← laterSplit, ← firstSplit]
          · rw [List.length_append, List.count_cons_self, Nat.mul_succ]
            omega
          · rw [List.filterMap_append, firstReply, laterReplies, slotEvents,
              List.filterMap_cons, SlotRead.reply?_event]
            cases (readSlot 0 reads).reply <;> rfl

section Joint

variable {K : Type}

theorem lastResolved_append (configs : List (JointConfig K)) (joint : Nat)
    (replies : List Reply) (reply : Reply) : lastResolved configs joint (replies ++ [reply]) =
      if resolve configs reply.frame = some joint then some reply
      else lastResolved configs joint replies := by
  rw [lastResolved, List.filter_append]
  by_cases resolved : resolve configs reply.frame = some joint
  · simp [resolved]
  · simp [resolved, lastResolved]

/-- The last reply of a joint among the slots is the last of their replies that resolves to it. -/
theorem lastReply_eq (configs : List (JointConfig K)) (events : List SlotEvent) (joint : Nat)
    (count : Nat) : lastReply configs events joint count =
      lastResolved configs joint ((events.take count).filterMap SlotEvent.reply?) := by
  induction count with
  | zero => rfl
  | succ count ih =>
      rw [lastReply, List.take_add_one, List.filterMap_append]
      rcases events[count]? with _ | _ | _ | reply
      · simpa using ih
      · have nothing : (some SlotEvent.skipped).toList.filterMap SlotEvent.reply? = [] := rfl
        rw [nothing, List.append_nil, ← ih]
      · have nothing : (some SlotEvent.failed).toList.filterMap SlotEvent.reply? = [] := rfl
        rw [nothing, List.append_nil, ← ih]
      · have single : (some (SlotEvent.received reply)).toList.filterMap SlotEvent.reply? =
            [reply] := rfl
        rw [single, lastResolved_append, ih]

end Joint

variable {K : Type} [Scalar K]

theorem commandAttempts_accepted {cmds : List (JointCmd K)} {before : Exchange K}
    (counted : cmds.length = before.can.jointConfigs.length) :
    (commandAttempts cmds before).countP WriteAttempt.accepted =
      (sendFlags before.can.jointConfigs.length before.can.socket.writes).count true := by
  have accepted : (commandAttempts cmds before).map WriteAttempt.accepted =
      sendFlags before.can.jointConfigs.length before.can.socket.writes := by
    have frames : (sendFlags before.can.jointConfigs.length before.can.socket.writes).length ≤
        (List.zipWith (commandFrame before.can.sendFrame.len) before.can.jointConfigs cmds).length := by
      simp [sendFlags, counted]
    rw [commandAttempts, List.map_zipWith]
    exact List.map_zip_eq_zipWith.symm.trans (List.map_snd_zip frames)
  rw [← accepted, List.count_eq_countP, List.countP_map]
  congr 1
  funext attempt
  simp

/-- After a call the measurement of every joint is the one of the last reply read
in the call that resolves to it, or the old one, and the call reads at most
sixteen results for each command that was written. -/
theorem measurement_of_last_reply {cmds : List (JointCmd K)} {before : Exchange K}
    (sized : before.Sized) (counted : cmds.length = before.can.jointConfigs.length) :
    ∃ after attempts consumed, (sendAndReceive cmds).run before = (.returned (), after) ∧
      after.can.socket.attempts = before.can.socket.attempts ++ attempts ∧
      before.can.socket.reads = consumed ++ after.can.socket.reads ∧
      consumed.length ≤ 16 * attempts.countP WriteAttempt.accepted ∧
      ∀ joint state, after.states[joint]? = some state →
        ∃ config old, before.can.jointConfigs[joint]? = some config ∧
          before.states[joint]? = some old ∧
          (Report.ofState state).measurement =
            match lastResolved before.can.jointConfigs joint
              (consumed.filterMap ReadResult.reply?) with
            | some reply => decodeReply config reply.frame
            | none => (Report.ofState old).measurement := by
  obtain ⟨after, run, delivered⟩ := sendAndReceive_delivers sized counted
  let flags := sendFlags before.can.jointConfigs.length before.can.socket.writes
  obtain ⟨consumed, split, count, replies⟩ := slotEvents_consume flags before.can.socket.reads
  refine ⟨after, commandAttempts cmds before, consumed, run, delivered.attempts, ?_, ?_, ?_⟩
  · rw [delivered.reads]
    exact split
  · rw [commandAttempts_accepted counted]
    exact count
  · intro joint state found
    obtain ⟨config, old, configFound, oldFound, report⟩ := delivered.state_report sized found
    refine ⟨config, old, configFound, oldFound, ?_⟩
    have slots : before.events.length = before.can.jointConfigs.length := by
      simp [Exchange.events, sendFlags]
    have last : lastReply before.can.jointConfigs before.events joint
        before.can.jointConfigs.length = lastResolved before.can.jointConfigs joint
          (consumed.filterMap ReadResult.reply?) := by
      rw [lastReply_eq, ← slots, List.take_length, replies]
      rfl
    rw [report, deliveredReport, (reportAfter_measurement _).1, ← last]
    show ((lastReply _ before.events joint _).map _).getD _ = _
    cases lastReply before.can.jointConfigs before.events joint before.can.jointConfigs.length <;>
      rfl

/-- Two replies of the second joint around an error frame: the later one counts,
and the first joint keeps its state. -/
theorem measurement_of_last_reply_pair :
    let first : Reply := ak80Reply 2
    let second : Reply := { first with frame := { first.frame with
      data := #v[2, 0xFF, 0xFF, 0x7F, 0xF7, 0xFF, 65, 0] } }
    let errorFrame : Reply := { first with frame := { first.frame with canId := canErrFlag } }
    let before := pairExchange [.frame first, .frame errorFrame, .frame second]
    ∃ after, (sendAndReceive [zeroCmd, zeroCmd]).run before = (.returned (), after) ∧
      (after.states.map fun state => (Report.ofState state).measurement) =
        [(Report.ofState freshState).measurement, decodeReply (ak80 2) second.frame] := by
  intro first second errorFrame before
  have sized : before.Sized := rfl
  have counted : [zeroCmd, zeroCmd].length = before.can.jointConfigs.length := rfl
  obtain ⟨after, attempts, consumed, run, tried, split, _, measured⟩ :=
    measurement_of_last_reply sized counted
  refine ⟨after, run, ?_⟩
  obtain ⟨_, ran, delivered⟩ := sendAndReceive_delivers sized counted
  cases ran.symm.trans run
  have rest : after.can.socket.reads = [] := by
    rw [delivered.reads]
    decide
  have all : consumed = before.can.socket.reads := by
    rw [split, rest, List.append_nil]
  rw [all] at measured
  have count : after.states.length = 2 := delivered.frame.states
  obtain ⟨one, two, states⟩ := List.length_eq_two.mp count
  rw [states] at measured ⊢
  obtain ⟨_, _, configOne, oldOne, stateOne⟩ := measured 0 one rfl
  obtain ⟨_, _, configTwo, oldTwo, stateTwo⟩ := measured 1 two rfl
  cases configOne
  cases oldOne
  cases configTwo
  cases oldTwo
  have noReply : lastResolved before.can.jointConfigs 0
      (before.can.socket.reads.filterMap ReadResult.reply?) = none := by decide
  have lastTwo : lastResolved before.can.jointConfigs 1
      (before.can.socket.reads.filterMap ReadResult.reply?) = some second := by decide
  rw [noReply] at stateOne
  rw [lastTwo] at stateTwo
  simp only [List.map_cons, List.map_nil, stateOne, stateTwo]

end CubemarsDriver.Can
