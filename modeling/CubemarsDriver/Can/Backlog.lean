import CubemarsDriver.Can.Bus

namespace CubemarsDriver.Can

open Foundation

/-! # Replies that arrive late

Nothing links a reply to its command, and a call reads at most one reply per
command.  A reply that is left over is therefore read by the next call, and the
joint reports it as the answer to that call's command.  Runs without leftovers
report their own replies. -/

variable {K : Type} [Scalar K]

/-- When the call starts no reply is queued, and no reply to a command of an
earlier call arrives while it reads. -/
def BacklogFree (bus : Bus K) (call : Call K) : Prop :=
  bus.wire.queue = [] ∧ ∀ batch ∈ call.arrivals, ∀ answer ∈ batch, answer.call = bus.calls

/-- What the calls of a run keep. -/
structure Bus.Sane (configs : List (JointConfig K)) (bus : Bus K) : Prop where
  joints : bus.exchange.can.jointConfigs = configs
  sized : bus.exchange.Sized
  within : bus.wire.Within configs.length bus.calls

section Step

variable {replies : Answer → Reply} {configs : List (JointConfig K)} {bus next : Bus K}
variable {call : Call K}

/-- A call that returns delivers, with the wire as the slots leave it. -/
theorem step_delivers (sane : bus.Sane configs) (step : bus.step replies call = some next) :
    next.wire = (bus.slots call).2 ∧ next.calls = bus.calls + 1 ∧
      Delivered call.cmds (bus.before replies call) next.exchange := by
  have sized : (bus.before replies call).Sized := sane.sized
  by_cases counted : call.cmds.length = (bus.before replies call).can.jointConfigs.length
  · obtain ⟨after, run, delivered⟩ := sendAndReceive_delivers sized counted
    simp only [Bus.step, run] at step
    cases step
    exact ⟨rfl, rfl, delivered⟩
  · rcases sendAndReceive_mismatch (by rw [sized]; exact counted) counted with rejected | rejected
    all_goals
      rw [Bus.step, rejected] at step
      cases step

/-- A call with as many commands as joints returns. -/
theorem step_exists (sane : bus.Sane configs) (counted : call.cmds.length = configs.length) :
    ∃ next, bus.step replies call = some next := by
  have sized : (bus.before replies call).Sized := sane.sized
  obtain ⟨after, run, _⟩ := sendAndReceive_delivers sized
    (counted.trans (congrArg List.length sane.joints.symm))
  exact ⟨_, by rw [Bus.step, run]⟩

theorem Bus.Sane.step (sane : bus.Sane configs) (step : bus.step replies call = some next) :
    next.Sane configs := by
  obtain ⟨wire, calls, delivered⟩ := step_delivers sane step
  have sized : (bus.before replies call).Sized := sane.sized
  have count : (bus.flags call).length = configs.length := by
    simp [Bus.flags, sendFlags, sane.joints]
  constructor
  case joints => rw [delivered.frame.jointConfigs]; exact sane.joints
  case sized => exact sized.transport delivered.frame
  case within =>
    rw [wire, calls]
    have sent := sane.within.written count.le
    refine (Wire.slots_ensure (Wire.Within configs.length (bus.calls + 1)) (fun _ => True)
      (fun batch _ wire within => within.arrive batch) ?_ sent).2
    intro wire answer queue within queued
    refine ⟨trivial, fun other member => within other ?_⟩
    simp only [List.mem_append] at member ⊢
    rw [queued]
    exact member.imp_right (List.mem_cons_of_mem answer)

theorem lastAnswer_some {slots : List SlotAnswer} {joint count : Nat} {answer : Answer}
    (last : lastAnswer slots joint count = some answer) :
    answer.joint = joint ∧ .answered answer ∈ slots := by
  induction count with
  | zero => cases last
  | succ count ih =>
      rw [lastAnswer] at last
      split at last
      · rename_i other found
        split at last
        · cases last
          exact ⟨‹_›, List.mem_of_getElem? found⟩
        · exact ih last
      · exact ih last

omit [Scalar K] in
theorem lastReply_answers {slots : List SlotAnswer}
    (resolves : ∀ answer, .answered answer ∈ slots →
      resolve configs (replies answer).frame = some answer.joint) (joint count : Nat) :
    lastReply configs (slots.map (SlotAnswer.event replies)) joint count =
      (lastAnswer slots joint count).map replies := by
  induction count with
  | zero => rfl
  | succ count ih =>
      rw [lastReply, lastAnswer, List.getElem?_map]
      rcases found : slots[count]? with _ | _ | _ | answer
      · exact ih
      · exact ih
      · exact ih
      · simp only [Option.map_some, SlotAnswer.event,
          resolves answer (List.mem_of_getElem? found), Option.some.injEq]
        split
        · rfl
        · exact ih

omit [Scalar K] in
/-- Every answer a call reads resolves to the joint it answers for. -/
theorem slots_resolve (sane : bus.Sane configs)
    (distinct : (configs.map JointConfig.canId).Nodup) (motors : MotorsReply configs replies)
    {answer : Answer} (read : .answered answer ∈ (bus.slots call).1) :
    (replies answer).frame.canId &&& canErrFlag = 0 ∧
      resolve configs (replies answer).frame = some answer.joint := by
  have count : (bus.flags call).length ≤ configs.length := by
    simp [Bus.flags, sendFlags, sane.joints]
  have within := (Wire.slots_ensure (Wire.Within configs.length (bus.calls + 1))
    (fun answer => answer.joint < configs.length) (fun batch _ wire within => within.arrive batch)
    (fun wire first queue within queued => ⟨(within first (by simp [queued])).1,
      fun other member => within other (by simp [queued] at member ⊢; tauto)⟩)
    (sane.within.written count)).1 answer read
  have found := List.getElem?_eq_getElem within
  have reply := motors answer _ found
  exact ⟨reply.1, reply.resolves distinct found⟩

theorem arrive_queue {wire : Wire} {batch : List Answer} {answer : Answer}
    (queued : answer ∈ (wire.arrive batch).queue) : answer ∈ wire.queue ∨ answer ∈ batch := by
  induction batch generalizing wire with
  | nil => exact .inl queued
  | cons first rest ih =>
      rw [Wire.arrive] at queued
      split at queued
      · rcases ih queued with before | later
        · simp only [List.mem_append, List.mem_singleton] at before
          rcases before with before | rfl
          · exact .inl before
          · exact .inr List.mem_cons_self
        · exact .inr (List.mem_cons_of_mem _ later)
      · exact (ih queued).imp_right (List.mem_cons_of_mem _)

omit [Scalar K] in
/-- Without a backlog a call reads only replies to its own commands. -/
theorem slots_own (free : BacklogFree bus call) {answer : Answer}
    (read : .answered answer ∈ (bus.slots call).1) : answer.call = bus.calls := by
  refine (Wire.slots_ensure (fun wire => ∀ answer ∈ wire.queue, answer.call = bus.calls)
    (fun answer => answer.call = bus.calls) ?arriving ?reading ?start).1 answer read
  case arriving =>
    intro batch member wire own answer queued
    rcases arrive_queue queued with before | arrived
    · exact own answer before
    · exact free.2 batch member answer arrived
  case reading =>
    intro wire first queue own queued
    rw [queued] at own
    exact ⟨own first List.mem_cons_self, fun other member => own other (List.mem_cons_of_mem _ member)⟩
  case start =>
    intro answer queued
    rw [show (bus.wire.written (bus.flags call) bus.calls).queue = bus.wire.queue from rfl,
      free.1] at queued
    cases queued

omit [Scalar K] in
theorem before_events (sane : bus.Sane configs)
    (distinct : (configs.map JointConfig.canId).Nodup) (motors : MotorsReply configs replies) :
    (bus.before replies call).events = (bus.slots call).1.map (SlotAnswer.event replies) :=
  slotEvents_wire fun _ read => (slots_resolve sane distinct motors read).1

/-- A joint that a call leaves successful reports the last of its answers the call read. -/
theorem success_reports_answer (sane : bus.Sane configs)
    (distinct : (configs.map JointConfig.canId).Nodup) (motors : MotorsReply configs replies)
    (step : bus.step replies call = some next) {joint : Nat} {state : JointState K}
    {config : JointConfig K} (stateFound : next.exchange.states[joint]? = some state)
    (configFound : configs[joint]? = some config)
    (success : state.communicationStatus = .success) :
    ∃ answer, lastAnswer (bus.slots call).1 joint configs.length = some answer ∧
      Report.ofState state = (replies answer).report config true := by
  obtain ⟨_, _, delivered⟩ := step_delivers sane step
  have sized : (bus.before replies call).Sized := sane.sized
  obtain ⟨other, reply, otherFound, last, report⟩ :=
    delivered.success_report sized stateFound success
  rw [before_events sane distinct motors,
    show (bus.before replies call).can.jointConfigs = configs from sane.joints,
    lastReply_answers fun _ read => (slots_resolve sane distinct motors read).2] at last
  rw [show (bus.before replies call).can.jointConfigs = configs from sane.joints,
    configFound] at otherFound
  cases otherFound
  obtain ⟨answer, found, rfl⟩ := Option.map_eq_some_iff.mp last
  exact ⟨answer, found, report⟩

/-- A call without a backlog reports its own replies. -/
theorem backlogFree_step (sane : bus.Sane configs)
    (distinct : (configs.map JointConfig.canId).Nodup) (motors : MotorsReply configs replies)
    (free : BacklogFree bus call) : ReportsOwnReplies replies bus call := by
  intro next step joint state config stateFound configFound success
  rw [sane.joints] at configFound ⊢
  obtain ⟨answer, last, report⟩ :=
    success_reports_answer sane distinct motors step stateFound configFound success
  obtain ⟨own, read⟩ := lastAnswer_some last
  refine ⟨answer, last, ?_, report⟩
  cases answer
  exact congrArg₂ Answer.mk own (slots_own free read)

end Step

/-- In a run without a backlog every successful joint reports the reply to the
command of the same call. -/
theorem backlog_free_reports_own_replies {replies : Answer → Reply} {start : Bus K}
    {calls : List (Call K)} (sized : start.exchange.Sized) (fresh : start.wire = {})
    (distinct : (start.exchange.can.jointConfigs.map JointConfig.canId).Nodup)
    (motors : MotorsReply start.exchange.can.jointConfigs replies)
    (free : EveryStep (Bus.step replies) BacklogFree start calls) :
    EveryStep (Bus.step replies) (ReportsOwnReplies replies) start calls := by
  have sane : start.Sane start.exchange.can.jointConfigs := by
    refine ⟨rfl, sized, ?_⟩
    rw [fresh]
    exact nofun
  generalize start.exchange.can.jointConfigs = configs at distinct motors sane
  clear fresh sized
  induction calls generalizing start with
  | nil => trivial
  | cons call rest ih =>
      refine ⟨backlogFree_step sane distinct motors free.1, fun next step => ?_⟩
      exact ih (free.2 next step) (sane.step step)

section Example

def singleBus : Bus ℚ where
  exchange := {
    can := exampleCan 1 {}
    states := [freshState] }
  wire := {}
  calls := 0

def singleCall (arriving : List Answer) : Call ℚ where
  cmds := [zeroCmd]
  writes := [.written 10]
  arrivals := [arriving]

def sameReply (_ : Answer) : Reply := ak80Reply 1

theorem singleBus_motors : MotorsReply singleBus.exchange.can.jointConfigs sameReply := by
  rintro ⟨joint, call⟩ config found
  match joint, found with
  | 0, found =>
      cases found
      have form : MotorReply (ak80 1) (ak80Reply 1).frame := ⟨by decide, by decide, by decide⟩
      exact form
  | joint + 1, found => cases found

theorem singleBus_sane : singleBus.Sane [ak80 1] := ⟨rfl, rfl, nofun⟩

theorem backlog_free_reports_own_replies_single :
    EveryStep (Bus.step sameReply) (ReportsOwnReplies sameReply) singleBus
      [singleCall [⟨0, 0⟩], singleCall [⟨0, 1⟩]] := by
  have sized : singleBus.exchange.Sized := rfl
  have fresh : singleBus.wire = {} := rfl
  apply backlog_free_reports_own_replies sized fresh (by decide) singleBus_motors
  refine ⟨⟨rfl, by decide⟩, fun next step => ?_⟩
  obtain ⟨wire, calls, _⟩ := step_delivers singleBus_sane step
  refine ⟨⟨by rw [wire]; decide, by rw [calls]; decide⟩, fun _ _ => trivial⟩

/-- The reply to the first call's command arrives during the second call, which
reports it as its own. -/
theorem late_reply_is_misattributed :
    ¬ ∀ (replies : Answer → Reply) (start : Bus ℚ) (calls : List (Call ℚ)),
      start.exchange.Sized → start.wire = {} →
      (start.exchange.can.jointConfigs.map JointConfig.canId).Nodup →
      MotorsReply start.exchange.can.jointConfigs replies →
      EveryStep (Bus.step replies) (ReportsOwnReplies replies) start calls := by
  intro claim
  let late := singleCall [⟨0, 0⟩, ⟨0, 1⟩]
  have every := claim sameReply singleBus [singleCall [], late] rfl rfl (by decide) singleBus_motors
  obtain ⟨first, firstStep⟩ : ∃ first, singleBus.step sameReply (singleCall []) = some first :=
    step_exists singleBus_sane rfl
  obtain ⟨wire, calls, _⟩ := step_delivers singleBus_sane firstStep
  have sane := singleBus_sane.step firstStep
  obtain ⟨second, secondStep⟩ : ∃ second, first.step sameReply late = some second :=
    step_exists sane rfl
  have slots : (first.slots late).1 = [.answered ⟨0, 0⟩] := by
    simp only [Bus.slots, Bus.flags, wire, calls, sane.joints]
    decide
  have events : (first.before sameReply late).events = [.received (ak80Reply 1)] := by
    rw [before_events sane (by decide) singleBus_motors, slots]
    rfl
  obtain ⟨_, _, delivered⟩ := step_delivers sane secondStep
  have sized : (first.before sameReply late).Sized := sane.sized
  have joints : (first.before sameReply late).can.jointConfigs = [ak80 1] := sane.joints
  obtain ⟨state, stateFound⟩ : ∃ state, second.exchange.states[0]? = some state :=
    ⟨_, List.getElem?_eq_getElem (by rw [delivered.frame.states, sized, joints]; decide)⟩
  have success : state.communicationStatus = .success := by
    rw [delivered.success_iff sized stateFound, joints, events]
    refine ⟨rfl, ⟨0, by decide, by decide, ak80Reply 1, rfl, by decide⟩, fun _ failed => ?_⟩
    cases failed
  obtain ⟨answer, last, own, _⟩ := (every.2 first firstStep).1 second secondStep 0 state (ak80 1)
    stateFound (by rw [sane.joints]; rfl) success
  rw [slots, sane.joints, own, calls] at last
  exact absurd last (by decide)

end Example

end CubemarsDriver.Can
