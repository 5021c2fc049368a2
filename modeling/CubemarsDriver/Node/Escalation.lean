import CubemarsDriver.Node.CycleReplies
import CubemarsDriver.Node.Batches

namespace CubemarsDriver.Node

open Foundation Can

/-! # The levels of escalation

A cycle that has to give up deactivates an active node and asks for a cleanup of any other.
A device fault may have deactivated the node before. -/

variable {K : Type} [Scalar K] {index : Nat} {env : CycleEnv} {node after : Node K}
variable {frequency : K} {exit : CycleExit}

/-- A device fault deactivates the node, the errors reach their limit, and the node is then not
active any more. -/
def EscalatesTwice (env : CycleEnv) (index : Nat) (replied : Node K) : Prop :=
  ∃ rows counted, Counted index replied rows counted ∧
    LimitReached (canErrorsInThisCycle rows) counted replied.maxCanErrorsBeforeMotorShutdown ∧
    (faultsSeen env replied rows).2 = false ∧
    env.lifecycle .tooManyErrors (faultsSeen env replied rows).1 ≠ .active

omit [Scalar K] in
theorem Counted.unique {rows others : CycleRows K} {counted other : Nat}
    (counts : Counted index node rows counted) (countsToo : Counted index node others other) :
    others = rows ∧ other = counted :=
  ⟨Option.some.inj (countsToo.rows.symm.trans counts.rows),
    Option.some.inj (countsToo.counter.symm.trans counts.counter)⟩

theorem handleReplies_levels {replied : Node K} (calm : replied.levels = (false, false))
    (run : (handleReplies index env frequency).run replied = (.returned exit, after)) :
    after.levels = (true, true) ↔ EscalatesTwice env index replied := by
  obtain ⟨rows, counted, few, node, replies, run⟩ := handleReplies_counted run
  have requested : node.cleanupRequested = false :=
    (congrArg Gauges.cleanupRequested replies.gauges).trans (congrArg Prod.snd calm)
  have seen := replies.alarm
  have twice : EscalatesTwice env index replied ↔
      LimitReached (canErrorsInThisCycle rows) counted replied.maxCanErrorsBeforeMotorShutdown ∧
        node.watchdogTimer = false ∧ env.lifecycle .tooManyErrors node.lifecycle ≠ .active := by
    constructor
    · rintro ⟨others, other, counts, reached, deactivated, passive⟩
      obtain ⟨rfl, rfl⟩ := replies.counts.unique counts
      rw [← seen] at deactivated passive
      exact ⟨reached, deactivated, passive⟩
    · rintro ⟨reached, deactivated, passive⟩
      exact ⟨rows, counted, replies.counts, reached, by rw [← seen]; exact deactivated,
        by rw [← seen]; exact passive⟩
  rw [twice]
  cases few with
  | true =>
      rw [afterCounting, if_pos rfl] at run
      have unrequested : after.cleanupRequested = node.cleanupRequested :=
        congrArg Prod.fst (writtenBack_requests.of_run run)
      have below : ¬ LimitReached (canErrorsInThisCycle rows) counted
          replied.maxCanErrorsBeforeMotorShutdown := fun reached => by
        cases replies.few.mpr reached
      simp [below, unrequested, requested]
  | false =>
      rw [afterCounting, if_neg Bool.false_ne_true, Path.bind_returned (giveUp_run _ node)] at run
      cases run
      have reached := replies.few.mp rfl
      split
      · rename_i active
        simp [levels, deactivated, storeDamping, requested, active]
      · rename_i passive
        simp [levels, reached, passive]

/-- No other thread changes the lifecycle state during the cycle. -/
def Undisturbed (env : CycleEnv) : Prop := ∀ point lifecycle, env.lifecycle point lifecycle = lifecycle

omit [Scalar K] in
theorem afterFaults_deactivated {damping : Bool} {joint : Nat} {states : List (JointState K)}
    (undisturbed : Undisturbed env) :
    afterFaults env damping joint states (.inactive, false) = (.inactive, false) := by
  induction states generalizing joint with
  | nil => rfl
  | cons state rest ih =>
      have step : faultStep env damping joint state (.inactive, false) = (.inactive, false) := by
        simp [faultStep, undisturbed (.deviceFault joint) .inactive]
      rw [afterFaults, step, ih]

omit [Scalar K] in
theorem afterFaults_active {damping : Bool} {joint : Nat} {states : List (JointState K)}
    (undisturbed : Undisturbed env) : afterFaults env damping joint states (.active, true) =
      if damping = true ∧ ∃ state ∈ states, state.deviceStatus ≠ .noFault then (.inactive, false)
      else (.active, true) := by
  induction states generalizing joint with
  | nil => simp [afterFaults]
  | cons state rest ih =>
      have seen := undisturbed (.deviceFault joint) .active
      by_cases fault : damping = true ∧ state.deviceStatus ≠ .noFault
      · have step : faultStep env damping joint state (.active, true) = (.inactive, false) := by
          simp [faultStep, fault.1, fault.2, seen]
        rw [afterFaults, step, afterFaults_deactivated undisturbed,
          if_pos ⟨fault.1, state, List.mem_cons_self, fault.2⟩]
      · have step : faultStep env damping joint state (.active, true) = (.active, true) := by
          simp only [faultStep, seen]
          grind
        rw [afterFaults, step, ih]
        congr 1
        simp only [List.mem_cons, exists_eq_or_imp, eq_iff_iff]
        grind

omit [Scalar K] in
/-- Without other threads any device fault deactivates an active node, if it may. -/
theorem escalatesTwice_undisturbed_iff {replied : Node K} (undisturbed : Undisturbed env)
    (alarm : replied.alarm = (.active, true)) : EscalatesTwice env index replied ↔
      ∃ rows counted, Counted index replied rows counted ∧
        LimitReached (canErrorsInThisCycle rows) counted replied.maxCanErrorsBeforeMotorShutdown ∧
        replied.dampingOnMotorError = true ∧
        ∃ state ∈ rows.states.take rows.cmds.length, state.deviceStatus ≠ .noFault := by
  refine exists_congr fun rows => exists_congr fun counted => and_congr_right fun _ =>
    and_congr_right fun _ => ?_
  rw [faultsSeen, alarm, afterFaults_active undisturbed, undisturbed]
  split
  · rename_i fault
    simp [fault]
  · rename_i harmless
    simp [harmless]

/-- A node of which both levels of escalation can be observed.  No cycle reads the two. -/
def watched (node : Node K) : Node K :=
  { node with watchdogTimer := true, cleanupRequested := false }

/-- A cycle deactivates and asks for a cleanup as well only if a device fault has deactivated
the node before the errors of the cycle reach their limit. -/
theorem escalates_once_iff [Libm K] (index : Nat) (env : CycleEnv) (node after : Node K)
    (exit : CycleExit) (run : (canCycleCallback index env).run node.watched = (.returned exit, after)) :
    ¬ (after.watchdogTimer = false ∧ after.cleanupRequested = true) ↔
      ∀ frequency replied, (untilReplies index env).run node.watched =
        (.returned (.ok frequency), replied) → ¬ EscalatesTwice env index replied := by
  have both : after.watchdogTimer = false ∧ after.cleanupRequested = true ↔
      after.levels = (true, true) := by simp [levels]
  rw [both]
  rw [canCycleCallback_eq, Path.bind_run_returned] at run
  obtain ⟨result, middle, first, run⟩ := run
  have unescalated := ((untilReplies_unescalated node.watched).of_returned trivial rfl first).2
  cases result with
  | error early =>
      cases run
      refine ⟨fun _ frequency replied other => ?_, fun _ => unescalated.2 rfl⟩
      cases first.symm.trans other
  | ok frequency =>
      rw [handleReplies_levels unescalated.2 run]
      constructor
      · rintro once _ _ other
        cases first.symm.trans other
        exact once
      · exact fun never => never frequency middle first

section Example

attribute [local instance] libmAtRest

def dampingAssignment : Assignment ℚ := exampleAssignment ["hip", "knee"]
  (("damping_on_motor_error", .bool true) ::
    exampleDefinition "hip" 1 "AK80-6" [] ++ exampleDefinition "knee" 2 "AK80-8v3" [])

/-- The first motor reports a fault and the second one does not answer. -/
def faultyBus : Node.Bus where
  setup _ _ := true
  socket _ := {
    writes := List.replicate 5 (.written 0)
    reads := [exampleReply 1 1, exampleReply 0x80002902 0, exampleReply 0x80002902 0,
      .frame {
        frame := { canId := 1, len := 8, data := #v[1, 0x80, 0, 0, 0, 0, 0, 3] }
        rxNs := 0, rxHwNs := 0, dequeueNs := 0 }] }

def activeRun : List (Operation ℚ) :=
  [.configure dampingAssignment faultyBus 0, .jointCmd (exampleCommand 2) 0 0, .activate]

/-- One cycle of an active node goes into damping and asks for a cleanup as well. -/
theorem fault_and_silence_escalate_twice : ∃ before after : Node ℚ,
    runSteps operate freshNode activeRun = some before ∧
      before.lifecycle = .active ∧ before.cleanupRequested = false ∧
      (canCycleCallback 0 ({} : CycleTimes).env).run before = (.returned .tooManyErrors, after) ∧
      after.lifecycle = .inactive ∧ after.cleanupRequested = true := by
  obtain ⟨before, run, observed⟩ := Option.map_eq_some_iff.mp
    (show (runSteps operate freshNode activeRun).map (fun before =>
      let ended := (canCycleCallback 0 ({} : CycleTimes).env).run before
      ((before.lifecycle, before.cleanupRequested), ended.1,
        (ended.2.lifecycle, ended.2.cleanupRequested))) =
      some ((.active, false), .returned .tooManyErrors, (.inactive, true)) by decide +kernel)
  simp only [Prod.mk.injEq] at observed
  obtain ⟨⟨active, unrequested⟩, returned, inactive, requested⟩ := observed
  exact ⟨before, _, run, active, unrequested, Prod.ext returned rfl, inactive, requested⟩

/-- The first motor reports a fault, and both answer. -/
def alarmedBus : Node.Bus where
  setup _ _ := true
  socket _ := {
    writes := List.replicate 5 (.written 0)
    reads := [exampleReply 1 1, exampleReply 0x80002902 0, exampleReply 0x80002902 0,
      .frame {
        frame := { canId := 1, len := 8, data := #v[1, 0x80, 0, 0, 0, 0, 0, 3] }
        rxNs := 0, rxHwNs := 0, dequeueNs := 0 },
      exampleReply 0x80002902 0] }

def alarmedRun : List (Operation ℚ) :=
  [.configure dampingAssignment alarmedBus 0, .jointCmd (exampleCommand 2) 0 0, .activate]

/-- The fault alone deactivates the node and does not ask for a cleanup. -/
theorem escalates_once_iff_alarmed : ∃ before after : Node ℚ,
    runSteps operate freshNode alarmedRun = some before ∧ before.lifecycle = .active ∧
      (canCycleCallback 0 {}).run before.watched = (.returned .completed, after) ∧
      after.watchdogTimer = false ∧ after.cleanupRequested = false ∧
      ∀ frequency replied, (untilReplies 0 {}).run before.watched =
        (.returned (.ok frequency), replied) → ¬ EscalatesTwice {} 0 replied := by
  obtain ⟨before, run, observed⟩ := Option.map_eq_some_iff.mp
    (show (runSteps operate freshNode alarmedRun).map (fun before =>
      let ended := (canCycleCallback 0 {}).run before.watched
      (before.lifecycle, ended.1, ended.2.watchdogTimer, ended.2.cleanupRequested)) =
        some (.active, .returned .completed, false, false) by decide +kernel)
  simp only [Prod.mk.injEq] at observed
  obtain ⟨active, returned, deactivated, unrequested⟩ := observed
  exact ⟨before, _, run, active, Prod.ext returned rfl, deactivated, unrequested,
    (escalates_once_iff 0 {} before _ .completed (Prod.ext returned rfl)).mp
      fun both => by cases unrequested.symm.trans both.2⟩

end Example

end CubemarsDriver.Node
