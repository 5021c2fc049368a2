import Mathlib.Algebra.Order.GroupWithZero.Basic
import CubemarsDriver.Foundation.Interleaving
import CubemarsDriver.Node.WriteBack

namespace CubemarsDriver.Node

open Foundation Can

/-! # Cycles without a reply

A cycle rescales the states of its interface where they are stored.  A state
that no reply has replaced is in joint units already and is rescaled again. -/

variable {K : Type} [Scalar K]

/-- One cycle of a run, and what other threads and the bus do before it: they
leave the interface's rows and its joints alone. -/
structure Turn (K : Type) (index : Nat) where
  prepare : Node K → Node K
  env : CycleEnv
  keepsRows : ∀ node, cycleRows index (prepare node).tables = cycleRows index node.tables
  keepsJoints : ∀ node, (prepare node).canInterfaces[index]?.join.map CubemarsCan.jointConfigs =
    node.canInterfaces[index]?.join.map CubemarsCan.jointConfigs

/-- A cycle of a run reaches the write-back. -/
def cycleStep [Libm K] {index : Nat} (node : Node K) (turn : Turn K index) : Option (Node K) :=
  writtenBack index turn.env (turn.prepare node)

section Step

variable [Libm K] {index joint : Nat} {params : JointParameters K} {config : JointConfig K}
variable {node after : Node K} {turn : Turn K index}

omit [Libm K] [Scalar K] in
theorem HasJoint.prepared (has : HasJoint index joint params config node) (turn : Turn K index) :
    HasJoint index joint params config (turn.prepare node) := by
  obtain ⟨rows, configs, found, joints, rest⟩ := has
  exact ⟨rows, configs, (turn.keepsRows node).trans found, (turn.keepsJoints node).trans joints, rest⟩

omit [Libm K] [Scalar K] in
theorem prepared_stateAt (turn : Turn K index) :
    stateAt index joint (turn.prepare node) = stateAt index joint node := by
  rw [stateAt, turn.keepsRows, stateAt]

/-- A cycle of a run keeps the joint. -/
theorem cycleStep_joint (has : HasJoint index joint params config node)
    (unfiltered : Unfiltered params) (stepped : cycleStep node turn = some after) :
    HasJoint index joint params config after ∧ ∃ motor before state,
      CycledJoint index joint params config turn.env (turn.prepare node) motor before state
        after :=
  canCycleCallback_joint (has.prepared turn) unfiltered stepped

end Step

section Runs

variable [Libm ℚ] {index joint : Nat} {params : JointParameters ℚ} {config : JointConfig ℚ}
variable {node start first last : Node ℚ} {state : JointState ℚ}

/-- The state of the joint is the one that was last written. -/
structure Settled (index joint : Nat) (params : JointParameters ℚ) (state : JointState ℚ)
    (node : Node ℚ) : Prop where
  stored : stateAt index joint node = some state
  written : reading node.messages params.msgIdx = some (writtenReading params state)

/-- The state after some more rescalings. -/
structure Rescaled (ratio : ℚ) (count : Nat) (state final : JointState ℚ) : Prop where
  pos : final.pos = state.pos * (1 / ratio) ^ count
  vel : final.vel = state.vel * (1 / ratio) ^ count
  torque : final.torque = state.torque * ratio ^ count

omit [Libm ℚ] in
theorem toJointSpace_rescaled {count : Nat} {before same final : JointState ℚ}
    (unchanged : (Report.ofState same).measurement = (Report.ofState before).measurement)
    (rest : Rescaled params.transmissionRatio count (toJointSpace params same) final) :
    Rescaled params.transmissionRatio (count + 1) before final := by
  simp only [Report.ofState, Measurement.mk.injEq] at unchanged
  obtain ⟨pos, vel, torque, _, _⟩ := unchanged
  obtain ⟨posRest, velRest, torqueRest⟩ := rest
  have one : (Scalar.one : ℚ) = 1 := rfl
  simp only [toJointSpace, one] at posRest velRest torqueRest
  constructor
  · rw [posRest, pos, pow_succ', mul_assoc]
  · rw [velRest, vel, pow_succ', mul_assoc]
  · rw [torqueRest, torque, pow_succ', mul_assoc]

/-- Cycles without a reply rescale once more each. -/
theorem quiet_run {quiet : List (Turn ℚ index)} (has : HasJoint index joint params config first)
    (unfiltered : Unfiltered params) (settled : Settled index joint params state first)
    (noReply : EveryStep cycleStep
      (fun node turn => replyRead index joint (turn.prepare node) = none) first quiet)
    (run : runSteps cycleStep first quiet = some last) :
    ∃ final, Settled index joint params final last ∧
      Rescaled params.transmissionRatio quiet.length state final := by
  induction quiet generalizing first state with
  | nil =>
      cases run
      exact ⟨state, settled, by simp, by simp, by simp⟩
  | cons turn quiet ih =>
      obtain ⟨next, stepped, rest⟩ := runSteps_cons.mp run
      obtain ⟨hasNext, _, before, same, cycled⟩ := cycleStep_joint has unfiltered stepped
      cases settled.stored.symm.trans ((prepared_stateAt turn).symm.trans cycled.stored)
      obtain ⟨final, finalSettled, rescaled⟩ := ih hasNext ⟨cycled.rescaled, cycled.written⟩
        (noReply.2 next stepped) rest
      refine ⟨final, finalSettled, toJointSpace_rescaled ?_ rescaled⟩
      rw [cycled.measured, noReply.1]
      rfl

/-- A reply without motion and effort, which no rescaling changes. -/
def Motionless (measurement : Measurement ℚ) : Prop :=
  measurement.pos = 0 ∧ measurement.vel = 0 ∧ measurement.torque = 0

omit [Libm ℚ] in
theorem mul_pow_eq_self_iff {ratio value : ℚ} {count : Nat} (positive : 0 < ratio)
    (more : count ≠ 0) : value * ratio ^ count = value ↔ ratio = 1 ∨ value = 0 := by
  rw [mul_right_eq_self₀, pow_eq_one_iff_of_nonneg positive.le more]

omit [Libm ℚ] in
/-- Rescaling again changes what is written, but for ratio one and joints at rest. -/
theorem writtenReading_rescaled {count : Nat} {measured first final : JointState ℚ}
    (positive : 0 < params.transmissionRatio) (more : count ≠ 0)
    (scaled : first = toJointSpace params measured)
    (rescaled : Rescaled params.transmissionRatio count first final) :
    writtenReading params final = writtenReading params first ↔
      params.transmissionRatio = 1 ∨ Motionless (Report.ofState measured).measurement := by
  have one : (Scalar.one : ℚ) = 1 := rfl
  have inverse : 0 < 1 / params.transmissionRatio := one_div_pos.mpr positive
  have unit : 1 / params.transmissionRatio = 1 ↔ params.transmissionRatio = 1 := by
    rw [div_eq_one_iff_eq positive.ne', eq_comm]
  obtain ⟨pos, vel, torque⟩ := rescaled
  simp only [writtenReading, JointReading.mk.injEq, pos, vel, torque, add_left_inj,
    mul_pow_eq_self_iff inverse more, mul_pow_eq_self_iff positive more, unit, scaled,
    toJointSpace, one, mul_eq_zero, inverse.ne', positive.ne', or_false, Motionless,
    Report.ofState]
  tauto

/-- In a run of cycles, one cycle reads a reply of the joint and all the next
ones read none. -/
structure StaleRun (index joint : Nat) (params : JointParameters ℚ) (config : JointConfig ℚ)
    (reply : Reply) (origin start first last : Node ℚ) (earlier : List (Turn ℚ index))
    (turn : Turn ℚ index) (quiet : List (Turn ℚ index)) : Prop where
  has : HasJoint index joint params config origin
  reaches : runSteps cycleStep origin earlier = some start
  replied : replyRead index joint (turn.prepare start) = some reply
  cycle : cycleStep start turn = some first
  noReply : EveryStep cycleStep
    (fun node turn => replyRead index joint (turn.prepare node) = none) first quiet
  run : runSteps cycleStep first quiet = some last
  silent : quiet ≠ []

section Stale

variable {reply : Reply} {origin : Node ℚ} {earlier quiet : List (Turn ℚ index)}
variable {turn : Turn ℚ index}

/-- What the cycle with the reply wrote, and what the last cycle wrote. -/
theorem StaleRun.written
    (stale : StaleRun index joint params config reply origin start first last earlier turn quiet)
    (unfiltered : Unfiltered params) : ∃ measured final,
      (Report.ofState measured).measurement = decodeReply config reply.frame ∧
      reading first.messages params.msgIdx =
        some (writtenReading params (toJointSpace params measured)) ∧
      reading last.messages params.msgIdx = some (writtenReading params final) ∧
      Rescaled params.transmissionRatio quiet.length (toJointSpace params measured) final := by
  have hasStart : HasJoint index joint params config start :=
    invariant_of_run
      (fun node turn next has _ stepped => (cycleStep_joint has unfiltered stepped).1)
      stale.has everyStep_true stale.reaches
  obtain ⟨hasFirst, _, before, measured, cycled⟩ := cycleStep_joint hasStart unfiltered stale.cycle
  obtain ⟨final, settled, rescaled⟩ := quiet_run hasFirst unfiltered
    ⟨cycled.rescaled, cycled.written⟩ stale.noReply stale.run
  refine ⟨measured, final, ?_, cycled.written, settled.written, rescaled⟩
  rw [cycled.measured, stale.replied]
  rfl

/-- What is written without replies stays what the last reply gave exactly if
the transmission ratio is one or that reply was motionless. -/
theorem stale_reading_iff
    (stale : StaleRun index joint params config reply origin start first last earlier turn quiet)
    (unfiltered : Unfiltered params) (positive : 0 < params.transmissionRatio) :
    reading last.messages params.msgIdx = reading first.messages params.msgIdx ↔
      params.transmissionRatio = 1 ∨ Motionless (decodeReply config reply.frame) := by
  obtain ⟨measured, final, measurement, firstWritten, lastWritten, rescaled⟩ :=
    stale.written unfiltered
  have more : quiet.length ≠ 0 := fun none => stale.silent (List.length_eq_zero_iff.mp none)
  rw [lastWritten, firstWritten, Option.some.injEq, ← measurement]
  exact writtenReading_rescaled positive more rfl rescaled

end Stale

end Runs

section Example

attribute [local instance] libmAtRest

def idleTurn : Turn ℚ 0 where
  prepare := id
  env := {}
  keepsRows _ := rfl
  keepsJoints _ := rfl

/-- The joint answers the first of its commands only. -/
def silentNode : Node ℚ := exampleNode .inactive 2 [{
  writes := [.written 10, .written 20]
  reads := [.frame (ak80Reply 1)] }]

theorem silentNode_stale : ∃ first last, StaleRun 0 0 (exampleParams 0 2) (ak80 1) (ak80Reply 1)
    silentNode silentNode first last [] idleTurn [idleTurn] := by
  obtain ⟨first, cycle⟩ : ∃ first, cycleStep silentNode idleTurn = some first :=
    Option.isSome_iff_exists.mp (by decide +kernel)
  have silence : ((cycleStep silentNode idleTurn).bind fun node =>
      replyRead 0 0 node) = none := by decide +kernel
  obtain ⟨last, quietCycle⟩ : ∃ last, ((cycleStep silentNode idleTurn).bind fun node =>
      cycleStep node idleTurn) = some last := Option.isSome_iff_exists.mp (by decide +kernel)
  rw [cycle, Option.bind_some] at silence quietCycle
  refine ⟨first, last, ?_, rfl, by decide +kernel, cycle, ⟨silence, fun _ _ => trivial⟩, ?_, by simp⟩
  · refine ⟨_, _, rfl, rfl, rfl, rfl, rfl, rfl, ?_⟩
    intro other otherParams found _
    exact Nat.lt_one_iff.mp (List.getElem?_eq_some_iff.mp found).1
  · rw [runSteps_cons]
    exact ⟨last, quietCycle, rfl⟩

theorem unfiltered_exampleParams (msgIdx : Nat) (ratio : ℚ) :
    Unfiltered (exampleParams msgIdx ratio) := ⟨rfl, Nat.zero_le 1⟩

theorem stale_reading_iff_silent : ∃ first last : Node ℚ,
    reading last.messages 0 = reading first.messages 0 ↔
      (2 : ℚ) = 1 ∨ Motionless (decodeReply (ak80 1) (ak80Reply 1).frame) := by
  obtain ⟨first, last, stale⟩ := silentNode_stale
  exact ⟨first, last, stale_reading_iff stale (unfiltered_exampleParams 0 2) two_pos⟩

theorem ak80Reply_moves : ¬ Motionless (decodeReply (ak80 1) (ak80Reply 1).frame) := by
  intro motionless
  have raw : (unpackV2 (ak80Reply 1).frame.data).pInt.toNat = 32767 := by decide
  have position : (decodeReply (ak80 1) (ak80Reply 1).frame).pos =
      uintToFloat (unpackV2 (ak80Reply 1).frame.data).pInt.toNat (-25 / 2 : ℚ) (25 / 2) 16 := rfl
  rw [motionless.1, raw, uintToFloat_rat, Quantizer.levelValue] at position
  norm_num at position

/-- With a transmission ratio of two the written state changes without a reply. -/
theorem stale_reading_changes :
    ¬ ∀ (index joint : Nat) (params : JointParameters ℚ) (config : JointConfig ℚ) (reply : Reply)
      (origin start first last : Node ℚ) (earlier quiet : List (Turn ℚ index))
      (turn : Turn ℚ index),
      StaleRun index joint params config reply origin start first last earlier turn quiet →
      Unfiltered params → 0 < params.transmissionRatio →
      reading last.messages params.msgIdx = reading first.messages params.msgIdx := by
  intro claim
  obtain ⟨first, last, stale⟩ := silentNode_stale
  have same := claim 0 0 _ _ _ _ _ first last [] [idleTurn] idleTurn stale
    (unfiltered_exampleParams 0 2) two_pos
  obtain ⟨measured, final, measurement, firstWritten, lastWritten, rescaled⟩ :=
    stale.written (unfiltered_exampleParams 0 2)
  rw [lastWritten, firstWritten, Option.some.injEq,
    writtenReading_rescaled two_pos one_ne_zero rfl rescaled, measurement] at same
  rcases same with one | motionless
  · exact absurd one (by norm_num [exampleParams])
  · exact ak80Reply_moves motionless

end Example

end CubemarsDriver.Node
