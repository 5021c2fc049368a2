import CubemarsDriver.Can.LastReply
import CubemarsDriver.Foundation.Confines

namespace CubemarsDriver.Can

open Foundation

/-! # The guard of `send_and_receive`

The guard asks for both lengths to be wrong: it joins its two comparisons with `&&`.  Past
it nothing is thrown any more, and an index past the end is undefined. -/

variable {K : Type} [Scalar K] {cmds : List (JointCmd K)} {before : Exchange K}

/-- The call throws `std::out_of_range` with no frame written, or both lengths are right and
all its indices are in range. -/
def SizesGuarded (cmds : List (JointCmd K)) (before : Exchange K) : Prop :=
  (∃ after, (sendAndReceive cmds).run before = (.thrown .outOfRange, after) ∧
    after.can.socket.attempts = before.can.socket.attempts) ∨
  (cmds.length = before.can.jointConfigs.length ∧
    before.states.length = before.can.jointConfigs.length ∧
    ((sendAndReceive cmds).run before).1 ≠ .undefined)

theorem writeCommand_catches (index : Nat) : Path.Catches (writeCommand cmds index) := by
  have written : Path.Catches (writeFrame : ExchangePath K WriteResult) :=
    fun _ _ _ => ⟨trivial, trivial⟩
  refine Path.Confines.bind (Path.Catches.element _) fun config => ?_
  refine Path.Confines.bind (Path.Catches.element _) fun cmd => ?_
  refine Path.Confines.bind (Path.Catches.update _) fun _ => ?_
  refine Path.Confines.bind (Path.Catches.updateDefined _) fun _ => ?_
  refine Path.Confines.bind written fun result => ?_
  cases result with
  | failed errno =>
      exact Path.Confines.bind (Path.Catches.updateDefined _) fun _ => Path.Catches.updateDefined _
  | written enqueueNs =>
      refine Path.Confines.bind (Path.Catches.updateDefined _) fun _ => ?_
      exact Path.Confines.bind (Path.Catches.updateDefined _) fun _ => Path.Catches.updateDefined _

theorem receiveSlot_catches (index : Nat) :
    Path.Catches (receiveSlot index : ExchangePath K Unit) := by
  have received : Path.Catches (receiveReply : ExchangePath K (Option Reply)) :=
    fun _ _ _ => ⟨trivial, trivial⟩
  refine Path.Confines.bind (Path.Catches.element _) fun sendOk => ?_
  refine Path.Confines.ite (fun _ => ?_) fun _ => Path.Catches.pure _
  refine Path.Confines.bind (Path.Catches.updateDefined _) fun _ => ?_
  refine Path.Confines.bind received fun reply => ?_
  cases reply with
  | none => exact Path.Confines.bind (Path.Catches.read _) fun _ => Path.Catches.updateDefined _
  | some reply =>
      refine Path.Confines.bind (Path.Catches.read _) fun configs => ?_
      cases resolve configs reply.frame with
      | none => exact Path.Catches.pure _
      | some joint =>
          refine Path.Confines.bind (Path.Catches.element _) fun config => ?_
          refine Path.Confines.bind (Path.Catches.updateDefined _) fun _ => ?_
          exact Path.Confines.bind (Path.Catches.element _) fun _ => Path.Catches.updateDefined _

omit [Scalar K] in
theorem collectTxTimestamps_catches :
    Path.Catches (collectTxTimestamps : ExchangePath K Unit) := by
  refine Path.Confines.bind (Path.Catches.update _) fun _ => ?_
  refine Path.Confines.bind (Path.Catches.read _) fun entries => ?_
  refine Path.Confines.bind (Path.Catches.update _) fun _ => ?_
  refine Path.Confines.forEach _ fun entry _ => ?_
  refine Path.Confines.bind (Path.Catches.update _) fun _ => ?_
  refine Path.Confines.ite (fun _ => ?_) fun _ => Path.Catches.pure _
  refine Path.Confines.bind (Path.Catches.read _) fun found => ?_
  cases found with
  | none => exact Path.Catches.pure _
  | some joint => exact Path.Catches.updateDefined _

omit [Scalar K] in
theorem clockGettime_catches : Path.Catches (clockGettime : ExchangePath K Int) :=
  fun _ _ _ => ⟨trivial, trivial⟩

/-- With the guard passed, the call does not throw. -/
theorem sendAndReceive_not_thrown {exception : Exception} {after : Exchange K}
    (passed : cmds.length = before.states.length ∨
      cmds.length = before.can.jointConfigs.length) :
    (sendAndReceive cmds).run before ≠ (.thrown exception, after) := by
  have checked : (checkSizes cmds).run before = (.returned (), before) := by
    simp only [checkSizes, Path.read_bind]
    have agrees : ¬(cmds.length ≠ before.states.length ∧ cmds.length ≠ numJoints before) :=
      fun both => passed.elim both.1 both.2
    rw [if_neg agrees]
    rfl
  rw [sendAndReceive, Path.bind_returned checked]
  apply Path.Catches.not_thrown
  refine Path.Confines.bind clockGettime_catches fun _ => ?_
  refine Path.Confines.bind (Path.Confines.loopBelow fun _ => writeCommand_catches _) fun _ => ?_
  refine Path.Confines.bind clockGettime_catches fun _ => ?_
  refine Path.Confines.bind (Path.Catches.update _) fun _ => ?_
  refine Path.Confines.bind (Path.Confines.loopBelow fun _ => receiveSlot_catches _) fun _ => ?_
  refine Path.Confines.bind clockGettime_catches fun _ => ?_
  refine Path.Confines.bind (Path.Catches.update _) fun _ => ?_
  refine Path.Confines.bind (Path.Catches.read _) fun _ => ?_
  exact Path.Confines.ite (fun _ => collectTxTimestamps_catches) fun _ => Path.Catches.pure _

/-- With the guard not passed, only the number of joints decides how the call ends. -/
theorem sendAndReceive_refused (states : cmds.length ≠ before.states.length)
    (joints : cmds.length ≠ before.can.jointConfigs.length) :
    (sendAndReceive cmds).run before =
      if before.can.jointConfigs.length ≤ sizeMessageLength then (.thrown .outOfRange, before)
      else (.undefined, before) := by
  have checked : (checkSizes cmds).run before =
      if before.can.jointConfigs.length ≤ sizeMessageLength then (.thrown .outOfRange, before)
      else (.undefined, before) := by
    simp only [checkSizes, Path.read_bind]
    have differ : cmds.length ≠ before.states.length ∧ cmds.length ≠ numJoints before :=
      ⟨states, joints⟩
    rw [if_pos differ]
    by_cases short : before.can.jointConfigs.length ≤ sizeMessageLength
    · rw [if_pos short, if_pos (show numJoints before ≤ _ from short)]
      rfl
    · rw [if_neg short, if_neg (show ¬numJoints before ≤ _ from short)]
      rfl
  rw [sendAndReceive]
  split at checked
  next short =>
    rw [if_pos short]
    exact Path.bind_thrown checked
  next long =>
    rw [if_neg long]
    exact Path.bind_undefined checked

/-- The sizes are guarded exactly if both are right or the commands fit neither the states nor
the joints (and the joints are few enough for the message). -/
theorem sizes_guarded_iff (cmds : List (JointCmd K)) (before : Exchange K) :
    SizesGuarded cmds before ↔
      (cmds.length = before.can.jointConfigs.length ∧
        before.states.length = before.can.jointConfigs.length) ∨
      (cmds.length ≠ before.states.length ∧ cmds.length ≠ before.can.jointConfigs.length ∧
        before.can.jointConfigs.length ≤ sizeMessageLength) := by
  constructor
  · rintro (⟨after, thrown, _⟩ | ⟨counted, sized, _⟩)
    · right
      by_cases states : cmds.length = before.states.length
      · exact absurd thrown (sendAndReceive_not_thrown (.inl states))
      by_cases joints : cmds.length = before.can.jointConfigs.length
      · exact absurd thrown (sendAndReceive_not_thrown (.inr joints))
      refine ⟨states, joints, ?_⟩
      by_contra long
      rw [sendAndReceive_refused states joints, if_neg long] at thrown
      cases thrown
    · exact .inl ⟨counted, sized⟩
  · rintro (⟨counted, sized⟩ | ⟨states, joints, short⟩)
    · obtain ⟨after, run, _⟩ := sendAndReceive_delivers sized counted
      refine .inr ⟨counted, sized, ?_⟩
      rw [run]
      nofun
    · refine .inl ⟨before, ?_, rfl⟩
      rw [sendAndReceive_refused states joints, if_pos short]

section Example

/-- Two joints and two commands, but a single state: the first frame is written, and the
second state is past the end. -/
theorem sizes_not_guarded :
    let before : Exchange ℚ := { pairExchange [] with states := [freshState] }
    ¬SizesGuarded [zeroCmd, zeroCmd] before := by
  rintro before (⟨after, thrown, _⟩ | ⟨_, sized, _⟩)
  · exact sendAndReceive_not_thrown (.inr rfl) thrown
  · exact absurd sized (by decide)

end Example

end CubemarsDriver.Can
