import CubemarsDriver.Node.AllOrigins
import CubemarsDriver.Node.CycleSafety

namespace CubemarsDriver.Node

open Foundation Can

/-! # Mutexes and indices

A path is defined only where every index it uses is in range and every mutex it
gives back is held, so what is left to say of a path that returns is what it
leaves of the mutexes. -/

variable {K : Type} {node before after : Node K}

/-- The operations that lock and unlock the mutexes by hand. -/
inductive Callback where
  | canCycle (index : Nat) (env : CycleEnv)
  | onCleanup
  | setAllMotorsOriginHere
  | setMotorOriginHere (motorId : Int)

def Callback.path [Scalar K] [Libm K] : Callback → NodePath K Unit
  | .canCycle index env => do let _ ← canCycleCallback index env
  | .onCleanup => do let _ ← Node.onCleanup
  | .setAllMotorsOriginHere => setAllMotorsOriginHereCallback
  | .setMotorOriginHere motorId => setMotorOriginHereCallback motorId

/-- Comm threads are started for the interfaces only. -/
def Callback.InRange (callback : Callback) (node : Node K) : Prop :=
  ∀ index env, callback = .canCycle index env → index < node.numInterfaces

/-- The path ends, every index it uses is in range, it gives back no mutex it
does not hold and it gives back both as often as it takes them. -/
def GivesBack (path : NodePath K Unit) (node : Node K) : Prop :=
  ∃ after, path.run node = (.returned (), after) ∧
    Mutex.Balanced node.canCommunicationMutex after.canCommunicationMutex ∧
    Mutex.Balanced node.jointStateMsgMutex after.jointStateMsgMutex

theorem givesBack_of_free {path : NodePath K Unit} (run : path.run node = (.returned (), after))
    (free : node.locks = (none, none)) (freeAfter : after.locks = (none, none)) :
    GivesBack path node := by
  rw [locks, Prod.mk.injEq] at free freeAfter
  exact ⟨after, run, Mutex.balanced_of_free free.1 freeAfter.1,
    Mutex.balanced_of_free free.2 freeAfter.2⟩

/-- What the callbacks leave of a valid setup: a valid setup, or no interfaces. -/
def Usable (setup : Setup K) (_ : Lifecycle) : Prop := setup.Valid ∨ setup.canInterfaces = []

/-- A comm thread knows how many joints its interface has. -/
theorem Held.cycling {index : Nat} (known : Held (fun setup _ => setup.Valid) (none, none) node)
    (bound : index < node.numInterfaces) :
    ∃ count, Held (Cycling index count) (none, none) node := by
  obtain ⟨rows, found, _⟩ := known.1.rows index bound
  obtain ⟨can, canFound, _⟩ := Option.map_eq_some_iff.mp (interfaceRows_eq_some.mp found).1
  refine ⟨can.jointConfigs.length, ⟨known.1, ?_⟩, known.2⟩
  rw [Setup.HasJoints, canFound, Option.map_some]

section Callbacks

variable [Scalar K] [Libm K]

/-- The condition under which the service for all motors gives back what it took. -/
def Callback.HandshakesComplete (callback : Callback) (node : Node K) : Prop :=
  callback = .setAllMotorsOriginHere → node.lifecycle = .inactive → EveryOriginCompletes node

theorem Callback.path_usable (callback : Callback)
    (known : Held (fun setup _ => setup.Valid) (none, none) node)
    (inRange : callback.InRange node) (complete : callback.HandshakesComplete node) :
    ∃ after, callback.path.run node = (.returned (), after) ∧ Held Usable (none, none) after := by
  cases callback with
  | canCycle index env =>
      obtain ⟨count, cycling⟩ := known.cycling (inRange index env rfl)
      obtain ⟨exit, after, run, knownAfter⟩ :=
        (canCycleCallback_stays : Stays _ _ (fun _ _ => False) _).returns cycling
      exact ⟨after, Path.bind_returned run, .inl knownAfter.1.1, knownAfter.2⟩
  | onCleanup =>
      have cleanable : Held (Cleanable node.lifecycle) (none, none) node :=
        ⟨⟨known.1.rows, rfl⟩, known.2⟩
      obtain ⟨result, after, run, _, cleared⟩ :=
        (onCleanup_clears node.lifecycle : Path.Ensures _ _ _ fun _ _ => False).returns cleanable
      exact ⟨after, Path.bind_returned run, .inr cleared.1.1, cleared.2⟩
  | setAllMotorsOriginHere =>
      by_cases inactive : node.lifecycle = .inactive
      · obtain ⟨after, run, knownAfter, _⟩ := setAllMotorsOriginHereCallback_succeeds
          ⟨⟨known.1, inactive⟩, known.2⟩ (complete rfl inactive)
        exact ⟨after, run, .inl knownAfter.1.1, knownAfter.2⟩
      · have refused : setAllMotorsOriginHereCallback.run node = (.returned (),
            { node with response := { success := false, message := notConfiguredMessage } }) := by
          rw [setAllMotorsOriginHereCallback, Path.read_bind, if_pos inactive, respond,
            Path.update_run]
        exact ⟨_, refused, .inl known.1, known.2⟩
  | setMotorOriginHere motorId =>
      obtain ⟨_, after, run, rested, free⟩ := (setMotorOriginHereCallback_rests node.lifecycle
        motorId : Path.Ensures _ _ _ fun _ _ => False).returns ⟨⟨known.1, rfl⟩, known.2⟩
      exact ⟨after, run, rested.imp (·.1) (·.1), free⟩

theorem Callback.givesBack_iff (callback : Callback)
    (known : Held (fun setup _ => setup.Valid) (none, none) node) (inRange : callback.InRange node) :
    GivesBack callback.path node ↔ callback.HandshakesComplete node := by
  constructor
  · rintro ⟨after, run, _⟩ rfl inactive
    exact (setAllMotorsOriginHereCallback_completes ⟨⟨known.1, inactive⟩, known.2⟩ run).1
  · intro complete
    obtain ⟨after, run, knownAfter⟩ := callback.path_usable known inRange complete
    exact givesBack_of_free run known.2 knownAfter.2

/-- Every path gives back what it takes and uses existing entries only, unless a
handshake of the service for all motors fails. -/
theorem mutexes_given_back_iff (callback : Callback) (valid : node.setup.Valid)
    (free : node.locks = (none, none)) (inRange : callback.InRange node) :
    GivesBack callback.path node ↔ callback.HandshakesComplete node :=
  callback.givesBack_iff ⟨valid, free⟩ inRange

end Callbacks

section Example

attribute [local instance] libmAtRest

theorem mutexes_given_back_iff_answering :
    GivesBack Callback.setAllMotorsOriginHere.path answeringNode ↔
      Callback.setAllMotorsOriginHere.HandshakesComplete answeringNode :=
  mutexes_given_back_iff .setAllMotorsOriginHere (exampleNode_valid _ _ _) rfl
    (fun _ _ impossible => by cases impossible)

/-- The handler has given the mutex back when the service gives it back. -/
theorem mutex_given_back_twice :
    silentMotorNode.setup.Valid ∧ silentMotorNode.locks = (none, none) ∧
      ¬ GivesBack Callback.setAllMotorsOriginHere.path silentMotorNode := by
  refine ⟨exampleNode_valid _ _ _, rfl, ?_⟩
  rintro ⟨after, run, _⟩
  have ends : (setAllMotorsOriginHereCallback.run silentMotorNode).1 = .undefined := by
    decide +kernel
  have returned := congrArg Prod.fst run
  rw [Callback.path, ends] at returned
  cases returned

end Example

end CubemarsDriver.Node
