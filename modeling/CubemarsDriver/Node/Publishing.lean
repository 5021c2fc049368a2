import Mathlib.Data.List.Induction
import CubemarsDriver.Node.Cycle

namespace CubemarsDriver.Node

open Foundation

/-! # The published joint states

The message is stamped with the arrival time of the oldest reply that is stored.  A stored time of
zero stands for a joint without a reply. -/

variable {K : Type}

/-- The loop over the stored times; zero if none of them is positive. -/
def oldestRxNs (times : List Int) : Int :=
  times.foldl (fun oldest rxNs => if 0 < rxNs ∧ (oldest = 0 ∨ rxNs < oldest) then rxNs else oldest) 0

theorem oldestRxNs_concat (times : List Int) (rxNs : Int) : oldestRxNs (times ++ [rxNs]) =
    if 0 < rxNs ∧ (oldestRxNs times = 0 ∨ rxNs < oldestRxNs times) then rxNs else oldestRxNs times := by
  rw [oldestRxNs, List.foldl_append]
  rfl

/-- It is the least of the positive times, and zero only without one. -/
theorem oldestRxNs_least (times : List Int) :
    oldestRxNs times = 0 ∧ (∀ rxNs ∈ times, rxNs ≤ 0) ∨
      0 < oldestRxNs times ∧ oldestRxNs times ∈ times ∧
        ∀ rxNs ∈ times, 0 < rxNs → oldestRxNs times ≤ rxNs := by
  induction times using List.reverseRecOn with
  | nil => exact .inl ⟨rfl, nofun⟩
  | append_singleton times last ih =>
      rw [oldestRxNs_concat]
      simp only [List.mem_append, List.mem_singleton]
      split
      · rename_i replaces
        refine .inr ⟨replaces.1, .inr rfl, ?_⟩
        rintro rxNs (earlier | rfl) positive
        · rcases ih with ⟨_, none⟩ | ⟨_, _, least⟩
          · have := none rxNs earlier
            omega
          · have := least rxNs earlier positive
            omega
        · exact le_rfl
      · rename_i stays
        rcases ih with ⟨zero, none⟩ | ⟨positive, found, least⟩
        · refine .inl ⟨zero, ?_⟩
          rintro rxNs (earlier | rfl)
          · exact none rxNs earlier
          · omega
        · refine .inr ⟨positive, .inl found, ?_⟩
          rintro rxNs (earlier | rfl) replied
          · exact least rxNs earlier replied
          · omega

theorem oldestRxNs_mem {times : List Int} (stamped : 0 < oldestRxNs times) :
    oldestRxNs times ∈ times := by
  rcases oldestRxNs_least times with ⟨zero, _⟩ | ⟨_, found, _⟩
  · omega
  · exact found

theorem oldestRxNs_le {times : List Int} {rxNs : Int} (stored : rxNs ∈ times) (replied : 0 < rxNs) :
    oldestRxNs times ≤ rxNs := by
  rcases oldestRxNs_least times with ⟨_, none⟩ | ⟨_, _, least⟩
  · have := none rxNs stored
    omega
  · exact least rxNs stored replied

example : oldestRxNs [0, 7, 3, 0, 5] = 3 := by decide

/-- A time in the two fields of a message. -/
structure Stamp where
  sec : BitVec 32
  nanosec : BitVec 32
deriving DecidableEq

def Stamp.ofNs (ns : Int) : Stamp where
  sec := BitVec.ofInt 32 (ns.tdiv 1000000000)
  nanosec := BitVec.ofInt 32 (ns.tmod 1000000000)

/-- What is published: the stamp, and the messages as they are copied under the lock. -/
structure PublishedJointState (K : Type) where
  stamp : Stamp
  messages : JointMessages K

section Callback

variable [Scalar K]

/-- The age of the state of each joint; there is none until its first reply. -/
def jointStateAges (pubNowNs : Int) (times : List Int) (ages : List (Option K)) :
    Option (List (Option K)) :=
  accumulate (fun index ages => do
    let rxNs ← times[index]?
    storeAt ages index (latency (0 < rxNs) (pubNowNs - rxNs))) times.length ages

/-- Without a reply the stamp is the time of the node. -/
def jointStatePublishCallback (pubNowNs nowNs : Int) : NodePath K (PublishedJointState K) := do
  lockJointStateMsg .exclusive
  Path.updateDefined fun node =>
    (jointStateAges pubNowNs node.messages.jointRxNs node.messages.jointStateAgeMsg).map
      fun jointStateAgeMsg => { node with messages := { node.messages with jointStateAgeMsg } }
  let messages ← Path.read Node.messages
  unlockJointStateMsg .exclusive
  let oldest := oldestRxNs messages.jointRxNs
  pure { stamp := Stamp.ofNs (if 0 < oldest then oldest else nowNs), messages }

theorem jointStatePublishCallback_run {pubNowNs nowNs : Int} {node after : Node K}
    {published : PublishedJointState K}
    (run : (jointStatePublishCallback pubNowNs nowNs).run node = (.returned published, after)) :
    published.stamp = Stamp.ofNs (if 0 < oldestRxNs node.messages.jointRxNs then
      oldestRxNs node.messages.jointRxNs else nowNs) ∧
    (∃ jointStateAgeMsg, published.messages = { node.messages with jointStateAgeMsg }) ∧
    ∃ mutex log, after = { node with
      messages := published.messages, jointStateMsgMutex := mutex, log } := by
  simp only [jointStatePublishCallback, Path.bind_run_returned] at run
  obtain ⟨_, _, locked, _, _, aged, messages, _, read, _, _, unlocked, ends⟩ := run
  rw [lockJointStateMsg, Path.updateDefined_run_returned, Option.map_eq_some_iff] at locked
  obtain ⟨lockedMutex, _, rfl⟩ := locked
  rw [Path.updateDefined_run_returned, Option.map_eq_some_iff] at aged
  obtain ⟨jointStateAgeMsg, _, rfl⟩ := aged
  cases read
  rw [unlockJointStateMsg, Path.updateDefined_run_returned, Option.map_eq_some_iff] at unlocked
  obtain ⟨mutex, _, rfl⟩ := unlocked
  cases ends
  exact ⟨rfl, ⟨jointStateAgeMsg, rfl⟩, mutex, _, rfl⟩

end Callback

end CubemarsDriver.Node
