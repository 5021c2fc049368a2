import CubemarsDriver.Node.Roster

namespace CubemarsDriver.Node

open Foundation Can

/-! # Comm threads next to the origin services and the cleanup

The executor carries out the callbacks that join threads or clear the interfaces, event
by event; the comm threads go on between any two of them. -/

variable {K : Type}

/-- Where a comm thread is in its loop. -/
inductive CyclePlace where
  | ended
  | outside
  | locked
  | past
deriving DecidableEq, Repr

/-- A step of a comm thread.  It uses its interface while it holds the mutex, and again
after it has given the mutex back in the same cycle. -/
inductive CycleStep where
  | lock
  | use
  | unlock
  | finish
  | stop
deriving DecidableEq, Repr

structure SharingThread where
  running : Bool := false
  joinable : Bool := false
  place : CyclePlace := .ended
deriving DecidableEq, Repr

def SharingThread.move (exclusive : Bool) (thread : SharingThread) :
    CycleStep → Option SharingThread
  | .lock =>
      if thread.place = .outside ∧ exclusive = false then some { thread with place := .locked }
      else none
  | .use => if thread.place = .locked ∨ thread.place = .past then some thread else none
  | .unlock => if thread.place = .locked then some { thread with place := .past } else none
  | .finish => if thread.place = .past then some { thread with place := .outside } else none
  | .stop =>
      if thread.place = .outside ∧ thread.running = false then some { thread with place := .ended }
      else none

inductive OriginCallback where
  | cleanup
  | setAllMotorsOriginHere
  | setMotorOriginHere (motorId : Int)
deriving DecidableEq, Repr

def OriginCallback.path : OriginCallback → NodePath K Unit
  | .cleanup => Node.cleanup
  | .setAllMotorsOriginHere => setAllMotorsOriginHereCallback
  | .setMotorOriginHere motorId => setMotorOriginHereCallback motorId

/-- The threads, the size of `can_interfaces_`, what is left of the callback and the node
it leaves, if it returns. -/
structure Sharing (K : Type) where
  threads : List SharingThread
  interfaces : Nat
  exclusive : Bool := false
  pending : List NodeEvent := []
  node : Option (Node K)

inductive SharingAction (K : Type) where
  | begins (callback : OriginCallback) (node : Node K)
  | executor
  | comm (canInterface : Nat) (step : CycleStep)

namespace Sharing

/-- Every thread that was started is between two cycles. -/
def start (node : Node K) : Sharing K where
  threads := node.commThreads.map fun thread => {
    running := thread.running
    joinable := thread.joinable
    place := if thread.joinable then .outside else .ended }
  interfaces := node.numInterfaces
  node := some node

def changeThread (state : Sharing K) (index : Nat)
    (change : SharingThread → Option SharingThread) : Option (Sharing K) := do
  let thread ← state.threads[index]?
  let changed ← change thread
  some { state with threads := state.threads.set index changed }

/-- An event of the executor.  The exclusive lock waits for the threads that hold the
mutex, a join for the end of the joined thread. -/
def perform (state : Sharing K) : NodeEvent → Option (Sharing K)
  | .communicationLocked .exclusive =>
      if state.exclusive = false ∧ ∀ thread ∈ state.threads, thread.place ≠ .locked then
        some { state with exclusive := true }
      else none
  | .communicationUnlocked .exclusive => some { state with exclusive := false }
  | .threadSignalled index =>
      state.changeThread index fun thread => some { thread with running := false }
  | .threadJoined index _ =>
      state.changeThread index fun thread =>
        if thread.place = .ended then some { thread with joinable := false } else none
  | .threadStarted index =>
      state.changeThread index fun _ =>
        some { running := true, joinable := true, place := .outside }
  | .interfacesCleared => some { state with interfaces := 0 }
  | _ => some state

/-- A callback begins.  Since the last one the rest of the node may have changed, and it
is seen as the comm threads leave it when the callback takes the mutex. -/
def begins (state : Sharing K) (callback : OriginCallback) (node : Node K) : Option (Sharing K) :=
  match state.node with
  | some last =>
      if state.pending = [] ∧ node.commThreads = last.commThreads ∧
          node.numInterfaces = last.numInterfaces then
        let (outcome, after) := callback.path.run node
        some { state with
          pending := after.log.drop node.log.length
          node := match outcome with
            | .returned _ => some after
            | _ => none }
      else none
  | none => none

def step (state : Sharing K) : SharingAction K → Option (Sharing K)
  | .begins callback node => state.begins callback node
  | .executor =>
      match state.pending with
      | [] => none
      | event :: rest => (state.perform event).map fun next => { next with pending := rest }
  | .comm canInterface step =>
      state.changeThread canInterface fun thread => thread.move state.exclusive step

variable {state next : Sharing K} {event : NodeEvent} {index : Nat}

def roster (state : Sharing K) : Roster where
  joinable index := state.threads[index]?.any SharingThread.joinable
  interfaces := state.interfaces

/-- A thread that has not ended has to be joined. -/
def Placed (state : Sharing K) : Prop :=
  ∀ thread ∈ state.threads, thread.place ≠ .ended → thread.joinable = true

theorem changeThread_some {change : SharingThread → Option SharingThread} :
    state.changeThread index change = some next ↔ ∃ thread changed,
      state.threads[index]? = some thread ∧ change thread = some changed ∧
        next = { state with threads := state.threads.set index changed } := by
  simp only [changeThread, Option.bind_eq_bind, Option.bind_eq_some_iff, Option.some.injEq]
  constructor
  · rintro ⟨thread, found, changed, changes, rfl⟩
    exact ⟨thread, changed, found, changes, rfl⟩
  · rintro ⟨thread, changed, found, changes, rfl⟩
    exact ⟨thread, found, changed, changes, rfl⟩

theorem roster_set {thread changed : SharingThread} (found : state.threads[index]? = some thread) :
    roster { state with threads := state.threads.set index changed } =
      { state.roster with
        joinable := Function.update state.roster.joinable index changed.joinable } := by
  refine congrArg (Roster.mk · state.interfaces) (funext fun other => ?_)
  have bound := (List.getElem?_eq_some_iff.mp found).1
  by_cases same : other = index
  · subst same
    rw [Function.update_self, List.getElem?_set_self bound, Option.any_some]
  · rw [Function.update_of_ne same, List.getElem?_set_ne (Ne.symm same)]
    rfl

/-- A change that leaves the thread to be joined as it was. -/
theorem roster_kept {thread changed : SharingThread} (found : state.threads[index]? = some thread)
    (kept : changed.joinable = thread.joinable) :
    roster { state with threads := state.threads.set index changed } = state.roster := by
  have was : state.roster.joinable index = thread.joinable := by
    show state.threads[index]?.any SharingThread.joinable = thread.joinable
    rw [found, Option.any_some]
  rw [roster_set found, kept, ← was, Function.update_eq_self]

theorem Placed.set {changed : SharingThread} (placed : state.Placed)
    (stays : changed.place ≠ .ended → changed.joinable = true) :
    Placed { state with threads := state.threads.set index changed } := by
  intro thread member
  rcases List.mem_or_eq_of_mem_set member with old | rfl
  · exact placed thread old
  · exact stays

theorem perform_roster (placed : state.Placed) (performed : state.perform event = some next) :
    next.roster = state.roster.after event ∧ next.Placed ∧ next.node = state.node := by
  cases event with
  | communicationLocked mode =>
      cases mode with
      | shared =>
          cases performed
          exact ⟨rfl, placed, rfl⟩
      | exclusive =>
          rw [perform, Option.ite_none_right_eq_some, Option.some.injEq] at performed
          obtain ⟨_, rfl⟩ := performed
          exact ⟨rfl, placed, rfl⟩
  | communicationUnlocked mode =>
      cases mode <;> cases performed <;> exact ⟨rfl, placed, rfl⟩
  | threadSignalled index =>
      obtain ⟨thread, _, found, ⟨⟩, rfl⟩ := changeThread_some.mp performed
      exact ⟨roster_kept found rfl, placed.set (placed thread (List.mem_of_getElem? found)), rfl⟩
  | threadJoined index holdingMutex =>
      obtain ⟨thread, changed, found, joins, rfl⟩ := changeThread_some.mp performed
      rw [Option.ite_none_right_eq_some, Option.some.injEq] at joins
      obtain ⟨ended, rfl⟩ := joins
      exact ⟨roster_set found, placed.set fun running => absurd ended running, rfl⟩
  | threadStarted index =>
      obtain ⟨thread, _, found, ⟨⟩, rfl⟩ := changeThread_some.mp performed
      exact ⟨roster_set found, placed.set fun _ => rfl, rfl⟩
  | jointStateMsgLocked _ | jointStateMsgUnlocked _ | interfaceUsed _ | handshake _ _ _ _
  | interfacesCleared =>
      cases performed
      exact ⟨rfl, placed, rfl⟩

theorem move_kept {exclusive : Bool} {thread moved : SharingThread} {step : CycleStep}
    (moves : thread.move exclusive step = some moved) : moved.joinable = thread.joinable ∧
      (moved.place ≠ .ended → thread.place ≠ .ended) := by
  cases step <;> simp only [SharingThread.move, Option.ite_none_right_eq_some, Option.some.injEq] at moves
    <;> obtain ⟨there, rfl⟩ := moves <;> simp_all

/-- What is left of the callback leaves every thread its interface and ends in the node
that the callback leaves, in which there is an interface for every thread. -/
structure Orderly (state : Sharing K) : Prop where
  placed : state.Placed
  passes : Passes Roster.after Roster.Served state.roster state.pending
  reaches : ∀ node, state.node = some node → node.staff.Manned ∧
    state.pending.foldl Roster.after state.roster = node.staff.roster

theorem start_orderly {node : Node K} (manned : node.staff.Manned) : (start node).Orderly := by
  have same : (start node).roster = node.staff.roster := by
    refine congrArg (Roster.mk · node.numInterfaces) (funext fun index => ?_)
    simp only [start, joinables, List.getElem?_map, staff]
    cases node.commThreads[index]? <;> rfl
  refine ⟨fun thread member => ?_, ?_, ?_⟩
  · obtain ⟨thread, _, rfl⟩ := List.mem_map.mp member
    simp
  · rw [same]
    exact manned.served
  · rintro _ ⟨⟩
    exact ⟨manned, same⟩

end Sharing

/-- The service for one motor strands no thread. -/
def OriginCallback.Safe (node : Node K) : OriginCallback → Prop
  | .setMotorOriginHere motorId => ¬ StrandsThread motorId node
  | _ => True

theorem OriginCallback.serves {callback : OriginCallback} {node : Node K}
    (safe : callback.Safe node) (manned : node.staff.Manned) :
    Serves node (· = node) callback.path (Staffed Staff.Manned) := by
  have started (other : Node K) (same : other = node) : Staffed Staff.Manned other :=
    same ▸ manned
  cases callback with
  | cleanup => exact (cleanup_serves fun _ => Staff.NoThreads.manned).strengthen_pre started
  | setAllMotorsOriginHere => exact setAllMotorsOriginHereCallback_serves.strengthen_pre started
  | setMotorOriginHere motorId => exact setMotorOriginHereCallback_serves safe manned

namespace Sharing

variable {state next : Sharing K}

theorem begins_orderly {callback : OriginCallback} {node : Node K} (orderly : state.Orderly)
    (safe : callback.Safe node) (begun : state.begins callback node = some next) :
    next.Orderly := by
  unfold begins at begun
  cases stood : state.node with
  | none =>
      rw [stood] at begun
      cases begun
  | some last =>
      cases run : callback.path.run node with
      | mk outcome after =>
          simp only [stood, run, Option.ite_none_right_eq_some, Option.some.injEq] at begun
          obtain ⟨⟨idle, threads, interfaces⟩, rfl⟩ := begun
          have same : node.staff = last.staff := congrArg₂ Staff.mk threads interfaces
          obtain ⟨manned, reached⟩ := orderly.reaches last stood
          rw [← same] at manned reached
          have reached : state.roster = node.staff.roster := by rwa [idle] at reached
          have serves := OriginCallback.serves safe manned node (follows_self manned.served) rfl
          rw [run] at serves
          obtain ⟨⟨events, log, ends, passes⟩, outcomes⟩ := serves
          have pending : after.log.drop node.log.length = events := by rw [log, List.drop_left]
          rw [pending]
          rw [← reached] at ends passes
          refine ⟨orderly.placed, passes, fun left returned => ?_⟩
          cases outcome with
          | returned value =>
              cases returned
              exact ⟨outcomes, ends⟩
          | thrown exception => cases returned
          | undefined => cases returned

theorem executor_orderly (orderly : state.Orderly) (moved : state.step .executor = some next) :
    next.Orderly := by
  cases left : state.pending with
  | nil =>
      simp only [step, left] at moved
      cases moved
  | cons event rest =>
      simp only [step, left, Option.map_eq_some_iff] at moved
      obtain ⟨performed, happens, rfl⟩ := moved
      obtain ⟨placed, passes, reaches⟩ := orderly
      rw [left] at passes reaches
      obtain ⟨reached, placedAfter, kept⟩ := perform_roster placed happens
      refine ⟨placedAfter, ?_, fun node stands => ?_⟩
      · show Passes Roster.after Roster.Served performed.roster rest
        rw [reached]
        exact passes.2
      · show node.staff.Manned ∧ rest.foldl Roster.after performed.roster = _
        rw [reached]
        exact reaches node (kept ▸ stands)

theorem comm_orderly {index : Nat} {cycleStep : CycleStep} (orderly : state.Orderly)
    (moved : state.step (.comm index cycleStep) = some next) : next.Orderly := by
  obtain ⟨thread, changed, found, moves, rfl⟩ := changeThread_some.mp moved
  obtain ⟨joinable, stays⟩ := move_kept moves
  have same := roster_kept found joinable
  refine ⟨orderly.placed.set fun running => ?_, ?_, ?_⟩
  · rw [joinable]
    exact orderly.placed thread (List.mem_of_getElem? found) (stays running)
  · rw [same]
    exact orderly.passes
  · rw [same]
    exact orderly.reaches

/-- The callback that begins strands no thread. -/
def Safe (_ : Sharing K) : SharingAction K → Prop
  | .begins callback node => callback.Safe node
  | _ => True

theorem step_orderly {action : SharingAction K} (orderly : state.Orderly)
    (safe : state.Safe action) (moved : state.step action = some next) : next.Orderly := by
  cases action with
  | begins callback node => exact begins_orderly orderly safe moved
  | executor => exact executor_orderly orderly moved
  | comm canInterface cycleStep => exact comm_orderly orderly moved

/-- A thread that uses its interface is among those that have to be joined. -/
theorem Orderly.use_served {index : Nat} (orderly : state.Orderly)
    (uses : state.step (.comm index .use) = some next) : index < state.interfaces := by
  obtain ⟨thread, changed, found, moves, rfl⟩ := changeThread_some.mp uses
  have running : thread.place ≠ .ended := by
    rw [SharingThread.move, Option.ite_none_right_eq_some] at moves
    rcases moves.1 with locked | past
    · rw [locked]
      decide
    · rw [past]
      decide
  have joinable := orderly.placed thread (List.mem_of_getElem? found) running
  refine orderly.passes.first index ?_
  show state.threads[index]?.any SharingThread.joinable = true
  rw [found, Option.any_some, joinable]

/-- In every interleaving in which no service strands a thread, each comm thread that
uses its interface finds it. -/
theorem interfaces_outlive_threads [Scalar K] {assignment : Assignment K} {bus : Bus} {now : Int}
    {before configured : Node K} {actions : List (SharingAction K)} {index : Nat}
    (configures : (onConfigure assignment bus now).run before = (.returned .success, configured))
    (safe : EveryStep step Safe (start configured) actions)
    (run : runSteps step (start configured) actions = some state)
    (uses : state.step (.comm index .use) = some next) : index < state.interfaces := by
  obtain ⟨accepted, configuredBy⟩ := onConfigure_configuredBy configures
  have manned : configured.staff.Manned := by
    have interfaces := congrArg List.length configuredBy.lists
    rw [jointLists, List.length_map, List.length_map, rowsOf_length] at interfaces
    exact (configuredBy.threads.trans interfaces.symm).le
  have orderly : state.Orderly := invariant_of_run
    (fun _ _ _ orderly safe moved => step_orderly orderly safe moved) (start_orderly manned) safe run
  exact orderly.use_served uses

section Example

attribute [local instance] libmAtRest

def pairAssignment : Assignment ℚ := exampleAssignment ["hip", "knee"]
  ((jointParameterName "knee" "can_interface", .string "can1") ::
    exampleDefinition "hip" 1 "AK80-6" [] ++ exampleDefinition "knee" 2 "AK80-6" [])

/-- Once it is enabled the motor of `can0` misses one handshake. -/
def pairBus : Node.Bus where
  setup _ _ := true
  socket name :=
    if name = "can0" then {
      writes := List.replicate 3 (.written 0)
      reads := [exampleReply 1 1, .failed eagain, exampleReply 1 1] }
    else {
      writes := List.replicate 3 (.written 0)
      reads := List.replicate 3 (exampleReply 2 2) }

def configuredPair : Node ℚ := ((onConfigure pairAssignment pairBus 0).run freshNode).2

theorem configuredPair_configures :
    (onConfigure pairAssignment pairBus 0).run freshNode = (.returned .success, configuredPair) :=
  Prod.ext (by decide +kernel) rfl

/-- The node once the transition has ended. -/
def pairNode : Node ℚ := { configuredPair with lifecycle := .inactive }

/-- The thread of `can0` uses its interface while the service works on `can1`. -/
theorem interfaces_outlive_threads_pair : ∃ state next : Sharing ℚ,
    runSteps step (start configuredPair) [.begins (.setMotorOriginHere 1) pairNode,
      .comm 0 .lock] = some state ∧ state.step (.comm 0 .use) = some next ∧
      0 < state.interfaces := by
  obtain ⟨state, run, uses⟩ := Option.map_eq_some_iff.mp
    (show (runSteps step (start configuredPair) [.begins (.setMotorOriginHere 1) pairNode,
      .comm 0 .lock]).map (fun state => (state.step (.comm 0 .use)).isSome) = some true by
        decide +kernel)
  obtain ⟨next, uses⟩ := Option.isSome_iff_exists.mp uses
  have safe : EveryStep step Safe (start configuredPair)
      [.begins (.setMotorOriginHere 1) pairNode, .comm 0 .lock] :=
    ⟨show ¬ StrandsThread 1 pairNode by decide +kernel, fun _ _ => ⟨trivial, fun _ _ => trivial⟩⟩
  exact ⟨state, next, run, uses,
    interfaces_outlive_threads configuredPair_configures safe run uses⟩

/-- The service stops the thread of `can0` only.  One handshake with its motor fails, the
emergency loop clears the interfaces, and then the thread of `can1` takes the mutex. -/
theorem running_thread_loses_interface : ∃ state next : Sharing ℚ,
    (onConfigure pairAssignment pairBus 0).run freshNode = (.returned .success, configuredPair) ∧
      configuredPair.numInterfaces = 2 ∧
      runSteps step (start configuredPair) ([.begins (.setMotorOriginHere 0) pairNode, .executor,
        .comm 0 .stop] ++ List.replicate 9 .executor ++ [.comm 1 .lock]) = some state ∧
      state.step (.comm 1 .use) = some next ∧ ¬ 1 < state.interfaces := by
  obtain ⟨state, run, observed⟩ := Option.map_eq_some_iff.mp
    (show (runSteps step (start configuredPair) ([.begins (.setMotorOriginHere 0) pairNode,
      .executor, .comm 0 .stop] ++ List.replicate 9 .executor ++ [.comm 1 .lock])).map
        (fun state => ((state.step (.comm 1 .use)).isSome, state.interfaces)) = some (true, 0) by
          decide +kernel)
  rw [Prod.mk.injEq] at observed
  obtain ⟨next, uses⟩ := Option.isSome_iff_exists.mp observed.1
  exact ⟨state, next, configuredPair_configures, by decide +kernel, run, uses,
    by rw [observed.2]; decide⟩

end Example

end Sharing

end CubemarsDriver.Node
