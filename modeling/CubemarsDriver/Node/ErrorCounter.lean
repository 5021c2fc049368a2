import CubemarsDriver.Node.CycleReplies
import CubemarsDriver.Node.Fresh
import CubemarsDriver.Node.Batches
import Mathlib.Data.List.DropRight

namespace CubemarsDriver.Node

open Foundation Can

/-! # The error counter of an interface

The counter sums up the communication errors since the last cycle without any.  A limit that
a batch changes is in force from the next cycle on. -/

variable {K : Type} {index : Nat} {node after : Node K}

/-- A cycle that has counted its communication errors. -/
structure CountedCycle where
  errors : Nat
  limit : Nat
  joints : Nat
  tooMany : Bool
deriving DecidableEq

/-- The limit is positive, and no sum below it overflows in the next cycle. -/
def CountedCycle.Bounded (cycle : CountedCycle) : Prop :=
  1 ≤ cycle.limit ∧ cycle.limit + cycle.joints < unsignedModulus

instance instDecidableBounded (cycle : CountedCycle) : Decidable cycle.Bounded :=
  inferInstanceAs (Decidable (_ ∧ _))

/-- The errors of the unbroken run of erroneous cycles at the end. -/
def unbroken (past : List CountedCycle) : Nat :=
  ((past.map (·.errors)).rtakeWhile (0 < ·)).sum

theorem unbroken_concat (past : List CountedCycle) (cycle : CountedCycle) :
    unbroken (past ++ [cycle]) = if cycle.errors = 0 then 0 else unbroken past + cycle.errors := by
  rw [unbroken, List.map_append, List.map_singleton, List.rtakeWhile_concat]
  by_cases clean : cycle.errors = 0
  · simp [clean]
  · simp [clean, unbroken, Nat.pos_of_ne_zero clean]

section Cycles

variable [Scalar K] [Libm K] {env : CycleEnv} {exit : CycleExit} {frequency : K}

/-- The cycle of the interface, if the operation is one and the cycle gets to its replies. -/
def countedCycle (index : Nat) (node : Node K) : Operation K → Option CountedCycle
  | .canCycle canInterface times =>
      if canInterface = index then
        match (untilReplies index times.env).run node with
        | (.returned (.ok _), replied) => (cycleRows index replied.tables).map fun rows => {
            errors := canErrorsInThisCycle rows
            limit := node.maxCanErrorsBeforeMotorShutdown
            joints := rows.cmds.length
            tooMany := ((canCycleCallback index times.env).run node).1 = .returned .tooManyErrors }
        | _ => none
      else none
  | _ => none

omit [Libm K] in
/-- Behind the counter a cycle does not end as one with too many errors. -/
theorem writeBackCycle_few : Path.Confines (fun _ => True) (fun _ => True)
    (writeBackCycle index env frequency) (fun exit _ => exit ≠ .tooManyErrors) fun _ => True := by
  have ends {exit : CycleExit} (few : exit ≠ .tooManyErrors) : Path.Confines (fun _ => True)
      (fun _ => True) (pure exit : NodePath K CycleExit) (fun exit _ => exit ≠ .tooManyErrors)
        fun _ => True := fun _ _ _ => ⟨trivial, few⟩
  refine Path.Confines.bind Path.Confines.anything fun _ => ?_
  refine Path.Confines.bind Path.Confines.anything fun running =>
    Path.Confines.ite (fun _ => ?_) fun _ => ?_
  · refine Path.Confines.bind Path.Confines.anything fun can => ?_
    refine Path.Confines.bind Path.Confines.anything fun _ => ?_
    refine Path.Confines.bind Path.Confines.anything fun violating => ?_
    cases violating with
    | some joint =>
        refine Path.Confines.bind Path.Confines.anything fun _ => ?_
        refine Path.Confines.bind Path.Confines.anything fun _ => ?_
        refine Path.Confines.bind Path.Confines.anything fun _ => ?_
        exact Path.Confines.bind Path.Confines.anything fun _ => ends (by decide)
    | none =>
        refine Path.Confines.bind Path.Confines.anything fun _ => ?_
        refine Path.Confines.bind Path.Confines.anything fun _ => ?_
        refine Path.Confines.bind Path.Confines.anything fun _ => ?_
        refine Path.Confines.bind Path.Confines.anything fun _ => ?_
        exact Path.Confines.bind Path.Confines.anything fun _ => ends (by decide)
  · exact Path.Confines.bind Path.Confines.anything fun _ => ends (by decide)

omit [Libm K] in
/-- The replies of a cycle: its counter, and whether the cycle gives up. -/
theorem handleReplies_counts {replied : Node K}
    (run : (handleReplies index env frequency).run replied = (.returned exit, after)) :
    ∃ rows counted, Counted index replied rows counted ∧
      (exit = .tooManyErrors ↔ LimitReached (canErrorsInThisCycle rows) counted
        replied.maxCanErrorsBeforeMotorShutdown) ∧
      after.counters = replied.counters.set index
        (countedAfter (canErrorsInThisCycle rows) counted replied.maxCanErrorsBeforeMotorShutdown) := by
  obtain ⟨rows, counted, few, node, replies, run⟩ := handleReplies_counted run
  refine ⟨rows, counted, replies.counts, ?_⟩
  rw [← replies.few]
  have stored : node.counters = replied.counters.set index (countedAfter _ counted _) :=
    congrArg Gauges.counters replies.gauges
  cases few with
  | true =>
      rw [afterCounting, if_pos rfl] at run
      have kept : after.counters = node.counters := congrArg Prod.snd (writtenBack_requests.of_run run)
      obtain ⟨_, processed, _, written⟩ := Path.bind_run_returned.mp run
      have ending : exit ≠ .tooManyErrors := (writeBackCycle_few.of_returned trivial trivial written).2
      exact ⟨by simp [ending], kept.trans stored⟩
  | false =>
      rw [afterCounting, if_neg Bool.false_ne_true, Path.bind_returned (giveUp_run _ node)] at run
      rw [Path.pure_run] at run
      cases run
      refine ⟨by simp, ?_⟩
      rw [← stored]
      split
      · rfl
      · rfl

/-- A cycle ends before its replies and leaves the counters alone, or it counts its errors. -/
theorem canCycleCallback_counts
    (run : (canCycleCallback index env).run node = (.returned exit, after)) :
    ∃ result replied, (untilReplies index env).run node = (.returned result, replied) ∧
      match result with
      | .error _ => after.counters = node.counters
      | .ok _ => ∃ rows counted, cycleRows index replied.tables = some rows ∧
          (commandRows node.tables)[index]? = some rows.cmds.length ∧
          node.counters[index]? = some counted ∧
          (exit = .tooManyErrors ↔ LimitReached (canErrorsInThisCycle rows) counted
            node.maxCanErrorsBeforeMotorShutdown) ∧
          after.counters = node.counters.set index
            (countedAfter (canErrorsInThisCycle rows) counted node.maxCanErrorsBeforeMotorShutdown) := by
  rw [canCycleCallback_eq, Path.bind_run_returned] at run
  obtain ⟨result, replied, first, run⟩ := run
  refine ⟨result, replied, first, ?_⟩
  have same := ((untilReplies_unescalated node).of_returned trivial rfl first).2.1
  simp only [tallies, Prod.mk.injEq] at same
  cases result with
  | error early =>
      cases run
      exact same.2
  | ok frequency =>
      obtain ⟨rows, counted, counts, reached, stored⟩ := handleReplies_counts run
      rw [same.1] at reached
      have counter := counts.counter
      rw [same.2] at counter
      have sizes : commandRows replied.tables = commandRows node.tables :=
        ((untilReplies_cycles (reworkRules index env fun before after reworks same =>
          reworks.tables.1.trans same)).of_returned (rfl : commandRows node.tables = _) trivial first).1
      refine ⟨rows, counted, counts.rows, ?_, counter, reached, ?_⟩
      · rw [← sizes, commandRows, List.getElem?_map]
        have found := counts.rows
        simp only [cycleRows, Option.bind_eq_bind, Option.bind_eq_some_iff, Option.some.injEq] at found
        obtain ⟨cmds, row, _, _, _, _, rfl⟩ := found
        rw [row, Option.map_some]
      · rw [stored, same.1, counters, same.2]

end Cycles

section Limits

variable {errors counted limit joints : Nat}

/-- A sum that cannot overflow when it is compared with the limit. -/
def Fits (counted joints : Nat) : Prop := counted = 0 ∨ counted + joints < unsignedModulus

theorem total_eq (fits : Fits counted joints) (bound : errors ≤ joints)
    (room : limit + joints < unsignedModulus) : (counted + errors) % unsignedModulus = counted + errors := by
  apply Nat.mod_eq_of_lt
  rcases fits with rfl | fits <;> omega

theorem limitReached_iff (fits : Fits counted joints) (bound : errors ≤ joints) (positive : 1 ≤ limit)
    (room : limit + joints < unsignedModulus) :
    LimitReached errors counted limit ↔ 0 < errors ∧ limit ≤ counted + errors := by
  rw [LimitReached, total_eq fits bound room]
  omega

/-- A cycle below the limit leaves a sum that fits. -/
theorem countedAfter_below (fits : Fits counted joints) (bound : errors ≤ joints) (positive : 1 ≤ limit)
    (room : limit + joints < unsignedModulus) (below : ¬ LimitReached errors counted limit) :
    countedAfter errors counted limit = (if errors = 0 then 0 else counted + errors) ∧
      Fits (countedAfter errors counted limit) joints := by
  rw [countedAfter, if_neg below, total_eq fits bound room]
  rw [limitReached_iff fits bound positive room] at below
  rw [Fits]
  split <;> split <;> omega

end Limits

section Runs

variable [Scalar K] [StdToString K] [Libm K] {operation : Operation K} {cycle : CountedCycle}
variable {counted joints : Nat}

/-- A cycle whose errors have been counted. -/
structure CountedBy (index : Nat) (cycle : CountedCycle) (node after : Node K) (counted : Nat) : Prop where
  joints : (commandRows node.tables)[index]? = some cycle.joints
  errors : cycle.errors ≤ cycle.joints
  before : node.counters[index]? = some counted
  after : after.counters[index]? = some (countedAfter cycle.errors counted cycle.limit)
  tooMany : cycle.tooMany = true ↔ LimitReached cycle.errors counted cycle.limit

theorem operate_counted (found : countedCycle index node operation = some cycle)
    (moved : operate node operation = some after) : ∃ counted, CountedBy index cycle node after counted := by
  cases operation with
  | canCycle canInterface times =>
      obtain ⟨exit, _, callback, ends⟩ := Path.bind_run_returned.mp (operate_some.mp moved).2
      cases ends
      rw [countedCycle] at found
      split at found
      · rename_i same
        subst same
        obtain ⟨result, replied, first, counts⟩ := canCycleCallback_counts callback
        rw [first] at found
        cases result with
        | error early => cases found
        | ok frequency =>
            obtain ⟨rows, counted, rowsFound, size, counter, reached, stored⟩ := counts
            simp only [rowsFound, Option.map_some, Option.some.injEq] at found
            subst found
            refine ⟨counted, size, ?_, counter, ?_, ?_⟩
            · exact List.countP_le_length.trans (List.length_take_le _ _)
            · rw [stored, List.getElem?_set_self (List.getElem?_eq_some_iff.mp counter).1]
            · rw [← reached, callback]
              simp
      · cases found
  | _ => cases found

/-- Nothing but a counted cycle changes the counter of a node that has left its
unconfigured state. -/
theorem operate_uncounted (absent : countedCycle index node operation = none)
    (moved : operate node operation = some after) (left : node.lifecycle ≠ .unconfigured)
    (counter : after.counters[index]? = some counted) : node.counters[index]? = some counted := by
  obtain ⟨_, run⟩ := operate_some.mp moved
  by_cases cycling : ∃ canInterface times, operation = .canCycle canInterface times
  · obtain ⟨canInterface, times, rfl⟩ := cycling
    obtain ⟨exit, _, callback, ends⟩ := Path.bind_run_returned.mp run
    cases ends
    obtain ⟨result, replied, first, counts⟩ := canCycleCallback_counts callback
    cases result with
    | error early => rwa [← counts]
    | ok frequency =>
        obtain ⟨rows, earlier, rowsFound, _, _, _, stored⟩ := counts
        by_cases same : canInterface = index
        · subst same
          simp [countedCycle, first, rowsFound] at absent
        · rwa [stored, List.getElem?_set_ne same] at counter
  by_cases configuring : ∃ assignment bus now, operation = .configure assignment bus now
  · obtain ⟨assignment, bus, now, rfl⟩ := configuring
    obtain rfl | ⟨unconfigured, _⟩ := configure_returned moved
    · exact counter
    · exact absurd unconfigured left
  have kept : Path.Maintains (fun after : Node K => after.counters = [] ∨ after.counters = node.counters)
      operation.path :=
    Operation.keeps (fun before after retains same => retains.counters.imp_right And.left |>.elim .inl
        fun kept => by rwa [kept])
      (fun canInterface times same => absurd ⟨canInterface, times, same⟩ cycling)
      (fun order batch _ => onSetParametersCallback_evolves (fun _ _ => id) (fun _ _ _ _ _ _ => id)
        order batch)
      fun assignment bus now same => configuring ⟨assignment, bus, now, same⟩
  obtain none | same := kept.of_run run (.inr rfl)
  · simp [none] at counter
  · rwa [← same]

/-- No interface has counted an error. -/
def Uncounted (node : Node K) : Prop := ∀ counted ∈ node.counters, counted = 0

omit [Scalar K] [StdToString K] [Libm K] in
theorem Uncounted.retained (uncounted : Uncounted node) (retains : Retains node after) :
    Uncounted after := by
  rcases retains.counters with cleared | ⟨same, _⟩
  · simp [Uncounted, cleared]
  · rwa [Uncounted, same]

omit [StdToString K] [Libm K] in
theorem configureNode_uncounted {assignment : Assignment K} {bus : Bus} {now : Int} :
    Path.Maintains Uncounted (configureNode assignment bus now : NodePath K CallbackReturn) := by
  have keeps {α : Type} {path : NodePath K α} (same : Path.Preserves Node.interfaces path) :
      Path.Maintains Uncounted path :=
    same.weaken fun _ _ interfaces uncounted => by rwa [Uncounted, counters, interfaces]
  refine configureNode_evolves ?_ ?_ ?_ ?_ ?_ ?_ ?_
  · exact keeps (readGlobals_evolves (fun _ _ _ _ _ => rfl) fun _ _ _ _ => rfl)
  · exact fun _ _ _ => id
  · intro node seen _ uncounted counted member
    simp only [counters, prepareTables, InterfaceTables.resize, Foundation.resize,
      List.mem_append, List.mem_replicate] at member
    exact member.elim (fun old => uncounted counted (List.mem_of_mem_take old)) And.right
  · exact fun _ _ _ _ => keeps (buildTables_evolves (fun _ _ _ _ => rfl) _)
  · exact fun _ _ => keeps (createInterfaces_evolves (fun _ _ => rfl) _)
  · exact startPublishing_evolves fun _ => id
  · exact fun _ => keeps (startMotors_stored.weaken fun _ _ same => (Prod.mk.inj (Prod.mk.inj same).2).1)

omit [StdToString K] [Libm K] in
theorem configure_uncounted {assignment : Assignment K} {bus : Bus} {now : Int} :
    Path.Maintains Uncounted (configure assignment bus now : NodePath K Unit) :=
  configure_maintains (fun _ _ retains uncounted => Uncounted.retained uncounted retains)
    (fun _ _ uncounted => uncounted) configureNode_uncounted

/-- An unconfigured node has no errors on its counters. -/
def StartsUncounted (node : Node K) : Prop := node.lifecycle = .unconfigured → Uncounted node

theorem operate_startsUncounted (starts : StartsUncounted node)
    (moved : operate node operation = some after) : StartsUncounted after := by
  obtain ⟨_, run⟩ := operate_some.mp moved
  by_cases configuring : ∃ assignment bus now, operation = .configure assignment bus now
  · obtain ⟨assignment, bus, now, rfl⟩ := configuring
    obtain rfl | ⟨unconfigured, _⟩ := configure_returned moved
    · exact starts
    · exact fun _ => configure_uncounted.of_run run (starts unconfigured)
  by_cases cycling : ∃ index times, operation = .canCycle index times
  · obtain ⟨index, times, rfl⟩ := cycling
    intro unconfigured
    obtain rfl := canCycle_unconfigured run unconfigured
    exact starts unconfigured
  · have kept : Path.Maintains StartsUncounted operation.path := by
      refine Operation.keeps (fun before after retains starts unconfigured => ?_)
        (fun index times same => absurd ⟨index, times, same⟩ cycling)
        (fun order batch _ => onSetParametersCallback_evolves (fun _ _ => id) (fun _ _ _ _ _ _ => id)
          order batch)
        fun assignment bus now same => configuring ⟨assignment, bus, now, same⟩
      rcases retains.counters with cleared | ⟨same, stayed⟩
      · simp [Uncounted, cleared]
      · rw [Uncounted, same]
        exact starts (stayed unconfigured)
    exact kept.of_run run starts

/-- The number of joints on an interface, if there is the interface. -/
def HasJoints (index joints : Nat) (node : Node K) : Prop :=
  ∀ size, (commandRows node.tables)[index]? = some size → size = joints

theorem operate_hasJoints (has : HasJoints index joints node)
    (moved : operate node operation = some after) (left : node.lifecycle ≠ .unconfigured) :
    HasJoints index joints after := by
  obtain ⟨_, run⟩ := operate_some.mp moved
  by_cases configuring : ∃ assignment bus now, operation = .configure assignment bus now
  · obtain ⟨assignment, bus, now, rfl⟩ := configuring
    obtain rfl | ⟨unconfigured, _⟩ := configure_returned moved
    · exact has
    · exact absurd unconfigured left
  have kept : Path.Maintains (HasJoints index joints) operation.path := by
    refine Operation.keeps (fun before after retains has => ?_)
      (fun other times _ _ has => (canCycleCallback_cycles (reworkRules other times.env
        fun before after reworks has => ?_)).always_after has trivial)
      (fun order batch _ => onSetParametersCallback_evolves (fun _ _ => id)
        (fun _ _ _ _ _ applied has => ?_) order batch)
      fun assignment bus now same => configuring ⟨assignment, bus, now, same⟩
    · rcases retains.tables with wiped | ⟨same, _⟩
      · simp [HasJoints, wiped.1, commandRows]
      · rwa [HasJoints, same]
    · rwa [HasJoints, reworks.tables.1]
    · simp only [applyToTables, Option.bind_eq_bind, Option.bind_eq_some_iff,
        Option.some.injEq] at applied
      obtain ⟨_, _, _, _, _, _, _, _, rfl⟩ := applied
      exact has
  exact kept.of_run run has

/-- The counter of an interface is the sum of the errors since the last cycle without any,
as long as no cycle has given up. -/
structure Tracks (index joints : Nat) (node : Node K) (past : List CountedCycle) : Prop where
  hasJoints : HasJoints index joints node
  counter : (∀ cycle ∈ past, cycle.Bounded) → (∀ cycle ∈ past, cycle.tooMany = false) →
    ∀ counted, node.counters[index]? = some counted → counted = unbroken past ∧ Fits counted joints

theorem operate_tracks {past : List CountedCycle} (tracks : Tracks index joints node past)
    (left : node.lifecycle ≠ .unconfigured) (moved : operate node operation = some after) :
    Tracks index joints after (past ++ (countedCycle index node operation).toList) := by
  refine ⟨operate_hasJoints tracks.hasJoints moved left, ?_⟩
  cases found : countedCycle index node operation with
  | none =>
      rw [Option.toList_none, List.append_nil]
      exact fun bounded few counted counter =>
        tracks.counter bounded few counted (operate_uncounted found moved left counter)
  | some cycle =>
      intro bounded few counted counter
      simp only [Option.toList_some, List.mem_append, List.mem_singleton] at bounded few
      obtain ⟨earlier, counts⟩ := operate_counted found moved
      obtain ⟨same, fits⟩ := tracks.counter (fun other member => bounded other (.inl member))
        (fun other member => few other (.inl member)) earlier counts.before
      obtain ⟨positive, room⟩ := bounded cycle (.inr rfl)
      have size : cycle.joints = joints := tracks.hasJoints _ counts.joints
      have bound := counts.errors
      rw [size] at bound room
      have below : ¬ LimitReached cycle.errors earlier cycle.limit := by
        rw [← counts.tooMany, few cycle (.inr rfl)]
        decide
      obtain ⟨sum, fitsAfter⟩ := countedAfter_below fits bound positive room below
      obtain rfl : countedAfter cycle.errors earlier cycle.limit = counted :=
        Option.some.inj (counts.after.symm.trans counter)
      refine ⟨?_, fitsAfter⟩
      rw [sum, Option.toList_some, unbroken_concat, same]

/-- The cycles of an interface that a run has counted. -/
def cyclesAlong (index : Nat) (node : Node K) (operations : List (Operation K)) : List CountedCycle :=
  eventsAlong operate (countedCycle index) node operations

/-- From a configuration on, and up to the first cycle that gives up: the counter of an interface
is the sum of the errors of the erroneous cycles in a row, and a cycle gives up exactly when it has
errors that bring the sum to the limit. -/
theorem shuts_down_iff {start before first node after : Node K} {assignment : Assignment K} {bus : Bus}
    {now : Int} {earlier operations : List (Operation K)} {operation : Operation K}
    (constructed : Constructed start) (reached : runSteps operate start earlier = some before)
    (unconfigured : before.lifecycle = .unconfigured)
    (configured : operate before (.configure assignment bus now) = some first)
    (stays : EveryStep operate (fun node _ => node.lifecycle ≠ .unconfigured) first operations)
    (run : runSteps operate first operations = some node)
    (moved : operate node operation = some after) (counts : countedCycle index node operation = some cycle)
    (bounded : ∀ other ∈ cyclesAlong index first operations ++ [cycle], other.Bounded)
    (few : ∀ other ∈ cyclesAlong index first operations, other.tooMany = false) :
    node.counters[index]? = some (unbroken (cyclesAlong index first operations)) ∧
      (cycle.tooMany = true ↔ 0 < cycle.errors ∧
        cycle.limit ≤ unbroken (cyclesAlong index first operations) + cycle.errors) := by
  have starts : StartsUncounted before := invariant_of_run
    (fun _ _ _ starts _ moved => operate_startsUncounted starts moved)
    (fun _ => by simp [Uncounted, counters, constructed.interfaces]) everyStep_true reached
  have clear : Uncounted first :=
    configure_uncounted.of_run (operate_some.mp configured).2 (starts unconfigured)
  have tracksFirst : Tracks index (((commandRows first.tables)[index]?).getD 0) first [] := by
    refine ⟨fun size found => by rw [found, Option.getD_some], fun _ _ counted counter => ?_⟩
    obtain rfl : counted = 0 := clear counted (List.mem_of_getElem? counter)
    exact ⟨rfl, .inl rfl⟩
  have tracks : Tracks index _ node ([] ++ cyclesAlong index first operations) := invariant_of_events
    (fun _ _ _ _ tracks left moved => operate_tracks tracks left moved) tracksFirst stays run
  rw [List.nil_append] at tracks
  obtain ⟨counted, counting⟩ := operate_counted counts moved
  obtain ⟨same, fits⟩ := tracks.counter (fun other member => bounded other (by
    rw [List.mem_append]
    exact .inl member)) few counted counting.before
  obtain ⟨positive, room⟩ := bounded cycle (by simp)
  have bound := counting.errors
  rw [tracks.hasJoints _ counting.joints] at bound room
  rw [counting.before, same, counting.tooMany, limitReached_iff fits bound positive room, same]
  exact ⟨rfl, Iff.rfl⟩

end Runs

section Example

attribute [local instance] libmAtRest

def patientAssignment : Assignment ℚ := exampleAssignment ["hip", "knee"]
  (("max_can_errors_before_motor_shutdown", .integer 5) ::
    exampleDefinition "hip" 1 "AK80-6" [] ++ exampleDefinition "knee" 2 "AK80-8v3" [])

/-- Once the motors are started, only the first of them answers, and only once. -/
def fadingBus : Node.Bus where
  setup _ _ := true
  socket _ := {
    writes := List.replicate 7 (.written 0)
    reads := [exampleReply 1 1, exampleReply 0x80002902 0, exampleReply 0x80002902 0,
      exampleReply 1 1] }

/-- The limit falls from five to three after the first cycle. -/
def fadingRun : List (Operation ℚ) := [.canCycle 0 {}, .setParameters asListed
  [{ name := "max_can_errors_before_motor_shutdown", value := .integer 3 }]]

theorem shuts_down_iff_fading : ∃ first node : Node ℚ,
    operate freshNode (.configure patientAssignment fadingBus 0) = some first ∧
      runSteps operate first fadingRun = some node ∧
      countedCycle 0 node (.canCycle 0 {}) = some ⟨2, 3, 2, true⟩ ∧
      node.counters[0]? = some (unbroken (cyclesAlong 0 first fadingRun)) ∧
      (true = true ↔ 0 < 2 ∧ 3 ≤ unbroken (cyclesAlong 0 first fadingRun) + 2) := by
  obtain ⟨first, configured, observed⟩ := Option.map_eq_some_iff.mp
    (show (operate freshNode (.configure patientAssignment fadingBus 0)).map (fun first =>
        ((first.lifecycle, (operate first (.canCycle 0 {})).map Node.lifecycle),
          cyclesAlong 0 first fadingRun, (runSteps operate first fadingRun).map fun node =>
            (countedCycle 0 node (.canCycle 0 {}), (operate node (.canCycle 0 {})).isSome))) =
      some ((.inactive, some .inactive), [⟨1, 5, 2, false⟩], some (some ⟨2, 3, 2, true⟩, true))
        by decide +kernel)
  simp only [Prod.mk.injEq] at observed
  obtain ⟨⟨inactive, stayed⟩, past, ending⟩ := observed
  obtain ⟨node, run, observed⟩ := Option.map_eq_some_iff.mp ending
  rw [Prod.mk.injEq, Option.isSome_iff_exists] at observed
  obtain ⟨counts, after, moved⟩ := observed
  have left {node : Node ℚ} (inactive : node.lifecycle = .inactive) :
      node.lifecycle ≠ .unconfigured := by
    rw [inactive]
    decide
  have stays : EveryStep operate (fun node _ => node.lifecycle ≠ .unconfigured) first fadingRun := by
    refine ⟨left inactive, fun next taken => ⟨left ?_, fun _ _ => trivial⟩⟩
    rwa [taken, Option.map_some, Option.some.injEq] at stayed
  exact ⟨first, node, configured, run, counts, shuts_down_iff freshNode_constructed
    (runSteps_nil) rfl configured stays run moved counts (by rw [past]; decide) (by rw [past]; decide)⟩

end Example

end CubemarsDriver.Node
