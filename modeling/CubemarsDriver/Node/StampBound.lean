import CubemarsDriver.Node.ErrorCounter
import CubemarsDriver.Node.Placement
import CubemarsDriver.Node.Publishing

namespace CubemarsDriver.Node

open Foundation Can

/-! # The stamp of the joint states

The message is stamped with the oldest arrival time that is stored.  A joint whose time is not
stored is passed over, though its position is in the message like all others. -/

variable {K : Type}

/-- What other threads do during a cycle: they activate and deactivate the node and stop the
comm thread. -/
structure Interference where
  times : CycleTimes := {}
  activates : CyclePoint → Bool → Bool := fun _ active => active
  stops : CyclePoint → Bool := fun _ => false

def Interference.env (interference : Interference) : CycleEnv where
  currentTime := interference.times.currentTime
  entryNs := interference.times.entryNs
  endNs := interference.times.endNs
  lifecycle point seen :=
    if seen = .inactive ∨ seen = .active then
      if interference.activates point (seen = .active) then .active else .inactive
    else seen
  stops := interference.stops

/-- A reply, and the position that the filters and rescalings of the cycles since have made of
the one it has measured. -/
structure Sighting (K : Type) where
  heard : Heard K
  pos : K

/-- What has become of the replies of a joint: the last one that was read, the one whose position
was last written, and the time that was last stored. -/
structure Trail (K : Type) where
  last : Option (Sighting K) := none
  shown : Option (Sighting K) := none
  stamped : Option Int := none

/-- A reply replaces the last one; a cycle makes this of its position. -/
def Trail.read [Scalar K] (trail : Trail K) (heard : Option (Heard K)) (made : K → Option K) : Trail K :=
  let sighted := (heard.map fun heard => ⟨heard, heard.position⟩).or trail.last
  { trail with last := sighted.bind fun sighting =>
      (made sighting.pos).map fun pos => { sighting with pos } }

/-- The position is written in any case, the time only after a reply. -/
def Trail.write (trail : Trail K) (status : ComStatus) : Trail K :=
  { trail with
    shown := trail.last
    stamped := if status = .success then trail.last.map (·.heard.reply.rxNs) else trail.stamped }

/-- A cycle reads, and writes unless it ends early. -/
def Trail.cycled [Scalar K] (trail : Trail K) (heard : Option (Heard K)) (made : K → Option K)
    (written : Option ComStatus) : Trail K :=
  match written with
  | none => trail.read heard made
  | some status => (trail.read heard made).write status

/-- A node and the replies of its joints since it was configured. -/
structure Traced (K : Type) where
  node : Node K
  trails : Nat → Nat → Trail K := fun _ _ => {}

inductive TracedStep (K : Type) where
  | operation (operation : Operation K)
  | cycle (canInterface : Nat) (interference : Interference)
  | publish (pubNowNs nowNs : Int)

def Operation.isCycle : Operation K → Bool
  | .canCycle .. => true
  | _ => false

def Operation.configures : Operation K → Bool
  | .configure .. => true
  | _ => false

/-- The status with which a cycle has written the state of a joint. -/
def storedStatus (index joint : Nat) (exit : CycleExit) (after : Node K) : Option ComStatus :=
  if exit.WroteBack then
    (jointEntry after.tables.jointStatesPerCanInterface index joint).map (·.communicationStatus)
  else none

/-- What a cycle that has ended like this has made of a position of a joint. -/
def madeOf [Scalar K] (index joint : Nat) (exit : CycleExit) (node after : Node K) (pos : K) : Option K := do
  let next ← jointEntry after.tables.jointStatesPerCanInterface index joint
  positionAfter exit (processing index joint node.tables) next pos

namespace Traced

variable [Scalar K] [StdToString K] [Libm K]

/-- A configuration that is accepted begins anew. -/
def operated (state : Traced K) (operation : Operation K) (after : Node K) : Traced K where
  node := after
  trails :=
    if operation.configures ∧ state.node.lifecycle = .unconfigured then fun _ _ => {}
    else state.trails

def cycled (state : Traced K) (index : Nat) (env : CycleEnv) (exit : CycleExit) (after : Node K) :
    Traced K where
  node := after
  trails := fun canInterface joint =>
    if canInterface = index then
      (state.trails index joint).cycled (heard index joint env state.node)
        (madeOf index joint exit state.node after) (storedStatus index joint exit after)
    else state.trails canInterface joint

/-- A cycle is a step of its own; the timer publishes while the node is configured. -/
def step (state : Traced K) : TracedStep K → Option (Traced K)
  | .operation operation =>
      if operation.isCycle then none else (operate state.node operation).map (state.operated operation)
  | .cycle canInterface interference =>
      if state.node.commThreads[canInterface]?.any CommThread.running then
        match (canCycleCallback canInterface interference.env).run state.node with
        | (.returned exit, after) => some (state.cycled canInterface interference.env exit after)
        | _ => none
      else none
  | .publish pubNowNs nowNs =>
      if state.node.publishTimer then
        match (jointStatePublishCallback pubNowNs nowNs).run state.node with
        | (.returned _, after) => some { state with node := after }
        | _ => none
      else none

/-- What was made of the last reply is the position of the joint's state, and what was shown is
what is written. -/
structure Follows (trail : Trail K) (node : Node K) (index joint : Nat) (place : Nat × K) : Prop where
  last : ∀ sighting, trail.last = some sighting → ∃ state,
    jointEntry node.tables.jointStatesPerCanInterface index joint = some state ∧ state.pos = sighting.pos
  shown : ∀ sighting, trail.shown = some sighting →
    node.messages.position[place.1]? = some (sighting.pos + place.2)
  stamped : ∀ rxNs, trail.stamped = some rxNs → node.messages.jointRxNs[place.1]? = some rxNs

structure Agrees (state : Traced K) : Prop where
  placed : Placed state.node
  trails : ∀ index joint place, jointEntry (placements state.node.tables) index joint = some place →
    Follows (state.trails index joint) state.node index joint place
  stored : ∀ (msgIdx : Nat) rxNs, state.node.messages.jointRxNs[msgIdx]? = some rxNs → 0 < rxNs →
    ∃ index joint zero, jointEntry (placements state.node.tables) index joint = some (msgIdx, zero) ∧
      (state.trails index joint).stamped = some rxNs

section Agreement

variable {state next : Traced K} {after : Node K} {index joint : Nat} {place : Nat × K}

omit [StdToString K] [Libm K] in
theorem Agrees.of_same (agrees : Agrees state) (placed : Placed after)
    (places : placements after.tables = placements state.node.tables)
    (states : after.tables.jointStatesPerCanInterface = state.node.tables.jointStatesPerCanInterface)
    (messages : stateEntries after.messages = stateEntries state.node.messages) :
    Agrees { state with node := after } := by
  simp only [stateEntries, Prod.mk.injEq] at messages
  obtain ⟨position, _, _, rxNs⟩ := messages
  constructor
  case placed => exact placed
  case trails =>
    intro index joint place found
    obtain ⟨last, shown, stamped⟩ := agrees.trails index joint place (places ▸ found)
    exact ⟨states ▸ last, position ▸ shown, rxNs ▸ stamped⟩
  case stored =>
    intro msgIdx time found positive
    rw [places]
    exact agrees.stored msgIdx time (rxNs ▸ found) positive

omit [StdToString K] [Libm K] in
theorem Agrees.retained (agrees : Agrees state) (retains : Retains state.node after) :
    Agrees { state with node := after } := by
  have placed := agrees.placed.retained retains
  have empty (emptied : Emptied after) : Agrees { state with node := after } := by
    constructor
    case placed => exact placed
    case trails => exact fun _ _ _ found => by simp [emptied.1, placements, jointEntry] at found
    case stored => exact fun _ _ found => by simp [emptied.2] at found
  rcases retains.tables with emptied | ⟨tables, _⟩
  · exact empty emptied
  · rcases retains.messages with emptied | messages
    · exact empty emptied
    · exact agrees.of_same placed (by rw [tables]) (by rw [tables]) (by rw [messages])

section Cycle

variable {node : Node K} {exit : CycleExit} {env : CycleEnv} {trail : Trail K}

omit [StdToString K] in
/-- A cycle that answers with success has read a reply, and stores its time. -/
theorem lastRead_of_success {next : JointState K} (cycle : CyclePositions index env node exit after)
    (wrote : exit.WroteBack)
    (nextFound : jointEntry after.tables.jointStatesPerCanInterface index joint = some next)
    (success : next.communicationStatus = .success) (trail : Trail K) :
    (trail.read (heard index joint env node) (madeOf index joint exit node after)).last.map
      (·.heard.reply.rxNs) = some next.rxTimestampNs := by
  obtain ⟨answers, before⟩ := cycle.answered wrote joint next nextFound
  obtain ⟨state, stateFound⟩ := Option.isSome_iff_exists.mp before
  obtain ⟨reply, replied, arrived⟩ := answers success
  obtain ⟨_, found, made⟩ := cycle.own joint state stateFound
  cases nextFound.symm.trans found
  rw [replied, heardPosition, Option.map_some, Option.getD_some] at made
  simp only [Trail.read, replied, Option.map_some, Option.some_or, Option.bind_some, madeOf, nextFound,
    Option.bind_eq_bind, made, arrived]

omit [StdToString K] in
/-- The joint of an interface whose cycle this is. -/
theorem Follows.cycled (follows : Follows trail node index joint place) (placed : Placed node)
    (level : Level node.tables) (cycle : CyclePositions index env node exit after)
    (found : jointEntry (placements node.tables) index joint = some place) :
    Follows (trail.cycled (heard index joint env node) (madeOf index joint exit node after)
      (storedStatus index joint exit after)) after index joint place := by
  obtain ⟨before, beforeFound⟩ : ∃ before,
      jointEntry node.tables.jointStatesPerCanInterface index joint = some before := by
    rw [jointEntry_placements, Option.map_eq_some_iff] at found
    obtain ⟨_, paramsFound, _⟩ := found
    exact Option.isSome_iff_exists.mp
      (jointEntry_isSome_of_sizes level.2 (by rw [paramsFound, Option.isSome_some]))
  obtain ⟨next, nextFound, made⟩ := cycle.own joint before beforeFound
  have read : ∀ sighting, (trail.read (heard index joint env node)
      (madeOf index joint exit node after)).last = some sighting → next.pos = sighting.pos := by
    intro sighting last
    simp only [Trail.read, Option.bind_eq_some_iff, Option.map_eq_some_iff] at last
    obtain ⟨earlier, sighted, pos, makes, rfl⟩ := last
    have measured : earlier.pos = heardPosition (heard index joint env node) before.pos := by
      cases replied : heard index joint env node with
      | none =>
          rw [replied, Option.map_none, Option.none_or] at sighted
          obtain ⟨state, stateFound, same⟩ := follows.last earlier sighted
          cases beforeFound.symm.trans stateFound
          exact same.symm
      | some reply =>
          rw [replied, Option.map_some, Option.some_or] at sighted
          cases sighted
          rfl
    rw [madeOf, nextFound, Option.bind_eq_bind, Option.bind_some, measured, made] at makes
    exact Option.some.inj makes
  by_cases wrote : exit.WroteBack
  · have status : storedStatus index joint exit after = some next.communicationStatus := by
      rw [storedStatus, if_pos wrote, nextFound, Option.map_some]
    have entries := cycle.written.own placed wrote found nextFound
    rw [stampAt, Prod.mk.injEq] at entries
    rw [status, Trail.cycled]
    constructor
    case last => exact fun sighting last => ⟨next, nextFound, read sighting last⟩
    case shown =>
      intro sighting shown
      rw [← read sighting shown]
      exact entries.1
    case stamped =>
      intro rxNs stamped
      rw [entries.2, writtenRxNs]
      rw [Trail.write] at stamped
      split at stamped
      · rename_i success
        rw [if_pos success, ← stamped, lastRead_of_success cycle wrote nextFound success]
      · rename_i silent
        rw [if_neg silent]
        exact follows.stamped rxNs stamped
  · have status : storedStatus index joint exit after = none := if_neg wrote
    have messages := cycle.written.stopped wrote
    simp only [stateEntries, Prod.mk.injEq] at messages
    rw [status, Trail.cycled]
    constructor
    case last => exact fun sighting last => ⟨next, nextFound, read sighting last⟩
    case shown =>
      rw [messages.1]
      exact follows.shown
    case stamped =>
      rw [messages.2.2.2]
      exact follows.stamped

omit [StdToString K] in
theorem Agrees.cycled (agrees : Agrees state) (level : Level state.node.tables)
    (reworks : Reworks state.node after) (cycle : CyclePositions index env state.node exit after) :
    Agrees (state.cycled index env exit after) := by
  have places : placements after.tables = placements state.node.tables := by
    rw [placements, reworks.tables.2.1, placements]
  have unshared := agrees.placed.unshared
  constructor
  case placed => exact agrees.placed.of_same reworks.lists places
  case trails =>
    intro other joint place moved
    have found : jointEntry (placements state.node.tables) other joint = some place := by
      rw [← places]
      exact moved
    have follows := agrees.trails other joint place found
    by_cases same : other = index
    · subst same
      simp only [Traced.cycled, if_pos]
      exact follows.cycled agrees.placed level cycle found
    · simp only [Traced.cycled, if_neg same]
      have entries : stampAt after.messages place.1 = stampAt state.node.messages place.1 := by
        by_cases wrote : exit.WroteBack
        · apply cycle.written.others wrote
          intro otherJoint zero own
          exact absurd (unshared _ _ _ _ _ _ _ own found).1.symm same
        · exact stampAt_of_same (cycle.written.stopped wrote) _
      simp only [stampAt, Prod.mk.injEq] at entries
      obtain ⟨last, shown, stamped⟩ := follows
      refine ⟨?_, entries.1 ▸ shown, entries.2 ▸ stamped⟩
      intro reply lastRead
      rw [cycle.others other joint same]
      exact last reply lastRead
  case stored =>
    intro msgIdx rxNs timed positive
    show ∃ place joint zero, jointEntry (placements after.tables) place joint = some (msgIdx, zero) ∧ _
    rw [places]
    by_cases own : exit.WroteBack ∧ ∃ joint zero next,
        jointEntry (placements state.node.tables) index joint = some (msgIdx, zero) ∧
          jointEntry after.tables.jointStatesPerCanInterface index joint = some next
    · obtain ⟨wrote, joint, zero, next, found, nextFound⟩ := own
      have status : storedStatus index joint exit after = some next.communicationStatus := by
        rw [storedStatus, if_pos wrote, nextFound, Option.map_some]
      have entries := cycle.written.own agrees.placed wrote found nextFound
      rw [stampAt, Prod.mk.injEq] at entries
      have time : writtenRxNs next state.node.messages.jointRxNs[msgIdx]? = some rxNs :=
        entries.2.symm.trans timed
      refine ⟨index, joint, zero, found, ?_⟩
      simp only [Traced.cycled, if_pos, status, Trail.cycled, Trail.write]
      rw [writtenRxNs] at time
      split at time
      · rename_i success
        rw [if_pos success, lastRead_of_success cycle wrote nextFound success]
        exact time
      · rename_i silent
        rw [if_neg silent]
        obtain ⟨otherIndex, otherJoint, otherZero, otherFound, stamped⟩ :=
          agrees.stored msgIdx rxNs time positive
        obtain ⟨rfl, rfl⟩ := unshared _ _ _ _ _ _ _ found otherFound
        exact stamped
    · have entries : stampAt after.messages msgIdx = stampAt state.node.messages msgIdx := by
        by_cases wrote : exit.WroteBack
        · apply cycle.written.others wrote
          intro joint zero found
          cases nextFound : jointEntry after.tables.jointStatesPerCanInterface index joint with
          | none => rfl
          | some next => exact absurd ⟨wrote, joint, zero, next, found, nextFound⟩ own
        · exact stampAt_of_same (cycle.written.stopped wrote) _
      simp only [stampAt, Prod.mk.injEq] at entries
      obtain ⟨place, joint, zero, found, stamped⟩ :=
        agrees.stored msgIdx rxNs (entries.2 ▸ timed) positive
      refine ⟨place, joint, zero, found, ?_⟩
      simp only [Traced.cycled]
      split
      · rename_i same
        subst same
        have status : storedStatus place joint exit after = none := by
          rw [storedStatus]
          split
          · rename_i wrote
            cases nextFound : jointEntry after.tables.jointStatesPerCanInterface place joint with
            | none => rfl
            | some next => exact absurd ⟨wrote, joint, zero, next, found, nextFound⟩ own
          · rfl
        rw [status]
        exact stamped
      · exact stamped

end Cycle

end Agreement

/-- The node has been configured and not cleaned up since. -/
def ConfiguredNode (node : Node K) : Prop := node.lifecycle = .inactive ∨ node.lifecycle = .active

omit [Scalar K] [StdToString K] [Libm K] in
theorem configuredNode_of_gate {before after : Node K} (same : after.gate = before.gate) :
    ConfiguredNode after = ConfiguredNode before := by
  have lifecycle : after.lifecycle = before.lifecycle := congrArg Gate.lifecycle same
  rw [ConfiguredNode, lifecycle, ConfiguredNode]

/-- The tables are level, and the trails agree with a configured node. -/
structure Sound (state : Traced K) : Prop where
  level : Level state.node.tables
  agrees : ConfiguredNode state.node → Agrees state

section Runs

variable {state next : Traced K} {after node : Node K} {operation : Operation K} {index : Nat}

omit [Scalar K] [StdToString K] [Libm K] in
theorem operated_of_stays (stays : ¬ (operation.configures ∧ state.node.lifecycle = .unconfigured)) :
    state.operated operation after = { state with node := after } := by
  rw [operated, if_neg stays]

omit [StdToString K] [Libm K] in
theorem agrees_of_configured {assignment : Assignment K} {left : Node K} {accepted : Accepted K}
    (configured : ConfiguredBy assignment left accepted node) :
    Agrees { node := { node with lifecycle := .inactive } } := by
  constructor
  case placed => exact configured.placed.of_same rfl rfl
  case trails => exact fun _ _ _ _ => ⟨nofun, nofun, nofun⟩
  case stored =>
    intro msgIdx rxNs found positive
    obtain ⟨before, resized⟩ := configured.messages
    simp only [resized, JointMessages.resize] at found
    have unset := (List.mem_replicate.mp (List.mem_of_getElem? found)).2
    omega

theorem operated_sound (sound : Sound state) (moved : operate state.node operation = some after)
    (cycles : operation.isCycle = false) : Sound (state.operated operation after) := by
  constructor
  case level => exact level_rules.operate sound.level moved
  case agrees =>
    intro (configured : ConfiguredNode after)
    by_cases configuring : ∃ assignment bus now, operation = .configure assignment bus now
    · obtain ⟨assignment, bus, now, rfl⟩ := configuring
      obtain rfl | ⟨unconfigured, accepts⟩ := configure_returned moved
      · rw [operated_of_stays fun begins => by simp [ConfiguredNode, begins.2] at configured]
        exact sound.agrees configured
      · obtain ⟨accepted, middle, by_, rfl⟩ := accepts configured
        rw [operated, if_pos ⟨rfl, unconfigured⟩]
        exact agrees_of_configured by_
    · have other : ∀ assignment bus now, operation ≠ .configure assignment bus now :=
        fun assignment bus now same => configuring ⟨assignment, bus, now, same⟩
      obtain ⟨_, run⟩ := operate_some.mp moved
      have kept : Path.Maintains (fun node => Agrees { state with node }) operation.path := by
        apply Operation.keeps
        · exact fun _ _ retains agrees => agrees.retained retains
        · rintro index times rfl
          cases cycles
        · intro order batch _
          apply onSetParametersCallback_evolves
          · exact fun _ _ agrees => agrees.of_same (agrees.placed.of_same rfl rfl) rfl rfl rfl
          · intro node index joint update tables applied agrees
            have places := applyToTables_placements applied
            exact agrees.of_same (agrees.placed.of_same rfl places) places
              (applyToTables_states applied) rfl
        · exact other
      rw [operated_of_stays fun begins => ?_]
      · exact kept.of_run run (sound.agrees (Operation.configured_before other run configured))
      · cases operation with
        | configure assignment bus now => exact other assignment bus now rfl
        | _ => cases begins.1

omit [StdToString K] [Libm K] in
/-- Nothing that happens during a cycle configures the node or clears its configuration. -/
theorem configuredRules (value : Prop) (index : Nat) (interference : Interference) :
    CycleRules (fun node : Node K => ConfiguredNode node = value) (fun _ _ _ => True) index
      interference.env := by
  have keeps {α : Type} {path : NodePath K α} (same : Path.Preserves ConfiguredNode path) :
      Path.Confines (fun node => ConfiguredNode node = value) (fun _ => True) path (fun _ _ => True)
        fun _ => True := .of_preserves same (fun _ _ => Eq.trans) fun _ _ _ => id
  have passes {α : Type} {path : NodePath K α} (passive : Passive path) :
      Path.Preserves ConfiguredNode path := passive.weaken fun _ _ => configuredNode_of_gate
  constructor
  case work =>
    intro before after still
    have gates : after.gate = before.gate := congrArg (fun still => still.surroundings.gate) still
    exact ⟨(configuredNode_of_gate gates).trans, fun _ _ => id⟩
  case lockCommunication => exact fun _ => keeps (passes lockCommunication_passive)
  case unlockCommunication => exact fun _ => keeps (passes unlockCommunication_passive)
  case lockJointStateMsg => exact fun _ => keeps (passes lockJointStateMsg_passive)
  case unlockJointStateMsg => exact fun _ => keeps (passes unlockJointStateMsg_passive)
  case observeLifecycle =>
    refine fun point _ => keeps (Path.Evolves.bind (Path.Evolves.update fun node => ?_) fun _ =>
      Path.Evolves.read _)
    show ConfiguredNode { node with lifecycle := interference.env.lifecycle point node.lifecycle } =
      ConfiguredNode node
    simp only [ConfiguredNode, Interference.env]
    split
    · rename_i configured
      split <;> simp [configured]
    · rfl
  case observeRunning =>
    exact fun _ _ => keeps (Path.Evolves.bind (Path.Evolves.update fun _ => rfl) fun _ =>
      Path.Evolves.bind (Path.Evolves.element _) fun _ => Path.Evolves.pure _)
  case deactivate =>
    apply keeps
    intro node
    rw [deactivate_run]
    split
    · rename_i active
      show ConfiguredNode node.deactivated = ConfiguredNode node
      simp [ConfiguredNode, deactivated, active]
    · rfl
  case request => exact fun node _ kept _ => ⟨kept, trivial⟩

omit [StdToString K] in
theorem cycled_sound {interference : Interference} {exit : CycleExit} (sound : Sound state)
    (run : (canCycleCallback index interference.env).run state.node = (.returned exit, after)) :
    Sound (state.cycled index interference.env exit after) := by
  constructor
  case level => exact (level_rules.cycle index interference.env).of_run run sound.level
  case agrees =>
    intro (configured : ConfiguredNode after)
    have same : ConfiguredNode after = ConfiguredNode state.node :=
      ((canCycleCallback_cycles (configuredRules _ index interference)).of_returned rfl trivial run).1
    have agrees := sound.agrees (same ▸ configured)
    have reworks : Reworks state.node after :=
      ((canCycleCallback_cycles (reworkRules index interference.env
        fun _ _ later earlier => trans_of Reworks earlier later)).of_returned
          (refl_of Reworks state.node) trivial run).1
    exact agrees.cycled sound.level reworks
      (canCycleCallback_positions (agrees.placed.matched sound.level) run)

theorem step_sound {action : TracedStep K} (sound : Sound state) (moved : state.step action = some next) :
    Sound next := by
  cases action with
  | operation operation =>
      simp only [step] at moved
      split at moved
      · cases moved
      · rename_i cycles
        obtain ⟨after, operated, rfl⟩ := Option.map_eq_some_iff.mp moved
        exact operated_sound sound operated (Bool.eq_false_iff.mpr cycles)
  | cycle canInterface interference =>
      simp only [step] at moved
      split at moved
      · split at moved
        · rename_i exit after run
          cases moved
          exact cycled_sound sound run
        · cases moved
      · cases moved
  | publish pubNowNs nowNs =>
      simp only [step] at moved
      split at moved
      · split at moved
        · rename_i published after run
          cases moved
          obtain ⟨_, ⟨ages, messages⟩, mutex, log, rfl⟩ := jointStatePublishCallback_run run
          refine ⟨sound.level, fun configured => ?_⟩
          have agrees := sound.agrees configured
          exact agrees.of_same (agrees.placed.of_same rfl rfl) rfl rfl (by rw [messages]; rfl)
        · cases moved
      · cases moved

omit [StdToString K] in
theorem sound_of_constructed {start : Node K} (constructed : Constructed start) :
    Sound { node := start } where
  level := by
    rw [constructed.tables]
    exact level_rules.empty
  agrees configured := by simp [ConfiguredNode, constructed.lifecycle] at configured

end Runs

/-- The reply shown is the one whose time was stored last, and the time counts. -/
def Recorded (trail : Trail K) : Prop :=
  ∃ sighting, trail.shown = some sighting ∧ trail.stamped = some sighting.heard.reply.rxNs ∧
    0 < sighting.heard.reply.rxNs

/-- The published position of a joint has been made of this reply. -/
def Shows (trail : Trail K) (place : Nat × K) (message : PublishedJointState K) (reply : Heard K) :
    Prop :=
  ∃ pos, trail.shown = some ⟨reply, pos⟩ ∧ message.messages.position[place.1]? = some (pos + place.2)

/-- Every position in the message comes from a reply since this time, one of them from a reply at
this time. -/
structure StampBounds (state : Traced K) (message : PublishedJointState K) (oldest : Int) : Prop where
  stamp : message.stamp = Stamp.ofNs oldest
  fresh : ∀ index joint place, jointEntry (placements state.node.tables) index joint = some place →
    ∃ reply, Shows (state.trails index joint) place message reply ∧ oldest ≤ reply.reply.rxNs
  attained : ∃ index joint place reply,
    jointEntry (placements state.node.tables) index joint = some place ∧
      Shows (state.trails index joint) place message reply ∧ reply.reply.rxNs = oldest

section Bound

variable {start : Node K} {steps : List (TracedStep K)} {state : Traced K} {after : Node K}
variable {message : PublishedJointState K} {pubNowNs nowNs : Int} {index joint : Nat} {place : Nat × K}

omit [StdToString K] [Libm K] in
theorem Follows.shows {trail : Trail K} {node : Node K}
    (follows : Follows trail node index joint place) (recorded : Recorded trail)
    (positions : message.messages.position = node.messages.position) :
    ∃ reply, Shows trail place message reply ∧ trail.stamped = some reply.reply.rxNs ∧
      0 < reply.reply.rxNs ∧ node.messages.jointRxNs[place.1]? = some reply.reply.rxNs := by
  obtain ⟨sighting, shown, stamped, positive⟩ := recorded
  refine ⟨sighting.heard, ⟨sighting.pos, shown, ?_⟩, stamped, positive, follows.stamped _ stamped⟩
  rw [positions]
  exact follows.shown sighting shown

/-- A message that is stamped with an arrival time, if the time stored for each joint is that of
the reply its position comes from. -/
theorem published_stamp_bounds (constructed : Constructed start)
    (run : runSteps step { node := start } steps = some state)
    (configured : ConfiguredNode state.node)
    (recorded : ∀ index joint place, jointEntry (placements state.node.tables) index joint = some place →
      Recorded (state.trails index joint))
    (publish : (jointStatePublishCallback pubNowNs nowNs).run state.node = (.returned message, after))
    (stamped : 0 < oldestRxNs state.node.messages.jointRxNs) :
    StampBounds state message (oldestRxNs state.node.messages.jointRxNs) := by
  have sound : Sound state := invariant_of_run (fun _ _ _ sound _ moved => step_sound sound moved)
    (sound_of_constructed constructed) everyStep_true run
  have agrees := sound.agrees configured
  obtain ⟨stamp, ⟨ages, messages⟩, _⟩ := jointStatePublishCallback_run publish
  have positions : message.messages.position = state.node.messages.position := by rw [messages]
  have shows_ (index joint : Nat) (place : Nat × K)
      (found : jointEntry (placements state.node.tables) index joint = some place) :=
    (agrees.trails index joint place found).shows (recorded index joint place found) positions
  constructor
  case stamp => rw [stamp, if_pos stamped]
  case fresh =>
    intro index joint place found
    obtain ⟨reply, shown, _, positive, stored⟩ := shows_ index joint place found
    exact ⟨reply, shown, oldestRxNs_le (List.mem_of_getElem? stored) positive⟩
  case attained =>
    obtain ⟨msgIdx, storedOldest⟩ := List.mem_iff_getElem?.mp (oldestRxNs_mem stamped)
    obtain ⟨index, joint, zero, found, trailStamped⟩ := agrees.stored msgIdx _ storedOldest stamped
    obtain ⟨reply, shown, replyStamped, _⟩ := shows_ index joint _ found
    exact ⟨index, joint, _, reply, found, shown, Option.some.inj (replyStamped.symm.trans trailStamped)⟩

end Bound

section Example

attribute [local instance] libmAtRest

def replyAt (canId : BitVec 32) (motorId : BitVec 8) (rxNs : Int) : ReadResult :=
  .frame {
    frame := { canId, len := 8, data := replyOfMotor motorId }
    rxNs, rxHwNs := rxNs, dequeueNs := rxNs }

/-- The motors are started, and give these answers in the cycles. -/
def answeringBus (answers : List ReadResult) : Node.Bus where
  setup _ _ := true
  socket _ := {
    writes := List.replicate 5 (.written 0)
    reads := [exampleReply 1 1, exampleReply 0x80002902 0, exampleReply 0x80002902 0] ++ answers }

def answeredCycle (answers : List ReadResult) : List (TracedStep ℚ) :=
  [.operation (.configure patientAssignment (answeringBus answers) 0), .cycle 0 {}]

def arrivals (trail : Trail ℚ) : Option Int × Option Int :=
  (trail.shown.map (·.heard.reply.rxNs), trail.stamped)

def publishes (node : Node ℚ) : Bool :=
  match ((jointStatePublishCallback 0 0).run node).1 with
  | .returned _ => true
  | _ => false

theorem publishes_iff {node : Node ℚ} : publishes node = true ↔ ∃ message after,
    (jointStatePublishCallback 0 0).run node = (.returned message, after) := by
  rw [publishes]
  cases run : (jointStatePublishCallback 0 0).run node with
  | mk outcome after => cases outcome <;> simp

/-- What is seen of the two joints of the one interface, and of the message. -/
structure Seen where
  lifecycle : Lifecycle
  publishes : Bool
  jointRxNs : List Int
  placements : List (List (Nat × ℚ))
  hip : Option Int × Option Int
  knee : Option Int × Option Int
deriving DecidableEq

def seen (state : Traced ℚ) : Seen where
  lifecycle := state.node.lifecycle
  publishes := publishes state.node
  jointRxNs := state.node.messages.jointRxNs
  placements := placements state.node.tables
  hip := arrivals (state.trails 0 0)
  knee := arrivals (state.trails 0 1)

theorem published_stamp_bounds_leg : ∃ state message after,
    runSteps step { node := freshNode } (answeredCycle
      [replyAt 1 1 2000000000, replyAt 0x80002902 0 3000000000]) = some state ∧
    (jointStatePublishCallback 0 0).run state.node = (.returned message, after) ∧
    StampBounds state message (oldestRxNs [2000000000, 3000000000]) := by
  obtain ⟨state, run, observed⟩ := Option.map_eq_some_iff.mp
    (show (runSteps step { node := freshNode } (answeredCycle
        [replyAt 1 1 2000000000, replyAt 0x80002902 0 3000000000])).map seen =
      some ⟨.inactive, true, [2000000000, 3000000000], [[(0, 0), (1, 0)]],
        (some 2000000000, some 2000000000), (some 3000000000, some 3000000000)⟩ by decide +kernel)
  simp only [seen, arrivals, Seen.mk.injEq, Prod.mk.injEq, Option.map_eq_some_iff] at observed
  obtain ⟨inactive, returns, times, places, ⟨⟨hip, hipShown, hipTime⟩, hipStamped⟩,
    ⟨knee, kneeShown, kneeTime⟩, kneeStamped⟩ := observed
  obtain ⟨message, after, publish⟩ := publishes_iff.mp returns
  have recorded : ∀ index joint place,
      jointEntry (placements state.node.tables) index joint = some place →
        Recorded (state.trails index joint) := by
    intro index joint place found
    rw [places] at found
    match index, joint with
    | 0, 0 => exact ⟨hip, hipShown, by rw [hipTime, hipStamped], by rw [hipTime]; decide⟩
    | 0, 1 => exact ⟨knee, kneeShown, by rw [kneeTime, kneeStamped], by rw [kneeTime]; decide⟩
    | 0, joint + 2 => simp [jointEntry] at found
    | index + 1, joint => simp [jointEntry] at found
  refine ⟨state, message, after, run, publish, ?_⟩
  rw [← times]
  exact published_stamp_bounds freshNode_constructed run (.inl inactive) recorded publish
    (by rw [times]; decide)

/-- The second motor has not replied yet; its position is in the message, and the stamp is the
time of the other. -/
theorem stamp_unbounded_silent : ∃ state message after,
    runSteps step { node := freshNode } (answeredCycle [replyAt 1 1 2000000000]) = some state ∧
    ConfiguredNode state.node ∧
    jointEntry (placements state.node.tables) 0 1 = some (1, 0) ∧
    (jointStatePublishCallback 0 0).run state.node = (.returned message, after) ∧
    oldestRxNs state.node.messages.jointRxNs = 2000000000 ∧
    message.stamp = Stamp.ofNs 2000000000 ∧
    ¬ StampBounds state message (oldestRxNs state.node.messages.jointRxNs) := by
  obtain ⟨state, run, observed⟩ := Option.map_eq_some_iff.mp
    (show (runSteps step { node := freshNode } (answeredCycle [replyAt 1 1 2000000000])).map seen =
      some ⟨.inactive, true, [2000000000, 0], [[(0, 0), (1, 0)]],
        (some 2000000000, some 2000000000), (none, none)⟩ by decide +kernel)
  simp only [seen, arrivals, Seen.mk.injEq, Prod.mk.injEq, Option.map_eq_none_iff] at observed
  obtain ⟨inactive, returns, times, places, _, kneeShown, _⟩ := observed
  obtain ⟨message, after, publish⟩ := publishes_iff.mp returns
  have oldest : oldestRxNs state.node.messages.jointRxNs = 2000000000 := by
    rw [times]
    decide
  have place : jointEntry (placements state.node.tables) 0 1 = some (1, 0) := by
    rw [places]
    rfl
  refine ⟨state, message, after, run, .inl inactive, place, publish, oldest, ?_, fun bounds => ?_⟩
  · rw [(jointStatePublishCallback_run publish).1, oldest]
    rfl
  · obtain ⟨reply, ⟨_, shown, _⟩, _⟩ := bounds.fresh 0 1 _ place
    rw [kneeShown] at shown
    cases shown

end Example

end Traced

end CubemarsDriver.Node
