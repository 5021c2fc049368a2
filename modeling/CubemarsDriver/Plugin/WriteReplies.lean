import CubemarsDriver.Plugin.Socket
import Mathlib.Data.List.Perm.Subperm

namespace CubemarsDriver.Plugin

open Can

/-! # Whose replies a cycle of the plugin has read

`write` counts frames, not joints: as many reads as there are joints succeed.  They come
from all joints exactly if no joint is heard twice and no stranger is heard. -/

variable {K : Type} {count : Nat}

/-- Whose frame it is does not matter as long as it is not a managed joint with a fault. -/
def Harmless (configs : Vector (JointConfig K) count) (frame : CanFrame) : Prop :=
  frame.canId ≠ 0 ∧ ∀ joint : Fin count, (configs.get joint).canId = frame.canId →
    ErrorCode.ofByte frame.data.errorByte = .noFault

instance instDecidableHarmless (configs : Vector (JointConfig K) count) (frame : CanFrame) :
    Decidable (Harmless configs frame) := by
  unfold Harmless
  infer_instance

/-- Every write of the call is accepted, and its reads give these frames, none of which ends
the call. -/
structure Served (plugin : ConnectedInterface K count) (frames : List CanFrame) : Prop where
  accepted : ∃ later, plugin.canSocket.writes = List.replicate count true ++ later
  delivered : ∃ later, plugin.canSocket.reads = frames.map .frame ++ later
  one_each : frames.length = count
  harmless : ∀ frame ∈ frames, Harmless plugin.hwJointConfigs frame

def canIds (configs : Vector (JointConfig K) count) : List (BitVec 32) :=
  configs.toList.map JointConfig.canId

/-- No two of the frames carry the same identifier, and each carries one of a joint. -/
def OnePerJoint (configs : Vector (JointConfig K) count) (frames : List CanFrame) : Prop :=
  (frames.map CanFrame.canId).Nodup ∧ ∀ frame ∈ frames, frame.canId ∈ canIds configs

instance instDecidableOnePerJoint (configs : Vector (JointConfig K) count)
    (frames : List CanFrame) : Decidable (OnePerJoint configs frames) :=
  inferInstanceAs (Decidable (_ ∧ _))

/-- What a call does on the socket. -/
def eventsOf (before after : ConnectedInterface K count) : List SocketEvent :=
  after.canSocket.log.drop before.canSocket.log.length

variable {plugin : ConnectedInterface K count} {configs : Vector (JointConfig K) count}
variable {frame : CanFrame} {frames : List CanFrame} {joints : List (Fin count)}

theorem mem_canIds (joint : Fin count) : (configs.get joint).canId ∈ canIds configs := by
  apply List.mem_map_of_mem
  rw [Vector.mem_toList_iff]
  exact Vector.getElem_mem joint.isLt

theorem exists_of_mem_canIds {canId : BitVec 32} (member : canId ∈ canIds configs) :
    ∃ joint : Fin count, (configs.get joint).canId = canId := by
  obtain ⟨config, among, rfl⟩ := List.mem_map.mp member
  obtain ⟨index, inRange, rfl⟩ := Vector.getElem_of_mem (Vector.mem_toList_iff.mp among)
  exact ⟨⟨index, inRange⟩, rfl⟩

theorem findCanId_none {canId : BitVec 32} (missing : findCanId configs canId = none)
    (joint : Fin count) : (configs.get joint).canId ≠ canId := by
  have other := List.find?_eq_none.mp missing joint (List.mem_finRange joint)
  simpa using other

theorem findCanId_canId {canId : BitVec 32} {joint : Fin count}
    (found : findCanId configs canId = some joint) : (configs.get joint).canId = canId := by
  simpa using List.find?_some found

theorem findCanId_self (distinct : (canIds configs).Nodup) (joint : Fin count) :
    findCanId configs (configs.get joint).canId = some joint := by
  cases found : findCanId configs (configs.get joint).canId with
  | none => exact absurd rfl (findCanId_none found joint)
  | some other =>
      have same := findCanId_canId found
      have inside : other.val < (canIds configs).length := by simp [canIds]
      have equal : (canIds configs)[other.val]? = (canIds configs)[joint.val]? := by
        simpa [canIds, Vector.get] using same
      rw [Fin.ext ((List.getElem?_inj inside distinct).mp equal)]

theorem sortedIdx_length : (sortedIdx configs).length = count := by
  simp [sortedIdx]

section Reply

variable [Scalar K]

theorem unpackReply_noFault_iff :
    (unpackReply frame plugin).1 = .noFault ↔
      ∀ joint : Fin count, (plugin.hwJointConfigs.get joint).canId = frame.canId →
        ErrorCode.ofByte frame.data.errorByte = .noFault := by
  unfold unpackReply
  cases found : findCanId plugin.hwJointConfigs frame.canId with
  | none =>
      simp only [true_iff]
      intro joint same
      exact absurd same (findCanId_none found joint)
  | some joint =>
      constructor
      · intro fine _ _
        exact fine
      · intro fine
        exact fine joint (findCanId_canId found)

/-- The plugin after one of the reads has given the frame. -/
def received (plugin : ConnectedInterface K count) (frame : CanFrame) :
    ConnectedInterface K count :=
  (unpackReply frame (readFromCan plugin).2).2

@[simp] theorem unpackReply_configs :
    (unpackReply frame plugin).2.hwJointConfigs = plugin.hwJointConfigs := by
  unfold unpackReply
  cases findCanId plugin.hwJointConfigs frame.canId <;> rfl

@[simp] theorem unpackReply_canSocket :
    (unpackReply frame plugin).2.canSocket = plugin.canSocket := by
  unfold unpackReply
  cases findCanId plugin.hwJointConfigs frame.canId <;> rfl

@[simp] theorem received_configs :
    (received plugin frame).hwJointConfigs = plugin.hwJointConfigs := unpackReply_configs

theorem received_reads : (received plugin frame).canSocket.reads = plugin.canSocket.reads.tail := by
  simp [received, readFromCan]

theorem received_log {later : List ReadResult}
    (next : plugin.canSocket.reads = .frame frame :: later) :
    (received plugin frame).canSocket.log = plugin.canSocket.log ++ [.read (.frame frame)] := by
  simp [received, readFromCan, next]

omit [Scalar K] in
theorem setStates_states (plugin : ConnectedInterface K count) (joint other : Fin count)
    (states : JointStates K) :
    (plugin.setStates joint states).states other =
      if joint = other then states else plugin.states other := by
  have entry (values : Vector K count) (value : K) :
      (values.set joint value).get other = if joint = other then value else values.get other := by
    have lookup : (values.set joint value)[other.val] = _ := Vector.getElem_set joint.isLt other.isLt
    simp only [Fin.ext_iff]
    exact lookup
  simp only [ConnectedInterface.setStates, ConnectedInterface.states, entry]
  split <;> rfl

/-- With distinct identifiers a frame sets the states of its own joint only. -/
theorem received_states (frame : CanFrame) (distinct : (canIds plugin.hwJointConfigs).Nodup)
    (joint : Fin count) :
    (received plugin frame).states joint =
      if frame.canId = (plugin.hwJointConfigs.get joint).canId then
        replyStates (plugin.hwJointConfigs.get joint) frame.data
      else plugin.states joint := by
  unfold received unpackReply
  split
  next missing =>
    rw [if_neg fun own => findCanId_none missing joint own.symm]
    rfl
  next index found =>
    have sender : (plugin.hwJointConfigs.get index).canId = frame.canId := findCanId_canId found
    simp only [setStates_states]
    by_cases own : index = joint
    · subst own
      rw [if_pos rfl, if_pos sender.symm]
      rfl
    · have other : frame.canId ≠ (plugin.hwJointConfigs.get joint).canId := by
        intro same
        have again := findCanId_self distinct joint
        rw [← same] at again
        exact own (Option.some.inj (found.symm.trans again))
      rw [if_neg own, if_neg other]
      rfl

theorem readReplies_cons {joint : Fin count} {later : List ReadResult}
    (next : plugin.canSocket.reads = .frame frame :: later)
    (harmless : Harmless plugin.hwJointConfigs frame) :
    readReplies (joint :: joints) plugin = readReplies joints (received plugin frame) := by
  have fine : (unpackReply frame (readFromCan plugin).2).1 = .noFault :=
    unpackReply_noFault_iff.mpr harmless.2
  have result : readFromCan plugin = (.frame frame, (readFromCan plugin).2) := by
    simp [readFromCan, next]
  rw [readReplies, result]
  simp only [harmless.1, if_false]
  split
  next unpacked => rw [received, unpacked]
  next other unpacked =>
    rw [unpacked] at fine
    exact absurd fine other

theorem readReplies_served {later : List ReadResult} (length : frames.length = joints.length)
    (delivered : plugin.canSocket.reads = frames.map .frame ++ later)
    (harmless : ∀ frame ∈ frames, Harmless plugin.hwJointConfigs frame) :
    readReplies joints plugin = (.ok, frames.foldl received plugin) := by
  induction joints generalizing frames plugin with
  | nil =>
      obtain rfl := List.length_eq_zero_iff.mp length
      rfl
  | cons joint rest ih =>
      cases frames with
      | nil => cases length
      | cons frame others =>
          rw [readReplies_cons delivered (harmless frame List.mem_cons_self)]
          apply ih (Nat.succ.inj length)
          · rw [received_reads, delivered]
            rfl
          · intro other member
            rw [received_configs]
            exact harmless other (List.mem_cons_of_mem frame member)

/-- A call whose reads all succeed was given as many frames as there are joints. -/
theorem readReplies_ok (ok : (readReplies joints plugin).1 = .ok) :
    ∃ (frames : List CanFrame) (later : List ReadResult), frames.length = joints.length ∧
      plugin.canSocket.reads = frames.map .frame ++ later ∧
      ∀ frame ∈ frames, Harmless plugin.hwJointConfigs frame := by
  induction joints generalizing plugin with
  | nil => exact ⟨[], plugin.canSocket.reads, rfl, rfl, nofun⟩
  | cons joint rest ih =>
      rw [readReplies] at ok
      cases reads : plugin.canSocket.reads with
      | nil => simp [readFromCan, reads] at ok
      | cons result later =>
          have given : readFromCan plugin = (result, (readFromCan plugin).2) := by
            simp [readFromCan, reads]
          rw [given] at ok
          cases result with
          | failed => cases ok
          | nothing => cases ok
          | frame frame =>
              simp only at ok
              split at ok
              · cases ok
              next nonzero =>
                split at ok
                next after unpacked =>
                  have fine : (unpackReply frame (readFromCan plugin).2).1 = .noFault := by
                    rw [unpacked]
                  rw [unpackReply_noFault_iff] at fine
                  have harmless : Harmless plugin.hwJointConfigs frame := ⟨nonzero, fine⟩
                  have same : after = received plugin frame := by rw [received, unpacked]
                  rw [same] at ok
                  obtain ⟨frames, rest, length, delivered, others⟩ := ih ok
                  rw [received_reads, reads] at delivered
                  rw [received_configs] at others
                  refine ⟨frame :: frames, rest, ?_, ?_, ?_⟩
                  · rw [List.length_cons, List.length_cons, length]
                  · rw [List.map_cons, List.cons_append, ← delivered]
                    rfl
                  · intro other member
                    rcases List.mem_cons.mp member with rfl | member
                    · exact harmless
                    · exact others other member
                · cases ok

theorem foldl_received_log {later : List ReadResult}
    (delivered : plugin.canSocket.reads = frames.map .frame ++ later) :
    (frames.foldl received plugin).canSocket.log =
      plugin.canSocket.log ++ frames.map fun frame => .read (.frame frame) := by
  induction frames generalizing plugin with
  | nil => simp
  | cons frame rest ih =>
      have readsAfter : (received plugin frame).canSocket.reads = rest.map .frame ++ later := by
        rw [received_reads, delivered]
        rfl
      rw [List.foldl_cons, ih readsAfter, received_log delivered]
      simp

/-- A joint that is heard has the states of one of its frames. -/
theorem foldl_received_states (frames : List CanFrame)
    (distinct : (canIds plugin.hwJointConfigs).Nodup) (joint : Fin count) :
    (frames.foldl received plugin).states joint = plugin.states joint ∧
        (∀ frame ∈ frames, frame.canId ≠ (plugin.hwJointConfigs.get joint).canId) ∨
      ∃ frame ∈ frames, frame.canId = (plugin.hwJointConfigs.get joint).canId ∧
        (frames.foldl received plugin).states joint =
          replyStates (plugin.hwJointConfigs.get joint) frame.data := by
  induction frames generalizing plugin with
  | nil => exact .inl ⟨rfl, nofun⟩
  | cons frame rest ih =>
      have distinctAfter : (canIds (received plugin frame).hwJointConfigs).Nodup := by
        rwa [received_configs]
      have states := received_states frame distinct joint
      have last := ih distinctAfter
      rw [received_configs] at last
      rcases last with ⟨kept, silent⟩ | ⟨other, member, own, set⟩
      · by_cases own : frame.canId = (plugin.hwJointConfigs.get joint).canId
        · rw [if_pos own] at states
          exact .inr ⟨frame, List.mem_cons_self, own, kept.trans states⟩
        · rw [if_neg own] at states
          refine .inl ⟨kept.trans states, ?_⟩
          intro heard member
          rcases List.mem_cons.mp member with rfl | member
          · exact own
          · exact silent heard member
      · exact .inr ⟨other, List.mem_cons_of_mem frame member, own, set⟩

theorem writeCommands_ok_iff :
    (writeCommands joints plugin).1 = .ok ↔
      ∃ later, plugin.canSocket.writes = List.replicate joints.length true ++ later := by
  induction joints generalizing plugin with
  | nil => simp [writeCommands]
  | cons joint rest ih =>
      cases writes : plugin.canSocket.writes with
      | nil => simp [writeCommands, writeToCan, writes, List.replicate_succ]
      | cons accepted others =>
          cases accepted with
          | false => simp [writeCommands, writeToCan, writes, List.replicate_succ]
          | true => simp [writeCommands, writeToCan, writes, ih, List.replicate_succ]

/-- Nothing but the socket has changed, and nothing was read. -/
def OnlyWrote (before after : ConnectedInterface K count) : Prop :=
  ∃ writes events, (∀ result, SocketEvent.read result ∉ events) ∧ after = { before with
    canSocket := { before.canSocket with writes, log := before.canSocket.log ++ events } }

omit [Scalar K] in
theorem OnlyWrote.refl (plugin : ConnectedInterface K count) : OnlyWrote plugin plugin :=
  ⟨plugin.canSocket.writes, [], nofun, by simp⟩

omit [Scalar K] in
theorem OnlyWrote.trans {before between after : ConnectedInterface K count}
    (first : OnlyWrote before between) (second : OnlyWrote between after) :
    OnlyWrote before after := by
  obtain ⟨_, early, unreadEarly, rfl⟩ := first
  obtain ⟨writes, late, unreadLate, rfl⟩ := second
  refine ⟨writes, early ++ late, ?_, by simp⟩
  intro result member
  rcases List.mem_append.mp member with member | member
  · exact unreadEarly result member
  · exact unreadLate result member

omit [Scalar K] in
theorem writeToCan_onlyWrote {result : ReturnType} {after : ConnectedInterface K count}
    (wrote : writeToCan frame plugin = (result, after)) : OnlyWrote plugin after := by
  obtain rfl := congrArg Prod.snd wrote
  exact ⟨_, _, by simp, rfl⟩

theorem writeCommands_onlyWrote (joints : List (Fin count)) (plugin : ConnectedInterface K count) :
    OnlyWrote plugin (writeCommands joints plugin).2 := by
  induction joints generalizing plugin with
  | nil => exact OnlyWrote.refl plugin
  | cons joint rest ih =>
      rw [writeCommands]
      split
      next after refused => exact writeToCan_onlyWrote refused
      next after accepted => exact (writeToCan_onlyWrote accepted).trans (ih after)

/-- The call has read a frame of the joint without a fault, and the joint's states are
those of the frame. -/
def Refreshed (before after : ConnectedInterface K count) (joint : Fin count) : Prop :=
  ∃ frame, SocketEvent.read (.frame frame) ∈ eventsOf before after ∧
    frame.canId = (before.hwJointConfigs.get joint).canId ∧
    ErrorCode.ofByte frame.data.errorByte = .noFault ∧
    after.states joint = replyStates (before.hwJointConfigs.get joint) frame.data

theorem write_served (served : Served plugin frames) :
    ∃ written, OnlyWrote plugin written ∧ write plugin = (.ok, frames.foldl received written) := by
  have accepted : (writeCommands (sortedIdx plugin.hwJointConfigs) plugin).1 = .ok := by
    rw [writeCommands_ok_iff, sortedIdx_length]
    exact served.accepted
  have wrote := writeCommands_onlyWrote (sortedIdx plugin.hwJointConfigs) plugin
  cases commands : writeCommands (sortedIdx plugin.hwJointConfigs) plugin with
  | mk result written =>
      rw [commands] at accepted wrote
      cases accepted
      have same : written.hwJointConfigs = plugin.hwJointConfigs ∧
          written.canSocket.reads = plugin.canSocket.reads := by
        obtain ⟨_, _, _, rfl⟩ := wrote
        exact ⟨rfl, rfl⟩
      obtain ⟨later, delivered⟩ := served.delivered
      refine ⟨written, wrote, ?_⟩
      rw [write, commands]
      apply readReplies_served
      · rw [served.one_each, sortedIdx_length]
      · rw [same.2, delivered]
      · rw [same.1]
        exact served.harmless

theorem served_of_ok (ok : (write plugin).1 = .ok) : ∃ frames, Served plugin frames := by
  have wrote := writeCommands_onlyWrote (sortedIdx plugin.hwJointConfigs) plugin
  rw [write] at ok
  cases commands : writeCommands (sortedIdx plugin.hwJointConfigs) plugin with
  | mk result written =>
      rw [commands] at ok wrote
      cases result with
      | error => cases ok
      | ok =>
          have same : written.hwJointConfigs = plugin.hwJointConfigs ∧
              written.canSocket.reads = plugin.canSocket.reads := by
            obtain ⟨_, _, _, rfl⟩ := wrote
            exact ⟨rfl, rfl⟩
          have accepted : (writeCommands (sortedIdx plugin.hwJointConfigs) plugin).1 = .ok := by
            rw [commands]
          rw [writeCommands_ok_iff, sortedIdx_length] at accepted
          obtain ⟨frames, later, length, delivered, harmless⟩ := readReplies_ok ok
          rw [sortedIdx_length] at length
          rw [same.2] at delivered
          rw [same.1] at harmless
          exact ⟨frames, accepted, ⟨later, delivered⟩, length, harmless⟩

/-- The frames that a served call has read. -/
theorem read_iff_of_served (served : Served plugin frames) :
    SocketEvent.read (.frame frame) ∈ eventsOf plugin (write plugin).2 ↔ frame ∈ frames := by
  obtain ⟨written, ⟨writes, events, unread, same⟩, run⟩ := write_served served
  obtain ⟨later, delivered⟩ := served.delivered
  have reads : written.canSocket.reads = frames.map .frame ++ later := by rw [same, delivered]
  have log : written.canSocket.log = plugin.canSocket.log ++ events := by rw [same]
  rw [run, eventsOf, foldl_received_log reads, log]
  simp [unread]

theorem refreshed_of_served (distinct : (canIds plugin.hwJointConfigs).Nodup)
    (served : Served plugin frames) (joint : Fin count) :
    Refreshed plugin (write plugin).2 joint ↔
      (plugin.hwJointConfigs.get joint).canId ∈ frames.map CanFrame.canId := by
  obtain ⟨written, ⟨writes, events, unread, same⟩, run⟩ := write_served served
  have configs : written.hwJointConfigs = plugin.hwJointConfigs := by rw [same]
  have distinctWritten : (canIds written.hwJointConfigs).Nodup := by rwa [configs]
  constructor
  · rintro ⟨frame, read, own, _⟩
    rw [read_iff_of_served served] at read
    rw [← own]
    exact List.mem_map_of_mem read
  · intro heard
    obtain ⟨heardFrame, heardMember, heardOwn⟩ := List.mem_map.mp heard
    rcases foldl_received_states frames distinctWritten joint with
      ⟨_, silent⟩ | ⟨frame, member, own, states⟩
    · rw [configs] at silent
      exact absurd heardOwn (silent heardFrame heardMember)
    · rw [configs] at own states
      refine ⟨frame, (read_iff_of_served served).mpr member, own, ?_, ?_⟩
      · exact (served.harmless frame member).2 joint own.symm
      · rw [run]
        exact states

/-- A call of `write` that returns OK has refreshed every joint exactly if the frames it was
given came from as many different joints. -/
theorem write_refreshes_iff (distinct : (canIds plugin.hwJointConfigs).Nodup) :
    ((write plugin).1 = .ok → ∀ joint : Fin count, Refreshed plugin (write plugin).2 joint) ↔
      ∀ frames, Served plugin frames → OnePerJoint plugin.hwJointConfigs frames := by
  constructor
  · intro refreshes frames served
    obtain ⟨_, _, run⟩ := write_served served
    have all := refreshes (by rw [run])
    have heard : canIds plugin.hwJointConfigs ⊆ frames.map CanFrame.canId := by
      intro canId member
      obtain ⟨joint, rfl⟩ := exists_of_mem_canIds member
      exact (refreshed_of_served distinct served joint).mp (all joint)
    -- as many identifiers as frames, so that the frames have no others
    have lengths : (frames.map CanFrame.canId).length ≤ (canIds plugin.hwJointConfigs).length := by
      simp [canIds, served.one_each]
    have perm := (distinct.subperm heard).perm_of_length_le lengths
    constructor
    · exact perm.nodup_iff.mp distinct
    · intro frame member
      exact perm.mem_iff.mpr (List.mem_map_of_mem member)
  · intro condition ok joint
    obtain ⟨frames, served⟩ := served_of_ok ok
    obtain ⟨different, managed⟩ := condition frames served
    have known : frames.map CanFrame.canId ⊆ canIds plugin.hwJointConfigs := by
      intro canId member
      obtain ⟨frame, among, rfl⟩ := List.mem_map.mp member
      exact managed frame among
    have lengths : (canIds plugin.hwJointConfigs).length ≤ (frames.map CanFrame.canId).length := by
      simp [canIds, served.one_each]
    have perm := (different.subperm known).perm_of_length_le lengths
    rw [refreshed_of_served distinct served]
    exact perm.mem_iff.mpr (mem_canIds joint)

end Reply

section Example

def motorFrame (canId : BitVec 32) : CanFrame where
  canId
  len := 8
  data := replyOfMotor (canId.setWidth 8)

/-- Two motors on a bus whose writes succeed. -/
def twoMotors (reads : List ReadResult) : ConnectedInterface ℚ 2 where
  toCubemarsHardwareInterface := twoJoints
  hwJointConfigs := #v[ak80 1, ak80 2]
  hwCommandsKp := .replicate 2 0
  hwCommandsKd := .replicate 2 0
  hwStatesVelocity := .replicate 2 0
  hwStatesEffort := .replicate 2 0
  hwStatesTemperature := .replicate 2 0
  canSocket := { writes := [true, true], reads }

theorem twoMotors_served (first second : BitVec 32) (nonzero : first ≠ 0 ∧ second ≠ 0) :
    Served (twoMotors [.frame (motorFrame first), .frame (motorFrame second)])
      [motorFrame first, motorFrame second] where
  accepted := ⟨[], rfl⟩
  delivered := ⟨[], rfl⟩
  one_each := rfl
  harmless := by
    intro frame member
    simp only [List.mem_cons, List.not_mem_nil, or_false] at member
    rcases member with rfl | rfl
    · exact ⟨nonzero.1, fun _ _ => rfl⟩
    · exact ⟨nonzero.2, fun _ _ => rfl⟩

theorem write_refreshes_iff_two :
    (write (twoMotors [.frame (motorFrame 2), .frame (motorFrame 1)])).1 = .ok ∧
      ∀ joint : Fin 2, Refreshed (twoMotors [.frame (motorFrame 2), .frame (motorFrame 1)])
        (write (twoMotors [.frame (motorFrame 2), .frame (motorFrame 1)])).2 joint := by
  obtain ⟨_, _, run⟩ := write_served (twoMotors_served 2 1 (by decide))
  have ok : (write (twoMotors [.frame (motorFrame 2), .frame (motorFrame 1)])).1 = .ok := by rw [run]
  refine ⟨ok, (write_refreshes_iff (by decide)).mpr (fun frames served => ?_) ok⟩
  obtain ⟨later, delivered⟩ := served.delivered
  obtain ⟨first, second, rfl⟩ := List.length_eq_two.mp served.one_each
  simp only [twoMotors, List.map_cons, List.map_nil, List.cons_append, List.nil_append,
    List.cons.injEq, ReadResult.frame.injEq] at delivered
  obtain ⟨rfl, rfl, _⟩ := delivered
  decide

/-- Two frames of the first motor are let through and counted for both. -/
theorem write_ok_without_second_motor :
    (canIds (twoMotors []).hwJointConfigs).Nodup ∧
      Passes (rfilter (twoMotors []).hwJointConfigs) (motorFrame 1) ∧
      (write (twoMotors [.frame (motorFrame 1), .frame (motorFrame 1)])).1 = .ok ∧
      ¬Refreshed (twoMotors [.frame (motorFrame 1), .frame (motorFrame 1)])
        (write (twoMotors [.frame (motorFrame 1), .frame (motorFrame 1)])).2 1 := by
  have served := twoMotors_served 1 1 (by decide)
  obtain ⟨_, _, run⟩ := write_served served
  refine ⟨by decide, by decide, by rw [run], ?_⟩
  rw [refreshed_of_served (by decide) served]
  decide

end Example

end CubemarsDriver.Plugin
