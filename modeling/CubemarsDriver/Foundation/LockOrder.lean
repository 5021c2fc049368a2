import CubemarsDriver.Foundation.Mutex
import CubemarsDriver.Foundation.Trace
import Mathlib.Algebra.Order.BigOperators.Group.Finset

/-! # Locks that are taken in order

Each party carries out a script: it takes and gives back locks, and it waits for other parties
to finish.  If every script takes the locks in increasing order and waits for others only
without a lock, then no interleaving of the scripts gets stuck, whether or not a lock makes
readers wait for a waiting writer. -/

namespace Foundation

inductive LockStep (Lock Work : Type) where
  | take (lock : Lock) (mode : LockMode)
  | give (lock : Lock) (mode : LockMode)
  | await (party : Nat)
  | work (work : Work)
deriving DecidableEq, Repr

/-- Which locks a party holds, and how. -/
abbrev Holding (Lock : Type) := Lock → Option LockMode

def Holding.nothing {Lock : Type} : Holding Lock := fun _ => none

/-- The parties below `count` may have something left to do or hold a lock. -/
structure Parties (Lock Work : Type) where
  count : Nat
  held : Nat → Holding Lock
  rest : Nat → List (LockStep Lock Work)
  idle : ∀ party, count ≤ party → rest party = [] ∧ held party = Holding.nothing

section Inevitable

variable {σ : Type} {step : σ → σ → Prop} {goal invariant : σ → Prop} {state : σ}

/-- Whatever steps are taken, they can be carried on until the goal, and they come to it. -/
inductive Inevitable (step : σ → σ → Prop) (goal : σ → Prop) : σ → Prop where
  | here {state : σ} (reached : goal state) : Inevitable step goal state
  | later {state : σ} (progress : ∃ next, step state next)
      (after : ∀ next, step state next → Inevitable step goal next) : Inevitable step goal state

/-- Steps that shrink the state and are possible short of the goal. -/
theorem inevitable_of_progress (measure : σ → Nat)
    (kept : ∀ state next, invariant state → step state next → invariant next)
    (shrinks : ∀ state next, step state next → measure next < measure state)
    (progress : ∀ state, invariant state → ¬ goal state → ∃ next, step state next)
    (initial : invariant state) : Inevitable step goal state := by
  induction left : measure state using Nat.strong_induction_on generalizing state with
  | _ size ih =>
      by_cases reached : goal state
      · exact .here reached
      · refine .later (progress state initial reached) fun next taken => ?_
        have smaller := shrinks state next taken
        exact ih (measure next) (by omega) (kept state next initial taken) rfl

end Inevitable

variable {Lock Work : Type} [DecidableEq Lock] [DecidableEq Work]

namespace LockStep

def holdingAfter (held : Holding Lock) : LockStep Lock Work → Holding Lock
  | .take lock mode => Function.update held lock (some mode)
  | .give lock _ => Function.update held lock none
  | _ => held

def isLock : LockStep Lock Work → Bool
  | .take .. => true
  | .give .. => true
  | _ => false

/-- A lock is taken above all that are held, and given back as it is held. -/
def InOrder (rank : Lock → Nat) (held : Holding Lock) : LockStep Lock Work → Prop
  | .take lock _ => ∀ other, held other ≠ none → rank other < rank lock
  | .give lock mode => held lock = some mode
  | .await _ => held = Holding.nothing
  | .work _ => True

end LockStep

/-- The script is in order and leads from one holding to another. -/
def ScriptInOrder (rank : Lock → Nat) :
    Holding Lock → List (LockStep Lock Work) → Holding Lock → Prop :=
  Replays (fun held action => action.InOrder rank held) fun held action => action.holdingAfter held

variable {rank : Lock → Nat} {held : Holding Lock}
variable {script : List (LockStep Lock Work)} {action : LockStep Lock Work}
variable {lock : Lock} {mode : LockMode} {party other : Nat}

omit [DecidableEq Work] in
/-- A script that ends without a lock has something left while it holds one. -/
theorem ScriptInOrder.continues (ordered : ScriptInOrder rank held script Holding.nothing)
    (holds : held lock ≠ none) : script ≠ [] := by
  rintro rfl
  have nothing : held = Holding.nothing := ordered
  exact holds (congrFun nothing lock)

namespace Parties

variable {prefersWriters : Lock → Bool} {parties next : Parties Lock Work}

/-- The other parties let this one take the lock.  A lock that prefers writers makes a reader
wait for a waiting writer. -/
def Grants (prefersWriters : Lock → Bool) (parties : Parties Lock Work) (party : Nat) (lock : Lock)
    (mode : LockMode) : Prop :=
  ∀ other < parties.count, other ≠ party →
    (parties.held other lock = none ∨
      mode = .shared ∧ parties.held other lock = some .shared) ∧
    ¬ (mode = .shared ∧ prefersWriters lock = true ∧
      (parties.rest other).head? = some (.take lock .exclusive))

instance instDecidableGrants (parties : Parties Lock Work) (party : Nat) (lock : Lock)
    (mode : LockMode) : Decidable (parties.Grants prefersWriters party lock mode) :=
  inferInstanceAs (Decidable (∀ other < parties.count, _))

/-- The party can take this step now. -/
def Enabled (prefersWriters : Lock → Bool) (parties : Parties Lock Work) (party : Nat) :
    LockStep Lock Work → Prop
  | .take lock mode => parties.held party lock = none ∧ parties.Grants prefersWriters party lock mode
  | .give lock mode => parties.held party lock = some mode
  | .await other => parties.rest other = []
  | .work _ => True

instance instDecidableEnabled (parties : Parties Lock Work) (party : Nat) :
    (action : LockStep Lock Work) → Decidable (parties.Enabled prefersWriters party action)
  | .take _ _ => inferInstanceAs (Decidable (_ ∧ _))
  | .give _ _ => inferInstanceAs (Decidable (_ = _))
  | .await _ => inferInstanceAs (Decidable (_ = _))
  | .work _ => inferInstanceAs (Decidable True)

/-- A party gets another script. -/
def assign (parties : Parties Lock Work) (party : Nat) (script : List (LockStep Lock Work)) :
    Parties Lock Work where
  count := max parties.count (party + 1)
  held := parties.held
  rest := Function.update parties.rest party script
  idle other outside := by
    have beyond : parties.count ≤ other := by omega
    have different : other ≠ party := by omega
    rw [Function.update_of_ne different]
    exact parties.idle other beyond

/-- What a step makes of the parties. -/
def advance (parties : Parties Lock Work) (party : Nat) (action : LockStep Lock Work)
    (remaining : List (LockStep Lock Work)) (present : party < parties.count) : Parties Lock Work where
  count := parties.count
  held := Function.update parties.held party (action.holdingAfter (parties.held party))
  rest := Function.update parties.rest party remaining
  idle other outside := by
    have different : other ≠ party := by omega
    rw [Function.update_of_ne different, Function.update_of_ne different]
    exact parties.idle other outside

section Changes

omit [DecidableEq Work]

variable {remaining : List (LockStep Lock Work)} {present : party < parties.count}

omit [DecidableEq Lock] in
@[simp] theorem assign_rest : (parties.assign party script).rest =
    Function.update parties.rest party script := rfl

omit [DecidableEq Lock] in
@[simp] theorem assign_held : (parties.assign party script).held = parties.held := rfl

@[simp] theorem advance_count : (parties.advance party action remaining present).count =
    parties.count := rfl

@[simp] theorem advance_rest : (parties.advance party action remaining present).rest =
    Function.update parties.rest party remaining := rfl

@[simp] theorem advance_held : (parties.advance party action remaining present).held =
    Function.update parties.held party (action.holdingAfter (parties.held party)) := rfl

end Changes

omit [DecidableEq Lock] [DecidableEq Work] in
theorem present_of_rest (busy : parties.rest party ≠ []) : party < parties.count := by
  by_contra outside
  exact busy (parties.idle party (by omega)).1

/-- The next step of a party, if it is enabled. -/
def step (prefersWriters : Lock → Bool) (parties : Parties Lock Work) (party : Nat) :
    Option (Parties Lock Work) :=
  match found : parties.rest party with
  | [] => none
  | action :: remaining =>
      if parties.Enabled prefersWriters party action then
        some (parties.advance party action remaining (present_of_rest (by simp [found])))
      else none

theorem step_some : parties.step prefersWriters party = some next ↔
    ∃ action remaining, ∃ present : party < parties.count,
      parties.rest party = action :: remaining ∧ parties.Enabled prefersWriters party action ∧
        next = parties.advance party action remaining present := by
  unfold step
  split
  next found =>
    simp [found]
  next action remaining found =>
    rw [Option.ite_none_right_eq_some, Option.some.injEq]
    constructor
    · rintro ⟨enabled, rfl⟩
      exact ⟨action, remaining, _, found, enabled, rfl⟩
    · rintro ⟨other, rest, present, same, enabled, rfl⟩
      rw [found, List.cons.injEq] at same
      obtain ⟨rfl, rfl⟩ := same
      exact ⟨enabled, rfl⟩

/-- Every party is in order, ends without a lock and waits for later parties only. -/
structure Ordered (rank : Lock → Nat) (parties : Parties Lock Work) : Prop where
  scripts : ∀ party, ScriptInOrder rank (parties.held party) (parties.rest party) Holding.nothing
  awaits : ∀ party other, .await other ∈ parties.rest party → party < other

/-- Some party can go on. -/
def Moves (prefersWriters : Lock → Bool) (parties : Parties Lock Work) : Prop :=
  ∃ party next, parties.step prefersWriters party = some next

theorem moves_of_enabled {remaining : List (LockStep Lock Work)}
    (found : parties.rest party = action :: remaining)
    (enabled : parties.Enabled prefersWriters party action) : parties.Moves prefersWriters :=
  ⟨party, _, step_some.mpr ⟨action, remaining, present_of_rest (by simp [found]), found, enabled, rfl⟩⟩

omit [DecidableEq Work] in
theorem Ordered.first {remaining : List (LockStep Lock Work)} (ordered : parties.Ordered rank)
    (found : parties.rest party = action :: remaining) :
    action.InOrder rank (parties.held party) := by
  have script := ordered.scripts party
  rw [found] at script
  exact script.1

/-- Whoever holds a lock can go on, or waits for a higher one. -/
theorem Ordered.holder_next (ordered : parties.Ordered rank)
    (holds : parties.held party lock ≠ none) : parties.Moves prefersWriters ∨
      ∃ higher mode remaining, parties.rest party = .take higher mode :: remaining ∧
        rank lock < rank higher := by
  cases found : parties.rest party with
  | nil => exact absurd found ((ordered.scripts party).continues holds)
  | cons action remaining =>
      have inOrder := ordered.first found
      cases action with
      | take higher mode => exact .inr ⟨higher, mode, remaining, rfl, inOrder lock holds⟩
      | give lock mode => exact .inl (moves_of_enabled found inOrder)
      | await other => exact absurd (congrFun inOrder lock) holds
      | work work => exact .inl (moves_of_enabled found trivial)

/-- Where a party waits for a lock, that party or the holder of some lock can go on. -/
theorem Ordered.taker_moves (ordered : parties.Ordered rank) {bound : Nat}
    (bounded : ∀ lock, rank lock ≤ bound) {remaining : List (LockStep Lock Work)}
    (found : parties.rest party = .take lock mode :: remaining) : parties.Moves prefersWriters := by
  -- induction on how many ranks there are above the lock that is waited for
  induction above : bound - rank lock using Nat.strong_induction_on generalizing party lock mode remaining with
  | _ room ih =>
      have higherMoves {holder : Nat} (holds : parties.held holder lock ≠ none) :
          parties.Moves prefersWriters := by
        rcases ordered.holder_next holds with moves | waits
        · exact moves
        · obtain ⟨higher, other, rest, next, larger⟩ := waits
          have within := bounded higher
          exact ih (bound - rank higher) (by omega) next rfl
      by_cases free : ∀ holder, parties.held holder lock = none
      · by_cases writer : ∃ waiting rest, parties.rest waiting = .take lock .exclusive :: rest
        · obtain ⟨waiting, rest, next⟩ := writer
          refine moves_of_enabled next ⟨free waiting, fun other _ _ => ⟨.inl (free other), ?_⟩⟩
          rintro ⟨impossible, _⟩
          cases impossible
        · refine moves_of_enabled found ⟨free party, fun other _ _ => ⟨.inl (free other), ?_⟩⟩
          rintro ⟨_, _, waits⟩
          obtain ⟨rest, next⟩ := List.head?_eq_some_iff.mp waits
          exact writer ⟨other, rest, next⟩
      · obtain ⟨holder, holds⟩ := not_forall.mp free
        exact higherMoves holds

/-- No interleaving is stuck before every party is done. -/
theorem Ordered.moves (ordered : parties.Ordered rank) {bound : Nat}
    (bounded : ∀ lock, rank lock ≤ bound) (busy : parties.rest party ≠ []) :
    parties.Moves prefersWriters := by
  have present := present_of_rest busy
  -- a party waits for later ones only
  induction left : parties.count - party using Nat.strong_induction_on generalizing party with
  | _ remaining ih =>
      cases found : parties.rest party with
      | nil => exact absurd found busy
      | cons action rest =>
          have inOrder := ordered.first found
          cases action with
          | take lock mode => exact ordered.taker_moves bounded found
          | give lock mode => exact moves_of_enabled found inOrder
          | work work => exact moves_of_enabled found trivial
          | await other =>
              by_cases done : parties.rest other = []
              · exact moves_of_enabled found done
              · have later := ordered.awaits party other (by simp [found])
                have presentOther := present_of_rest done
                exact ih (parties.count - other) (by omega) done presentOther rfl

omit [DecidableEq Work] in
theorem Ordered.advance {remaining : List (LockStep Lock Work)} (ordered : parties.Ordered rank)
    (found : parties.rest party = action :: remaining) (present : party < parties.count) :
    (parties.advance party action remaining present).Ordered rank := by
  constructor
  · intro other
    by_cases same : other = party
    · have script := ordered.scripts party
      rw [found] at script
      subst same
      simpa only [ScriptInOrder, advance_held, advance_rest, Function.update_self] using script.2
    · simpa only [advance_held, advance_rest, Function.update_of_ne same] using ordered.scripts other
  · intro other awaited member
    by_cases same : other = party
    · subst same
      rw [advance_rest, Function.update_self] at member
      exact ordered.awaits other awaited (by rw [found]; exact List.mem_cons_of_mem _ member)
    · rw [advance_rest, Function.update_of_ne same] at member
      exact ordered.awaits other awaited member

theorem Ordered.step (ordered : parties.Ordered rank)
    (moved : parties.step prefersWriters party = some next) : next.Ordered rank := by
  obtain ⟨action, remaining, present, found, _, rfl⟩ := step_some.mp moved
  exact ordered.advance found present

omit [DecidableEq Work] in
/-- A script for a party that holds nothing. -/
theorem Ordered.assign (ordered : parties.Ordered rank) (free : parties.held party = Holding.nothing)
    (inOrder : ScriptInOrder rank Holding.nothing script Holding.nothing)
    (later : ∀ other, .await other ∈ script → party < other) :
    (parties.assign party script).Ordered rank := by
  constructor
  · intro other
    by_cases same : other = party
    · subst same
      rw [assign_held, assign_rest, Function.update_self, free]
      exact inOrder
    · simpa only [assign_held, assign_rest, Function.update_of_ne same] using ordered.scripts other
  · intro other awaited member
    by_cases same : other = party
    · subst same
      rw [assign_rest, Function.update_self] at member
      exact later awaited member
    · rw [assign_rest, Function.update_of_ne same] at member
      exact ordered.awaits other awaited member

omit [DecidableEq Work] in
/-- A party that is done holds nothing. -/
theorem Ordered.free_of_done (ordered : parties.Ordered rank) (done : parties.rest party = []) :
    parties.held party = Holding.nothing := by
  have script := ordered.scripts party
  rwa [done] at script

/-- The steps that are left. -/
def size (parties : Parties Lock Work) : Nat :=
  ∑ party ∈ Finset.range parties.count, (parties.rest party).length

theorem size_step (moved : parties.step prefersWriters party = some next) :
    next.size < parties.size := by
  obtain ⟨action, remaining, present, found, _, rfl⟩ := step_some.mp moved
  apply Finset.sum_lt_sum
  · intro other _
    by_cases same : other = party
    · subst same
      simp [found]
    · simp [Function.update_of_ne same]
  · exact ⟨party, Finset.mem_range.mpr present, by simp [found]⟩

end Parties

end Foundation
