import CubemarsDriver.Foundation.Path

/-! # Reader-writer mutexes with accounts

A `Mutex` is seen from the one thread whose path is followed: what matters is
how that thread holds it.  Acquiring a mutex the thread already holds and
releasing one it does not hold in that mode are undefined, and the accounts of
acquisitions and releases cannot be out of step with the hold.
-/

namespace Foundation

inductive LockMode where
  | shared
  | exclusive
deriving DecidableEq, Repr

structure Mutex where
  hold : Option LockMode
  acquired : Nat
  released : Nat
  accounted : acquired = released + hold.toList.length

namespace Mutex

variable {mutex after : Mutex} {mode : LockMode}

def unlocked : Mutex where
  hold := none
  acquired := 0
  released := 0
  accounted := rfl

def acquire (mutex : Mutex) (mode : LockMode) : Option Mutex :=
  if free : mutex.hold = none then
    some {
      hold := some mode
      acquired := mutex.acquired + 1
      released := mutex.released
      accounted := by
        have accounted := mutex.accounted
        simp only [free, Option.toList_none, List.length_nil] at accounted
        simp [accounted] }
  else none

def release (mutex : Mutex) (mode : LockMode) : Option Mutex :=
  if held : mutex.hold = some mode then
    some {
      hold := none
      acquired := mutex.acquired
      released := mutex.released + 1
      accounted := by
        have accounted := mutex.accounted
        simp only [held, Option.toList_some, List.length_singleton] at accounted
        simp [accounted] }
  else none

theorem acquire_free (mode : LockMode) (free : mutex.hold = none) :
    ∃ after, mutex.acquire mode = some after ∧ after.hold = some mode := by
  rw [acquire, dif_pos free]
  exact ⟨_, rfl, rfl⟩

theorem hold_of_acquire (taken : mutex.acquire mode = some after) : after.hold = some mode := by
  rw [acquire, Option.dite_none_right_eq_some] at taken
  obtain ⟨_, same⟩ := taken
  cases same
  rfl

theorem hold_of_release (given : mutex.release mode = some after) : after.hold = none := by
  rw [release, Option.dite_none_right_eq_some] at given
  obtain ⟨_, same⟩ := given
  cases same
  rfl

theorem held_of_release (given : mutex.release mode = some after) : mutex.hold = some mode := by
  rw [release, Option.dite_none_right_eq_some] at given
  exact given.1

theorem release_held (held : mutex.hold = some mode) :
    ∃ after, mutex.release mode = some after ∧ after.hold = none := by
  rw [release, dif_pos held]
  exact ⟨_, rfl, rfl⟩

theorem release_not_held (notHeld : mutex.hold ≠ some mode) : mutex.release mode = none := by
  rw [release, dif_neg notHeld]

/-- A mutex that is not held has been released exactly as often as acquired. -/
theorem acquired_eq_released (free : mutex.hold = none) : mutex.acquired = mutex.released := by
  have accounted := mutex.accounted
  simpa only [free, Option.toList_none, List.length_nil, Nat.add_zero] using accounted

/-- Between the two states the mutex was given back as often as it was taken. -/
def Balanced (before after : Mutex) : Prop :=
  after.hold = none ∧ after.acquired + before.released = after.released + before.acquired

theorem balanced_of_free (free : mutex.hold = none) (freeAfter : after.hold = none) :
    Balanced mutex after :=
  ⟨freeAfter, by rw [acquired_eq_released free, acquired_eq_released freeAfter]⟩

end Mutex

end Foundation
