import Mathlib.Algebra.BigOperators.Group.List.Basic
import Mathlib.Data.List.DropRight
import Mathlib.Data.List.Rotate

/-! # Rings of cells

A ring overwrites its oldest cell.  Rotated by the place that is overwritten
next, its cells are in the order in which they were written.
-/

namespace Foundation

variable {α : Type} {cells window : List α} {index size : Nat} {value : α}

theorem rtake_of_length_le (enough : cells.length ≤ size) : cells.rtake size = cells := by
  rw [List.rtake, Nat.sub_eq_zero_of_le enough, List.drop_zero]

theorem length_rtake : (cells.rtake size).length = min size cells.length := by
  rw [List.rtake, List.length_drop]
  omega

theorem rtake_rtake (inner outer : Nat) :
    (cells.rtake outer).rtake inner = cells.rtake (min inner outer) := by
  rw [List.rtake, length_rtake, List.rtake, List.drop_drop, List.rtake]
  congr 1
  omega

/-- Appending to a list with room for one more entry. -/
theorem rtake_concat_room (room : window.length < size) :
    (window ++ [value]).rtake size = window ++ [value] := by
  apply rtake_of_length_le
  rw [List.length_append, List.length_singleton]
  exact room

/-- Appending to a full list drops its first entry. -/
theorem rtake_concat_full (full : window.length = size) (positive : 0 < size) :
    (window ++ [value]).rtake size = window.tail ++ [value] := by
  obtain ⟨rest, rfl⟩ := Nat.exists_eq_succ_of_ne_zero positive.ne'
  have single : rest.succ - rest = 1 := by omega
  rw [List.rtake_concat_succ, List.rtake, full, single, List.drop_one]

/-- Overwriting a cell and going on to the next one drops the oldest entry and appends a new one. -/
theorem rotate_set (bound : index < cells.length) :
    (cells.set index value).rotate ((index + 1) % cells.length) =
      (cells.rotate index).tail ++ [value] := by
  obtain ⟨before, old, after, rfl, rfl⟩ :
      ∃ before old after, cells = before ++ old :: after ∧ before.length = index :=
    ⟨cells.take index, cells[index], cells.drop (index + 1), by simp, by simp; omega⟩
  have replaced : (before ++ old :: after).set before.length value =
      (before ++ [value]) ++ after := by simp
  have advanced : before.length + 1 = (before ++ [value]).length := by simp
  have sameLength : (before ++ old :: after).length = ((before ++ [value]) ++ after).length := by
    simp
  rw [replaced, sameLength, List.rotate_mod, advanced, List.rotate_append_length_eq,
    List.rotate_append_length_eq, List.cons_append, List.tail_cons, List.append_assoc]

/-- The first entries of a rotation are the last ones of the list if the list
repeats itself, for them, at the distance by which the rotation misses. -/
theorem take_rotate_iff (shift : Nat) (within : size ≤ window.length) :
    (window.rotate (window.length - size + shift)).take size = window.rtake size ↔
      ∀ place, window.length - size ≤ place → place < window.length →
        window[(place + shift) % window.length]? = window[place]? := by
  have taken : ∀ offset, offset < size →
      ((window.rotate (window.length - size + shift)).take size)[offset]? =
        window[(window.length - size + offset + shift) % window.length]? := by
    intro offset bound
    rw [List.getElem?_take_of_lt bound, List.getElem?_rotate (by omega)]
    congr 2
    omega
  have last : ∀ offset, (window.rtake size)[offset]? = window[window.length - size + offset]? := by
    intro offset
    rw [List.rtake, List.getElem?_drop]
  constructor
  · intro same place above below
    obtain ⟨offset, rfl⟩ := Nat.exists_eq_add_of_le above
    rw [← taken offset (by omega), same, last]
  · intro repeats
    apply List.ext_getElem?
    intro offset
    by_cases bound : offset < size
    · rw [taken offset bound, last]
      exact repeats _ (Nat.le_add_right _ _) (by omega)
    · rw [List.getElem?_eq_none (by rw [List.length_take]; omega),
        List.getElem?_eq_none (by rw [length_rtake]; omega)]

/-- The cells hold the last entries that were written: at first from the front
on, and once all cells are in use from the place that is overwritten next. -/
def HoldsRecent (cells : List α) (index filled : Nat) (written : List α) : Prop :=
  if written.length < cells.length then
    index = written.length ∧ filled = written.length ∧ cells.take filled = written
  else
    index < cells.length ∧ filled = cells.length ∧ cells.rotate index = written.rtake cells.length

section HoldsRecent

variable {filled : Nat} {written : List α}

theorem holdsRecent_nil (cells : List α) (positive : 0 < cells.length) :
    HoldsRecent cells 0 0 [] := by
  unfold HoldsRecent
  rw [if_pos (by exact positive)]
  exact ⟨rfl, rfl, List.take_zero⟩

/-- In some order, the cells in use are the last entries. -/
theorem HoldsRecent.perm (holds : HoldsRecent cells index filled written) :
    (cells.take filled).Perm (written.rtake cells.length) := by
  unfold HoldsRecent at holds
  split at holds
  · obtain ⟨_, _, inOrder⟩ := holds
    rw [inOrder, rtake_of_length_le (by omega)]
  · obtain ⟨_, full, inOrder⟩ := holds
    rw [full, List.take_length, ← inOrder]
    exact (List.rotate_perm cells index).symm

theorem HoldsRecent.index_lt (holds : HoldsRecent cells index filled written) :
    index < cells.length := by
  unfold HoldsRecent at holds
  split at holds
  · rename_i room
    exact holds.1 ▸ room
  · exact holds.1

/-- Writing the next cell. -/
theorem HoldsRecent.write (holds : HoldsRecent cells index filled written) (value : α) :
    HoldsRecent (cells.set index value) ((index + 1) % cells.length)
      (if filled < cells.length then filled + 1 else filled) (written ++ [value]) := by
  have bound := holds.index_lt
  unfold HoldsRecent at holds ⊢
  rw [List.length_set, List.length_append, List.length_singleton]
  split at holds
  · obtain ⟨rfl, rfl, inOrder⟩ := holds
    have appended : (cells.set written.length value).take (written.length + 1) =
        written ++ [value] := by
      rw [List.take_add_one, List.take_set_of_le le_rfl, inOrder,
        List.getElem?_set_self bound]
      rfl
    rw [if_pos bound]
    split
    · rename_i room
      exact ⟨Nat.mod_eq_of_lt room, rfl, appended⟩
    · have full : written.length + 1 = cells.length := by omega
      have whole : cells.set written.length value = written ++ [value] := by
        rw [← appended, List.take_of_length_le (by rw [List.length_set, full])]
      refine ⟨Nat.mod_lt _ (by omega), full, ?_⟩
      rw [full, Nat.mod_self, List.rotate_zero, whole, rtake_of_length_le (by simp [full])]
  · obtain ⟨_, rfl, inOrder⟩ := holds
    rw [if_neg (by omega : ¬ written.length + 1 < cells.length), if_neg (Nat.lt_irrefl _)]
    refine ⟨Nat.mod_lt _ (by omega), rfl, ?_⟩
    have full : (written.rtake cells.length).length = cells.length := by
      rw [length_rtake]
      omega
    obtain ⟨rest, count⟩ := Nat.exists_eq_succ_of_ne_zero (show cells.length ≠ 0 by omega)
    rw [rotate_set bound, inOrder, ← rtake_concat_full full (by omega), count,
      List.rtake_concat_succ, rtake_rtake, List.rtake_concat_succ]
    congr 2
    omega

end HoldsRecent

end Foundation
