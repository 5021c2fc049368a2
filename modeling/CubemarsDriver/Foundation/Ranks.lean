import Mathlib.Data.List.Perm.Subperm
import Mathlib.Order.Defs.Unbundled

/-! # Ranks in sorted lists

An entry in the middle of a sorted list is not beyond all of more than half of
its entries, whichever they are.
-/

namespace Foundation

variable {α : Type} {less : α → α → Prop} {sorted others : List α} {rank : Nat} {middle : α}

/-- No entry is less than an entry before it. -/
def InOrder (less : α → α → Prop) (entries : List α) : Prop :=
  entries.Pairwise fun left right => ¬ less right left

/-- Entries that satisfy a condition none of the first ones satisfies. -/
theorem countP_le_of_prefix {condition : α → Bool} {entries : List α}
    (none : ∀ entry ∈ entries.take rank, ¬ condition entry) :
    entries.countP condition ≤ entries.length - rank := by
  have first : (entries.take rank).countP condition = 0 := List.countP_eq_zero.mpr none
  have rest : (entries.drop rank).countP condition ≤ (entries.drop rank).length :=
    List.countP_le_length
  rw [← List.take_append_drop rank entries, List.countP_append, first, List.take_append_drop]
  rw [List.length_drop] at rest
  omega

/-- Entries that satisfy a condition none of the last ones satisfies. -/
theorem countP_le_of_suffix {condition : α → Bool} {entries : List α}
    (none : ∀ entry ∈ entries.drop rank, ¬ condition entry) :
    entries.countP condition ≤ rank := by
  have last : (entries.drop rank).countP condition = 0 := List.countP_eq_zero.mpr none
  have rest : (entries.take rank).countP condition ≤ (entries.take rank).length :=
    List.countP_le_length
  rw [← List.take_append_drop rank entries, List.countP_append, last]
  rw [List.length_take] at rest
  omega

section Sorted

variable [Std.Irrefl less]

/-- Nothing up to a place is greater than the entry at the place. -/
theorem InOrder.not_less_take (inOrder : InOrder less sorted) (found : sorted[rank]? = some middle)
    {entry : α} (member : entry ∈ sorted.take (rank + 1)) : ¬ less middle entry := by
  obtain ⟨bound, value⟩ := List.getElem?_eq_some_iff.mp found
  obtain ⟨place, before, rfl⟩ := List.mem_take_iff_getElem.mp member
  subst value
  by_cases same : place = rank
  · subst same
    exact irrefl_of less _
  · exact List.pairwise_iff_getElem.mp inOrder place rank (by omega) bound (by omega)

/-- Nothing from a place on is less than the entry at the place. -/
theorem InOrder.not_less_drop (inOrder : InOrder less sorted) (found : sorted[rank]? = some middle)
    {entry : α} (member : entry ∈ sorted.drop rank) : ¬ less entry middle := by
  obtain ⟨bound, value⟩ := List.getElem?_eq_some_iff.mp found
  obtain ⟨distance, after, rfl⟩ := List.mem_drop_iff_getElem.mp member
  subst value
  by_cases same : distance = 0
  · subst same
    exact irrefl_of less _
  · exact List.pairwise_iff_getElem.mp inOrder rank (rank + distance) bound (by omega) (by omega)

variable [DecidableRel less]

/-- The entry in the middle lies between two of any entries that are more than half of all. -/
theorem InOrder.middle_between (inOrder : InOrder less sorted)
    (found : sorted[sorted.length / 2]? = some middle) (some : others.Subperm sorted)
    (most : sorted.length < 2 * others.length) :
    (∃ low ∈ others, ¬ less middle low) ∧ ∃ high ∈ others, ¬ less high middle := by
  have bound := (List.getElem?_eq_some_iff.mp found).1
  constructor
  · by_contra all
    have above : ∀ entry ∈ others, less middle entry := by
      intro entry member
      by_contra not
      exact all ⟨entry, member, not⟩
    have everyone : others.countP (fun entry => less middle entry) = others.length :=
      List.countP_eq_length.mpr fun entry member => decide_eq_true (above entry member)
    have counted := some.countP_le fun entry => decide (less middle entry)
    have few : sorted.countP (fun entry => decide (less middle entry)) ≤
        sorted.length - (sorted.length / 2 + 1) :=
      countP_le_of_prefix fun entry member => by
        simpa using inOrder.not_less_take found member
    omega
  · by_contra all
    have beneath : ∀ entry ∈ others, less entry middle := by
      intro entry member
      by_contra not
      exact all ⟨entry, member, not⟩
    have everyone : others.countP (fun entry => less entry middle) = others.length :=
      List.countP_eq_length.mpr fun entry member => decide_eq_true (beneath entry member)
    have counted := some.countP_le fun entry => decide (less entry middle)
    have few : sorted.countP (fun entry => decide (less entry middle)) ≤ sorted.length / 2 :=
      countP_le_of_suffix fun entry member => by
        simpa using inOrder.not_less_drop found member
    omega

end Sorted

section Total

variable [IsStrictTotalOrder α less]

/-- A total order sorts a list in one way only. -/
theorem InOrder.eq_of_perm (first : InOrder less sorted) (second : InOrder less others)
    (same : sorted.Perm others) : sorted = others := by
  apply List.Perm.eq_of_pairwise _ first second same
  intro left right _ _ notGreater notLess
  exact Std.Trichotomous.trichotomous left right notLess notGreater

end Total

end Foundation
