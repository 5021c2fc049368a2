import CubemarsDriver.Filters
import CubemarsDriver.Foundation.Ranks
import CubemarsDriver.Foundation.RingBuffer

namespace CubemarsDriver

open Foundation

/-! # The median filter

The buffer is a ring of fixed size.  Its cells in use are the last samples, in
an order that does not matter to the median. -/

namespace MedianFilter

variable {K : Type} [Scalar K]
variable {filter : MedianFilter K} {arrived : List K} {size : Nat}

/-- What the updates of a sequence of samples return. -/
def results : MedianFilter K → List K → Option (List K)
  | _, [] => some []
  | filter, value :: rest =>
      (filter.update value).bind fun (result, after) => (after.results rest).map (result :: ·)

/-- A filter of a size that has been updated with some samples since it was created. -/
structure Fed (filter : MedianFilter K) (count : Nat) (arrived : List K) : Prop where
  size : filter.size = count
  length : filter.buffer.length = count
  ring : HoldsRecent filter.buffer filter.idx filter.filled arrived

theorem create_fed (positive : 0 < size) : (create size : MedianFilter K).Fed size [] where
  size := rfl
  length := List.length_replicate
  ring := holdsRecent_nil _ (by simpa [create] using positive)

variable [IsStrictTotalOrder K (· < ·)]

/-- The order of the samples, in the form the sort tests it. -/
theorem not_lt_trans {left middle right : K} (first : ¬ middle < left) (second : ¬ right < middle) :
    ¬ right < left := by
  intro less
  rcases trichotomous_of (· < ·) middle left with below | same | above
  · exact first below
  · subst same
    exact second less
  · exact second (trans_of (· < ·) less above)

theorem inOrder_sort (values : List K) :
    InOrder (· < ·) (values.mergeSort fun left right => ¬ right < left) := by
  have sorted : (values.mergeSort fun left right => decide ¬ right < left).Pairwise
      fun left right => decide (¬ right < left) = true := by
    apply List.pairwise_mergeSort
    · intro left middle right first second
      exact decide_eq_true (not_lt_trans (of_decide_eq_true first) (of_decide_eq_true second))
    · intro left right
      rw [Bool.or_eq_true, decide_eq_true_iff, decide_eq_true_iff]
      by_contra both
      obtain ⟨less, greater⟩ := not_or.mp both
      exact asymm_of (· < ·) (not_not.mp less) (not_not.mp greater)
  exact sorted.imp fun least => of_decide_eq_true least

/-- What an update returns: the middle of the last samples, however they are sorted. -/
def IsMedian (recent : List K) (middle : K) : Prop :=
  ∀ sorted, sorted.Perm recent → InOrder (· < ·) sorted →
    sorted[recent.length / 2]? = some middle

theorem median_isMedian {values recent : List K} {middle : K} (same : values.Perm recent)
    (found : median values = some middle) : IsMedian recent middle := by
  intro sorted perm inOrder
  have unique := inOrder.eq_of_perm (inOrder_sort values)
    (perm.trans (same.symm.trans (List.mergeSort_perm values _).symm))
  rw [unique, ← same.length_eq]
  exact found

theorem Fed.update (fed : filter.Fed size arrived) (large : 2 ≤ size) (value : K) :
    ∃ middle after, filter.update value = some (middle, after) ∧
      IsMedian ((arrived ++ [value]).rtake size) middle ∧ after.Fed size (arrived ++ [value]) := by
  obtain ⟨rfl, length, ring⟩ := fed
  have written := ring.write value
  have bound := ring.index_lt
  have perm := written.perm
  rw [length] at written
  rw [List.length_set, length] at perm
  have used : (filter.buffer.set filter.idx value).take
      (if filter.filled < filter.size then filter.filled + 1 else filter.filled) ≠ [] := by
    intro empty
    have count := perm.length_eq
    rw [empty, length_rtake, List.length_append, List.length_singleton, List.length_nil] at count
    omega
  obtain ⟨middle, found⟩ := median_exists used
  let after : MedianFilter K := { filter with
    buffer := filter.buffer.set filter.idx value
    filled := if filter.filled < filter.size then filter.filled + 1 else filter.filled
    idx := (filter.idx + 1) % filter.size }
  have updated : filter.update value = some (middle, after) := by
    rw [MedianFilter.update, if_neg (by omega), if_pos bound]
    simp only [found, Option.map_some, after]
  exact ⟨middle, after, updated, median_isMedian perm found, rfl,
    List.length_set.trans length, written⟩

/-- The updates of a filter return the medians of the last samples, one for each of them. -/
theorem Fed.results (fed : filter.Fed size arrived) (large : 2 ≤ size) (values : List K) :
    ∃ medians, filter.results values = some medians ∧ medians.length = values.length ∧
      ∀ (count : Nat) (middle : K), medians[count]? = some middle →
        IsMedian ((arrived ++ values.take (count + 1)).rtake size) middle := by
  induction values generalizing filter arrived with
  | nil => exact ⟨[], rfl, rfl, fun count middle found => by simp at found⟩
  | cons value rest ih =>
      obtain ⟨first, after, updated, isMedian, fedAfter⟩ := fed.update large value
      obtain ⟨medians, run, length, later⟩ := ih fedAfter
      refine ⟨first :: medians, ?_, by simp [length], ?_⟩
      · rw [MedianFilter.results, updated, Option.bind_some]
        simp only [run, Option.map_some]
      · intro count middle found
        cases count with
        | zero =>
            cases found
            exact isMedian
        | succ count =>
            have here := later count middle found
            rwa [List.append_assoc, List.singleton_append, ← List.take_succ_cons] at here

/-- After the creation or a resize, every update returns the entry of rank
`length / 2` of the last samples, which lies between two of any samples that are
more than half of them. -/
theorem update_returns_median (large : 2 ≤ size) {start : MedianFilter K}
    (fresh : start = create size ∨ ∃ earlier : MedianFilter K, start = earlier.resize size)
    (values : List K) :
    ∃ medians, start.results values = some medians ∧ medians.length = values.length ∧
      ∀ (count : Nat) (middle : K), medians[count]? = some middle →
        let recent := (values.take (count + 1)).rtake size
        recent.length = min (count + 1) size ∧ IsMedian recent middle ∧
          ∀ inliers : List K, inliers.Subperm recent → recent.length < 2 * inliers.length →
            (∃ low ∈ inliers, ¬ middle < low) ∧ ∃ high ∈ inliers, ¬ high < middle := by
  have fed : start.Fed size [] := by
    rcases fresh with rfl | ⟨earlier, rfl⟩ <;> exact create_fed (by omega)
  obtain ⟨medians, run, length, isMedian⟩ := fed.results large values
  refine ⟨medians, run, length, ?_⟩
  intro count middle found recent
  have bound : count < values.length := length ▸ (List.getElem?_eq_some_iff.mp found).1
  have median : IsMedian recent middle := isMedian count middle found
  refine ⟨?_, median, ?_⟩
  · rw [length_rtake, List.length_take, Nat.min_comm]
    omega
  · intro inliers inside most
    let sorted := recent.mergeSort fun left right => ¬ right < left
    have perm : sorted.Perm recent := List.mergeSort_perm ..
    have inOrder : InOrder (· < ·) sorted := inOrder_sort recent
    have middleOf := median sorted perm inOrder
    rw [← perm.length_eq] at middleOf most
    exact inOrder.middle_between middleOf (perm.subperm_left.mpr inside) most

/-- Two outliers among five samples do not move the median out of the others. -/
theorem update_returns_median_five : ∃ medians : List ℚ,
    (create 5).results [1, 100, 2, -100, 3] = some medians ∧ medians[4]? = some 2 := by
  obtain ⟨medians, run, length, isMedian⟩ :=
    update_returns_median (by decide : 2 ≤ 5) (.inl rfl) ([1, 100, 2, -100, 3] : List ℚ)
  obtain ⟨middle, found⟩ : ∃ middle, medians[4]? = some middle :=
    ⟨_, List.getElem?_eq_getElem (length ▸ by decide)⟩
  have inOrder : InOrder (· < ·) ([-100, 1, 2, 3, 100] : List ℚ) := by
    unfold InOrder
    decide +kernel
  have two := (isMedian 4 middle found).2.1 [-100, 1, 2, 3, 100] (by decide +kernel) inOrder
  cases two
  exact ⟨medians, run, found⟩

end MedianFilter

end CubemarsDriver
