import Mathlib.Data.List.Forall2

/-! # Indexed loops over tables

Loops of imperative code that compute on rows of values.  An access past the end
of a row is undefined, and so is a loop with an undefined iteration. -/

namespace Foundation

variable {α β γ : Type}

/-- The results of `for (i = 0; i < count; i++)`. -/
def collect (body : Nat → Option α) : Nat → Option (List α)
  | 0 => some []
  | count + 1 =>
      match collect body count, body count with
      | some before, some last => some (before ++ [last])
      | _, _ => none

theorem collect_eq_some {body : Nat → Option α} {count : Nat} {results : List α} :
    collect body count = some results ↔
      results.length = count ∧ ∀ index, index < count → body index = results[index]? := by
  induction count generalizing results with
  | zero => cases results <;> simp [collect]
  | succ count ih =>
      rw [collect]
      constructor
      · intro collected
        cases first : collect body count with
        | none => simp [first] at collected
        | some before =>
            cases last : body count with
            | none => simp [first, last] at collected
            | some value =>
                simp only [first, last, Option.some.injEq] at collected
                subst collected
                obtain ⟨size, found⟩ := ih.mp first
                refine ⟨by simp [size], fun index bound => ?_⟩
                rcases Nat.lt_succ_iff_lt_or_eq.mp bound with earlier | rfl
                · rw [List.getElem?_append_left (by omega), found index earlier]
                · rw [last, List.getElem?_append_right (by omega), size, Nat.sub_self]
                  rfl
      · rintro ⟨size, found⟩
        have split : results.take count ++ results.drop count = results := List.take_append_drop ..
        have first : collect body count = some (results.take count) := by
          refine ih.mpr ⟨by simp [size], fun index bound => ?_⟩
          rw [found index (by omega), List.getElem?_take_of_lt bound]
        obtain ⟨value, last⟩ : ∃ value, results[count]? = some value :=
          ⟨_, List.getElem?_eq_getElem (by omega)⟩
        rw [first, found count (by omega), last]
        simp only [Option.some.injEq]
        obtain ⟨bound, value'⟩ := List.getElem?_eq_some_iff.mp last
        rw [← value', List.take_append_getElem bound, ← size, List.take_length]

theorem collect_some {body : Nat → Option α} {count : Nat}
    (defined : ∀ index, index < count → ∃ value, body index = some value) :
    ∃ results, collect body count = some results := by
  induction count with
  | zero => exact ⟨[], rfl⟩
  | succ count ih =>
      obtain ⟨before, first⟩ := ih fun index bound => defined index (by omega)
      obtain ⟨value, last⟩ := defined count (by omega)
      exact ⟨before ++ [value], by rw [collect, first, last]⟩

/-- What holds of every iteration holds of every result. -/
theorem collect_exists {body : Nat → Option α} {count : Nat} (holds : Nat → α → Prop)
    (defined : ∀ index, index < count → ∃ value, body index = some value ∧ holds index value) :
    ∃ results, collect body count = some results ∧ results.length = count ∧
      ∀ index value, results[index]? = some value → holds index value := by
  obtain ⟨results, collected⟩ := collect_some fun index bound => (defined index bound).imp
    fun _ both => both.1
  obtain ⟨size, entries⟩ := collect_eq_some.mp collected
  refine ⟨results, collected, size, fun index value found => ?_⟩
  have bound : index < count := size ▸ (List.getElem?_eq_some_iff.mp found).1
  obtain ⟨other, computed, property⟩ := defined index bound
  rw [entries index bound, found, Option.some.injEq] at computed
  exact computed ▸ property

/-- The value left by `for (i = 0; i < count; i++)` when every iteration updates it. -/
def accumulate (body : Nat → γ → Option γ) : Nat → γ → Option γ
  | 0, start => some start
  | count + 1, start => (accumulate body count start).bind (body count)

/-- The invariant rule for total loops. -/
theorem accumulate_some {body : Nat → γ → Option γ} {count : Nat} {start : γ}
    (invariant : Nat → γ → Prop) (initial : invariant 0 start)
    (step : ∀ index value, index < count → invariant index value →
      ∃ next, body index value = some next ∧ invariant (index + 1) next) :
    ∃ final, accumulate body count start = some final ∧ invariant count final := by
  induction count with
  | zero => exact ⟨start, rfl, initial⟩
  | succ count ih =>
      obtain ⟨before, first, holds⟩ := ih fun index value bound => step index value (by omega)
      obtain ⟨next, last, kept⟩ := step count before (by omega) holds
      exact ⟨next, by rw [accumulate, first]; exact last, kept⟩

/-- The invariant rule for loops that are known to have ended. -/
theorem accumulate_invariant {body : Nat → γ → Option γ} {count : Nat} {start final : γ}
    (invariant : Nat → γ → Prop) (initial : invariant 0 start)
    (step : ∀ index value next, index < count → invariant index value →
      body index value = some next → invariant (index + 1) next)
    (ended : accumulate body count start = some final) : invariant count final := by
  induction count generalizing final with
  | zero => cases ended; exact initial
  | succ count ih =>
      rw [accumulate, Option.bind_eq_some_iff] at ended
      obtain ⟨before, first, last⟩ := ended
      exact step count before final (by omega)
        (ih (fun index value next bound => step index value next (by omega)) first) last

/-- `row[index] = value`. -/
def storeAt (row : List α) (index : Nat) (value : α) : Option (List α) :=
  if index < row.length then some (row.set index value) else none

theorem storeAt_some {row : List α} {index : Nat} (value : α) (bound : index < row.length) :
    storeAt row index value = some (row.set index value) := if_pos bound

theorem storeAt_eq_some {row after : List α} {index : Nat} {value : α} :
    storeAt row index value = some after ↔ index < row.length ∧ after = row.set index value := by
  rw [storeAt]
  split
  · simp [*, eq_comm]
  · simp [*]

theorem set_getElem?_self {row : List α} {index : Nat} {old : α} (value : α)
    (found : row[index]? = some old) : (row.set index value)[index]? = some value := by
  rw [List.getElem?_set_self (List.getElem?_eq_some_iff.mp found).1]

theorem set_same_getElem? {row : List α} {value : α} (found : row[index]? = some value) :
    row.set index value = row := by
  obtain ⟨bound, rfl⟩ := List.getElem?_eq_some_iff.mp found
  exact List.set_getElem_self bound

/-- `row.resize(count, value)`. -/
def resize (row : List α) (count : Nat) (value : α) : List α :=
  row.take count ++ List.replicate (count - row.length) value

@[simp] theorem resize_length (row : List α) (count : Nat) (value : α) :
    (resize row count value).length = count := by
  simp only [resize, List.length_append, List.length_take, List.length_replicate]
  omega

theorem resize_constant {row : List α} {value : α} (constant : ∀ entry ∈ row, entry = value)
    (count : Nat) : resize row count value = List.replicate count value := by
  refine List.eq_replicate_iff.mpr ⟨resize_length row count value, fun entry member => ?_⟩
  rcases List.mem_append.mp member with old | new
  · exact constant entry (List.mem_of_mem_take old)
  · exact (List.mem_replicate.mp new).2

/-- Replace the entries of a row that a loop has updated. -/
def overlay (row : List α) (updates : List (Option α)) : List α :=
  row.mapIdx fun index old => updates[index]?.join.getD old

@[simp] theorem overlay_length (row : List α) (updates : List (Option α)) :
    (overlay row updates).length = row.length := List.length_mapIdx

theorem mem_overlay {row : List α} {updates : List (Option α)} {value : α}
    (member : value ∈ overlay row updates) : value ∈ row ∨ some value ∈ updates := by
  obtain ⟨index, bound, found⟩ := List.mem_mapIdx.mp member
  cases update : updates[index]?.join with
  | none =>
      rw [update, Option.getD_none] at found
      exact .inl (found ▸ List.getElem_mem bound)
  | some updated =>
      rw [update, Option.getD_some] at found
      exact .inr (found ▸ List.mem_of_getElem? (Option.join_eq_some_iff.mp update))

theorem overlay_getElem? (row : List α) (updates : List (Option α)) (index : Nat) :
    (overlay row updates)[index]? = row[index]?.map fun old => updates[index]?.join.getD old :=
  List.getElem?_mapIdx

/-- A change of one entry that keeps what is read of the entries. -/
theorem map_modify_same {row : List α} {index : Nat} {change : α → α} {key : α → β}
    (same : ∀ entry, key (change entry) = key entry) :
    (row.modify index change).map key = row.map key := by
  apply List.ext_getElem?
  intro other
  rw [List.getElem?_map, List.getElem?_modify, List.getElem?_map]
  split
  · cases row[other]? <;> simp [same]
  · simp

theorem forall₂_exists {relation : α → β → Prop} {left : List α} {right : List β} {value : α}
    (related : List.Forall₂ relation left right) (member : value ∈ left) :
    ∃ other ∈ right, relation value other := by
  induction related with
  | nil => simp at member
  | cons head tail ih =>
      rcases List.mem_cons.mp member with rfl | later
      · exact ⟨_, List.mem_cons_self, head⟩
      · obtain ⟨other, found, same⟩ := ih later
        exact ⟨other, List.mem_cons_of_mem _ found, same⟩

/-- Lists related to the same list are related to each other. -/
theorem forall₂_through {δ : Type} {relation : α → β → Prop} {relation' : α → δ → Prop}
    {left : List α} {right : List β} {right' : List δ} (related : List.Forall₂ relation left right)
    (related' : List.Forall₂ relation' left right') :
    List.Forall₂ (fun value value' => ∃ source ∈ left, relation source value ∧
      relation' source value') right right' := by
  induction related generalizing right' with
  | nil =>
      cases related'
      exact .nil
  | cons head tail ih =>
      obtain _ | ⟨head', tail'⟩ := related'
      refine .cons ⟨_, List.mem_cons_self, head, head'⟩ ((ih tail').imp ?_)
      rintro _ _ ⟨source, there, both⟩
      exact ⟨source, List.mem_cons_of_mem _ there, both⟩

/-- Keys that determine different others are different. -/
theorem forall₂_nodup {relation : α → β → Prop} {left : List α} {right : List β} {key : α → γ}
    (related : List.Forall₂ relation left right)
    (determines : ∀ value value' other other', relation value other → relation value' other' →
      key value = key value' → other = other')
    (distinct : right.Nodup) : (left.map key).Nodup := by
  induction related with
  | nil => exact List.nodup_nil
  | cons head tail ih =>
      obtain ⟨fresh, distinctTail⟩ := List.nodup_cons.mp distinct
      refine List.nodup_cons.mpr ⟨fun member => ?_, ih distinctTail⟩
      obtain ⟨value, there, same⟩ := List.mem_map.mp member
      obtain ⟨other, found, tailRelated⟩ := forall₂_exists tail there
      exact fresh (determines _ _ _ _ tailRelated head same ▸ found)

end Foundation
