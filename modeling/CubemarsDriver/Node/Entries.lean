import CubemarsDriver.Node.Build
import CubemarsDriver.Node.SetParameters

namespace CubemarsDriver.Node

open Foundation

/-! # The entries of the tables

Every table has a row for each interface and in it an entry for each joint. -/

variable {α β : Type} {rows changed : List (List α)} {value : α}
variable {index joint place position : Nat}

theorem jointEntry_map (key : α → β) (rows : List (List α)) (index joint : Nat) :
    jointEntry (rows.map (List.map key)) index joint = (jointEntry rows index joint).map key := by
  rw [jointEntry, List.getElem?_map, jointEntry]
  cases rows[index]? with
  | none => rfl
  | some row => simp

theorem jointEntry_set {table : List (List α)} {row old : List α}
    (found : table[index]? = some old) (other joint : Nat) :
    jointEntry (table.set index row) other joint =
      if other = index then row[joint]? else jointEntry table other joint := by
  unfold jointEntry
  split
  · rename_i same
    rw [same, set_getElem?_self row found, Option.bind_some]
  · rename_i different
    rw [List.getElem?_set_ne (Ne.symm different)]

theorem jointEntry_of_resize {count : Nat}
    (found : jointEntry (Foundation.resize rows count []) index joint = some value) :
    jointEntry rows index joint = some value := by
  obtain ⟨row, rowFound, there⟩ := Option.bind_eq_some_iff.mp found
  rw [Foundation.resize, List.getElem?_append] at rowFound
  split at rowFound
  · rw [List.getElem?_take] at rowFound
    split at rowFound
    · rw [jointEntry, rowFound, Option.bind_some, there]
    · cases rowFound
  · obtain rfl := (List.mem_replicate.mp (List.mem_of_getElem? rowFound)).2
    cases there

theorem jointEntry_pushAt (found : pushAt rows index value = some changed) :
    jointEntry changed place position =
      if place = index ∧ position = (rows[index]?.getD []).length then some value
      else jointEntry rows place position := by
  obtain ⟨row, there, rfl⟩ := pushAt_eq_some.mp found
  have bound : index < rows.length := (List.getElem?_eq_some_iff.mp there).1
  rw [there, Option.getD_some, jointEntry, jointEntry]
  by_cases same : place = index
  · subst same
    rw [List.getElem?_set_self bound, there, Option.bind_some, Option.bind_some,
      List.getElem?_append]
    split
    · rw [if_neg (by omega)]
    · rw [List.getElem?_singleton]
      grind
  · rw [List.getElem?_set_ne (Ne.symm same), if_neg (fun both => same both.1)]

/-- A change of one entry that keeps what is read of the entries. -/
theorem changeEntry_map {change : α → α} (key : α → β)
    (applied : changeEntry rows index joint change = some changed)
    (same : ∀ entry, key (change entry) = key entry) :
    changed.map (List.map key) = rows.map (List.map key) := by
  obtain ⟨_, _, rfl⟩ := Option.map_eq_some_iff.mp applied
  exact map_modify_same fun row => map_modify_same same

theorem jointEntry_changeEntry {change : α → α}
    (applied : changeEntry rows index joint change = some changed) :
    jointEntry changed place position =
      if place = index ∧ position = joint then (jointEntry rows place position).map change
      else jointEntry rows place position := by
  obtain ⟨_, _, rfl⟩ := Option.map_eq_some_iff.mp applied
  rw [jointEntry, jointEntry, List.getElem?_modify]
  by_cases row : index = place
  · subst row
    by_cases entry : joint = position
    · subst entry
      cases rows[index]? <;> simp
    · rw [if_neg (fun both => entry both.2.symm)]
      cases rows[index]? <;> simp [entry]
  · rw [if_neg (fun both => row both.1.symm)]
    cases rows[place]? <;> simp [row]

theorem resize_sizes (rows : List (List α)) (count : Nat) :
    (Foundation.resize rows count []).map List.length =
      Foundation.resize (rows.map List.length) count 0 := by
  simp [Foundation.resize, List.map_take]

theorem set_sizes {row old : List α} (found : rows[index]? = some old) (same : row.length = old.length) :
    (rows.set index row).map List.length = rows.map List.length := by
  rw [List.map_set, same]
  exact set_same_getElem? (by rw [List.getElem?_map, found, Option.map_some])

theorem pushAt_sizes (found : pushAt rows index value = some changed) :
    changed.map List.length = (rows.map List.length).modify index (· + 1) := by
  obtain ⟨row, there, rfl⟩ := pushAt_eq_some.mp found
  rw [List.map_set, List.length_append, List.length_singleton, List.modify_eq_set_getElem?]
  simp [there]

theorem changeEntry_sizes {change : α → α}
    (applied : changeEntry rows index joint change = some changed) :
    changed.map List.length = rows.map List.length := by
  have same := congrArg (List.map List.length) (changeEntry_map (fun _ => ()) applied fun _ => rfl)
  simpa [List.map_map, Function.comp_def] using same

/-- Where there is an entry in one table there is one in every table of the same sizes. -/
theorem jointEntry_isSome_of_sizes {others : List (List β)}
    (same : others.map List.length = rows.map List.length)
    (present : (jointEntry rows index joint).isSome = true) :
    (jointEntry others index joint).isSome = true := by
  have sizes := congrArg (fun lengths => lengths[index]?) same
  simp only [List.getElem?_map] at sizes
  simp only [jointEntry, Option.isSome_bind] at present ⊢
  cases row : rows[index]? with
  | none => simp [row] at present
  | some found =>
      cases other : others[index]? with
      | none => simp [row, other] at sizes
      | some otherFound =>
          simp only [row, other, Option.map_some, Option.some.injEq] at sizes
          simpa [row, sizes] using present

/-- The next entries of two tables that are in step have one position. -/
theorem length_of_sizes {others : List (List β)}
    (same : others.map List.length = rows.map List.length) (index : Nat) :
    (others[index]?.getD []).length = (rows[index]?.getD []).length := by
  have sizes := congrArg (fun lengths => lengths[index]?.getD 0) same
  simp only [List.getElem?_map] at sizes
  cases row : rows[index]? <;> cases other : others[index]? <;> simp_all

end CubemarsDriver.Node
