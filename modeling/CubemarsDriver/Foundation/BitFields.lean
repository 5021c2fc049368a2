import Mathlib.Data.List.Nodup
import Mathlib.Data.Nat.Bitwise
import Mathlib.Tactic.Ring

/-! # Concatenations of bit fields

A number read as a row of fields of different widths, the first field on top.
-/

namespace Foundation.BitFields

variable {Key : Type} (width : Key → Nat)

/-- The bits of all the fields together. -/
def total : List Key → Nat
  | [] => 0
  | key :: rest => width key + total rest

/-- The number whose binary digits are those of the fields, one after the other. -/
def concat (value : Key → Nat) : List Key → Nat
  | [] => 0
  | key :: rest => value key * 2 ^ total width rest + concat value rest

/-- The bits below the place of a field. -/
def below [DecidableEq Key] (key : Key) : List Key → Nat
  | [] => 0
  | first :: rest => if first = key then total width rest else below key rest

/-- What a number holds in the place of a field. -/
def cut [DecidableEq Key] (order : List Key) (number : Nat) (key : Key) : Nat :=
  number / 2 ^ below width key order % 2 ^ width key

/-- The place of a field covers a bit. -/
def Covers [DecidableEq Key] (order : List Key) (key : Key) (bit : Nat) : Prop :=
  below width key order ≤ bit ∧ bit < below width key order + width key

variable {width} {order rest : List Key} {key first : Key} {value other : Key → Nat}

theorem concat_congr (same : ∀ key ∈ order, value key = other key) :
    concat width value order = concat width other order := by
  induction order with
  | nil => rfl
  | cons first rest ih =>
      rw [concat, concat, same first List.mem_cons_self,
        ih fun key member => same key (List.mem_cons_of_mem _ member)]

theorem concat_lt (fits : ∀ key ∈ order, value key < 2 ^ width key) :
    concat width value order < 2 ^ total width order := by
  induction order with
  | nil => simp [concat, total]
  | cons first rest ih =>
      have top : value first + 1 ≤ 2 ^ width first := fits first List.mem_cons_self
      have remaining := ih fun key member => fits key (List.mem_cons_of_mem _ member)
      calc concat width value (first :: rest)
          < value first * 2 ^ total width rest + 2 ^ total width rest :=
            Nat.add_lt_add_left remaining _
        _ = (value first + 1) * 2 ^ total width rest := by ring
        _ ≤ 2 ^ width first * 2 ^ total width rest := Nat.mul_le_mul_right _ top
        _ = 2 ^ total width (first :: rest) := (pow_add 2 _ _).symm

variable [DecidableEq Key]

@[simp] theorem below_self : below width first (first :: rest) = total width rest := if_pos rfl

theorem below_cons (other : first ≠ key) :
    below width key (first :: rest) = below width key rest := if_neg other

theorem below_add_width_le (member : key ∈ order) :
    below width key order + width key ≤ total width order := by
  induction order with
  | nil => cases member
  | cons first rest ih =>
      by_cases same : first = key
      · subst same
        simp [total, Nat.add_comm]
      · have inside := ih ((List.mem_cons.mp member).resolve_left (Ne.symm same))
        rw [below_cons same, total]
        omega

/-- Cutting a field ignores what lies above all the fields. -/
theorem cut_mod (member : key ∈ order) (number : Nat) :
    cut width order (number % 2 ^ total width order) key = cut width order number key := by
  have within : below width key order + width key ≤ total width order := below_add_width_le member
  obtain ⟨spare, room⟩ := Nat.exists_eq_add_of_le within
  rw [cut, cut, room, pow_add, pow_add, mul_assoc, Nat.mod_mul_right_div_self,
    Nat.mod_mul_right_mod]

/-- Every field is found in its place. -/
theorem cut_concat (nodup : order.Nodup) (fits : ∀ key ∈ order, value key < 2 ^ width key)
    (member : key ∈ order) : cut width order (concat width value order) key = value key := by
  induction order with
  | nil => cases member
  | cons first rest ih =>
      have fitsRest := fun key member => fits key (List.mem_cons_of_mem first member)
      have remaining := concat_lt fitsRest
      by_cases same : first = key
      · subst same
        rw [cut, below_self, concat, Nat.mul_comm, Nat.mul_add_div (Nat.two_pow_pos _),
          Nat.div_eq_of_lt remaining, Nat.add_zero, Nat.mod_eq_of_lt (fits first member)]
      · have later : key ∈ rest := (List.mem_cons.mp member).resolve_left (Ne.symm same)
        have lower : concat width value (first :: rest) % 2 ^ total width rest =
            concat width value rest := by
          rw [concat, Nat.mul_comm, Nat.mul_add_mod, Nat.mod_eq_of_lt remaining]
        rw [← ih nodup.of_cons fitsRest later, ← lower, cut_mod later, cut, cut, below_cons same]

/-- A number that has no bits above the fields is the concatenation of its fields. -/
theorem concat_cut (nodup : order.Nodup) {number : Nat} (small : number < 2 ^ total width order) :
    concat width (cut width order number) order = number := by
  induction order generalizing number with
  | nil =>
      have zero : number = 0 := by simpa [total] using small
      rw [zero, concat]
  | cons first rest ih =>
      have lower := Nat.mod_lt number (Nat.two_pow_pos (total width rest))
      have upper : number / 2 ^ total width rest < 2 ^ width first := by
        rw [Nat.div_lt_iff_lt_mul (Nat.two_pow_pos _), ← pow_add]
        exact small
      have later : ∀ key ∈ rest, cut width (first :: rest) number key =
          cut width rest (number % 2 ^ total width rest) key := by
        intro key member
        have other : first ≠ key := fun same => nodup.notMem (same ▸ member)
        rw [cut_mod member, cut, cut, below_cons other]
      rw [concat, concat_congr later, ih nodup.of_cons lower, cut, below_self,
        Nat.mod_eq_of_lt upper, Nat.div_add_mod']

theorem cut_lt (number : Nat) : cut width order number key < 2 ^ width key :=
  Nat.mod_lt _ (Nat.two_pow_pos _)

/-- Every bit belongs to a field. -/
theorem covered {bit : Nat} (bound : bit < total width order) (nodup : order.Nodup) :
    ∃ key ∈ order, Covers width order key bit := by
  induction order with
  | nil => cases bound
  | cons first rest ih =>
      by_cases lower : bit < total width rest
      · obtain ⟨key, member, inside⟩ := ih lower nodup.of_cons
        have other : first ≠ key := fun same => nodup.notMem (same ▸ member)
        refine ⟨key, List.mem_cons_of_mem _ member, ?_⟩
        rw [Covers, below_cons other]
        exact inside
      · refine ⟨first, List.mem_cons_self, ?_⟩
        rw [total] at bound
        rw [Covers, below_self]
        omega

/-- A bit of the concatenation is a bit of the field whose place covers it. -/
theorem testBit_concat (nodup : order.Nodup) (fits : ∀ key ∈ order, value key < 2 ^ width key)
    (member : key ∈ order) {bit : Nat} (covers : Covers width order key bit) :
    (concat width value order).testBit bit =
      (value key).testBit (bit - below width key order) := by
  obtain ⟨above, under⟩ := covers
  have inside : bit - below width key order < width key := by omega
  rw [← cut_concat nodup fits member, cut, Nat.testBit_mod_two_pow, Nat.testBit_div_two_pow,
    Nat.sub_add_cancel above, decide_eq_true inside, Bool.true_and]

/-- Changing one field changes no bit outside its place. -/
theorem testBit_concat_other (nodup : order.Nodup)
    (fits : ∀ key ∈ order, value key < 2 ^ width key)
    (fitsOther : ∀ key ∈ order, other key < 2 ^ width key)
    (same : ∀ otherKey, otherKey ≠ key → value otherKey = other otherKey) {bit : Nat}
    (outside : ¬ Covers width order key bit) :
    (concat width value order).testBit bit = (concat width other order).testBit bit := by
  by_cases bound : bit < total width order
  · obtain ⟨found, member, covers⟩ := covered bound nodup
    have different : found ≠ key := fun equal => outside (equal ▸ covers)
    rw [testBit_concat nodup fits member covers, testBit_concat nodup fitsOther member covers,
      same found different]
  · have high : 2 ^ total width order ≤ 2 ^ bit := Nat.pow_le_pow_right two_pos (by omega)
    rw [Nat.testBit_lt_two_pow ((concat_lt fits).trans_le high),
      Nat.testBit_lt_two_pow ((concat_lt fitsOther).trans_le high)]

end Foundation.BitFields
