import Mathlib.Algebra.BigOperators.Ring.List
import Mathlib.Algebra.Order.BigOperators.Group.List
import Mathlib.Algebra.Order.Field.Basic
import Mathlib.Data.List.ProdSigma
import Mathlib.Tactic.Positivity
import Mathlib.Tactic.Ring

/-!
Amounts divided in proportion to positive shares, in one direction and between the rows and
columns of a rectangle.
-/

namespace Datasynth.Lib.ProportionalShares

universe u v w

variable {K : Type u} [Field K]

section Rectangles

/-- What a row carries to a column, by the row's share of itself and the column's share. -/
def rowShare (rows columns row column : K) : K := row * (row / rows * (column / columns))

variable (rows columns : K)

theorem sum_rowShare_of_row {l : List K} (hsum : l.sum ≠ 0) (row : K) :
    (l.map (rowShare rows l.sum row)).sum = row * (row / rows) := by
  have hshare : ∀ column, rowShare rows l.sum row column = row * (row / rows) / l.sum * column := by
    intro column
    rw [rowShare]
    ring
  rw [List.map_congr_left fun column _ => hshare column, List.sum_map_mul_left, List.map_id',
    div_mul_cancel₀ _ hsum]

theorem sum_rowShare_of_column (l : List K) (column : K) :
    (l.map fun row => rowShare rows columns row column).sum =
      (l.map fun row => row * (row / rows)).sum * (column / columns) := by
  rw [← List.sum_map_mul_right]
  congr 1
  apply List.map_congr_left
  intro row _
  rw [rowShare, mul_assoc]

section Cells

variable {α : Type v} {β : Type w}

theorem filter_product_left (P : α → Bool) (l : List α) (l' : List β) :
    (l ×ˢ l').filter (fun p => P p.1) = l.filter P ×ˢ l' := by
  induction l with
  | nil => rfl
  | cons a l ih =>
      rw [List.product_cons, List.filter_append, ih, List.filter_cons]
      split
      · rename_i ha
        rw [List.product_cons, List.filter_eq_self.mpr]
        intro p hp
        obtain ⟨b, -, rfl⟩ := List.mem_map.mp hp
        exact ha
      · rename_i ha
        rw [List.filter_eq_nil_iff.mpr, List.nil_append]
        intro p hp
        obtain ⟨b, -, rfl⟩ := List.mem_map.mp hp
        exact ha

theorem filter_product_right (P : β → Bool) (l : List α) (l' : List β) :
    (l ×ˢ l').filter (fun p => P p.2) = l ×ˢ l'.filter P := by
  induction l with
  | nil => rfl
  | cons a l ih =>
      rw [List.product_cons, List.product_cons, List.filter_append, ih, List.filter_map]
      rfl

theorem product_singleton (l : List α) (b : β) : l ×ˢ [b] = l.map (·, b) := by
  induction l with
  | nil => rfl
  | cons a l ih =>
      rw [List.product_cons, ih]
      rfl

theorem sum_map_product {M : Type*} [AddMonoid M] (f : α × β → M) (l : List α) (l' : List β) :
    ((l ×ˢ l').map f).sum = (l.map fun a => (l'.map fun b => f (a, b)).sum).sum := by
  induction l with
  | nil => rfl
  | cons a l ih =>
      rw [List.product_cons, List.map_append, List.sum_append, ih, List.map_cons, List.sum_cons,
        List.map_map]
      rfl

/-- With distinct keys only one element has a given key. -/
theorem filter_key_eq {κ : Type*} [DecidableEq κ] (key : α → κ) {l : List α}
    (hnodup : (l.map key).Nodup) {a : α} (ha : a ∈ l) : l.filter (key · = key a) = [a] := by
  induction l with
  | nil => cases ha
  | cons b l ih =>
      rw [List.map_cons, List.nodup_cons] at hnodup
      rcases List.mem_cons.mp ha with rfl | ha
      · rw [List.filter_cons_of_pos (by simp), List.filter_eq_nil_iff.mpr]
        intro c hc
        have hne : key c ≠ key a := fun heq => hnodup.1 (heq ▸ List.mem_map_of_mem hc)
        simpa using hne
      · have hne : key b ≠ key a := fun heq => hnodup.1 (heq ▸ List.mem_map_of_mem ha)
        rw [List.filter_cons_of_neg (by simpa using hne), ih hnodup.2 ha]

end Cells

end Rectangles

variable [LinearOrder K]

theorem share_of_length_le_one {amounts : List K} (hpos : ∀ x ∈ amounts, 0 < x)
    (hone : amounts.length ≤ 1) : ∀ x ∈ amounts, x * (x / amounts.sum) = x := by
  intro x hx
  obtain ⟨y, rfl⟩ : ∃ y, amounts = [y] := List.length_eq_one_iff.mp
    (le_antisymm hone (List.length_pos_of_mem hx))
  obtain rfl := List.mem_singleton.mp hx
  rw [List.sum_singleton, div_self (hpos x hx).ne', mul_one]

theorem sum_filter_pos {α : Type v} (amount : α → K) {l : List α} (h : ∀ a ∈ l, 0 ≤ amount a) :
    ((l.filter fun a => 0 < amount a).map amount).sum = (l.map amount).sum := by
  induction l with
  | nil => rfl
  | cons a l ih =>
      rw [List.forall_mem_cons] at h
      rw [List.map_cons, List.sum_cons, ← ih h.2, List.filter_cons]
      by_cases ha : 0 < amount a
      · simp [ha]
      · have hzero : amount a = 0 := le_antisymm (not_lt.mp ha) h.1
        simp [hzero]

variable [IsStrictOrderedRing K]

section Shares

variable {amounts : List K}

/-- Each of two or more positive amounts is less than all of them. -/
theorem lt_sum_of_two (hpos : ∀ x ∈ amounts, 0 < x) (htwo : 2 ≤ amounts.length) :
    ∀ x ∈ amounts, x < amounts.sum := by
  intro x hx
  have hperm := List.perm_cons_erase hx
  have hlength := hperm.length_eq
  rw [List.length_cons] at hlength
  have hrest : 0 < (amounts.erase x).sum :=
    List.sum_pos _ (fun y hy => hpos y (List.mem_of_mem_erase hy))
      (List.ne_nil_of_length_pos (by omega))
  rw [hperm.sum_eq, List.sum_cons]
  exact lt_add_of_pos_right x hrest

theorem share_lt_of_two (hpos : ∀ x ∈ amounts, 0 < x) (htwo : 2 ≤ amounts.length) :
    ∀ x ∈ amounts, x * (x / amounts.sum) < x := by
  intro x hx
  have hlt := lt_sum_of_two hpos htwo x hx
  have hshare : x / amounts.sum < 1 := (div_lt_one ((hpos x hx).trans hlt)).mpr hlt
  exact mul_lt_of_lt_one_right (hpos x hx) hshare

end Shares

section Positive

variable {α : Type v} (amount : α → K) {l : List α}

theorem sum_le_sum_filter_pos (l : List α) :
    (l.map amount).sum ≤ ((l.filter fun a => 0 < amount a).map amount).sum := by
  induction l with
  | nil => exact le_rfl
  | cons a l ih =>
      rw [List.map_cons, List.sum_cons, List.filter_cons]
      split
      · rw [List.map_cons, List.sum_cons]
        exact add_le_add_right ih _
      · rename_i ha
        have hneg : amount a ≤ 0 := by simpa using ha
        exact (add_le_of_nonpos_left hneg).trans ih

/-- The positive amounts are all of the sum only if none is negative. -/
theorem sum_filter_pos_eq_iff :
    ((l.filter fun a => 0 < amount a).map amount).sum = (l.map amount).sum ↔
      ∀ a ∈ l, 0 ≤ amount a := by
  constructor
  · intro h
    induction l with
    | nil => simp
    | cons a l ih =>
        rw [List.map_cons, List.sum_cons, List.filter_cons] at h
        have hle := sum_le_sum_filter_pos amount l
        rw [List.forall_mem_cons]
        split at h
        · rename_i ha
          rw [List.map_cons, List.sum_cons, add_right_inj] at h
          exact ⟨(of_decide_eq_true ha).le, ih h⟩
        · rename_i ha
          have hneg : amount a ≤ 0 := by simpa using ha
          rw [h] at hle
          have hzero : amount a = 0 := le_antisymm hneg (nonneg_of_le_add_left hle)
          rw [hzero, zero_add] at h
          exact ⟨hzero.ge, ih h⟩
  · exact sum_filter_pos amount

end Positive

end Datasynth.Lib.ProportionalShares
