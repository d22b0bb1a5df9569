import Mathlib.Algebra.Order.BigOperators.Group.List
import Mathlib.Algebra.Order.Ring.Defs
import Mathlib.Tactic.Linarith
import Mathlib.Tactic.Ring

/-!
Streams of units that come in batches of one price each, and what the first units of a stream
cost.
-/

namespace Datasynth.Lib.PricedStreams

variable {K : Type*} [CommRing K] [LinearOrder K] [IsStrictOrderedRing K]

/-- The quantities of the batches with their prices, the oldest first. -/
abbrev Batches (K : Type*) := List (K × K)

def units (batches : Batches K) : K := (batches.map Prod.fst).sum

def value (batches : Batches K) : K := (batches.map fun batch => batch.1 * batch.2).sum

/-- What the first units of a stream cost; all of them, if there are no more. -/
def costOfFirst : Batches K → K → K
  | [], _ => 0
  | (quantity, price) :: batches, count =>
      min count quantity * price + costOfFirst batches (count - min count quantity)

/-- No batch takes units away. -/
def Stocked (batches : Batches K) : Prop := ∀ batch ∈ batches, 0 ≤ batch.1

variable {batches rest : Batches K} {quantity price count issued : K}

omit [LinearOrder K] [IsStrictOrderedRing K] in
theorem units_append (batches rest : Batches K) :
    units (batches ++ rest) = units batches + units rest := by
  simp [units]

omit [LinearOrder K] [IsStrictOrderedRing K] in
theorem value_append (batches rest : Batches K) :
    value (batches ++ rest) = value batches + value rest := by
  simp [value]

omit [IsStrictOrderedRing K] in
theorem stocked_cons : Stocked ((quantity, price) :: rest) ↔ 0 ≤ quantity ∧ Stocked rest :=
  List.forall_mem_cons

omit [IsStrictOrderedRing K] in
theorem Stocked.append (h : Stocked batches) (hrest : Stocked rest) : Stocked (batches ++ rest) :=
  List.forall_mem_append.mpr ⟨h, hrest⟩

theorem Stocked.units_nonneg (h : Stocked batches) : 0 ≤ units batches := by
  apply List.sum_nonneg
  intro q hq
  obtain ⟨batch, hbatch, rfl⟩ := List.mem_map.mp hq
  exact h batch hbatch

omit [IsStrictOrderedRing K] in
theorem costOfFirst_zero (h : Stocked batches) : costOfFirst batches 0 = 0 := by
  induction batches with
  | nil => rfl
  | cons batch batches ih =>
      obtain ⟨quantity, price⟩ := batch
      obtain ⟨hquantity, hbatches⟩ := stocked_cons.mp h
      rw [costOfFirst, min_eq_left hquantity, sub_zero, ih hbatches, zero_mul, add_zero]

/-- All units together cost the value of the stream. -/
theorem costOfFirst_units (h : Stocked batches) :
    costOfFirst batches (units batches) = value batches := by
  induction batches with
  | nil => rfl
  | cons batch batches ih =>
      obtain ⟨quantity, price⟩ := batch
      obtain ⟨hquantity, hbatches⟩ := stocked_cons.mp h
      have hunits : units ((quantity, price) :: batches) = quantity + units batches := by
        simp [units]
      have hvalue : value ((quantity, price) :: batches) = quantity * price + value batches := by
        simp [value]
      rw [costOfFirst, hunits, hvalue, min_eq_right (le_add_of_nonneg_right hbatches.units_nonneg),
        add_sub_cancel_left, ih hbatches]

/-- Later batches are reached when the earlier ones are used up. -/
theorem costOfFirst_append (h : Stocked batches) (hcount : 0 ≤ count) :
    costOfFirst (batches ++ rest) count =
      costOfFirst batches count + costOfFirst rest (count - min count (units batches)) := by
  induction batches generalizing count with
  | nil =>
      have hunits : units ([] : Batches K) = 0 := rfl
      rw [List.nil_append, costOfFirst, zero_add, hunits, min_eq_right hcount, sub_zero]
  | cons batch batches ih =>
      obtain ⟨quantity, price⟩ := batch
      obtain ⟨hquantity, hbatches⟩ := stocked_cons.mp h
      have hunits : units ((quantity, price) :: batches) = quantity + units batches := by
        simp [units]
      have hleft : 0 ≤ count - min count quantity := sub_nonneg.mpr (min_le_left _ _)
      rw [List.cons_append, costOfFirst, costOfFirst, ih hbatches hleft, hunits, ← add_assoc]
      congr 2
      rcases le_total count quantity with hle | hle
      · have hall : count ≤ quantity + units batches :=
          hle.trans (le_add_of_nonneg_right hbatches.units_nonneg)
        rw [min_eq_left hle, min_eq_left hall, sub_self,
          min_eq_left hbatches.units_nonneg, sub_zero]
      · rw [min_eq_right hle, sub_sub, ← min_add_add_left, add_sub_cancel]

theorem min_add_eq_add_min_sub (a b c : K) : min (a + b) c = a + min b (c - a) := by
  rw [← min_add_add_left, add_sub_cancel]

/-- What is left of a stream after its first units have been taken from it. -/
structure LeftAfter (batches : Batches K) (issued : K) (left : Batches K) : Prop where
  stocked : Stocked left
  units_eq : units left = units batches - issued
  cost_eq : ∀ count, 0 ≤ count →
    costOfFirst left count = costOfFirst batches (issued + count) - costOfFirst batches issued

omit [IsStrictOrderedRing K] in
theorem leftAfter_zero (h : Stocked batches) : LeftAfter batches 0 batches := by
  refine ⟨h, (sub_zero _).symm, fun count _ => ?_⟩
  rw [zero_add, costOfFirst_zero h, sub_zero]

theorem LeftAfter.trans {left after : Batches K} (h : LeftAfter batches issued left)
    (hcount : 0 ≤ count) (hafter : LeftAfter left count after) :
    LeftAfter batches (issued + count) after := by
  refine ⟨hafter.stocked, ?_, fun more hmore => ?_⟩
  · rw [hafter.units_eq, h.units_eq, sub_sub]
  · rw [hafter.cost_eq more hmore, h.cost_eq _ (add_nonneg hcount hmore), h.cost_eq _ hcount,
      ← add_assoc]
    exact sub_sub_sub_cancel_right _ _ _

theorem LeftAfter.issued_le {left : Batches K} (h : LeftAfter batches issued left) :
    issued ≤ units batches := by
  have hleft := h.stocked.units_nonneg
  rw [h.units_eq] at hleft
  exact sub_nonneg.mp hleft

/-- What arrives later does not change what the units before it cost. -/
theorem LeftAfter.costOfFirst_append {left : Batches K} (hbatches : Stocked batches)
    (hissued : 0 ≤ issued) (h : LeftAfter batches issued left) (hrest : Stocked rest) :
    costOfFirst (batches ++ rest) issued = costOfFirst batches issued := by
  rw [PricedStreams.costOfFirst_append hbatches hissued, min_eq_left h.issued_le, sub_self,
    costOfFirst_zero hrest, add_zero]

/-- What arrives later comes behind what is left. -/
theorem LeftAfter.append {left : Batches K} (hbatches : Stocked batches) (hissued : 0 ≤ issued)
    (h : LeftAfter batches issued left) (hrest : Stocked rest) :
    LeftAfter (batches ++ rest) issued (left ++ rest) := by
  refine ⟨h.stocked.append hrest, ?_, fun count hcount => ?_⟩
  · rw [units_append, units_append, h.units_eq, sub_add_eq_add_sub]
  · have hreached : issued + count - min (issued + count) (units batches) =
        count - min count (units left) := by
      rw [min_add_eq_add_min_sub, ← h.units_eq, add_sub_add_left_eq_sub]
    rw [PricedStreams.costOfFirst_append h.stocked hcount,
      PricedStreams.costOfFirst_append hbatches (add_nonneg hissued hcount),
      h.costOfFirst_append hbatches hissued hrest, h.cost_eq count hcount, hreached]
    ring

/-- The remaining units are worth the value of the stream less the cost of those taken. -/
theorem LeftAfter.value_eq {left : Batches K} (hbatches : Stocked batches)
    (h : LeftAfter batches issued left) :
    value left = value batches - costOfFirst batches issued := by
  rw [← costOfFirst_units h.stocked, h.cost_eq _ h.stocked.units_nonneg, h.units_eq,
    add_sub_cancel, costOfFirst_units hbatches]

/-- Taking a whole batch, and going on with the next ones. -/
theorem LeftAfter.whole {left : Batches K} (hle : quantity ≤ count)
    (h : LeftAfter rest (count - quantity) left) :
    LeftAfter ((quantity, price) :: rest) count left := by
  refine ⟨h.stocked, ?_, fun more hmore => ?_⟩
  · rw [h.units_eq, units, units, List.map_cons, List.sum_cons]
    ring
  · have hmore_le : quantity ≤ count + more := hle.trans (le_add_of_nonneg_right hmore)
    rw [h.cost_eq more hmore, costOfFirst, costOfFirst, min_eq_right hle, min_eq_right hmore_le,
      sub_add_eq_add_sub]
    ring

/-- Taking a part of the first batch. -/
theorem leftAfter_part (hrest : Stocked rest) (hle : count ≤ quantity) :
    LeftAfter ((quantity, price) :: rest) count ((quantity - count, price) :: rest) := by
  refine ⟨stocked_cons.mpr ⟨sub_nonneg.mpr hle, hrest⟩, ?_, fun more _ => ?_⟩
  · rw [units, units, List.map_cons, List.sum_cons, List.map_cons, List.sum_cons]
    ring
  · rw [costOfFirst, costOfFirst, costOfFirst, min_eq_left hle, sub_self, costOfFirst_zero hrest,
      min_add_eq_add_min_sub, add_sub_add_left_eq_sub]
    ring

end Datasynth.Lib.PricedStreams
