import Mathlib.Algebra.BigOperators.Group.Finset.Basic
import Mathlib.Algebra.Order.BigOperators.Group.Finset
import Mathlib.Algebra.Order.Ring.Defs
import Mathlib.Tactic.Linarith
import Mathlib.Tactic.Ring

/-!
Charges that depend on the value that earlier charges have left, and flat forecasts of them, which
repeat the first charge for as long as any value is left.
-/

namespace Datasynth.Lib.FlatForecasts

variable {K : Type*} [CommRing K] [LinearOrder K] [IsStrictOrderedRing K]

section Charges

variable (charge : K → K) (value held : K)

/-- What has been charged before a period: in each of them the charge of the value left, as long
as anything is held. -/
def taken : ℕ → K
  | 0 => 0
  | period + 1 =>
      taken period + if 0 < held - taken period then charge (value - taken period) else 0

/-- The charge of a period. -/
def charged (period : ℕ) : K :=
  if 0 < held - taken charge value held period then charge (value - taken charge value held period)
  else 0

omit [IsStrictOrderedRing K] in
theorem taken_succ (period : ℕ) :
    taken charge value held (period + 1) =
      taken charge value held period + charged charge value held period := rfl

omit [IsStrictOrderedRing K] in
theorem taken_eq_sum (periods : ℕ) :
    taken charge value held periods =
      ∑ period ∈ Finset.range periods, charged charge value held period := by
  induction periods with
  | zero => rfl
  | succ periods ih => rw [taken_succ, Finset.sum_range_succ, ih]

end Charges

/-- The same charge in every period in which more than the floor is left. -/
def flatCharge (value floor monthly : K) (period : ℕ) : K :=
  if floor < max (value - monthly * period) 0 then monthly else 0

/-- The flat forecast agrees with the charges, and does not exceed what is above the floor. -/
structure Agrees (charge : K → K) (value held floor monthly : K) (periods : ℕ) : Prop where
  charges : ∀ period < periods,
    flatCharge value floor monthly period = charged charge value held period
  total : ∑ period ∈ Finset.range periods, flatCharge value floor monthly period ≤
    max (value - floor) 0

/-- In every period, the charge stays the same while there is enough left for it, and where
nothing is left the floor is not below zero. -/
def Steady (charge : K → K) (value held floor monthly : K) (periods : ℕ) : Prop :=
  ∀ period < periods,
    (floor < value - monthly * period →
      0 < held - monthly * period ∧ monthly ≤ value - monthly * period - floor ∧
        charge (value - monthly * period) = monthly) ∧
    (value - monthly * period ≤ floor → 0 ≤ floor)

variable {charge : K → K} {value held floor monthly : K} {period period' periods : ℕ}

/-- What is above the floor at some time was so at any time before. -/
theorem lt_of_le_of_lt_sub (hstart : floor < value) (hle : period' ≤ period)
    (hleft : floor < value - monthly * period) : floor < value - monthly * period' := by
  rcases le_total 0 monthly with hmonthly | hmonthly
  · have hmul : monthly * period' ≤ monthly * period := by gcongr
    linarith
  · have hmul : monthly * period' ≤ 0 := mul_nonpos_of_nonpos_of_nonneg hmonthly (Nat.cast_nonneg _)
    linarith

omit [IsStrictOrderedRing K] in
theorem flatCharge_of_left (hleft : floor < value - monthly * period) :
    flatCharge value floor monthly period = monthly :=
  if_pos (lt_max_of_lt_left hleft)

omit [IsStrictOrderedRing K] in
theorem flatCharge_of_spent (hfloor : 0 ≤ floor) (hspent : value - monthly * period ≤ floor) :
    flatCharge value floor monthly period = 0 :=
  if_neg (not_lt.mpr (max_le hspent hfloor))

omit [IsStrictOrderedRing K] in
theorem charged_of_spent (hspent : ∀ w, w ≤ floor → charge w = 0)
    (hle : value - taken charge value held period ≤ floor) :
    charged charge value held period = 0 := by
  rw [charged, hspent _ hle, ite_self]

/-- Where the charges have kept to the forecast: as many as periods while anything is left, and
then all that was above the floor. -/
structure OnTrack (charge : K → K) (value held floor monthly : K) (period : ℕ) : Prop where
  left : floor < value - monthly * period →
    taken charge value held period = monthly * period
  spent : value - monthly * period ≤ floor → value - taken charge value held period ≤ floor
  above : floor ≤ value - taken charge value held period

omit [IsStrictOrderedRing K] in
theorem OnTrack.charged_eq (h : OnTrack charge value held floor monthly period)
    (hsteady : Steady charge value held floor monthly periods) (hperiod : period < periods)
    (hleft : floor < value - monthly * period) :
    charged charge value held period = monthly := by
  obtain ⟨hheld, -, hcharge⟩ := (hsteady period hperiod).1 hleft
  rw [charged, h.left hleft, if_pos hheld, hcharge]

theorem OnTrack.succ (h : OnTrack charge value held floor monthly period) (hstart : floor < value)
    (hspent : ∀ w, w ≤ floor → charge w = 0)
    (hsteady : Steady charge value held floor monthly periods) (hperiod : period < periods) :
    OnTrack charge value held floor monthly (period + 1) := by
  rcases lt_or_ge floor (value - monthly * period) with hleft | hover
  · have htaken : taken charge value held (period + 1) = monthly * (period + 1 : ℕ) := by
      rw [taken_succ, h.charged_eq hsteady hperiod hleft, h.left hleft, Nat.cast_succ, mul_add,
        mul_one]
    have henough := ((hsteady period hperiod).1 hleft).2.1
    refine ⟨fun _ => htaken, fun hle => ?_, ?_⟩
    · rw [htaken]
      exact hle
    · rw [taken_succ, h.charged_eq hsteady hperiod hleft, h.left hleft]
      linarith
  · have htaken : taken charge value held (period + 1) = taken charge value held period := by
      rw [taken_succ, charged_of_spent hspent (h.spent hover), add_zero]
    refine ⟨fun hleft => ?_, fun _ => ?_, ?_⟩
    · exact absurd (lt_of_le_of_lt_sub hstart (Nat.le_succ period) hleft) (not_lt.mpr hover)
    · rw [htaken]
      exact h.spent hover
    · rw [htaken]
      exact h.above

theorem Steady.onTrack (h : Steady charge value held floor monthly periods)
    (hstart : floor < value) (hspent : ∀ w, w ≤ floor → charge w = 0) :
    ∀ period ≤ periods, OnTrack charge value held floor monthly period := by
  intro period
  induction period with
  | zero =>
      intro _
      have htaken : taken charge value held 0 = 0 := rfl
      refine ⟨fun _ => ?_, fun hle => ?_, ?_⟩
      · rw [htaken, Nat.cast_zero, mul_zero]
      · rw [Nat.cast_zero, mul_zero] at hle
        rw [htaken]
        exact hle
      · rw [htaken, sub_zero]
        exact hstart.le
  | succ period ih =>
      intro hperiod
      exact (ih (Nat.le_of_succ_le hperiod)).succ hstart hspent h hperiod

theorem Steady.agrees (h : Steady charge value held floor monthly periods)
    (hstart : floor < value) (hspent : ∀ w, w ≤ floor → charge w = 0) :
    Agrees charge value held floor monthly periods := by
  have hcharges : ∀ period < periods,
      flatCharge value floor monthly period = charged charge value held period := by
    intro period hperiod
    have htrack := h.onTrack hstart hspent period hperiod.le
    rcases lt_or_ge floor (value - monthly * period) with hleft | hover
    · rw [flatCharge_of_left hleft, htrack.charged_eq h hperiod hleft]
    · rw [flatCharge_of_spent ((h period hperiod).2 hover) hover,
        charged_of_spent hspent (htrack.spent hover)]
  refine ⟨hcharges, ?_⟩
  have htrack := h.onTrack hstart hspent periods (le_refl periods)
  rw [Finset.sum_congr rfl fun period hperiod => hcharges period (Finset.mem_range.mp hperiod),
    ← taken_eq_sum]
  exact le_max_of_le_left (le_sub_comm.mp htrack.above)

omit [IsStrictOrderedRing K] in
/-- While more than the floor is left, all earlier flat charges were made. -/
theorem Agrees.taken_eq (h : Agrees charge value held floor monthly periods)
    (hperiod : period ≤ periods)
    (hleft : ∀ period' < period, floor < value - monthly * period') :
    taken charge value held period = monthly * period := by
  induction period with
  | zero => rw [Nat.cast_zero, mul_zero]; rfl
  | succ period ih =>
      have hbefore := ih (Nat.le_of_succ_le hperiod)
        fun period' hlt => hleft period' (hlt.trans (Nat.lt_succ_self period))
      rw [taken_succ, ← h.charges period hperiod,
        flatCharge_of_left (hleft period (Nat.lt_succ_self period)), hbefore, Nat.cast_succ,
        mul_add, mul_one]

omit [IsStrictOrderedRing K] in
theorem flatCharge_nonneg (hmonthly : 0 ≤ monthly) (period : ℕ) :
    0 ≤ flatCharge value floor monthly period := by
  rw [flatCharge]
  split
  · exact hmonthly
  · exact le_rfl

/-- There is enough for the flat charges made up to some period. -/
theorem Agrees.enough (h : Agrees charge value held floor monthly periods)
    (hstart : floor < value) (hmonthly : 0 ≤ monthly) (hperiod : period < periods)
    (hmade : ∀ period' < period + 1, flatCharge value floor monthly period' = monthly) :
    monthly * period + monthly ≤ value - floor := by
  calc
    monthly * period + monthly = monthly * (period + 1 : ℕ) := by
      rw [Nat.cast_succ, mul_add, mul_one]
    _ = ∑ period' ∈ Finset.range (period + 1), flatCharge value floor monthly period' := by
      rw [Finset.sum_congr rfl fun period' hmem => hmade period' (Finset.mem_range.mp hmem),
        Finset.sum_const, Finset.card_range, nsmul_eq_mul, mul_comm]
    _ ≤ ∑ period' ∈ Finset.range periods, flatCharge value floor monthly period' := by
      apply Finset.sum_le_sum_of_subset_of_nonneg
      · exact Finset.range_subset_range.mpr hperiod
      · exact fun period' _ _ => flatCharge_nonneg hmonthly period'
    _ ≤ max (value - floor) 0 := h.total
    _ = value - floor := max_eq_left (sub_nonneg.mpr hstart.le)

theorem Agrees.steady (h : Agrees charge value held floor monthly periods)
    (hstart : floor < value) (hmonthly : monthly ≠ 0) :
    Steady charge value held floor monthly periods := by
  intro period hperiod
  constructor
  · intro hleft
    have hbefore : ∀ period' ≤ period, floor < value - monthly * period' :=
      fun period' hle => lt_of_le_of_lt_sub hstart hle hleft
    have hcharged := h.charges period hperiod
    rw [flatCharge_of_left hleft, charged,
      h.taken_eq hperiod.le fun period' hlt => hbefore period' hlt.le] at hcharged
    split at hcharged
    · rename_i hheld
      refine ⟨hheld, ?_, hcharged.symm⟩
      rcases le_total 0 monthly with hcharge | hcharge
      · have henough := h.enough hstart hcharge hperiod
          fun period' hlt => flatCharge_of_left (hbefore period' (Nat.le_of_lt_succ hlt))
        linarith
      · linarith
    · exact absurd hcharged hmonthly
  · intro hover
    by_contra hfloor
    rw [not_le] at hfloor
    -- Below zero the forecast never ends.
    have hmade : ∀ period', flatCharge value floor monthly period' = monthly :=
      fun period' => if_pos (lt_max_of_lt_right hfloor)
    have hpositive : 0 < monthly := by
      by_contra hle
      have hmul : monthly * period ≤ 0 :=
        mul_nonpos_of_nonpos_of_nonneg (not_lt.mp hle) (Nat.cast_nonneg _)
      linarith
    have henough := h.enough hstart hpositive.le hperiod fun period' _ => hmade period'
    linarith

omit [IsStrictOrderedRing K] in
/-- A forecast of no charge agrees with charges that begin with none. -/
theorem agrees_zero (hcharge : charge value = 0) (periods : ℕ) :
    Agrees charge value held floor 0 periods := by
  have htaken : ∀ period, taken charge value held period = 0 := by
    intro period
    induction period with
    | zero => rfl
    | succ period ih => rw [taken, ih, sub_zero, sub_zero, hcharge, ite_self, add_zero]
  have hflat : ∀ period, flatCharge value floor 0 period = 0 := fun period => ite_self 0
  refine ⟨fun period _ => ?_, ?_⟩
  · rw [hflat, charged, htaken, sub_zero, sub_zero, hcharge, ite_self]
  · rw [Finset.sum_eq_zero fun period _ => hflat period]
    exact le_max_right _ _

/-- A forecast agrees with the charges exactly if it is of no charge or they are steady. -/
theorem agrees_iff (hcharge : monthly = 0 → charge value = 0)
    (hstart : monthly ≠ 0 → floor < value) (hspent : ∀ w, w ≤ floor → charge w = 0) :
    Agrees charge value held floor monthly periods ↔
      monthly = 0 ∨ Steady charge value held floor monthly periods := by
  rcases eq_or_ne monthly 0 with hzero | hne
  · subst hzero
    exact iff_of_true (agrees_zero (hcharge rfl) periods) (Or.inl rfl)
  · rw [or_iff_right hne]
    exact ⟨fun h => h.steady (hstart hne) hne, fun h => h.agrees (hstart hne) hspent⟩

end Datasynth.Lib.FlatForecasts
