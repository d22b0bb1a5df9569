import Mathlib.Algebra.BigOperators.Ring.List
import Mathlib.Algebra.Order.BigOperators.Group.List
import Mathlib.Algebra.Order.Field.Basic
import Mathlib.Data.List.MinMax
import Mathlib.Tactic.FieldSimp
import Mathlib.Tactic.Linarith
import Mathlib.Tactic.Ring

/-!
Means of values that not everyone supplies.  A mean over those who do lies between the values; one
over the weights of all may leave them.
-/

namespace Datasynth.Lib.WeightedMeans

universe u v

section Between

variable {K : Type u} [LinearOrder K] {values values' : List K} {m : K}

/-- A number between two of the values. -/
structure Within (values : List K) (m : K) : Prop where
  above : ∃ x ∈ values, x ≤ m
  below : ∃ x ∈ values, m ≤ x

theorem within_of_mem (h : m ∈ values) : Within values m :=
  ⟨⟨m, h, le_rfl⟩, ⟨m, h, le_rfl⟩⟩

theorem Within.mono (h : Within values m) (hsub : ∀ x ∈ values, x ∈ values') :
    Within values' m := by
  obtain ⟨⟨a, ha, hle⟩, ⟨b, hb, hge⟩⟩ := h
  exact ⟨⟨a, hsub a ha, hle⟩, ⟨b, hsub b hb, hge⟩⟩

variable [Field K] [IsStrictOrderedRing K]

theorem within_average {a b : K} (ha : a ∈ values) (hb : b ∈ values) :
    Within values ((a + b) / 2) := by
  rcases le_total a b with hle | hle
  · exact ⟨⟨a, ha, by linarith⟩, ⟨b, hb, by linarith⟩⟩
  · exact ⟨⟨b, hb, by linarith⟩, ⟨a, ha, by linarith⟩⟩

theorem within_mean (hvalues : values ≠ []) : Within values (values.sum / values.length) := by
  have hlength : (0 : K) < values.length := Nat.cast_pos.mpr (List.length_pos_iff.mpr hvalues)
  have hsum : (values.map fun _ => values.sum / values.length).sum = (values.map id).sum := by
    rw [List.map_const', List.sum_replicate, nsmul_eq_mul, mul_div_cancel₀ _ hlength.ne',
      List.map_id]
  obtain ⟨x, hx, hle⟩ := List.exists_le_of_sum_le hvalues _ _ hsum.le
  obtain ⟨y, hy, hge⟩ := List.exists_le_of_sum_le hvalues _ _ hsum.ge
  exact ⟨⟨y, hy, hge⟩, ⟨x, hx, hle⟩⟩

end Between

section Weights

variable {α : Type u} {K : Type v} [Field K] (weight : α → K) (value : α → Option K) (l : List α)

def supplied : List K := l.filterMap value

/-- The mean by the weights of all elements, with or without a value. -/
def weightedMean : K :=
  (l.map fun a => ((value a).map fun x => weight a / (l.map weight).sum * x).getD 0).sum

/-- The weights of the elements without a value. -/
def missing : K := (l.map fun a => (value a).elim (weight a) fun _ => 0).sum

/-- How far the supplied values are above a number, by their weights. -/
def excess (x : K) : K := (l.map fun a => ((value a).map fun v => weight a * (v - x)).getD 0).sum

variable {weight value l}

variable (value) in
/-- Elements without a value weigh as if theirs were zero. -/
theorem weightedMean_mul (htotal : (l.map weight).sum ≠ 0) (x : K) :
    weightedMean weight value l * (l.map weight).sum + x * missing weight value l =
      excess weight value l x + x * (l.map weight).sum := by
  have hsum : x * (l.map weight).sum = (l.map fun a => x * weight a).sum := by
    rw [List.sum_map_mul_left]
  rw [hsum, weightedMean, ← List.sum_map_mul_right, missing, ← List.sum_map_mul_left, excess,
    ← List.sum_map_add, ← List.sum_map_add]
  congr 1
  apply List.map_congr_left
  intro a _
  cases value a with
  | none => simp
  | some v =>
      simp only [Option.map_some, Option.getD_some, Option.elim_some]
      field_simp
      ring

variable [LinearOrder K]

/-- What the elements without a value take from the mean leaves it among the values. -/
structure Balanced (weight : α → K) (value : α → Option K) (l : List α) : Prop where
  above : ∃ x ∈ supplied value l, x * missing weight value l ≤ excess weight value l x
  below : ∃ x ∈ supplied value l, excess weight value l x ≤ x * missing weight value l

variable [IsStrictOrderedRing K]

theorem within_weightedMean_iff (htotal : 0 < (l.map weight).sum) :
    Within (supplied value l) (weightedMean weight value l) ↔ Balanced weight value l := by
  have hle : ∀ x, x ≤ weightedMean weight value l ↔
      x * missing weight value l ≤ excess weight value l x := by
    intro x
    have hmean := weightedMean_mul value htotal.ne' x
    rw [← mul_le_mul_iff_left₀ htotal]
    constructor
    · intro h
      linarith
    · intro h
      linarith
  have hge : ∀ x, weightedMean weight value l ≤ x ↔
      excess weight value l x ≤ x * missing weight value l := by
    intro x
    have hmean := weightedMean_mul value htotal.ne' x
    rw [← mul_le_mul_iff_left₀ htotal]
    constructor
    · intro h
      linarith
    · intro h
      linarith
  constructor
  · rintro ⟨⟨x, hx, habove⟩, ⟨y, hy, hbelow⟩⟩
    exact ⟨⟨x, hx, (hle x).mp habove⟩, ⟨y, hy, (hge y).mp hbelow⟩⟩
  · rintro ⟨⟨x, hx, habove⟩, ⟨y, hy, hbelow⟩⟩
    exact ⟨⟨x, hx, (hle x).mpr habove⟩, ⟨y, hy, (hge y).mpr hbelow⟩⟩

end Weights

section Places

variable {α : Type u} {β : Type v}

/-- A run of updates at every index is a run of updates for each index. -/
theorem foldl_mapIdx (f : α → ℕ → β → β) (l : List α) (values : List β) :
    l.foldl (fun values a => values.mapIdx (f a)) values =
      values.mapIdx fun i b => l.foldl (fun b a => f a i b) b := by
  induction l generalizing values with
  | nil => exact (List.ext_getElem (by simp) fun i h h' => by simp)
  | cons a l ih =>
      rw [List.foldl_cons, ih, List.mapIdx_mapIdx]
      rfl

theorem mapIdx_replicate (n : ℕ) (b : α) (f : ℕ → α → β) :
    (List.replicate n b).mapIdx f = (List.range n).map fun i => f i b := by
  apply List.ext_getElem
  · simp
  · intro i h h'
    simp

/-- Values that are added one by one are added up. -/
theorem foldl_add_sum {M : Type v} [AddCommMonoid M] (f : α → M) (l : List α) (b : M) :
    l.foldl (fun b a => b + f a) b = b + (l.map f).sum := by
  induction l generalizing b with
  | nil => simp
  | cons a l ih => rw [List.foldl_cons, ih, List.map_cons, List.sum_cons, add_assoc]

end Places

end Datasynth.Lib.WeightedMeans
