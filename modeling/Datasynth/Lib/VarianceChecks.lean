import Mathlib.Algebra.Order.Field.Basic
import Mathlib.Tactic.NormNum

/-!
Checks of an actual against an expected value, by percentage and by amount, and passes
over a list that keep a property only while nothing fails.
-/

namespace Datasynth.Lib.VarianceChecks

universe u v

section Tolerances

variable {K : Type u} [Field K] [LinearOrder K]

/-- A variance in percent of what was expected, zero where nothing was. -/
def variancePercent (expected variance : K) : K :=
  if 0 < expected then |variance| / expected * (100 : ℕ) else 0

def WithinTolerance (relative absolute expected actual : K) : Prop :=
  |actual - expected| ≤ relative * |expected| ∨ |actual - expected| ≤ absolute

instance (relative absolute expected actual : K) :
    Decidable (WithinTolerance relative absolute expected actual) :=
  inferInstanceAs (Decidable (_ ∨ _))

variable [IsStrictOrderedRing K] {relative absolute expected actual : K}

theorem lt_variancePercent_iff (hexpected : 0 < expected) {variance : K} :
    relative * 100 < variancePercent expected variance ↔ relative * expected < |variance| := by
  rw [variancePercent, if_pos hexpected, Nat.cast_ofNat, mul_lt_mul_iff_left₀ (by norm_num),
    lt_div_iff₀ hexpected]

/-- Where something was expected, the percentage and the amount decide the tolerance. -/
theorem withinTolerance_iff_of_pos (hexpected : 0 < expected) :
    WithinTolerance relative absolute expected actual ↔
      ¬(relative * 100 < variancePercent expected (actual - expected) ∧
        absolute < |actual - expected|) := by
  rw [lt_variancePercent_iff hexpected, not_and_or, not_lt, not_lt, WithinTolerance,
    abs_of_pos hexpected]

end Tolerances

/-- A pass keeps a property exactly when each of its steps does. -/
theorem holds_foldl_iff {β : Type u} {α : Type v} {step : β → α → β} {holds : β → Prop}
    {Fine : α → Prop} (hstep : ∀ b a, holds (step b a) ↔ holds b ∧ Fine a) (l : List α) (b : β) :
    holds (l.foldl step b) ↔ holds b ∧ ∀ a ∈ l, Fine a := by
  induction l generalizing b with
  | nil => simp
  | cons a l ih => rw [List.foldl_cons, ih, hstep, List.forall_mem_cons, and_assoc]

end Datasynth.Lib.VarianceChecks
