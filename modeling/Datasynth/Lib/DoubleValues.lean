import Mathlib.Algebra.Order.Ring.Rat
import Mathlib.Data.Int.Log
import Mathlib.Data.Rat.Floor
import Datasynth.Lib.HalfEvenRounding

/-!
Floating-point numbers as exact rationals with the two infinities and the
not-a-number: comparison, maximum, clamping and truncation to 64-bit integers, and the
rounding of an arithmetic operation.
-/

namespace Datasynth.Lib.DoubleValues

inductive F64 where
  | finite (q : ℚ)
  | infinity
  | negInfinity
  | nan
deriving DecidableEq, Repr

namespace F64

/-- Nothing is less than the not-a-number, nor is it less than anything. -/
def lt : F64 → F64 → Bool
  | finite q, finite r => q < r
  | finite _, infinity => true
  | negInfinity, finite _ => true
  | negInfinity, infinity => true
  | _, _ => false

/-- The larger of a number and a rational; the not-a-number counts as absent. -/
def max (x : F64) (r : ℚ) : F64 :=
  match x with
  | finite q => finite (Max.max q r)
  | infinity => infinity
  | _ => finite r

def clamp (x : F64) (lo hi : ℚ) : F64 :=
  match x with
  | finite q => finite (if q < lo then lo else if hi < q then hi else q)
  | infinity => finite hi
  | negInfinity => finite lo
  | nan => nan

/-- The product with a positive rational. -/
def scale (x : F64) (r : ℚ) : F64 :=
  match x with
  | finite q => finite (q * r)
  | x => x

/-- Truncation towards zero, saturating at the bounds; the not-a-number becomes zero. -/
def toI64 : F64 → ℤ
  | finite q => Max.max (-2 ^ 63) (min (2 ^ 63 - 1) (q.num.tdiv q.den))
  | infinity => 2 ^ 63 - 1
  | negInfinity => -2 ^ 63
  | nan => 0

/-- No finite value below zero. -/
def NotNegative : F64 → Prop
  | finite q => 0 ≤ q
  | negInfinity => False
  | _ => True

theorem notNegative_max (x : F64) {r : ℚ} (h : 0 ≤ r) : (x.max r).NotNegative := by
  cases x with
  | finite q => exact le_max_of_le_right h
  | infinity => trivial
  | negInfinity => exact h
  | nan => exact h

theorem notNegative_clamp (x : F64) {lo hi : ℚ} (hlo : 0 ≤ lo) (hhi : 0 ≤ hi) :
    (x.clamp lo hi).NotNegative := by
  cases x with
  | finite q =>
      show 0 ≤ (if q < lo then lo else if hi < q then hi else q)
      split
      · exact hlo
      · rename_i hle
        split
        · exact hhi
        · exact le_trans hlo (not_lt.mp hle)
  | infinity => exact hhi
  | negInfinity => exact hlo
  | nan => trivial

theorem NotNegative.scale {x : F64} (h : x.NotNegative) {r : ℚ} (hr : 0 ≤ r) :
    (x.scale r).NotNegative := by
  cases x with
  | finite q => exact mul_nonneg h hr
  | infinity => trivial
  | negInfinity => exact h
  | nan => trivial

theorem NotNegative.toI64_nonneg {x : F64} (h : x.NotNegative) : 0 ≤ x.toI64 := by
  cases x with
  | finite q =>
      have htrunc : 0 ≤ q.num.tdiv q.den :=
        Int.tdiv_nonneg (Rat.num_nonneg.mpr h) (Int.natCast_nonneg _)
      exact le_max_of_le_right (le_min (by decide) htrunc)
  | infinity => decide
  | negInfinity => cases h
  | nan => exact le_refl 0

end F64

section Rounding

open Datasynth.Lib.HalfEvenRounding

/-- The nearest number of 53 binary digits. -/
def nearest (q : ℚ) : ℚ :=
  if q = 0 then 0
  else
    let ulp : ℚ := 2 ^ (Int.log 2 |q| - 52)
    roundHalfEven (q / ulp) * ulp

/-- Rounding to 53 binary digits moves a number by a small part of it. -/
theorem abs_nearest_sub_le (q : ℚ) : |nearest q - q| ≤ |q| / 2 ^ 53 := by
  rw [nearest]
  split
  · rename_i hzero
    simp [hzero]
  · rename_i hnonzero
    set ulp : ℚ := 2 ^ (Int.log 2 |q| - 52) with hulp
    have hpos : 0 < ulp := zpow_pos two_pos _
    have hlog : (2 : ℚ) ^ Int.log 2 |q| ≤ |q| := by
      exact_mod_cast Int.zpow_log_le_self one_lt_two (abs_pos.mpr hnonzero)
    have hsplit : (2 : ℚ) ^ Int.log 2 |q| = ulp * 2 ^ 52 := by
      rw [hulp, zpow_sub₀ two_ne_zero]
      norm_num
    have hround := two_mul_abs_roundHalfEven_sub_le (q / ulp)
    have hscaled : (roundHalfEven (q / ulp) : ℚ) * ulp - q =
        ((roundHalfEven (q / ulp) : ℚ) - q / ulp) * ulp := by
      rw [sub_mul, div_mul_cancel₀ _ hpos.ne']
    simp only
    rw [hscaled, abs_mul, abs_of_pos hpos, le_div_iff₀ (by positivity)]
    nlinarith

/-- Integers of at most 53 binary digits are represented exactly. -/
theorem nearest_natCast {n : ℕ} (hn : n < 2 ^ 53) : nearest n = n := by
  rw [nearest]
  split
  · rename_i hzero
    exact hzero.symm
  · rename_i hnonzero
    have hpos : (0 : ℚ) < |(n : ℚ)| := abs_pos.mpr hnonzero
    have hlog : Int.log 2 |(n : ℚ)| < 53 := by
      rw [← Int.lt_zpow_iff_log_lt one_lt_two hpos, abs_of_nonneg (Nat.cast_nonneg n)]
      exact_mod_cast hn
    have hle : Int.log 2 |(n : ℚ)| ≤ 52 := by omega
    obtain ⟨k, hk⟩ := Int.eq_ofNat_of_zero_le (sub_nonneg.mpr hle)
    have hulp : (2 : ℚ) ^ (Int.log 2 |(n : ℚ)| - 52) = ((2 : ℚ) ^ k)⁻¹ := by
      rw [← neg_sub, hk, zpow_neg]
      exact congrArg _ (zpow_natCast 2 k)
    have hint : (n : ℚ) / ((2 : ℚ) ^ k)⁻¹ = ((n * 2 ^ k : ℤ) : ℚ) := by
      rw [div_inv_eq_mul]
      push_cast
      rfl
    simp only
    rw [hulp, hint, roundHalfEven_intCast]
    push_cast
    exact mul_inv_cancel_right₀ (pow_ne_zero k two_ne_zero) _

/-- Rounding a quotient does not move it across an integer, nor away from one. -/
theorem ceil_nearest_div {n b : ℕ} (hb : 0 < b) (hn : n < 2 ^ 53) :
    ⌈nearest (n / b)⌉ = ⌈(n : ℚ) / b⌉ := by
  have hbpos : (0 : ℚ) < b := by exact_mod_cast hb
  obtain ⟨k, r, hr, hsplit⟩ : ∃ k r, r < b ∧ n = b * k + r :=
    ⟨n / b, n % b, Nat.mod_lt n hb, (Nat.div_add_mod n b).symm⟩
  have hquotient : (n : ℚ) / b = k + r / b := by
    rw [hsplit]
    push_cast
    rw [add_div, mul_div_cancel_left₀ _ hbpos.ne']
  rcases Nat.eq_zero_or_pos r with rfl | hrest
  · rw [hsplit, add_zero] at hn
    have hk : k < 2 ^ 53 := (Nat.le_mul_of_pos_left k hb).trans_lt hn
    rw [hquotient, Nat.cast_zero, zero_div, add_zero, nearest_natCast hk]
  · have hclose := abs_le.mp (abs_nearest_sub_le ((n : ℚ) / b))
    have hsmall : |(n : ℚ) / b| / 2 ^ 53 < 1 / b := by
      have hn' : (n : ℚ) < 2 ^ 53 := by exact_mod_cast hn
      rw [abs_of_nonneg (by positivity), div_div, div_lt_div_iff₀ (by positivity) hbpos, one_mul,
        mul_comm]
      exact mul_lt_mul_of_pos_left hn' hbpos
    have hlow : (1 : ℚ) / b ≤ r / b := by
      gcongr
      exact_mod_cast hrest
    have hhigh : (r : ℚ) / b ≤ 1 - 1 / b := by
      rw [div_le_iff₀ hbpos, sub_mul, one_mul, div_mul_cancel₀ _ hbpos.ne', le_sub_iff_add_le]
      exact_mod_cast hr
    have hceil : ∀ x : ℚ, (k : ℚ) < x → x ≤ k + 1 → ⌈x⌉ = (k : ℤ) + 1 := by
      intro x hlt hle
      rw [Int.ceil_eq_iff]
      push_cast
      exact ⟨by linarith, hle⟩
    rw [hceil _ (by linarith) (by linarith), hceil _ (by linarith) (by linarith)]

/-- A sum from the left, rounded after every summand. -/
def roundedSum (summands : List ℚ) : ℚ := summands.foldl (fun total q => nearest (total + q)) 0

/-- The nearest integer; a tie goes away from zero. -/
def roundAway (q : ℚ) : ℤ := if q < 0 then -⌊-q + 1 / 2⌋ else ⌊q + 1 / 2⌋

end Rounding

end Datasynth.Lib.DoubleValues
