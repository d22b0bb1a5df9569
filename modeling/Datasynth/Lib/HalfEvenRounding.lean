import Mathlib.Algebra.Order.Floor.Ring
import Mathlib.Tactic.Linarith
import Mathlib.Tactic.NormNum
import Mathlib.Tactic.FieldSimp
import Mathlib.Tactic.Positivity
import Mathlib.Tactic.Ring

/-!
Rounding to the nearest integer with ties to even, and rounding to a number of
decimal places built from it.
-/

namespace Datasynth.Lib.HalfEvenRounding

variable {K : Type*} [Field K] [LinearOrder K] [IsStrictOrderedRing K] [FloorRing K]

/-- The nearest integer; a tie goes to the even neighbour. -/
def roundHalfEven (x : K) : ℤ :=
  if (2 : ℕ) * Int.fract x < 1 then ⌊x⌋
  else if 1 < (2 : ℕ) * Int.fract x then ⌊x⌋ + 1
  else if ⌊x⌋ % 2 = 0 then ⌊x⌋ else ⌊x⌋ + 1

theorem two_mul_abs_roundHalfEven_sub_le (x : K) : 2 * |(roundHalfEven x : K) - x| ≤ 1 := by
  have hx : (⌊x⌋ : K) + Int.fract x = x := Int.floor_add_fract x
  have h0 : 0 ≤ Int.fract x := Int.fract_nonneg x
  have h1 : Int.fract x < 1 := Int.fract_lt_one x
  have hdown : ((⌊x⌋ : ℤ) : K) - x = -Int.fract x := by linarith
  have hup : ((⌊x⌋ + 1 : ℤ) : K) - x = 1 - Int.fract x := by push_cast; linarith
  rw [roundHalfEven, Nat.cast_ofNat]
  split_ifs with hlt hgt heven
  · rw [hdown, abs_neg, abs_of_nonneg h0]
    exact hlt.le
  · rw [hup, abs_of_nonneg (by linarith)]
    linarith
  · rw [hdown, abs_neg, abs_of_nonneg h0]
    exact not_lt.mp hgt
  · rw [hup, abs_of_nonneg (by linarith)]
    linarith

/-- An integer less than a half away is the nearest. -/
theorem roundHalfEven_eq {x : K} {n : ℤ} (h : 2 * |x - n| < 1) : roundHalfEven x = n := by
  have hclose := two_mul_abs_roundHalfEven_sub_le x
  have htriangle : |(roundHalfEven x : K) - n| ≤ |(roundHalfEven x : K) - x| + |x - n| :=
    abs_sub_le _ _ _
  have hlt : |((roundHalfEven x - n : ℤ) : K)| < 1 := by
    rw [Int.cast_sub]
    linarith
  have hzero : |roundHalfEven x - n| < 1 := by exact_mod_cast hlt
  exact sub_eq_zero.mp (Int.abs_lt_one_iff.mp hzero)

/-- An even integer is the nearest one also a half away. -/
theorem roundHalfEven_of_even {x : K} {n : ℤ} (hn : n % 2 = 0) (h : 2 * |x - n| ≤ 1) :
    roundHalfEven x = n := by
  rw [abs_sub_comm] at h
  obtain ⟨hlow, hhigh⟩ := abs_le.mp (show |(n : K) - x| ≤ 1 / 2 by linarith)
  rw [roundHalfEven, Nat.cast_ofNat]
  rcases lt_or_ge x n with hlt | hge
  · have hfloor : ⌊x⌋ = n - 1 := by
      rw [Int.floor_eq_iff]
      push_cast
      exact ⟨by linarith, by linarith⟩
    have hfract : Int.fract x = x - n + 1 := by
      rw [Int.fract, hfloor]
      push_cast
      ring
    rw [hfract, hfloor, if_neg (by linarith)]
    split_ifs <;> omega
  · have hfloor : ⌊x⌋ = n := by
      rw [Int.floor_eq_iff]
      exact ⟨hge, by linarith⟩
    have hfract : Int.fract x = x - n := by rw [Int.fract, hfloor]
    rw [hfract, hfloor, if_pos hn]
    split_ifs with hdown hup
    · rfl
    · linarith
    · rfl

/-- A half more than one goes to two. -/
theorem abs_roundHalfEven_le_one_iff {x : K} : |roundHalfEven x| ≤ 1 ↔ |x| < 3 / 2 := by
  have hclose := two_mul_abs_roundHalfEven_sub_le x
  have hround : (|roundHalfEven x| : ℤ) = |(roundHalfEven x : K)| := Int.cast_abs
  constructor
  · intro hone
    have hone' : |(roundHalfEven x : K)| ≤ 1 := by
      rw [← hround]
      exact_mod_cast hone
    have hle : |x| ≤ |x - roundHalfEven x| + |(roundHalfEven x : K)| := by
      simpa using abs_add_le (x - roundHalfEven x) (roundHalfEven x : K)
    rw [abs_sub_comm] at hclose
    refine lt_of_le_of_ne (by linarith) fun htie => ?_
    -- on the tie the even neighbour is two away from zero
    rcases abs_choice x with hx | hx
    · have htwo : roundHalfEven x = 2 := by
        refine roundHalfEven_of_even (by norm_num) ?_
        rw [← hx, htie]
        norm_num
      rw [htwo] at hone
      exact absurd hone (by decide)
    · have htwo : roundHalfEven x = -2 := by
        refine roundHalfEven_of_even (by norm_num) ?_
        rw [← neg_neg x, ← hx, htie]
        norm_num
      rw [htwo] at hone
      exact absurd hone (by decide)
  · intro hlt
    have hle : |(roundHalfEven x : K)| ≤ |roundHalfEven x - x| + |x| := by
      simpa using abs_add_le ((roundHalfEven x : K) - x) x
    have htwo : ((|roundHalfEven x| : ℤ) : K) < 2 := by
      rw [hround]
      linarith
    have htwo' : |roundHalfEven x| < 2 := by exact_mod_cast htwo
    omega

@[simp] theorem roundHalfEven_intCast (n : ℤ) : roundHalfEven (n : K) = n := by
  simp [roundHalfEven]

omit [IsStrictOrderedRing K] in
theorem roundHalfEven_nonneg {x : K} (hx : 0 ≤ x) : 0 ≤ roundHalfEven x := by
  have hfloor : 0 ≤ ⌊x⌋ := Int.floor_nonneg.mpr hx
  rw [roundHalfEven, Nat.cast_ofNat]
  split_ifs <;> omega

theorem roundHalfEven_nonpos {x : K} (hx : x ≤ 0) : roundHalfEven x ≤ 0 := by
  have hclose := two_mul_abs_roundHalfEven_sub_le x
  have hle : (roundHalfEven x : K) - x ≤ |(roundHalfEven x : K) - x| := le_abs_self _
  have hlt : (roundHalfEven x : K) < 1 := by linarith
  have : roundHalfEven x < 1 := by exact_mod_cast hlt
  omega

/-- Round to `dp` decimal places, ties to even. -/
def roundDp (dp : ℕ) (x : K) : K :=
  (roundHalfEven (x * (10 : ℕ) ^ dp) : K) / (10 : ℕ) ^ dp

omit [FloorRing K] in
theorem ten_pow_pos (dp : ℕ) : (0 : K) < 10 ^ dp := by positivity

/-- Rounding moves a value by at most half a unit of the last place. -/
theorem two_mul_abs_roundDp_sub_le (dp : ℕ) (x : K) :
    2 * |roundDp dp x - x| ≤ 1 / 10 ^ dp := by
  have hpos : (0 : K) < 10 ^ dp := ten_pow_pos dp
  have hscaled :
      roundDp dp x - x = ((roundHalfEven (x * 10 ^ dp) : K) - x * 10 ^ dp) / 10 ^ dp := by
    rw [roundDp, Nat.cast_ofNat, sub_div, mul_div_cancel_right₀ _ hpos.ne']
  rw [hscaled, abs_div, abs_of_pos hpos, ← mul_div_assoc]
  gcongr
  exact two_mul_abs_roundHalfEven_sub_le _

theorem roundDp_nonneg (dp : ℕ) {x : K} (hx : 0 ≤ x) : 0 ≤ roundDp dp x := by
  have hpos : (0 : K) < 10 ^ dp := ten_pow_pos dp
  have hround : 0 ≤ roundHalfEven (x * 10 ^ dp) :=
    roundHalfEven_nonneg (mul_nonneg hx hpos.le)
  exact div_nonneg (by exact_mod_cast hround) hpos.le

theorem roundDp_nonpos (dp : ℕ) {x : K} (hx : x ≤ 0) : roundDp dp x ≤ 0 := by
  have hpos : (0 : K) < 10 ^ dp := ten_pow_pos dp
  have hround : roundHalfEven (x * 10 ^ dp) ≤ 0 :=
    roundHalfEven_nonpos (mul_nonpos_of_nonpos_of_nonneg hx hpos.le)
  exact div_nonpos_of_nonpos_of_nonneg (by exact_mod_cast hround) hpos.le

theorem roundDp_intCast_div (dp : ℕ) (n : ℤ) : roundDp dp ((n : K) / 10 ^ dp) = n / 10 ^ dp := by
  have hpos : (0 : K) < 10 ^ dp := ten_pow_pos dp
  rw [roundDp, Nat.cast_ofNat, div_mul_cancel₀ _ hpos.ne', roundHalfEven_intCast]

theorem roundDp_eq {dp : ℕ} {x : K} {n : ℤ} (h : 2 * |x * 10 ^ dp - n| < 1) :
    roundDp dp x = n / 10 ^ dp := by
  rw [roundDp, Nat.cast_ofNat, roundHalfEven_eq h]

@[simp] theorem roundDp_zero (dp : ℕ) : roundDp dp (0 : K) = 0 := by
  have h : roundHalfEven (0 : K) = 0 := by
    rw [← Int.cast_zero, roundHalfEven_intCast]
  simp [roundDp, h]

theorem roundDp_roundDp (dp : ℕ) (x : K) : roundDp dp (roundDp dp x) = roundDp dp x :=
  roundDp_intCast_div dp (roundHalfEven (x * 10 ^ dp))

theorem roundDp_neg_roundDp (dp : ℕ) (x : K) : roundDp dp (-roundDp dp x) = -roundDp dp x := by
  have h : -roundDp dp x = ((-roundHalfEven (x * 10 ^ dp) : ℤ) : K) / 10 ^ dp := by
    rw [roundDp, Nat.cast_ofNat, Int.cast_neg, neg_div]
  rw [h, roundDp_intCast_div]

/-- A whole number of units of the last place. -/
def IsRounded (dp : ℕ) (x : K) : Prop := ∃ n : ℤ, x = n / (10 : ℕ) ^ dp

omit [IsStrictOrderedRing K] in
theorem isRounded_roundDp (dp : ℕ) (x : K) : IsRounded dp (roundDp dp x) :=
  ⟨roundHalfEven (x * (10 : ℕ) ^ dp), rfl⟩

theorem IsRounded.roundDp_eq {dp : ℕ} {x : K} (h : IsRounded dp x) : roundDp dp x = x := by
  obtain ⟨n, rfl⟩ := h
  rw [Nat.cast_ofNat]
  exact roundDp_intCast_div dp n

omit [LinearOrder K] [IsStrictOrderedRing K] [FloorRing K] in
theorem IsRounded.zero (dp : ℕ) : IsRounded dp (0 : K) := ⟨0, by simp⟩

omit [LinearOrder K] [IsStrictOrderedRing K] [FloorRing K] in
theorem IsRounded.add {dp : ℕ} {x y : K} (hx : IsRounded dp x) (hy : IsRounded dp y) :
    IsRounded dp (x + y) := by
  obtain ⟨n, rfl⟩ := hx
  obtain ⟨m, rfl⟩ := hy
  exact ⟨n + m, by rw [Int.cast_add, add_div]⟩

omit [LinearOrder K] [IsStrictOrderedRing K] [FloorRing K] in
theorem IsRounded.sub {dp : ℕ} {x y : K} (hx : IsRounded dp x) (hy : IsRounded dp y) :
    IsRounded dp (x - y) := by
  obtain ⟨n, rfl⟩ := hx
  obtain ⟨m, rfl⟩ := hy
  exact ⟨n - m, by rw [Int.cast_sub, sub_div]⟩

omit [LinearOrder K] [IsStrictOrderedRing K] [FloorRing K] in
theorem IsRounded.sum {dp : ℕ} {l : List K} (h : ∀ x ∈ l, IsRounded dp x) :
    IsRounded dp l.sum := by
  induction l with
  | nil => exact .zero dp
  | cons x l ih =>
      rw [List.forall_mem_cons] at h
      rw [List.sum_cons]
      exact h.1.add (ih h.2)

/-- Rounding the amounts of a list moves their signed sum by at most half a unit each. -/
theorem two_mul_abs_sum_roundDp_sub_le (dp : ℕ) {α : Type*} {sign : α → K} (amount : α → K)
    {l : List α} (hsign : ∀ a ∈ l, |sign a| ≤ 1) :
    2 * |(l.map fun a => sign a * roundDp dp (amount a)).sum -
        (l.map fun a => sign a * amount a).sum| ≤ l.length / 10 ^ dp := by
  induction l with
  | nil => simp
  | cons a l ih =>
      rw [List.forall_mem_cons] at hsign
      have hfirst : 2 * |sign a * roundDp dp (amount a) - sign a * amount a| ≤ 1 / 10 ^ dp := by
        rw [← mul_sub, abs_mul]
        calc 2 * (|sign a| * |roundDp dp (amount a) - amount a|)
            ≤ 2 * (1 * |roundDp dp (amount a) - amount a|) := by
              gcongr
              exact hsign.1
          _ ≤ 1 / 10 ^ dp := by
              rw [one_mul]
              exact two_mul_abs_roundDp_sub_le dp (amount a)
      simp only [List.map_cons, List.sum_cons]
      rw [add_sub_add_comm, List.length_cons, Nat.cast_succ, add_div]
      calc 2 * |sign a * roundDp dp (amount a) - sign a * amount a +
              ((l.map fun a => sign a * roundDp dp (amount a)).sum -
                (l.map fun a => sign a * amount a).sum)|
          ≤ 2 * (|sign a * roundDp dp (amount a) - sign a * amount a| +
              |(l.map fun a => sign a * roundDp dp (amount a)).sum -
                (l.map fun a => sign a * amount a).sum|) := by
            gcongr
            exact abs_add_le _ _
        _ ≤ l.length / 10 ^ dp + 1 / 10 ^ dp := by
            rw [mul_add, add_comm]
            exact add_le_add (ih hsign.2) hfirst

end Datasynth.Lib.HalfEvenRounding
