import Datasynth.Generators.NettingRuns

/-!
Amortization schedules of debt instruments: which of them repay the principal, with the last
payment on the maturity date.
-/

namespace Datasynth.Generators.DebtSchedules

open Datasynth.Core.FiscalCalendars
open Datasynth.Core.FiscalPeriods
open Datasynth.Generators.NettingRuns
open Datasynth.Lib.CivilCalendar
open Datasynth.Lib.HalfEvenRounding

section Model

/-- Adds months to a date, or keeps the date where the calendar has ended.  The numbers of months
are 32-bit numbers. -/
def add_months (date : Date) (months : ℕ) : Date :=
  let total_months := (date.month - 1 + months) % 2 ^ 32
  let year := date.year + (total_months / 12 : ℕ)
  let month := total_months % 12 + 1
  let day := min date.day (days_in_month year month)
  (from_ymd_opt year month day).getD date

structure AmortizationPayment where
  date : Date
  principal_payment : ℚ
  interest_payment : ℚ
  balance_after : ℚ

/-- The payments from number `i` on, with the number of payments that are left. -/
def payment_loop (start_date : Date) (num_payments : ℕ)
    (quarterly_rate principal_per_period : ℚ) : ℕ → ℕ → ℚ → List AmortizationPayment
  | 0, _, _ => []
  | left + 1, i, remaining =>
      let principal_payment := if i = num_payments - 1 then remaining else principal_per_period
      let after := roundDp 2 (remaining - principal_payment)
      { date := add_months start_date ((i + 1) * 3)
        principal_payment := principal_payment
        interest_payment := roundDp 2 (remaining * quarterly_rate)
        balance_after := max after 0 } ::
        payment_loop start_date num_payments quarterly_rate principal_per_period left (i + 1) after

def generate_amortization (principal annual_rate : ℚ) (start_date : Date)
    (maturity_months : UInt32) : List AmortizationPayment :=
  let num_payments := maturity_months.toNat / 3
  let quarterly_rate := roundDp 6 (annual_rate / 4)
  let principal_per_period := roundDp 2 (principal / num_payments)
  payment_loop start_date num_payments quarterly_rate principal_per_period num_payments 0 principal

structure DebtInstrument where
  principal : ℚ
  interest_rate : ℚ
  origination_date : Date
  maturity_date : Date
  amortization_schedule : List AmortizationPayment

/-- A term loan or a bond. -/
def generate_from_def (principal rate : ℚ) (origination_date : Date) (maturity_months : UInt32) :
    DebtInstrument where
  principal := principal
  interest_rate := rate
  origination_date := origination_date
  maturity_date := add_months origination_date maturity_months.toNat
  amortization_schedule :=
    generate_amortization principal rate origination_date maturity_months

end Model

section Dates

/-- The calendar has the date so many months later. -/
def Reaches (date : Date) (months : ℕ) : Prop :=
  date.year * 12 + ((date.month - 1 + months) % 2 ^ 32 : ℕ) < 262143 * 12

theorem monthNumber_add_months {date : Date} (hdate : Representable date) (months : ℕ) :
    (Reaches date months → (add_months date months).monthNumber =
        date.year * 12 + ((date.month - 1 + months) % 2 ^ 32 : ℕ)) ∧
      (¬Reaches date months → add_months date months = date) := by
  rw [Representable, yearInRange_iff] at hdate
  rw [Reaches, add_months]
  generalize (date.month - 1 + months) % 2 ^ 32 = total
  have hmonth : 1 ≤ total % 12 + 1 ∧ total % 12 + 1 ≤ 12 := by omega
  have hdays := le_daysInMonth (date.year + (total / 12 : ℕ)) (total % 12 + 1)
  have hone := date.day_spec.1
  have hday : 1 ≤ min date.day (daysInMonth (date.year + (total / 12 : ℕ)) (total % 12 + 1)) ∧
      min date.day (daysInMonth (date.year + (total / 12 : ℕ)) (total % 12 + 1)) ≤
        daysInMonth (date.year + (total / 12 : ℕ)) (total % 12 + 1) := by
    omega
  rw [days_in_month_eq _ hmonth, from_ymd_opt]
  constructor
  · intro hreached
    rw [if_pos ⟨yearInRange_iff.mpr (by omega), hmonth, hday⟩, Option.getD_some,
      monthNumber_ofYmd _ hmonth hday]
    omega
  · intro hreached
    rw [if_neg (by rw [yearInRange_iff]; omega), Option.getD_none]

/-- Different numbers of months lead to one date only where the calendar has neither. -/
theorem add_months_eq_iff {date : Date} (hdate : Representable date) {m n : ℕ}
    (hm : 0 < m ∧ m < 2 ^ 32) (hn : 0 < n ∧ n < 2 ^ 32) :
    add_months date m = add_months date n ↔ m = n ∨ ¬Reaches date m ∧ ¬Reaches date n := by
  obtain ⟨⟨hone, htwelve⟩, -⟩ := date.month_spec
  obtain ⟨hin, hout⟩ := monthNumber_add_months hdate m
  obtain ⟨hin', hout'⟩ := monthNumber_add_months hdate n
  have hnumber : date.monthNumber = date.year * 12 + date.month - 1 := rfl
  constructor
  · intro heq
    by_cases hreached : Reaches date m <;> by_cases hreached' : Reaches date n
    · have hsame := (hin hreached).symm.trans (heq ▸ hin' hreached')
      omega
    · have hsame := (hin hreached).symm.trans
        (congrArg Date.monthNumber (heq.trans (hout' hreached')))
      omega
    · have hsame := (hin' hreached').symm.trans
        (congrArg Date.monthNumber (heq.symm.trans (hout hreached)))
      omega
    · exact .inr ⟨hreached, hreached'⟩
  · rintro (rfl | ⟨hreached, hreached'⟩)
    · rfl
    · rw [hout hreached, hout' hreached']

end Dates

section Payments

/-- Each balance is what the payments so far leave. -/
def Tracks : ℚ → List AmortizationPayment → Prop
  | _, [] => True
  | remaining, p :: schedule =>
      p.balance_after = remaining - p.principal_payment ∧
        Tracks (remaining - p.principal_payment) schedule

/-- The payments repay an amount. -/
structure Repays (remaining : ℚ) (schedule : List AmortizationPayment) : Prop where
  nonneg : ∀ p ∈ schedule, 0 ≤ p.principal_payment
  total : (schedule.map (·.principal_payment)).sum = remaining
  tracks : Tracks remaining schedule

theorem repays_singleton_iff {remaining : ℚ} {p : AmortizationPayment}
    (hpayment : p.principal_payment = remaining) (hbalance : p.balance_after = 0) :
    Repays remaining [p] ↔ 0 ≤ remaining := by
  subst hpayment
  constructor
  · intro h
    exact h.nonneg p (List.mem_singleton_self p)
  · intro h
    refine ⟨List.forall_mem_singleton.mpr h, ?_, ?_, trivial⟩
    · rw [List.map_singleton, List.sum_singleton]
    · rw [hbalance, sub_self]

theorem repays_cons_iff {remaining : ℚ} {p : AmortizationPayment}
    {schedule : List AmortizationPayment} (hpayment : 0 ≤ p.principal_payment) :
    Repays remaining (p :: schedule) ↔
      p.balance_after = remaining - p.principal_payment ∧
        Repays (remaining - p.principal_payment) schedule := by
  constructor
  · rintro ⟨hnonneg, htotal, hbalance, htracks⟩
    refine ⟨hbalance, fun q hq => hnonneg q (List.mem_cons_of_mem p hq), ?_, htracks⟩
    rw [← htotal, List.map_cons, List.sum_cons, add_sub_cancel_left]
  · rintro ⟨hbalance, hnonneg, htotal, htracks⟩
    refine ⟨List.forall_mem_cons.mpr ⟨hpayment, hnonneg⟩, ?_, hbalance, htracks⟩
    rw [List.map_cons, List.sum_cons, htotal, add_sub_cancel]

variable {start_date : Date} {num_payments : ℕ} {quarterly_rate per : ℚ}

/-- A payment of whole cents keeps the balance only of whole cents. -/
theorem max_roundDp_eq_iff {remaining : ℚ} (hper : IsRounded 2 per) :
    max (roundDp 2 (remaining - per)) 0 = remaining - per ↔
      IsRounded 2 remaining ∧ per ≤ remaining := by
  constructor
  · intro h
    have hcents : IsRounded 2 (remaining - per) := by
      rw [← h]
      rcases max_choice (roundDp 2 (remaining - per)) 0 with hmax | hmax
      · rw [hmax]
        exact isRounded_roundDp 2 _
      · rw [hmax]
        exact .zero 2
    have hnonneg : 0 ≤ remaining - per := h ▸ le_max_right _ _
    refine ⟨?_, sub_nonneg.mp hnonneg⟩
    rw [← sub_add_cancel remaining per]
    exact hcents.add hper
  · rintro ⟨hcents, hle⟩
    rw [(hcents.sub hper).roundDp_eq, max_eq_left (sub_nonneg.mpr hle)]

variable (start_date quarterly_rate) in
/-- The induction is on the payments before the last one. -/
theorem repays_payment_loop_iff (hper : IsRounded 2 per) (hnonneg : 0 ≤ per) (k : ℕ) :
    ∀ (i : ℕ) (remaining : ℚ), i + k + 1 = num_payments →
      (Repays remaining
          (payment_loop start_date num_payments quarterly_rate per (k + 1) i remaining) ↔
        (k = 0 ∨ IsRounded 2 remaining) ∧ k * per ≤ remaining) := by
  induction k with
  | zero =>
      intro i remaining hnum
      have hlast : i = num_payments - 1 := by omega
      rw [payment_loop, payment_loop, repays_singleton_iff]
      · simp
      · exact if_pos hlast
      · dsimp only
        rw [if_pos hlast, sub_self, roundDp_zero, max_self]
  | succ k ih =>
      intro i remaining hnum
      have hnotlast : i ≠ num_payments - 1 := by omega
      rw [payment_loop]
      simp only [if_neg hnotlast]
      rw [repays_cons_iff hnonneg]
      dsimp only
      rw [max_roundDp_eq_iff hper, or_iff_right k.succ_ne_zero, and_assoc]
      refine and_congr_right fun hcents => ?_
      have hrest : k = 0 ∨ IsRounded 2 (remaining - per) := .inr (hcents.sub hper)
      rw [(hcents.sub hper).roundDp_eq, ih (i + 1) (remaining - per) (by omega),
        and_iff_right hrest, Nat.cast_succ, add_one_mul]
      constructor
      · rintro ⟨-, hle⟩
        linarith
      · intro hle
        have hk : 0 ≤ (k : ℚ) * per := mul_nonneg k.cast_nonneg hnonneg
        exact ⟨by linarith, by linarith⟩

variable (start_date quarterly_rate per) in
/-- The last payment leaves nothing. -/
theorem getLast?_payment_loop (k : ℕ) :
    ∀ (i : ℕ) (remaining : ℚ), i + k + 1 = num_payments →
      ∃ p, (payment_loop start_date num_payments quarterly_rate per (k + 1) i
          remaining).getLast? = some p ∧
        p.balance_after = 0 ∧ p.date = add_months start_date (num_payments * 3) := by
  induction k with
  | zero =>
      intro i remaining hnum
      have hlast : i = num_payments - 1 := by omega
      rw [payment_loop, payment_loop]
      refine ⟨_, List.getLast?_singleton, ?_, ?_⟩
      · dsimp only
        rw [if_pos hlast, sub_self, roundDp_zero, max_self]
      · dsimp only
        rw [← hnum, Nat.add_zero]
  | succ k ih =>
      intro i remaining hnum
      obtain ⟨p, hp, hspec⟩ := ih (i + 1)
        (roundDp 2 (remaining - if i = num_payments - 1 then remaining else per)) (by omega)
      refine ⟨p, ?_, hspec⟩
      rw [payment_loop, List.getLast?_cons, hp, Option.getD_some]

end Payments

section Result

/-- The schedule repays the principal, and ends on the maturity date with nothing left. -/
structure DebtInstrument.Amortized (debt : DebtInstrument) : Prop where
  repays : Repays debt.principal debt.amortization_schedule
  last : ∃ p, debt.amortization_schedule.getLast? = some p ∧ p.balance_after = 0 ∧
    p.date = debt.maturity_date

/-- The maturity is at the end of a quarter, or behind the end of the calendar. -/
def EndsAtMaturity (origination_date : Date) (maturity_months : ℕ) : Prop :=
  3 ∣ maturity_months ∨ ¬Reaches origination_date (maturity_months / 3 * 3) ∧
    ¬Reaches origination_date maturity_months

variable {principal rate : ℚ} {origination_date : Date} {maturity_months : UInt32}

theorem amortized_iff (hprincipal : 0 ≤ principal) (hdate : Representable origination_date)
    (hmaturity : 3 ≤ maturity_months.toNat) :
    (generate_from_def principal rate origination_date maturity_months).Amortized ↔
      EndsAtMaturity origination_date maturity_months.toNat ∧
        (maturity_months.toNat / 3 = 1 ∨ IsRounded 2 principal) ∧
          (maturity_months.toNat / 3 - 1 : ℕ) *
            roundDp 2 (principal / (maturity_months.toNat / 3 : ℕ)) ≤ principal := by
  have hsmall := maturity_months.toNat_lt
  generalize hmonths : maturity_months.toNat = months at hmaturity hsmall ⊢
  obtain ⟨k, hk⟩ := Nat.exists_eq_add_of_le' (show 1 ≤ months / 3 by omega)
  have hper := isRounded_roundDp 2 (principal / (months / 3 : ℕ))
  have hnonneg : 0 ≤ roundDp 2 (principal / (months / 3 : ℕ)) :=
    roundDp_nonneg 2 (div_nonneg hprincipal (Nat.cast_nonneg _))
  have hschedule : (generate_from_def principal rate origination_date
      maturity_months).amortization_schedule = payment_loop origination_date (months / 3)
        (roundDp 6 (rate / 4)) (roundDp 2 (principal / (months / 3 : ℕ))) (k + 1) 0 principal := by
    rw [← hk, ← hmonths]
    rfl
  have hnumber : 0 + k + 1 = months / 3 := by omega
  have hrepays := repays_payment_loop_iff origination_date (roundDp 6 (rate / 4)) hper hnonneg k 0
    principal hnumber
  obtain ⟨p, hp, hzero, hlast⟩ := getLast?_payment_loop origination_date (roundDp 6 (rate / 4))
    (roundDp 2 (principal / (months / 3 : ℕ))) k 0 principal hnumber
  have hdates : add_months origination_date (months / 3 * 3) = add_months origination_date months ↔
      EndsAtMaturity origination_date months := by
    rw [add_months_eq_iff hdate (by omega) (by omega), EndsAtMaturity]
    exact or_congr_left (by omega)
  have hone : months / 3 = 1 ↔ k = 0 := by omega
  have hpred : months / 3 - 1 = k := by omega
  rw [hone, hpred, ← hrepays, ← hdates, and_comm]
  constructor
  · rintro ⟨hrep, q, hq, -, hqdate⟩
    rw [hschedule] at hrep hq
    cases hp.symm.trans hq
    refine ⟨hrep, hlast.symm.trans (hqdate.trans ?_)⟩
    rw [← hmonths]
    rfl
  · rintro ⟨hrep, hsame⟩
    refine ⟨hschedule ▸ hrep, p, hschedule ▸ hp, hzero, hlast.trans (hsame.trans ?_)⟩
    rw [← hmonths]
    rfl

/-- Five million over five years. -/
theorem amortized_five_million :
    (generate_from_def 5000000 (11 / 200) new_year 60).Amortized :=
  (amortized_iff (by norm_num) representable_new_year (by decide)).mpr
    ⟨.inl (by decide), .inr ⟨500000000, by norm_num⟩, by decide +kernel⟩

/-- Six cents are repaid by nine payments of a cent and one of less than nothing, the payments of
ten months end after nine, and half a cent is never repaid. -/
theorem six_cents_and_ten_months_not_amortized :
    ¬(generate_from_def (3 / 50) (11 / 200) new_year 30).Amortized ∧
      ¬(generate_from_def 100 (11 / 200) new_year 10).Amortized ∧
        ¬(generate_from_def (2001 / 200) (11 / 200) new_year 6).Amortized := by
  refine ⟨fun h => ?_, fun h => ?_, fun h => ?_⟩
  · have hnegative : ∃ p ∈ (generate_from_def (3 / 50) (11 / 200) new_year
        30).amortization_schedule, p.principal_payment < 0 := by
      decide +kernel
    obtain ⟨p, hp, hlt⟩ := hnegative
    exact absurd (h.repays.nonneg p hp) (not_le.mpr hlt)
  · obtain ⟨p, hp, -, hdate⟩ := h.last
    obtain ⟨q, hq, -, hlast⟩ := getLast?_payment_loop new_year (roundDp 6 (11 / 200 / 4))
      (roundDp 2 (100 / (3 : ℕ))) 2 0 100 (rfl : 0 + 2 + 1 = 3)
    cases hp.symm.trans hq
    exact absurd (hlast.symm.trans hdate) (by decide +kernel)
  · exact absurd h.repays.total (by decide +kernel)

end Result

end Datasynth.Generators.DebtSchedules
