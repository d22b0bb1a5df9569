import Datasynth.Core.BusinessDays

/-!
How counting business days and adding them go together: the count between two dates leaves out
both of them, so that it misses the date at which two stretches meet, and the day arrived at.
-/

namespace Datasynth.Core.BusinessDayLaws

open Datasynth.Core.BusinessDays
open Datasynth.Core.BusinessDays.BusinessDayCalculator
open Datasynth.Lib.CivilCalendar
open Datasynth.Lib.MarkedLine

variable {calculator : BusinessDayCalculator} {a b c d e : Date} {n : ℤ}

section Counting

theorem business_days_between_self (d : Date) : calculator.business_days_between d d = 0 :=
  if_pos rfl

/-- The last day counts for itself. -/
theorem businessDays_eq_add (h : a < b) :
    calculator.businessDays a b =
      calculator.businessDays a (b.addDays (-1)) +
        if calculator.is_business_day b then 1 else 0 := by
  have hday : a.dayNumber < b.dayNumber := h
  have hstep := marks_step calculator.onLine (b.dayNumber - 1)
  rw [sub_add_cancel] at hstep
  have hsplit := marks_add calculator.onLine (a := a.dayNumber) (b := b.dayNumber - 1)
    (c := b.dayNumber) (by omega) (by omega)
  rw [hstep] at hsplit
  exact hsplit

theorem business_days_between_add (hab : a < b) (hbc : b < c) :
    calculator.business_days_between a c =
      calculator.business_days_between a b + calculator.business_days_between b c +
        if calculator.is_business_day b then 1 else 0 := by
  have hday : a.dayNumber < b.dayNumber := hab
  have hday' : b.dayNumber < c.dayNumber := hbc
  have hsplit : calculator.businessDays a (c.addDays (-1)) =
      calculator.businessDays a b + calculator.businessDays b (c.addDays (-1)) :=
    marks_add calculator.onLine (b := b.dayNumber) hday.le
      (show b.dayNumber ≤ c.dayNumber + -1 by omega)
  rw [business_days_between_of_lt (hab.trans hbc), business_days_between_of_lt hab,
    business_days_between_of_lt hbc, hsplit, businessDays_eq_add hab]
  push_cast
  omega

end Counting

section Adding

theorem business_days_between_add_business_days (hd : Representable d) (hn : 0 < n)
    (h : calculator.add_business_days d n = some e) :
    calculator.business_days_between d e = n - 1 := by
  obtain ⟨hlt, -, hbusiness, hcount⟩ := (add_business_days_eq_some_iff hd hn).mp h
  rw [businessDays_eq_add hlt, if_pos hbusiness] at hcount
  rw [business_days_between_of_lt hlt]
  push_cast at hcount
  omega

theorem add_business_days_neg (hd : Representable d)
    (hbusiness : calculator.is_business_day d = true) (hn : 0 < n)
    (h : calculator.add_business_days d n = some e) :
    calculator.add_business_days e (-n) = some d := by
  obtain ⟨hlt, he, hbusiness', hcount⟩ := (add_business_days_eq_some_iff hd hn).mp h
  rw [sub_business_days_eq_some_iff he hn]
  refine ⟨hlt, hd, hbusiness, ?_⟩
  rw [← hcount]
  exact congrArg Nat.cast (marks_pred calculator.onLine hlt hbusiness hbusiness')

theorem exists_add_business_days_iff (hd : Representable d) (hn : 0 < n) :
    (∃ e, calculator.add_business_days d n = some e) ↔
      ∃ last, Representable last ∧ n ≤ calculator.businessDays d last := by
  constructor
  · rintro ⟨e, h⟩
    obtain ⟨-, he, -, hcount⟩ := (add_business_days_eq_some_iff hd hn).mp h
    exact ⟨e, he, hcount.ge⟩
  · rintro ⟨last, hlast, hcount⟩
    have hpos : 0 < n.toNat := by omega
    have hle : n.toNat ≤ marks calculator.onLine d.dayNumber last.dayNumber := by
      rw [businessDays] at hcount
      omega
    obtain ⟨k, hlt, hk, hbusiness, hmarks⟩ := exists_marks_eq hpos hle
    refine ⟨⟨k⟩, (add_business_days_eq_some_iff hd hn).mpr ⟨hlt, ?_, hbusiness, ?_⟩⟩
    · exact hd.between (d := ⟨k⟩) hlast (show d.dayNumber ≤ k from hlt.le) hk
    · rw [businessDays, hmarks]
      omega

end Adding

/-- The laws of the arithmetic on business days.  Adding has a result as long as the calendar
has enough business days. -/
structure Laws (calculator : BusinessDayCalculator) : Prop where
  additive : ∀ a b c, a ≤ b → b ≤ c →
    calculator.business_days_between a c =
      calculator.business_days_between a b + calculator.business_days_between b c +
        if a < b ∧ b < c ∧ calculator.is_business_day b then 1 else 0
  inverse : ∀ d e n, Representable d → 0 ≤ n → calculator.add_business_days d n = some e →
    calculator.business_days_between d e = if n = 0 then 0 else n - 1
  round_trip : ∀ d e n, Representable d → calculator.is_business_day d = true → 0 ≤ n →
    calculator.add_business_days d n = some e → calculator.add_business_days e (-n) = some d
  defined : ∀ d n, Representable d → 0 < n →
    ((∃ e, calculator.add_business_days d n = some e) ↔
      ∃ last, Representable last ∧ n ≤ calculator.businessDays d last)

theorem business_day_laws (calculator : BusinessDayCalculator) : Laws calculator where
  additive a b c hab hbc := by
    rcases hab.eq_or_lt with rfl | hab
    · rw [business_days_between_self, zero_add, if_neg (fun h => h.1.false), add_zero]
    · rcases hbc.eq_or_lt with rfl | hbc
      · rw [business_days_between_self, if_neg (fun h => h.2.1.false), add_zero, add_zero]
      · rw [business_days_between_add hab hbc]
        simp only [hab, hbc, true_and]
  inverse d e n hd hn h := by
    rcases hn.eq_or_lt with rfl | hn
    · cases h
      exact business_days_between_self d
    · rw [if_neg hn.ne']
      exact business_days_between_add_business_days hd hn h
  round_trip d e n hd hbusiness hn h := by
    rcases hn.eq_or_lt with rfl | hn
    · cases h
      rfl
    · exact add_business_days_neg hd hbusiness hn h
  defined _ _ hd hn := exists_add_business_days_iff hd hn

/-- Saturdays and Sundays, and no holidays. -/
def weekdaysOnly : BusinessDayCalculator := .new ⟨[]⟩

/-- From a Monday to the next business day there is no business day between. -/
theorem next_day_is_not_counted :
    ¬ ∀ d e n, weekdaysOnly.is_business_day d = true → 0 ≤ n →
      weekdaysOnly.add_business_days d n = some e →
        weekdaysOnly.business_days_between d e = n := by
  intro h
  have hnext := h (.ofYmd 2024 6 10) (.ofYmd 2024 6 11) 1 (by decide) (by decide) (by decide)
  exact absurd hnext (by decide)

end Datasynth.Core.BusinessDayLaws

/-!
Settlement dates: when they are business days, when they come after the trade, and that a later
trade settles no earlier.
-/

namespace Datasynth.Core.SettlementDates

open Datasynth.Core.BusinessDayLaws
open Datasynth.Core.BusinessDays
open Datasynth.Core.BusinessDays.BusinessDayCalculator
open Datasynth.Lib.CivilCalendar
open Datasynth.Lib.MarkedLine

variable {calculator : BusinessDayCalculator} {d d' e e' t t' : Date} {n : ℤ}

section Searching

/-- The first business day from a date on. -/
theorem first_of_next_business_day (hd : Representable d)
    (h : calculator.next_business_day d true = some e) :
    d ≤ e ∧ calculator.is_business_day e = true ∧
      marks calculator.onLine (d.dayNumber - 1) e.dayNumber = 1 := by
  by_cases hbusiness : calculator.is_business_day d = true
  · rw [next_business_day, hbusiness] at h
    cases h
    have hstep := marks_pred_left calculator.onLine (le_refl d.dayNumber) hbusiness
    rw [marks_self] at hstep
    exact ⟨le_rfl, hbusiness, hstep⟩
  · rw [next_business_day_of_not d hbusiness, next_business_day_eq_add,
      add_business_days_eq_some_iff hd one_pos] at h
    obtain ⟨hlt, -, he, hcount⟩ := h
    have hday : d.dayNumber < e.dayNumber := hlt
    have hstep := marks_step calculator.onLine (d.dayNumber - 1)
    rw [sub_add_cancel] at hstep
    have hfirst : marks calculator.onLine (d.dayNumber - 1) d.dayNumber = 0 :=
      hstep.trans (if_neg hbusiness)
    refine ⟨hlt.le, he, ?_⟩
    rw [marks_add calculator.onLine (b := d.dayNumber) (by omega) hday.le, hfirst, zero_add]
    exact_mod_cast hcount

/-- The last business day up to a date. -/
theorem prev_business_day_eq_some_iff (hd : Representable d) :
    calculator.prev_business_day d true = some e ↔
      e ≤ d ∧ Representable e ∧ calculator.is_business_day e = true ∧
        ∀ b, calculator.is_business_day b = true → b ≤ d → b ≤ e := by
  by_cases hbusiness : calculator.is_business_day d = true
  · rw [prev_business_day, hbusiness, Bool.true_and, if_pos rfl, Option.some.injEq]
    constructor
    · rintro rfl
      exact ⟨le_rfl, hd, hbusiness, fun _ _ hb => hb⟩
    · rintro ⟨hle, -, -, hlast⟩
      exact le_antisymm (hlast d hbusiness le_rfl) hle
  · have hsearch : calculator.prev_business_day d true =
        calculator.addLoop (-1) rangeDays (0 + 1) d := by
      rw [prev_business_day, if_neg (by simpa using hbusiness), searchLoop_eq_addLoop]
    rw [hsearch, addLoop_back_eq_some_iff hd]
    have hcount : e < d → calculator.is_business_day e = true →
        (calculator.businessDays (e.addDays (-1)) (d.addDays (-1)) = 0 + 1 ↔
          ∀ k, e.dayNumber < k → k ≤ d.dayNumber - 1 → ¬ calculator.onLine k = true) := by
      intro hlt he
      have hday : e.dayNumber < d.dayNumber := hlt
      have hstep : calculator.businessDays (e.addDays (-1)) (d.addDays (-1)) =
          marks calculator.onLine e.dayNumber (d.dayNumber - 1) + 1 :=
        marks_pred_left calculator.onLine (show e.dayNumber ≤ d.dayNumber - 1 by omega) he
      rw [hstep, ← marks_eq_zero_iff]
      omega
    constructor
    · rintro ⟨hlt, hrange, he, hone⟩
      refine ⟨hlt.le, hrange, he, fun b hb hbd => ?_⟩
      by_contra hlater
      rw [not_le] at hlater
      have hne : b.dayNumber ≠ d.dayNumber := by
        intro hsame
        rw [Date.dayNumber_injective hsame] at hb
        exact hbusiness hb
      have hbd' : b.dayNumber ≤ d.dayNumber := hbd
      exact (hcount hlt he).mp hone b.dayNumber hlater (by omega) hb
    · rintro ⟨hle, hrange, he, hlast⟩
      have hlt : e < d := by
        apply lt_of_le_of_ne hle
        rintro rfl
        exact hbusiness he
      refine ⟨hlt, hrange, he, (hcount hlt he).mpr fun k hk hkd hmark => ?_⟩
      have hkd' : Date.mk k ≤ d := show k ≤ d.dayNumber by omega
      exact absurd hk (not_lt.mpr (hlast ⟨k⟩ hmark hkd'))

end Searching

section Months

/-- Every month that the calendar has holds a business day. -/
def BusyMonths (calculator : BusinessDayCalculator) : Prop :=
  ∀ k : ℤ, yearInRange (k / 12) = true →
    ∃ b : Date, b.monthNumber = k ∧ calculator.is_business_day b = true

/-- The last day of a month. -/
def lastDay (k : ℤ) : Date := (monthStart (k + 1)).addDays (-1)

theorem le_lastDay_iff {k : ℤ} : d ≤ lastDay k ↔ d < monthStart (k + 1) := by
  have hday : d ≤ lastDay k ↔ d.dayNumber ≤ (monthStart (k + 1)).dayNumber + -1 := Iff.rfl
  have hday' : d < monthStart (k + 1) ↔ d.dayNumber < (monthStart (k + 1)).dayNumber := Iff.rfl
  rw [hday, hday']
  omega

theorem monthStart_le_lastDay (k : ℤ) : monthStart k ≤ lastDay k :=
  le_lastDay_iff.mpr (monthStart_lt_succ k)

theorem monthNumber_lastDay (k : ℤ) : (lastDay k).monthNumber = k :=
  monthNumber_eq_iff.mpr ⟨monthStart_le_lastDay k, le_lastDay_iff.mp le_rfl⟩

theorem representable_of_month (ht : Representable t) (h : d.monthNumber = t.monthNumber) :
    Representable d := by
  rw [representable_iff, Date.year_eq] at ht ⊢
  rw [h]
  exact ht

theorem last_day_of_month_eq_some_iff (ht : Representable t) :
    last_day_of_month t = some e ↔
      yearInRange ((t.monthNumber + 1) / 12) = true ∧ e = lastDay t.monthNumber := by
  obtain ⟨hmonth, -⟩ := t.month_spec
  have hfirst : ∀ (year : ℤ) (month : ℕ), 1 ≤ month ∧ month ≤ 12 →
      year * 12 + month - 1 = t.monthNumber + 1 →
        Date.ofYmd year month 1 = monthStart (t.monthNumber + 1) := by
    intro year month hmonth hnumber
    rw [ofYmd_eq year hmonth le_rfl, hnumber]
    exact Date.dayNumber_injective (by simp [Date.addDays])
  rw [last_day_of_month]
  split
  · rename_i hdecember
    have hyear : (t.monthNumber + 1) / 12 = t.year + 1 := by
      rw [Date.monthNumber]
      omega
    rw [hyear, hfirst (t.year + 1) 1 (by omega) (by rw [Date.monthNumber]; omega)]
    split
    · rename_i hrange
      rw [hrange, Option.some.injEq, eq_comm]
      exact (and_iff_right rfl).symm
    · rename_i hrange
      simp [hrange]
  · rename_i hother
    have hyear : (t.monthNumber + 1) / 12 = t.year := by
      rw [Date.monthNumber]
      omega
    rw [hyear, hfirst t.year (t.month + 1) (by omega) (by rw [Date.monthNumber]; omega),
      Option.some.injEq, eq_comm]
    exact (and_iff_right ht).symm

/-- Every further month has a business day to count. -/
theorem le_marks_of_busyMonths (hbusy : BusyMonths calculator) (ht : Representable t) (months : ℕ)
    (hlater : yearInRange ((t.monthNumber + months) / 12) = true) :
    months ≤ marks calculator.onLine t.dayNumber
      ((monthStart (t.monthNumber + 1 + months)).dayNumber - 1) := by
  rw [representable_iff, Date.year_eq] at ht
  induction months with
  | zero => exact Nat.zero_le _
  | succ months ih =>
      have hearlier : yearInRange ((t.monthNumber + months) / 12) = true := by
        rw [yearInRange, Bool.and_eq_true, decide_eq_true_eq, decide_eq_true_eq] at hlater ⊢
        omega
      obtain ⟨b, hmonth, hbusiness⟩ := hbusy (t.monthNumber + 1 + months) (by
        rw [show t.monthNumber + 1 + (months : ℤ) = t.monthNumber + (months + 1 : ℕ) by omega]
        exact hlater)
      obtain ⟨hlow, hhigh⟩ := monthNumber_eq_iff.mp hmonth
      have hstart : t.dayNumber < (monthStart (t.monthNumber + 1 + months)).dayNumber :=
        lt_monthStart_iff.mpr (by omega)
      have hb : (monthStart (t.monthNumber + 1 + months)).dayNumber ≤ b.dayNumber := hlow
      have hb' : b.dayNumber < (monthStart (t.monthNumber + 1 + months + 1)).dayNumber := hhigh
      have hnext : t.monthNumber + 1 + ((months + 1 : ℕ) : ℤ) = t.monthNumber + 1 + months + 1 := by
        omega
      have hbefore := marks_add calculator.onLine (a := t.dayNumber)
        (b := (monthStart (t.monthNumber + 1 + months)).dayNumber - 1)
        (c := (monthStart (t.monthNumber + 1 + months + 1)).dayNumber - 1) (by omega) (by omega)
      have hmonth' := marks_add calculator.onLine
        (a := (monthStart (t.monthNumber + 1 + months)).dayNumber - 1) (b := b.dayNumber)
        (c := (monthStart (t.monthNumber + 1 + months + 1)).dayNumber - 1) (by omega) (by omega)
      have hpos := marks_pos calculator.onLine
        (show (monthStart (t.monthNumber + 1 + months)).dayNumber - 1 < b.dayNumber by omega)
        hbusiness
      have hcounted := ih hearlier
      rw [hnext]
      omega

/-- The last business day of the month, as long as the calendar has the next month. -/
theorem last_business_day_of_month_eq_some_iff (hbusy : BusyMonths calculator)
    (ht : Representable t) :
    calculator.last_business_day_of_month t = some e ↔
      yearInRange ((t.monthNumber + 1) / 12) = true ∧ e.monthNumber = t.monthNumber ∧
        calculator.is_business_day e = true ∧
          ∀ b, calculator.is_business_day b = true → b.monthNumber = t.monthNumber → b ≤ e := by
  have hlastDay : Representable (lastDay t.monthNumber) :=
    representable_of_month ht (monthNumber_lastDay _)
  rw [last_business_day_of_month, Option.bind_eq_some_iff]
  constructor
  · rintro ⟨last, hlast, hprev⟩
    obtain ⟨hlater, rfl⟩ := (last_day_of_month_eq_some_iff ht).mp hlast
    obtain ⟨hle, -, he, hmost⟩ := (prev_business_day_eq_some_iff hlastDay).mp hprev
    obtain ⟨b, hmonth, hb⟩ := hbusy t.monthNumber (by rwa [Representable, Date.year_eq] at ht)
    obtain ⟨hstart, hend⟩ := monthNumber_eq_iff.mp hmonth
    refine ⟨hlater, monthNumber_eq_iff.mpr ⟨?_, le_lastDay_iff.mp hle⟩, he, ?_⟩
    · exact hstart.trans (hmost b hb (le_lastDay_iff.mpr hend))
    · intro b' hb' hmonth'
      exact hmost b' hb' (le_lastDay_iff.mpr (monthNumber_eq_iff.mp hmonth').2)
  · rintro ⟨hlater, hmonth, he, hmost⟩
    obtain ⟨hstart, hend⟩ := monthNumber_eq_iff.mp hmonth
    refine ⟨_, (last_day_of_month_eq_some_iff ht).mpr ⟨hlater, rfl⟩,
      (prev_business_day_eq_some_iff hlastDay).mpr ⟨le_lastDay_iff.mpr hend,
        representable_of_month ht hmonth, he, fun b hb hbd => ?_⟩⟩
    rcases lt_or_ge b (monthStart t.monthNumber) with hbefore | hin
    · exact hbefore.le.trans hstart
    · exact hmost b hb (monthNumber_eq_iff.mpr ⟨hin, le_lastDay_iff.mp hbd⟩)

theorem exists_last_business_day_of_month (hbusy : BusyMonths calculator) (ht : Representable t)
    (hlater : yearInRange ((t.monthNumber + 1) / 12) = true) :
    ∃ e, calculator.last_business_day_of_month t = some e := by
  obtain ⟨b, hmonth, hb⟩ := hbusy t.monthNumber (by rwa [Representable, Date.year_eq] at ht)
  obtain ⟨hstart, hend⟩ := monthNumber_eq_iff.mp hmonth
  have hble : b.dayNumber ≤ (lastDay t.monthNumber).dayNumber := le_lastDay_iff.mpr hend
  obtain ⟨k, hbk, hk, hbusiness, hmost⟩ := exists_last_mark calculator.onLine hble hb
  have hstart' : monthStart t.monthNumber ≤ ⟨k⟩ := hstart.trans (show b.dayNumber ≤ k from hbk)
  have hend' : Date.mk k < monthStart (t.monthNumber + 1) :=
    le_lastDay_iff.mp (show k ≤ (lastDay t.monthNumber).dayNumber from hk)
  refine ⟨⟨k⟩, (last_business_day_of_month_eq_some_iff hbusy ht).mpr ⟨hlater,
    monthNumber_eq_iff.mpr ⟨hstart', hend'⟩, hbusiness, fun b' hb' hmonth' => ?_⟩⟩
  by_contra hlt
  have hlt' : k < b'.dayNumber := not_le.mp hlt
  exact hmost b'.dayNumber hlt' (le_lastDay_iff.mpr (monthNumber_eq_iff.mp hmonth').2) hb'

theorem exists_add_business_days (hbusy : BusyMonths calculator) (ht : Representable t)
    (hn : 0 < n) (hlater : yearInRange ((t.monthNumber + n) / 12) = true) :
    ∃ e, calculator.add_business_days t n = some e := by
  obtain ⟨m, rfl⟩ : ∃ m : ℕ, n = m := ⟨n.toNat, by omega⟩
  refine (exists_add_business_days_iff ht hn).mpr ⟨lastDay (t.monthNumber + m), ?_, ?_⟩
  · rwa [Representable, Date.year_eq, monthNumber_lastDay]
  · have hmarks := le_marks_of_busyMonths hbusy ht m hlater
    have hnext : t.monthNumber + 1 + (m : ℤ) = t.monthNumber + m + 1 := by omega
    rw [hnext] at hmarks
    exact_mod_cast hmarks

end Months

section Contract

/-- The rules under which nothing settles some days before the trade. -/
def Forward : SettlementType → Prop
  | .tPlus days => 0 ≤ days
  | _ => True

/-- How many months the calendar has to go on for a settlement date to be found. -/
def monthsAhead : SettlementType → ℤ
  | .tPlus days => days
  | _ => 1

/-- What the settlement dates of a calculator come to.  With no days to wait the trade date itself
is taken, and the end of the month is its last business day, also for a trade after it. -/
structure Contract (calculator : BusinessDayCalculator) : Prop where
  on_trade_date : ∀ t, calculator.settlement_date t (.tPlus 0) = some t
  business : ∀ s t e, Representable t → Forward s → s ≠ .tPlus 0 →
    calculator.settlement_date t s = some e → calculator.is_business_day e = true
  not_before : ∀ s t e, Representable t → Forward s → s ≠ .monthEnd →
    calculator.settlement_date t s = some e → t ≤ e
  month_end : ∀ t e, Representable t → calculator.settlement_date t .monthEnd = some e →
    e.monthNumber = t.monthNumber ∧
      ∀ b, calculator.is_business_day b = true → b.monthNumber = t.monthNumber → b ≤ e
  monotone : ∀ s t t' e e', Representable t → Representable t' → Forward s → t ≤ t' →
    calculator.settlement_date t s = some e → calculator.settlement_date t' s = some e' → e ≤ e'
  defined : ∀ s t, Representable t → Forward s →
    yearInRange ((t.monthNumber + monthsAhead s) / 12) = true →
      ∃ e, calculator.settlement_date t s = some e

theorem settlement_date_tPlus_zero (t : Date) :
    calculator.settlement_date t (.tPlus 0) = some t := by
  rw [settlement_date, add_business_days, if_pos rfl]

theorem add_business_days_monotone (ht : Representable t) (ht' : Representable t') (hn : 0 < n)
    (hle : t ≤ t') (h : calculator.add_business_days t n = some e)
    (h' : calculator.add_business_days t' n = some e') : e ≤ e' := by
  obtain ⟨-, -, he, hcount⟩ := (add_business_days_eq_some_iff ht hn).mp h
  obtain ⟨hlt', -, -, hcount'⟩ := (add_business_days_eq_some_iff ht' hn).mp h'
  have hsame : calculator.businessDays t e = calculator.businessDays t' e' := by
    rw [← Nat.cast_inj (R := ℤ), hcount, hcount']
  exact le_of_marks_eq (p := calculator.onLine) hle hlt' he hsame rfl

theorem last_business_day_of_month_monotone (hbusy : BusyMonths calculator)
    (ht : Representable t) (ht' : Representable t') (hle : t ≤ t')
    (h : calculator.last_business_day_of_month t = some e)
    (h' : calculator.last_business_day_of_month t' = some e') : e ≤ e' := by
  obtain ⟨-, hmonth, he, -⟩ := (last_business_day_of_month_eq_some_iff hbusy ht).mp h
  obtain ⟨-, hmonth', -, hmost'⟩ := (last_business_day_of_month_eq_some_iff hbusy ht').mp h'
  rcases (Date.monthNumber_mono hle).eq_or_lt with hsame | hlater
  · exact hmost' e he (hmonth.trans hsame)
  · by_contra hlt
    have hback := Date.monthNumber_mono (not_le.mp hlt).le
    omega

theorem settlement_contract (hbusy : BusyMonths calculator) : Contract calculator where
  on_trade_date := settlement_date_tPlus_zero
  business s t e ht hforward hs h := by
    cases s with
    | tPlus days =>
        have hdays : 0 < days := lt_of_le_of_ne hforward fun hzero => hs (hzero ▸ rfl)
        exact ((add_business_days_eq_some_iff ht hdays).mp h).2.2.1
    | sameDay => exact (first_of_next_business_day ht h).2.1
    | nextBusinessDay =>
        rw [settlement_date, next_business_day_eq_add] at h
        exact ((add_business_days_eq_some_iff ht one_pos).mp h).2.2.1
    | monthEnd => exact ((last_business_day_of_month_eq_some_iff hbusy ht).mp h).2.2.1
  not_before s t e ht hforward hs h := by
    cases s with
    | tPlus days =>
        rcases (show 0 ≤ days from hforward).eq_or_lt with rfl | hdays
        · rw [settlement_date_tPlus_zero] at h
          cases h
          exact le_rfl
        · exact ((add_business_days_eq_some_iff ht hdays).mp h).1.le
    | sameDay => exact (first_of_next_business_day ht h).1
    | nextBusinessDay =>
        rw [settlement_date, next_business_day_eq_add] at h
        exact ((add_business_days_eq_some_iff ht one_pos).mp h).1.le
    | monthEnd => exact absurd rfl hs
  month_end t e ht h := by
    obtain ⟨-, hmonth, -, hmost⟩ := (last_business_day_of_month_eq_some_iff hbusy ht).mp h
    exact ⟨hmonth, hmost⟩
  monotone s t t' e e' ht ht' hforward hle h h' := by
    cases s with
    | tPlus days =>
        rcases (show 0 ≤ days from hforward).eq_or_lt with rfl | hdays
        · rw [settlement_date_tPlus_zero] at h h'
          cases h
          cases h'
          exact hle
        · exact add_business_days_monotone ht ht' hdays hle h h'
    | sameDay =>
        obtain ⟨-, he, hcount⟩ := first_of_next_business_day ht h
        obtain ⟨hle', -, hcount'⟩ := first_of_next_business_day ht' h'
        have hday : t.dayNumber ≤ t'.dayNumber := hle
        have hday' : t'.dayNumber ≤ e'.dayNumber := hle'
        have hlow : t.dayNumber - 1 ≤ t'.dayNumber - 1 := by omega
        have hlt : t'.dayNumber - 1 < e'.dayNumber := by omega
        exact le_of_marks_eq (p := calculator.onLine) hlow hlt he hcount hcount'
    | nextBusinessDay =>
        rw [settlement_date, next_business_day_eq_add] at h h'
        exact add_business_days_monotone ht ht' one_pos hle h h'
    | monthEnd => exact last_business_day_of_month_monotone hbusy ht ht' hle h h'
  defined s t ht hforward hlater := by
    cases s with
    | tPlus days =>
        rcases (show 0 ≤ days from hforward).eq_or_lt with rfl | hdays
        · exact ⟨t, settlement_date_tPlus_zero t⟩
        · exact exists_add_business_days hbusy ht hdays hlater
    | sameDay =>
        by_cases hbusiness : calculator.is_business_day t = true
        · exact ⟨t, if_pos (by rw [hbusiness]; rfl)⟩
        · obtain ⟨e, he⟩ := exists_add_business_days hbusy ht one_pos hlater
          refine ⟨e, ?_⟩
          rw [settlement_date, next_business_day_of_not t hbusiness, next_business_day_eq_add, he]
    | nextBusinessDay =>
        obtain ⟨e, he⟩ := exists_add_business_days hbusy ht one_pos hlater
        refine ⟨e, ?_⟩
        rw [settlement_date, next_business_day_eq_add, he]
    | monthEnd => exact exists_last_business_day_of_month hbusy ht hlater

theorem monthNumber_addDays_monthStart (k : ℤ) {days : ℕ} (hdays : days < 28) :
    ((monthStart k).addDays days).monthNumber = k := by
  obtain ⟨year, month, hmonth, rfl⟩ : ∃ (year : ℤ) (month : ℕ), (1 ≤ month ∧ month ≤ 12) ∧
      k = year * 12 + month - 1 := ⟨k / 12, (k % 12).toNat + 1, by omega, by omega⟩
  have hlength := le_daysInMonth year month
  rw [monthNumber_eq_iff, sub_add_cancel, monthStart_succ year hmonth]
  constructor
  · show (monthStart _).dayNumber ≤ (monthStart _).dayNumber + _
    omega
  · show (monthStart _).dayNumber + _ < (monthStart _).dayNumber + _
    omega

/-- The first days of a month are not all on a weekend. -/
theorem busyMonths_weekdaysOnly : BusyMonths weekdaysOnly := by
  intro k _
  have hbusiness : ∀ d : Date, d.dayNumber % 7 ≠ 2 → d.dayNumber % 7 ≠ 3 →
      weekdaysOnly.is_business_day d = true := by
    intro d hsat hsun
    have hweekday : weekday d ∉ weekdaysOnly.weekend_days := by
      have hlow := Int.emod_nonneg d.dayNumber (show (7 : ℤ) ≠ 0 by decide)
      have hhigh := Int.emod_lt_of_pos d.dayNumber (show (0 : ℤ) < 7 by decide)
      rw [weekday]
      generalize d.dayNumber % 7 = r at hsat hsun hlow hhigh
      interval_cases r <;> simp_all [weekdaysOnly, BusinessDayCalculator.new]
    have hweekend : weekdaysOnly.is_weekend d = false := decide_eq_false hweekday
    rw [is_business_day, hweekend]
    rfl
  have hmonth : ∀ n : ℕ, n < 28 → ((monthStart k).addDays n).monthNumber = k :=
    fun n hn => monthNumber_addDays_monthStart k hn
  by_cases hweekend : (monthStart k).dayNumber % 7 = 2 ∨ (monthStart k).dayNumber % 7 = 3
  · refine ⟨(monthStart k).addDays (2 : ℕ), hmonth 2 (by decide), hbusiness _ ?_ ?_⟩
    all_goals
      show ((monthStart k).dayNumber + 2) % 7 ≠ _
      omega
  · refine ⟨(monthStart k).addDays (0 : ℕ), hmonth 0 (by decide), hbusiness _ ?_ ?_⟩
    all_goals
      show ((monthStart k).dayNumber + 0) % 7 ≠ _
      omega

theorem weekdays_settlement_contract : Contract weekdaysOnly :=
  settlement_contract busyMonths_weekdaysOnly

/-- A trade on a Saturday settles on it, and one on the last Sunday of a month settles before. -/
theorem weekend_trades_settle_early :
    (¬ ∀ calculator, BusyMonths calculator → ∀ s t e, Representable t → Forward s →
      calculator.settlement_date t s = some e → calculator.is_business_day e = true) ∧
    ¬ ∀ calculator, BusyMonths calculator → ∀ s t e, Representable t → Forward s →
      calculator.settlement_date t s = some e → t ≤ e := by
  constructor
  · intro h
    have hsaturday := h weekdaysOnly busyMonths_weekdaysOnly (.tPlus 0) (.ofYmd 2024 6 15)
      (.ofYmd 2024 6 15) rfl le_rfl rfl
    exact absurd hsaturday (by decide)
  · intro h
    have hsunday := h weekdaysOnly busyMonths_weekdaysOnly .monthEnd (.ofYmd 2024 6 30)
      (.ofYmd 2024 6 28) rfl trivial (by decide)
    exact absurd hsunday (by decide)

end Contract

end Datasynth.Core.SettlementDates
