import Mathlib.Data.Finset.Insert
import Datasynth.Lib.DoubleValues
import Datasynth.Lib.MarkedLine
import Datasynth.Lib.CivilCalendar

/-!
Business days: which days are, the arithmetic on them, and the settlement dates of trades.
A date past the ends of the calendar is a panic of the source.
-/

namespace Datasynth.Core.BusinessDays

open Datasynth.Lib.CivilCalendar
open Datasynth.Lib.DoubleValues
open Datasynth.Lib.MarkedLine

section Calendar

inductive Weekday where
  | mon
  | tue
  | wed
  | thu
  | fri
  | sat
  | sun
deriving DecidableEq, Repr

/-- The first day of 1970 was a Thursday. -/
def weekday (d : Date) : Weekday :=
  match d.dayNumber % 7 with
  | 0 => .thu
  | 1 => .fri
  | 2 => .sat
  | 3 => .sun
  | 4 => .mon
  | 5 => .tue
  | _ => .wed

inductive HalfDayPolicy where
  | fullDay
  | halfDay
  | nonBusinessDay
deriving DecidableEq, Repr

structure Holiday where
  date : Date
  activity_multiplier : F64
  is_bank_holiday : Bool

structure HolidayCalendar where
  holidays : List Holiday

namespace HolidayCalendar

variable (calendar : HolidayCalendar) (date : Date)

def is_holiday : Bool := calendar.holidays.any fun h => h.date = date

def get_multiplier : F64 :=
  ((calendar.holidays.find? fun h => h.date = date).map (·.activity_multiplier)).getD (.finite 1)

def get_holidays : List Holiday := calendar.holidays.filter fun h => h.date = date

end HolidayCalendar

/-- The calculator; of the half-days only their dates are looked at. -/
structure BusinessDayCalculator where
  calendar : HolidayCalendar
  weekend_days : Finset Weekday
  half_day_policy : HalfDayPolicy
  half_days : Finset Date

def BusinessDayCalculator.new (calendar : HolidayCalendar) : BusinessDayCalculator where
  calendar := calendar
  weekend_days := {.sat, .sun}
  half_day_policy := .fullDay
  half_days := ∅

end Calendar

inductive SettlementType where
  | tPlus (days : ℤ)
  | sameDay
  | nextBusinessDay
  | monthEnd
deriving DecidableEq, Repr

namespace BusinessDayCalculator

section Days

variable (calculator : BusinessDayCalculator) (date : Date)

def is_weekend : Bool := weekday date ∈ calculator.weekend_days

def is_holiday : Bool := calculator.calendar.is_holiday date

def is_half_day : Bool := date ∈ calculator.half_days

def is_business_day : Bool :=
  if calculator.is_weekend date then false
  else if calculator.calendar.is_holiday date &&
      ((calculator.calendar.get_holidays date).any (·.is_bank_holiday) ||
        (calculator.calendar.get_multiplier date).lt (.finite (nearest (1 / 10)))) then false
  else if calculator.is_half_day date && calculator.half_day_policy = .nonBusinessDay then false
  else true

end Days

section Arithmetic

variable (calculator : BusinessDayCalculator)

/-- The date a number of days later, unless the calendar ends before. -/
def shift (date : Date) (days : ℤ) : Option Date :=
  if yearInRange (date.addDays days).year then some (date.addDays days) else none

/-- No two dates of the calendar are so many days apart. -/
def rangeDays : ℕ := 200000000

/-- The loop of `add_business_days`. -/
def addLoop (direction : ℤ) : ℕ → ℕ → Date → Option Date
  | _, 0, current => some current
  | 0, _ + 1, _ => none
  | fuel + 1, remaining + 1, current =>
      (shift current direction).bind fun current =>
        addLoop direction fuel
          (if calculator.is_business_day current then remaining else remaining + 1) current

def add_business_days (date : Date) (days : ℤ) : Option Date :=
  if days = 0 then some date
  else addLoop calculator (if 0 < days then 1 else -1) rangeDays days.natAbs date

def sub_business_days (date : Date) (days : ℤ) : Option Date :=
  calculator.add_business_days date (-days)

/-- The loop of `next_business_day` and, with the other stride, of `prev_business_day`. -/
def searchLoop (stride : ℤ) : ℕ → Date → Option Date
  | 0, _ => none
  | fuel + 1, current =>
      (shift current stride).bind fun current =>
        if calculator.is_business_day current then some current else searchLoop stride fuel current

def next_business_day (date : Date) (inclusive : Bool) : Option Date :=
  if inclusive && calculator.is_business_day date then some date
  else calculator.searchLoop 1 rangeDays date

def prev_business_day (date : Date) (inclusive : Bool) : Option Date :=
  if inclusive && calculator.is_business_day date then some date
  else calculator.searchLoop (-1) rangeDays date

/-- The loop of `business_days_between`, over at most `fuel` days. -/
def countLoop (later : Date) : ℕ → Date → ℤ → ℤ
  | 0, _, count => count
  | fuel + 1, current, count =>
      if current < later then
        countLoop later fuel (current.addDays 1)
          (if calculator.is_business_day current then count + 1 else count)
      else count

def business_days_between (start finish : Date) : ℤ :=
  if start = finish then 0
  else
    let earlier := min start finish
    let later := max start finish
    let sign := if start < finish then 1 else -1
    calculator.countLoop later (earlier.daysUntil later).toNat (earlier.addDays 1) 0 * sign

/-- The day before the first day of the next month. -/
def last_day_of_month (date : Date) : Option Date :=
  let year := date.year
  let month := date.month
  if month = 12 then
    if yearInRange (year + 1) then some ((Date.ofYmd (year + 1) 1 1).addDays (-1)) else none
  else some ((Date.ofYmd year (month + 1) 1).addDays (-1))

def last_business_day_of_month (date : Date) : Option Date :=
  (last_day_of_month date).bind fun last_calendar_day =>
    calculator.prev_business_day last_calendar_day true

def settlement_date (trade_date : Date) (settlement : SettlementType) : Option Date :=
  match settlement with
  | .tPlus days => calculator.add_business_days trade_date days
  | .sameDay => calculator.next_business_day trade_date true
  | .nextBusinessDay => calculator.next_business_day trade_date false
  | .monthEnd => calculator.last_business_day_of_month trade_date

end Arithmetic

section Range

/-- The date is one that the calendar has. -/
def Representable (d : Date) : Prop := yearInRange d.year = true

theorem year_mono {d d' : Date} (h : d ≤ d') : d.year ≤ d'.year := by
  rw [Date.year_eq, Date.year_eq]
  exact Int.ediv_le_ediv (by decide) (Date.monthNumber_mono h)

theorem representable_iff {d : Date} : Representable d ↔ -262143 ≤ d.year ∧ d.year ≤ 262142 := by
  rw [Representable, yearInRange, Bool.and_eq_true, decide_eq_true_eq, decide_eq_true_eq]

theorem Representable.between {a d b : Date} (ha : Representable a) (hb : Representable b)
    (had : a ≤ d) (hdb : d ≤ b) : Representable d := by
  rw [representable_iff] at ha hb ⊢
  have hlow := year_mono had
  have hhigh := year_mono hdb
  omega

theorem Representable.le_add_rangeDays {a b : Date} (ha : Representable a)
    (hb : Representable b) : b.dayNumber ≤ a.dayNumber + rangeDays := by
  rw [representable_iff, Date.year_eq] at ha hb
  have hlow : monthStart (-262143 * 12) ≤ a := by
    rw [monthStart_le_iff]
    omega
  have hhigh : b < monthStart (262143 * 12) := by
    rw [lt_monthStart_iff]
    omega
  have hfirst : (monthStart (-262143 * 12)).dayNumber ≤ a.dayNumber := hlow
  have hlast : b.dayNumber < (monthStart (262143 * 12)).dayNumber := hhigh
  have hdays : (monthStart (262143 * 12)).dayNumber - (monthStart (-262143 * 12)).dayNumber ≤
      rangeDays := by decide
  omega

end Range

section Loops

variable (calculator : BusinessDayCalculator)

/-- The business days on the line of the days. -/
def onLine (k : ℤ) : Bool := calculator.is_business_day ⟨k⟩

theorem addLoop_eq_walk (direction : ℤ) (fuel remaining : ℕ) (d : Date) :
    calculator.addLoop direction fuel remaining d =
      (walk calculator.onLine (fun k => yearInRange (Date.mk k).year) direction fuel remaining
        d.dayNumber).map Date.mk := by
  induction fuel generalizing remaining d with
  | zero => cases remaining <;> rfl
  | succ fuel ih =>
      cases remaining with
      | zero => rfl
      | succ remaining =>
          rw [addLoop, walk, shift]
          have hday : Date.mk (d.dayNumber + direction) = d.addDays direction := rfl
          rw [hday]
          split
          · rw [Option.bind_some, ih]
            rfl
          · rfl

theorem searchLoop_eq_addLoop (stride : ℤ) (fuel : ℕ) (d : Date) :
    calculator.searchLoop stride fuel d = calculator.addLoop stride fuel 1 d := by
  induction fuel generalizing d with
  | zero => rfl
  | succ fuel ih =>
      rw [searchLoop, addLoop]
      congr 1
      funext current
      split
      · cases fuel <;> rfl
      · exact ih current

/-- The business days behind a date, up to another one. -/
noncomputable def businessDays (a b : Date) : ℕ := marks calculator.onLine a.dayNumber b.dayNumber

variable {calculator} {d e : Date}

theorem addLoop_forward_eq_some_iff (hd : Representable d) {n : ℕ} :
    calculator.addLoop 1 rangeDays (n + 1) d = some e ↔
      d < e ∧ Representable e ∧ calculator.is_business_day e = true ∧
        calculator.businessDays d e = n + 1 := by
  rw [addLoop_eq_walk, Option.map_eq_some_iff]
  constructor
  · rintro ⟨k, hwalk, rfl⟩
    obtain ⟨hlt, -, hrange, hk, hcount⟩ := (walk_eq_some_iff _ _).mp hwalk
    exact ⟨hlt, hrange k hlt le_rfl, hk, hcount⟩
  · rintro ⟨hlt, he, hbusiness, hcount⟩
    refine ⟨e.dayNumber, (walk_eq_some_iff _ _).mpr ⟨hlt, hd.le_add_rangeDays he, ?_, hbusiness,
      hcount⟩, rfl⟩
    intro k hk hke
    exact hd.between (d := ⟨k⟩) he (show d.dayNumber ≤ k from hk.le) hke

theorem addLoop_back_eq_some_iff (hd : Representable d) {n : ℕ} :
    calculator.addLoop (-1) rangeDays (n + 1) d = some e ↔
      e < d ∧ Representable e ∧ calculator.is_business_day e = true ∧
        calculator.businessDays (e.addDays (-1)) (d.addDays (-1)) = n + 1 := by
  rw [addLoop_eq_walk, Option.map_eq_some_iff]
  constructor
  · rintro ⟨k, hwalk, rfl⟩
    obtain ⟨hlt, -, hrange, hk, hcount⟩ := (walk_back_eq_some_iff _ _).mp hwalk
    exact ⟨hlt, hrange k le_rfl hlt, hk, hcount⟩
  · rintro ⟨hlt, he, hbusiness, hcount⟩
    refine ⟨e.dayNumber, (walk_back_eq_some_iff _ _).mpr ⟨hlt, he.le_add_rangeDays hd, ?_,
      hbusiness, hcount⟩, rfl⟩
    intro k hk hkd
    exact he.between (d := ⟨k⟩) hd hk (show k ≤ d.dayNumber from hkd.le)

theorem add_business_days_eq_some_iff (hd : Representable d) {n : ℤ} (hn : 0 < n) :
    calculator.add_business_days d n = some e ↔
      d < e ∧ Representable e ∧ calculator.is_business_day e = true ∧
        (calculator.businessDays d e : ℤ) = n := by
  obtain ⟨m, rfl⟩ : ∃ m : ℕ, n = ((m + 1 : ℕ) : ℤ) := Int.eq_succ_of_zero_lt hn
  rw [add_business_days, if_neg hn.ne', if_pos hn, Int.natAbs_natCast,
    addLoop_forward_eq_some_iff hd, Nat.cast_inj]

theorem sub_business_days_eq_some_iff (hd : Representable d) {n : ℤ} (hn : 0 < n) :
    calculator.add_business_days d (-n) = some e ↔
      e < d ∧ Representable e ∧ calculator.is_business_day e = true ∧
        (calculator.businessDays (e.addDays (-1)) (d.addDays (-1)) : ℤ) = n := by
  obtain ⟨m, rfl⟩ : ∃ m : ℕ, n = ((m + 1 : ℕ) : ℤ) := Int.eq_succ_of_zero_lt hn
  rw [add_business_days, if_neg (by omega), if_neg (by omega), Int.natAbs_neg,
    Int.natAbs_natCast, addLoop_back_eq_some_iff hd, Nat.cast_inj]

theorem next_business_day_of_not (d : Date) (h : ¬ calculator.is_business_day d = true)
    (inclusive : Bool) :
    calculator.next_business_day d inclusive = calculator.next_business_day d false := by
  rw [next_business_day, next_business_day, Bool.false_and]
  simp [h]

theorem next_business_day_eq_add (d : Date) :
    calculator.next_business_day d false = calculator.add_business_days d 1 := by
  rw [next_business_day, Bool.false_and, searchLoop_eq_addLoop]
  rfl

theorem countLoop_eq {later : Date} {fuel : ℕ} {current : Date} (count : ℤ)
    (hfuel : later.dayNumber ≤ current.dayNumber + fuel) (hle : current ≤ later) :
    calculator.countLoop later fuel current count =
      count + calculator.businessDays (current.addDays (-1)) (later.addDays (-1)) := by
  induction fuel generalizing current count with
  | zero =>
      have hsame : current = later := by
        apply Date.dayNumber_injective
        have hday : current.dayNumber ≤ later.dayNumber := hle
        omega
      rw [countLoop, hsame, businessDays, marks_self, Nat.cast_zero, add_zero]
  | succ fuel ih =>
      rw [countLoop]
      split
      · rename_i hlt
        have hday : current.dayNumber < later.dayNumber := hlt
        have hnext : current.addDays 1 ≤ later := show current.dayNumber + 1 ≤ later.dayNumber by
          omega
        have hstep := marks_step calculator.onLine (current.dayNumber - 1)
        rw [sub_add_cancel] at hstep
        have hsplit := marks_add calculator.onLine (a := current.dayNumber - 1)
          (b := current.dayNumber) (c := later.dayNumber - 1) (by omega) (by omega)
        have hback : (current.addDays 1).addDays (-1) = current := by
          apply Date.dayNumber_injective
          show current.dayNumber + 1 + -1 = current.dayNumber
          omega
        have hfuel' : later.dayNumber ≤ (current.addDays 1).dayNumber + fuel := by
          show later.dayNumber ≤ current.dayNumber + 1 + fuel
          omega
        rw [ih _ hfuel' hnext, hback]
        have hcount : calculator.businessDays (current.addDays (-1)) (later.addDays (-1)) =
            (if calculator.is_business_day current then 1 else 0) +
              calculator.businessDays current (later.addDays (-1)) := by
          rw [hstep] at hsplit
          exact hsplit
        rw [hcount]
        split
        · push_cast
          ring
        · push_cast
          ring
      · rename_i hlt
        have hsame : current = later := le_antisymm hle (not_lt.mp hlt)
        rw [hsame, businessDays, marks_self, Nat.cast_zero, add_zero]

/-- Both ends are left out. -/
theorem business_days_between_of_lt (h : d < e) :
    calculator.business_days_between d e = calculator.businessDays d (e.addDays (-1)) := by
  have hday : d.dayNumber < e.dayNumber := h
  have hback : (d.addDays 1).addDays (-1) = d := by
    apply Date.dayNumber_injective
    show d.dayNumber + 1 + -1 = d.dayNumber
    omega
  rw [business_days_between, if_neg h.ne]
  dsimp only
  rw [min_eq_left h.le, max_eq_right h.le, if_pos h, mul_one, countLoop_eq, hback, zero_add]
  · show e.dayNumber ≤ d.dayNumber + 1 + ((e.dayNumber - d.dayNumber).toNat : ℤ)
    omega
  · show d.dayNumber + 1 ≤ e.dayNumber
    omega

end Loops

end BusinessDayCalculator

end Datasynth.Core.BusinessDays
