import Datasynth.Core.GenerationPeriods
import Datasynth.Lib.AmountText
import Datasynth.Lib.HalfEvenRounding
import Datasynth.Lib.HashIteration
import Datasynth.Lib.SignedPostings

/-!
Netting runs over the amounts between companies, one run a period, and which of the amounts they
settle.  Where the source panics there is no result.
-/

namespace Datasynth.Generators.NettingRuns

open Datasynth.Core.FiscalCalendars
open Datasynth.Core.FiscalPeriods
open Datasynth.Lib.CivilCalendar
open Datasynth.Lib.DecimalText
open Datasynth.Lib.HalfEvenRounding
open Datasynth.Lib.HashIteration
open Datasynth.Lib.SignedPostings

section Model

def days_in_month (year : ℤ) (month : ℕ) : ℕ :=
  match month with
  | 1 | 3 | 5 | 7 | 8 | 10 | 12 => 31
  | 4 | 6 | 9 | 11 => 30
  | 2 => if isLeapYear year then 29 else 28
  | _ => 30

/-- The last day of the month so many months later, or the date itself where the calendar has
ended.  The numbers of months are 32-bit numbers. -/
def add_months_end (date : Date) (months : ℕ) : Date :=
  let total_months := (date.month - 1 + months) % 2 ^ 32
  let year := date.year + (total_months / 12 : ℕ)
  let month := total_months % 12 + 1
  (from_ymd_opt year month (days_in_month year month)).getD date

inductive NettingCycle where
  | daily
  | weekly
  | monthly
deriving DecidableEq, Repr

def parse_cycle (cycle : String) : NettingCycle :=
  if cycle = "daily" then .daily else if cycle = "weekly" then .weekly else .monthly

inductive PayOrReceive where
  | pay
  | receive
  | flat
deriving DecidableEq, Repr

structure NettingPosition where
  entity_id : String
  gross_receivable : ℚ
  gross_payable : ℚ
  net_position : ℚ
  settlement_direction : PayOrReceive
deriving DecidableEq

structure NettingRun where
  id : String
  netting_date : Date
  cycle : NettingCycle
  participating_entities : List String
  gross_receivables : ℚ
  gross_payables : ℚ
  net_settlement : ℚ
  settlement_currency : String
  positions : List NettingPosition
deriving DecidableEq

def NettingRun.new (id : String) (netting_date : Date) (cycle : NettingCycle)
    (settlement_currency : String) (positions : List NettingPosition) : NettingRun where
  id := id
  netting_date := netting_date
  cycle := cycle
  participating_entities := positions.map (·.entity_id)
  gross_receivables := roundDp 2 (positions.map (·.gross_receivable)).sum
  gross_payables := roundDp 2 (positions.map (·.gross_payable)).sum
  net_settlement := roundDp 2 (roundDp 2 (positions.map fun p => |p.net_position|).sum / 2)
  settlement_currency := settlement_currency
  positions := positions

/-- An amount with its seller and its buyer. -/
structure IcAmount where
  seller : String
  buyer : String
  amount : ℚ

def netting_position (receivables payables : List (String × ℚ)) (eid : String) :
    NettingPosition :=
  let gross_receivable := roundDp 2 (totalAt eid receivables)
  let gross_payable := roundDp 2 (totalAt eid payables)
  let net_position := roundDp 2 (gross_receivable - gross_payable)
  { entity_id := eid
    gross_receivable := gross_receivable
    gross_payable := gross_payable
    net_position := net_position
    settlement_direction :=
      if 0 < net_position then .receive else if net_position < 0 then .pay else .flat }

def positions (period_amounts : List IcAmount) : List NettingPosition :=
  let receivables := totalsBy IcAmount.seller IcAmount.amount period_amounts
  let payables := totalsBy IcAmount.buyer IcAmount.amount period_amounts
  let all_entities := ((receivables ++ payables).map Prod.fst).mergeSort (· ≤ ·)
  all_entities.dedup.map (netting_position receivables payables)

def netting_date (cycle : NettingCycle) (start_date : Date) (period : ℕ) : Option Date :=
  match cycle with
  | .daily => plusDays start_date period
  | .weekly => plusDays start_date (7 * period)
  | .monthly => some (add_months_end start_date period)

structure NettingRunGenerator where
  cycle : String
  counter : ℕ

/-- The loop over the periods that are left, with the amounts that are left. -/
def period_loop (cycle : NettingCycle) (currency : String) (start_date : Date)
    (amounts_per_period : ℕ) :
    ℕ → ℕ → List IcAmount → ℕ → Option (List NettingRun × ℕ)
  | 0, _, _, counter => some ([], counter)
  | periods + 1, period, amounts, counter =>
      if amounts = [] then some ([], counter)
      else do
        let date ← netting_date cycle start_date period
        let positions := positions (amounts.take amounts_per_period)
        if positions = [] then
          period_loop cycle currency start_date amounts_per_period periods (period + 1)
            (amounts.drop amounts_per_period) counter
        else
          let counter := counter + 1
          let run := NettingRun.new ("NR-" ++ padded 6 counter) date cycle currency positions
          let (runs, counter) ←
            period_loop cycle currency start_date amounts_per_period periods (period + 1)
              (amounts.drop amounts_per_period) counter
          return (run :: runs, counter)

/-- The periods are counted in 32 bits. -/
def period_count (cycle : NettingCycle) (period_months : UInt32) : ℕ :=
  match cycle with
  | .daily => (period_months * 30).toNat
  | .weekly => (period_months * 4).toNat
  | .monthly => period_months.toNat

def amounts_per_period (periods length : ℕ) : ℕ :=
  max (if 0 < periods then length / periods else length) 1

def NettingRunGenerator.generate (gen : NettingRunGenerator) (entity_ids : List String)
    (currency : String) (start_date : Date) (period_months : UInt32) (ic_amounts : List IcAmount) :
    Option (List NettingRun × NettingRunGenerator) :=
  if entity_ids.length < 2 ∨ ic_amounts = [] then some ([], gen)
  else
    let cycle := parse_cycle gen.cycle
    let periods := period_count cycle period_months
    (period_loop cycle currency start_date (amounts_per_period periods ic_amounts.length)
        periods 0 ic_amounts gen.counter).map fun r => (r.1, { gen with counter := r.2 })

end Model

section Positions

variable {amounts : List IcAmount}

theorem totalAt_cents (key : IcAmount → String) (hcents : ∀ a ∈ amounts, IsRounded 2 a.amount)
    (eid : String) : IsRounded 2 (totalAt eid (totalsBy key IcAmount.amount amounts)) := by
  rw [totalAt_totalsBy]
  refine IsRounded.sum fun x hx => ?_
  obtain ⟨a, ha, rfl⟩ := List.mem_map.mp hx
  exact hcents a (List.mem_of_mem_filter ha)

theorem totalAt_eq_netOn (key : IcAmount → String) (amounts : List IcAmount) (eid : String) :
    totalAt eid (totalsBy key IcAmount.amount amounts) =
      netOn eid (amounts.map fun a => (key a, a.amount)) := by
  rw [totalAt_totalsBy, netOn, List.map_map]
  induction amounts with
  | nil => rfl
  | cons a amounts ih =>
      rw [List.filter_cons, List.map_cons, List.sum_cons, ← ih, Function.comp_apply]
      by_cases hkey : key a = eid
      · rw [if_pos (decide_eq_true hkey), if_pos hkey, List.map_cons, List.sum_cons]
      · rw [if_neg (by simpa using hkey), if_neg hkey, zero_add]

def entities (amounts : List IcAmount) : List String :=
  (((totalsBy IcAmount.seller IcAmount.amount amounts ++
    totalsBy IcAmount.buyer IcAmount.amount amounts).map Prod.fst).mergeSort (· ≤ ·)).dedup

theorem mem_entities {eid : String} :
    eid ∈ entities amounts ↔ ∃ a ∈ amounts, a.seller = eid ∨ a.buyer = eid := by
  rw [entities, List.mem_dedup, List.mem_mergeSort, List.map_append, List.mem_append,
    mem_keys_totalsBy, mem_keys_totalsBy]
  constructor
  · rintro (⟨a, ha, h⟩ | ⟨a, ha, h⟩)
    · exact ⟨a, ha, .inl h⟩
    · exact ⟨a, ha, .inr h⟩
  · rintro ⟨a, ha, h | h⟩
    · exact .inl ⟨a, ha, h⟩
    · exact .inr ⟨a, ha, h⟩

theorem nodup_entities (amounts : List IcAmount) : (entities amounts).Nodup := List.nodup_dedup _

theorem sum_totals (amounts : List IcAmount) (key : IcAmount → String)
    (hkey : ∀ a ∈ amounts, key a ∈ entities amounts) :
    ((entities amounts).map fun eid => totalAt eid (totalsBy key IcAmount.amount amounts)).sum =
      (amounts.map (·.amount)).sum := by
  simp only [totalAt_eq_netOn]
  rw [sum_netOn (nodup_entities amounts), List.map_map]
  · rfl
  · rintro p hp
    obtain ⟨a, ha, rfl⟩ := List.mem_map.mp hp
    exact hkey a ha

theorem positions_eq_map (amounts : List IcAmount) : positions amounts =
    (entities amounts).map (netting_position (totalsBy IcAmount.seller IcAmount.amount amounts)
      (totalsBy IcAmount.buyer IcAmount.amount amounts)) := rfl

theorem positions_ne_nil (h : amounts ≠ []) : positions amounts ≠ [] := by
  obtain ⟨a, ha⟩ := List.exists_mem_of_ne_nil _ h
  have hmem : a.seller ∈ entities amounts := mem_entities.mpr ⟨a, ha, .inl rfl⟩
  rw [positions_eq_map]
  exact List.ne_nil_of_mem (List.mem_map_of_mem hmem)

/-- The nets cancel, and each is receivable minus payable. -/
structure NettingRun.Balanced (run : NettingRun) : Prop where
  sum_net : (run.positions.map (·.net_position)).sum = 0
  net : ∀ p ∈ run.positions, p.net_position = p.gross_receivable - p.gross_payable

/-- Whole cents need no rounding. -/
theorem positions_eq (hcents : ∀ a ∈ amounts, IsRounded 2 a.amount) :
    ∀ eid,
      let position := netting_position (totalsBy IcAmount.seller IcAmount.amount amounts)
        (totalsBy IcAmount.buyer IcAmount.amount amounts) eid
      position.gross_receivable =
          totalAt eid (totalsBy IcAmount.seller IcAmount.amount amounts) ∧
        position.gross_payable =
          totalAt eid (totalsBy IcAmount.buyer IcAmount.amount amounts) ∧
        position.net_position = position.gross_receivable - position.gross_payable := by
  intro eid
  have hreceivable := totalAt_cents IcAmount.seller hcents eid
  have hpayable := totalAt_cents IcAmount.buyer hcents eid
  refine ⟨hreceivable.roundDp_eq, hpayable.roundDp_eq, ?_⟩
  simp only [netting_position, hreceivable.roundDp_eq, hpayable.roundDp_eq]
  exact (hreceivable.sub hpayable).roundDp_eq

theorem sum_sub_eq {α : Type*} (f g : α → ℚ) (l : List α) :
    (l.map fun x => f x - g x).sum = (l.map f).sum - (l.map g).sum := by
  induction l with
  | nil => simp
  | cons x l ih =>
      simp only [List.map_cons, List.sum_cons, ih]
      ring

variable (id : String) (date : Date) (cycle : NettingCycle) (currency : String)

theorem gross_receivables_run (hcents : ∀ a ∈ amounts, IsRounded 2 a.amount) :
    (NettingRun.new id date cycle currency (positions amounts)).gross_receivables =
      (amounts.map (·.amount)).sum := by
  have hsold := sum_totals amounts IcAmount.seller
    fun a ha => mem_entities.mpr ⟨a, ha, .inl rfl⟩
  have hall : IsRounded 2 (amounts.map (·.amount)).sum := by
    refine IsRounded.sum fun x hx => ?_
    obtain ⟨a, ha, rfl⟩ := List.mem_map.mp hx
    exact hcents a ha
  simp only [NettingRun.new, positions_eq_map, List.map_map, Function.comp_def,
    positions_eq hcents, hsold, hall.roundDp_eq]

theorem balanced_run (hcents : ∀ a ∈ amounts, IsRounded 2 a.amount) :
    (NettingRun.new id date cycle currency (positions amounts)).Balanced := by
  have hsold := sum_totals amounts IcAmount.seller
    fun a ha => mem_entities.mpr ⟨a, ha, .inl rfl⟩
  have hbought := sum_totals amounts IcAmount.buyer
    fun a ha => mem_entities.mpr ⟨a, ha, .inr rfl⟩
  constructor
  · simp only [NettingRun.new, positions_eq_map, List.map_map, Function.comp_def,
      positions_eq hcents]
    rw [sum_sub_eq, hsold, hbought, sub_self]
  · intro p hp
    obtain ⟨eid, -, rfl⟩ := List.mem_map.mp hp
    exact (positions_eq hcents eid).2.2

end Positions

section Calendar

theorem days_in_month_eq (year : ℤ) {month : ℕ} (hmonth : 1 ≤ month ∧ month ≤ 12) :
    days_in_month year month = daysInMonth year month := by
  obtain ⟨hlow, hhigh⟩ := hmonth
  interval_cases month <;> rfl

/-- The last day of the month, as the day before the next one, if the calendar reaches it. -/
theorem add_months_end_eq {date : Date} (hdate : Representable date) {months : ℕ}
    (hsmall : months + 12 ≤ 2 ^ 32) :
    add_months_end date months =
      if date.monthNumber + months < 262143 * 12 then
        (monthStart (date.monthNumber + months + 1)).addDays (-1)
      else date := by
  rw [representable_iff] at hdate
  obtain ⟨⟨hone, htwelve⟩, -⟩ := date.month_spec
  have hwrap : (date.month - 1 + months) % 2 ^ 32 = date.month - 1 + months :=
    Nat.mod_eq_of_lt (by omega)
  have hnumber : date.monthNumber + months =
      (date.year + ((date.month - 1 + months) / 12 : ℕ)) * 12 +
        ((date.month - 1 + months) % 12 + 1 : ℕ) - 1 := by
    rw [Date.monthNumber]
    omega
  rw [add_months_end, hwrap, hnumber]
  generalize hyear : date.year + ((date.month - 1 + months) / 12 : ℕ) = year at hnumber
  generalize hmonth : (date.month - 1 + months) % 12 + 1 = month at hnumber
  have hmonth' : 1 ≤ month ∧ month ≤ 12 := by omega
  have hdays := le_daysInMonth year month
  rw [days_in_month_eq year hmonth', from_ymd_opt]
  by_cases hreached : year ≤ 262142
  · rw [if_pos ⟨yearInRange_iff.mpr ⟨by omega, hreached⟩, hmonth', by omega, le_rfl⟩,
      if_pos (by omega), Option.getD_some, ofYmd_eq year hmonth' (by omega), sub_add_cancel,
      monthStart_succ year hmonth']
    apply Date.dayNumber_injective
    show _ + _ = _ + _ + _
    omega
  · rw [if_neg (by rw [yearInRange_iff]; omega), if_neg (by omega), Option.getD_none]

/-- The calendar reaches the date of a period. -/
def Reached (cycle : NettingCycle) (start_date : Date) (period : ℕ) : Prop :=
  match cycle with
  | .daily => Representable (start_date.addDays period)
  | .weekly => Representable (start_date.addDays (7 * period))
  | .monthly => start_date.monthNumber + period < 262143 * 12

variable {cycle : NettingCycle} {start_date : Date}

theorem representable_addDays (hstart : Representable start_date) {m n : ℤ} (hm : 0 ≤ m)
    (hmn : m ≤ n) (hn : Representable (start_date.addDays n)) :
    Representable (start_date.addDays m) := by
  rw [representable_iff] at hstart hn ⊢
  have hlow : start_date.monthNumber ≤ (start_date.addDays m).monthNumber :=
    Date.monthNumber_mono (le_add_of_nonneg_right hm : start_date.dayNumber ≤ _ + m)
  have hhigh : (start_date.addDays m).monthNumber ≤ (start_date.addDays n).monthNumber :=
    Date.monthNumber_mono (add_le_add_right hmn _ : start_date.dayNumber + m ≤ _ + n)
  omega

theorem Reached.mono (hstart : Representable start_date) {m n : ℕ} (hmn : m ≤ n)
    (hn : Reached cycle start_date n) : Reached cycle start_date m := by
  cases cycle with
  | daily => exact representable_addDays hstart (by omega) (by omega) hn
  | weekly => exact representable_addDays hstart (by omega) (by omega) hn
  | monthly =>
      rw [Reached] at hn ⊢
      omega

theorem exists_netting_date {n : ℕ} (hn : Reached cycle start_date n) :
    ∃ date, netting_date cycle start_date n = some date := by
  cases cycle with
  | daily => exact ⟨_, if_pos hn⟩
  | weekly => exact ⟨_, if_pos hn⟩
  | monthly => exact ⟨_, rfl⟩

theorem netting_date_strictMono (hstart : Representable start_date) {m n : ℕ} (hmn : m < n)
    (hn : Reached cycle start_date n) {date date' : Date}
    (hdate : netting_date cycle start_date m = some date)
    (hdate' : netting_date cycle start_date n = some date') : date < date' := by
  have hm := hn.mono hstart hmn.le
  cases cycle with
  | daily =>
      cases (if_pos hm).symm.trans hdate
      cases (if_pos hn).symm.trans hdate'
      show start_date.dayNumber + m < start_date.dayNumber + n
      omega
  | weekly =>
      cases (if_pos hm).symm.trans hdate
      cases (if_pos hn).symm.trans hdate'
      show start_date.dayNumber + 7 * m < start_date.dayNumber + 7 * n
      omega
  | monthly =>
      cases hdate
      cases hdate'
      rw [Reached] at hm hn
      have hlow := (representable_iff.mp hstart).1
      rw [add_months_end_eq hstart (by omega), add_months_end_eq hstart (by omega), if_pos hm,
        if_pos hn]
      have hlt : (monthStart (start_date.monthNumber + m + 1)).dayNumber <
          (monthStart (start_date.monthNumber + n + 1)).dayNumber :=
        monthStart_strictMono (by omega)
      exact (add_lt_add_left hlt (-1) : _ + -1 < _ + -1)

/-- Behind the end of the calendar there is no date, or the dates start again. -/
theorem not_increasing_of_not_reached (hstart : Representable start_date) {n : ℕ}
    (hn : ¬Reached cycle start_date n) :
    netting_date cycle start_date n = none ∨ ∃ m < n, ∃ date date',
      netting_date cycle start_date m = some date ∧
        netting_date cycle start_date (m + 1) = some date' ∧ ¬date < date' := by
  cases cycle with
  | daily => exact .inl (if_neg hn)
  | weekly => exact .inl (if_neg hn)
  | monthly =>
      have hbounds := representable_iff.mp hstart
      rw [Reached] at hn
      -- the last month that the calendar reaches
      obtain ⟨m, hm⟩ := Int.eq_ofNat_of_zero_le
        (show 0 ≤ 262143 * 12 - 1 - start_date.monthNumber by omega)
      refine .inr ⟨m, by omega, _, _, rfl, rfl, ?_⟩
      rw [add_months_end_eq hstart (by omega), add_months_end_eq hstart (by omega),
        if_pos (by omega), if_neg (by omega)]
      have hmonth := start_date.month_spec.2.2
      have hlt : start_date < monthStart (start_date.monthNumber + m + 1) :=
        hmonth.trans_le (monthStart_strictMono.monotone (by omega))
      have hdays : start_date.dayNumber <
          (monthStart (start_date.monthNumber + m + 1)).dayNumber := hlt
      rw [not_lt]
      exact (Int.le_sub_one_of_lt hdays : start_date.dayNumber ≤ _ - 1)

end Calendar

section Runs

variable {cycle : NettingCycle} {currency : String} {start_date : Date} {per : ℕ}

/-- What `n` periods of the loop leave: a run each, over the amounts up to there. -/
structure Netted (cycle : NettingCycle) (start_date : Date) (per period n : ℕ)
    (amounts : List IcAmount) (runs : List NettingRun) : Prop where
  dates : runs.map (fun run => some run.netting_date) =
    (List.range' period n).map (netting_date cycle start_date)
  gross_receivables : (runs.map (·.gross_receivables)).sum =
    ((amounts.take (n * per)).map (·.amount)).sum
  balanced : ∀ run ∈ runs, run.Balanced

theorem Netted.nil (period : ℕ) (amounts : List IcAmount) :
    Netted cycle start_date per period 0 amounts [] where
  dates := rfl
  gross_receivables := by rw [zero_mul, List.take_zero]; rfl
  balanced := List.forall_mem_nil _

theorem Netted.cons {period n : ℕ} {amounts : List IcAmount} {run : NettingRun}
    {runs : List NettingRun}
    (h : Netted cycle start_date per (period + 1) n (amounts.drop per) runs)
    (hdate : netting_date cycle start_date period = some run.netting_date)
    (hgross : run.gross_receivables = ((amounts.take per).map (·.amount)).sum)
    (hbalanced : run.Balanced) :
    Netted cycle start_date per period (n + 1) amounts (run :: runs) where
  dates := by rw [List.map_cons, h.dates, List.range'_succ, List.map_cons, hdate]
  gross_receivables := by
    rw [List.map_cons, List.sum_cons, hgross, h.gross_receivables, ← List.sum_append,
      ← List.map_append, ← List.take_add, Nat.add_comm, Nat.succ_mul]
  balanced := List.forall_mem_cons.mpr ⟨hbalanced, h.balanced⟩

theorem period_loop_cons {periods period : ℕ} {amounts : List IcAmount} (hper : 0 < per)
    (hne : amounts ≠ []) (counter : ℕ) :
    period_loop cycle currency start_date per (periods + 1) period amounts counter =
      (netting_date cycle start_date period).bind fun date =>
        (period_loop cycle currency start_date per periods (period + 1) (amounts.drop per)
          (counter + 1)).map fun r =>
            (NettingRun.new ("NR-" ++ padded 6 (counter + 1)) date cycle currency
              (positions (amounts.take per)) :: r.1, r.2) := by
  have htake : amounts.take per ≠ [] := by
    rw [Ne, List.take_eq_nil_iff]
    exact not_or.mpr ⟨hper.ne', hne⟩
  rw [period_loop, if_neg hne]
  refine congrArg (Option.bind _) (funext fun date => ?_)
  rw [if_neg (positions_ne_nil htake)]
  cases h : period_loop cycle currency start_date per periods (period + 1) (amounts.drop per)
    (counter + 1) with
  | none => exact (congrArg (Option.bind · _) h).trans rfl
  | some r => exact (congrArg (Option.bind · _) h).trans rfl

variable (cycle currency start_date) in
/-- The loop runs over all periods, or over all amounts, unless a period has no date. -/
theorem period_loop_spec (hper : 0 < per) (periods : ℕ) :
    ∀ (period : ℕ) (amounts : List IcAmount) (counter : ℕ),
      (∀ a ∈ amounts, IsRounded 2 a.amount) →
      match period_loop cycle currency start_date per periods period amounts counter with
      | none => ∃ m < periods, m * per < amounts.length ∧
          netting_date cycle start_date (period + m) = none
      | some (runs, _) => ∃ n ≤ periods, (n = periods ∨ amounts.length ≤ n * per) ∧
          (∀ m < n, m * per < amounts.length) ∧
            Netted cycle start_date per period n amounts runs := by
  induction periods with
  | zero =>
      intro period amounts counter _
      exact ⟨0, le_rfl, .inl rfl, fun m hm => absurd hm m.not_lt_zero, .nil period amounts⟩
  | succ periods ih =>
      intro period amounts counter hcents
      by_cases hne : amounts = []
      · rw [period_loop, if_pos hne]
        exact ⟨0, Nat.zero_le _, .inr (by rw [hne]; exact Nat.zero_le _),
          fun m hm => absurd hm m.not_lt_zero, .nil period amounts⟩
      have hlength := List.length_pos_iff.mpr hne
      rw [period_loop_cons hper hne]
      cases hdate : netting_date cycle start_date period with
      | none => exact ⟨0, periods.succ_pos, by rwa [zero_mul], hdate⟩
      | some date =>
          have hrest := ih (period + 1) (amounts.drop per) (counter + 1)
            fun a ha => hcents a (List.mem_of_mem_drop ha)
          have htaken : ∀ a ∈ amounts.take per, IsRounded 2 a.amount :=
            fun a ha => hcents a (List.mem_of_mem_take ha)
          rw [Option.bind_some]
          revert hrest
          cases period_loop cycle currency start_date per periods (period + 1)
              (amounts.drop per) (counter + 1) with
          | none =>
              rintro ⟨m, hm, hlt, hnone⟩
              rw [List.length_drop] at hlt
              refine ⟨m + 1, by omega, ?_, ?_⟩
              · rw [Nat.succ_mul]
                omega
              · rwa [Nat.add_right_comm] at hnone
          | some r =>
              rintro ⟨n, hn, hend, hfull, hnetted⟩
              rw [List.length_drop] at hend
              refine ⟨n + 1, by omega, ?_, ?_, hnetted.cons hdate ?_ ?_⟩
              · rw [Nat.succ_mul]
                omega
              · rintro (_ | m) hm
                · rwa [zero_mul]
                · have hlt := hfull m (by omega)
                  rw [List.length_drop] at hlt
                  rw [Nat.succ_mul]
                  omega
              · exact gross_receivables_run _ date cycle currency htaken
              · exact balanced_run _ date cycle currency htaken

theorem amounts_per_period_pos (periods length : ℕ) : 0 < amounts_per_period periods length :=
  lt_max_of_lt_right one_pos

/-- The periods go round before the amounts do, or each period has one amount. -/
theorem run_count {periods length n : ℕ} (hn : n ≤ periods)
    (hend : n = periods ∨ length ≤ n * amounts_per_period periods length)
    (hfull : ∀ m < n, m * amounts_per_period periods length < length) :
    n = min periods length := by
  rcases Nat.eq_zero_or_pos periods with rfl | hperiods
  · rw [Nat.zero_min]
    exact Nat.le_zero.mp hn
  have hpos := amounts_per_period_pos periods length
  rw [amounts_per_period, if_pos hperiods] at hend hfull hpos
  rcases le_or_gt length periods with hle | hlt
  · have hone : max (length / periods) 1 = 1 :=
      max_eq_right (Nat.div_le_of_le_mul (by omega))
    simp only [hone, mul_one] at hend hfull
    have hnle : n ≤ length := by
      rcases n with _ | m
      · exact Nat.zero_le _
      · exact hfull m (Nat.lt_succ_self m)
    omega
  · rw [min_eq_left hlt.le]
    rcases hend with hend | hend
    · exact hend
    · have hquotient : max (length / periods) 1 = length / periods :=
        max_eq_left (Nat.div_pos hlt.le hperiods)
      rw [hquotient] at hend hpos
      have hfit : periods * (length / periods) ≤ n * (length / periods) :=
        (Nat.mul_div_le length periods).trans hend
      exact le_antisymm hn (Nat.le_of_mul_le_mul_right hfit hpos)

end Runs

section Result

/-- The runs settle the amounts: together they are received, each run nets out, and no date comes
again. -/
structure Settles (ic_amounts : List IcAmount) (runs : List NettingRun) : Prop where
  gross_receivables : (runs.map (·.gross_receivables)).sum = (ic_amounts.map (·.amount)).sum
  balanced : ∀ run ∈ runs, run.Balanced
  increasing : runs.Pairwise fun run run' => run.netting_date < run'.netting_date

variable (gen : NettingRunGenerator) (entity_ids : List String) (currency : String)
  (start_date : Date) (period_months : UInt32) (ic_amounts : List IcAmount)

/-- One run a period, as long as there are amounts. -/
def NettingRunGenerator.run_count : ℕ :=
  if entity_ids.length < 2 then 0
  else min (period_count (parse_cycle gen.cycle) period_months) ic_amounts.length

/-- The amounts behind the last run. -/
def NettingRunGenerator.unsettled : List IcAmount :=
  ic_amounts.drop (gen.run_count entity_ids period_months ic_amounts *
    amounts_per_period (period_count (parse_cycle gen.cycle) period_months) ic_amounts.length)

/-- The calendar reaches the date of the last run. -/
def NettingRunGenerator.LastReached : Prop :=
  ∀ n, n + 1 = gen.run_count entity_ids period_months ic_amounts →
    Reached (parse_cycle gen.cycle) start_date n

variable {gen entity_ids currency start_date period_months ic_amounts}

theorem Netted.length_eq {cycle : NettingCycle} {per period n : ℕ} {runs : List NettingRun}
    (h : Netted cycle start_date per period n ic_amounts runs) : runs.length = n := by
  have hlength := congrArg List.length h.dates
  rwa [List.length_map, List.length_map, List.length_range'] at hlength

theorem Netted.netting_date_eq {cycle : NettingCycle} {per n : ℕ} {runs : List NettingRun}
    (h : Netted cycle start_date per 0 n ic_amounts runs) (i : ℕ) (hi : i < runs.length) :
    netting_date cycle start_date i = some (runs.get ⟨i, hi⟩).netting_date := by
  have hget := congrArg (fun l => l[i]?) h.dates
  simp only [List.getElem?_map, List.getElem?_eq_getElem hi, Option.map_some,
    List.getElem?_range' (h.length_eq ▸ hi), Nat.zero_add, Nat.one_mul] at hget
  exact (Option.some.inj hget).symm

theorem Netted.increasing_iff {cycle : NettingCycle} {per n : ℕ}
    (hstart : Representable start_date) {runs : List NettingRun}
    (h : Netted cycle start_date per 0 n ic_amounts runs) :
    (runs.Pairwise fun run run' => run.netting_date < run'.netting_date) ↔
      ∀ m, m + 1 = n → Reached cycle start_date m := by
  have hlength := h.length_eq
  rw [List.pairwise_iff_getElem]
  constructor
  · intro hincreasing m hm
    by_contra hreached
    rcases not_increasing_of_not_reached hstart hreached with
      hnone | ⟨k, hk, date, date', hdate, hdate', hnot⟩
    · rw [h.netting_date_eq m (by omega)] at hnone
      cases hnone
    · rw [h.netting_date_eq k (by omega)] at hdate
      rw [h.netting_date_eq (k + 1) (by omega)] at hdate'
      cases hdate
      cases hdate'
      exact hnot (hincreasing k (k + 1) (by omega) (by omega) k.lt_succ_self)
  · intro hreached i j hi hj hij
    have hn : Reached cycle start_date (n - 1) := hreached (n - 1) (by omega)
    exact netting_date_strictMono hstart hij (hn.mono hstart (by omega))
      (h.netting_date_eq i hi) (h.netting_date_eq j hj)

theorem Netted.settles_months_iff {cycle : NettingCycle} {per n : ℕ}
    (hstart : Representable start_date)
    {runs : List NettingRun} (h : Netted cycle start_date per 0 n ic_amounts runs) :
    Settles ic_amounts runs ↔
      ((ic_amounts.drop (n * per)).map (·.amount)).sum = 0 ∧
        ∀ m, m + 1 = n → Reached cycle start_date m := by
  have htotal : (ic_amounts.map (·.amount)).sum =
      (runs.map (·.gross_receivables)).sum +
        ((ic_amounts.drop (n * per)).map (·.amount)).sum := by
    rw [h.gross_receivables, ← List.sum_append, ← List.map_append, List.take_append_drop]
  rw [← h.increasing_iff hstart]
  constructor
  · intro hsettles
    refine ⟨?_, hsettles.increasing⟩
    rw [hsettles.gross_receivables] at htotal
    exact left_eq_add.mp htotal
  · rintro ⟨hrest, hincreasing⟩
    rw [hrest, add_zero] at htotal
    exact ⟨htotal.symm, h.balanced, hincreasing⟩

variable (currency) in
theorem period_loop_settles_iff (cycle : NettingCycle) (hstart : Representable start_date)
    (hcents : ∀ a ∈ ic_amounts, IsRounded 2 a.amount) (periods counter : ℕ) :
    (∃ r, period_loop cycle currency start_date (amounts_per_period periods ic_amounts.length)
        periods 0 ic_amounts counter = some r ∧ Settles ic_amounts r.1) ↔
      ((ic_amounts.drop (min periods ic_amounts.length *
          amounts_per_period periods ic_amounts.length)).map (·.amount)).sum = 0 ∧
        ∀ m, m + 1 = min periods ic_amounts.length → Reached cycle start_date m := by
  have hpos := amounts_per_period_pos periods ic_amounts.length
  have hspec := period_loop_spec cycle currency start_date hpos periods 0 ic_amounts counter hcents
  revert hspec
  cases period_loop cycle currency start_date (amounts_per_period periods ic_amounts.length)
      periods 0 ic_amounts counter with
  | none =>
      rintro ⟨m, hm, hlt, hdate⟩
      have hlength : m < ic_amounts.length := (Nat.le_mul_of_pos_right m hpos).trans_lt hlt
      refine iff_of_false ?_ fun h => ?_
      · rintro ⟨r, hr, -⟩
        cases hr
      · have hlast := h.2 (min periods ic_amounts.length - 1) (by omega)
        obtain ⟨date, hsome⟩ := exists_netting_date (hlast.mono hstart (m := m) (by omega))
        rw [Nat.zero_add, hsome] at hdate
        cases hdate
  | some r =>
      rintro ⟨n, hn, hend, hfull, hnetted⟩
      rw [← run_count hn hend hfull, ← hnetted.settles_months_iff hstart]
      simp only [Option.some.injEq, exists_eq_left']

theorem settles_iff (hstart : Representable start_date)
    (hcents : ∀ a ∈ ic_amounts, IsRounded 2 a.amount) :
    (∃ result, gen.generate entity_ids currency start_date period_months ic_amounts =
        some result ∧ Settles ic_amounts result.1) ↔
      ((gen.unsettled entity_ids period_months ic_amounts).map (·.amount)).sum = 0 ∧
        gen.LastReached entity_ids start_date period_months ic_amounts := by
  rw [NettingRunGenerator.unsettled, NettingRunGenerator.LastReached]
  by_cases hnone : entity_ids.length < 2 ∨ ic_amounts = []
  · have hcount : gen.run_count entity_ids period_months ic_amounts = 0 := by
      rw [NettingRunGenerator.run_count]
      rcases hnone with hfew | rfl
      · exact if_pos hfew
      · rw [List.length_nil, Nat.min_zero, ite_self]
    have hnil : Netted (parse_cycle gen.cycle) start_date
        (amounts_per_period (period_count (parse_cycle gen.cycle) period_months)
          ic_amounts.length) 0 0 ic_amounts [] := .nil 0 ic_amounts
    rw [hcount, ← hnil.settles_months_iff hstart, NettingRunGenerator.generate, if_pos hnone]
    simp only [Option.some.injEq, exists_eq_left']
  · have hcount : gen.run_count entity_ids period_months ic_amounts =
        min (period_count (parse_cycle gen.cycle) period_months) ic_amounts.length :=
      if_neg (not_or.mp hnone).1
    rw [hcount, ← period_loop_settles_iff currency _ hstart hcents _ gen.counter,
      NettingRunGenerator.generate, if_neg hnone]
    simp only [Option.map_eq_some_iff, exists_exists_and_eq_and]

def new_year : Date := Date.ofYmd 2025 1 1

def hundreds (n : ℕ) : List IcAmount := List.replicate n ⟨"1000", "2000", 100⟩

theorem hundreds_cents (n : ℕ) : ∀ a ∈ hundreds n, IsRounded 2 a.amount := by
  intro a ha
  rw [List.eq_of_mem_replicate ha]
  exact ⟨10000, by norm_num⟩

theorem representable_new_year : Representable new_year := by
  rw [Representable]
  decide

/-- Three amounts over three months. -/
theorem settles_three_months :
    ∃ result, NettingRunGenerator.generate ⟨"monthly", 0⟩ ["1000", "2000"] "USD" new_year 3
      (hundreds 3) = some result ∧ Settles (hundreds 3) result.1 := by
  refine (settles_iff representable_new_year (hundreds_cents 3)).mpr ⟨by decide +kernel, ?_⟩
  intro n hn
  cases hn
  show new_year.monthNumber + 2 < 262143 * 12
  decide

/-- Three amounts over two months: the third is left over. -/
theorem third_amount_unsettled :
    ¬∃ result, NettingRunGenerator.generate ⟨"monthly", 0⟩ ["1000", "2000"] "USD" new_year 2
      (hundreds 3) = some result ∧ Settles (hundreds 3) result.1 := by
  rintro ⟨result, hresult, hsettles⟩
  obtain ⟨r, hr, rfl⟩ := Option.map_eq_some_iff.mp hresult
  have hrest := (period_loop_settles_iff "USD" .monthly representable_new_year (hundreds_cents 3)
    2 0).mp ⟨r, hr, hsettles⟩
  exact absurd hrest.1 (by decide +kernel)

end Result

end Datasynth.Generators.NettingRuns
