import Mathlib.Data.List.Chain
import Datasynth.Lib.AmountText
import Datasynth.Runtime.GenerationSession

/-!
The periods of a session tile its time line as long as it is not extended, the calendar has room
for them and no two of them start in one calendar year.  An extension starts a month after the
last day of the periods so far, which leaves a gap.
-/

namespace Datasynth.Runtime.SessionPeriods

open Datasynth.Lib.CivilCalendar
open Datasynth.Lib.DecimalText
open Datasynth.Core.FiscalPeriods
open Datasynth.Core.GenerationPeriods
open Datasynth.Runtime.GenerationSession

section Statement

variable {Settings Order : Type}

structure Tiles (total : ℕ) (periods : List GenerationPeriod) : Prop where
  indices : periods.map (·.index) = List.range periods.length
  contiguous : periods.IsChain fun p q => q.start_date = p.end_date.addDays 1
  months_sum : (periods.map (·.months)).sum = total
  labels_nodup : (periods.map (·.label)).Nodup

/-- The session after extensions by these numbers of months. -/
def extendAll (platform : Platform Settings Order) :
    List ℕ → Session Settings → Option (Session Settings)
  | [], session => some session
  | months :: deltas, session => do
      let (_, session) ← generate_delta platform session months
      extendAll platform deltas session

/-- The session exists after the extensions, and its periods tile the months asked for. -/
def TilesTimeline (platform : Platform Settings Order) (config : GeneratorConfig Settings)
    (order : Order) (output_path : PathBuf) (deltas : List ℕ) : Prop :=
  ∃ session session', new platform config order output_path = some (.ok session) ∧
    extendAll platform deltas session = some session' ∧
    Tiles (config.global.period_months + deltas.sum) session'.periods

/-- The number of periods. -/
def periodCount (global : GlobalConfig) : ℕ :=
  (global.period_months + global.fy_months - 1) / global.fy_months

/-- The calendar has room for the periods. -/
def FitsCalendar (global : GlobalConfig) (start : Date) : Prop :=
  ∀ i < periodCount global,
    InCalendar (start.monthNumber + min ((i + 1) * global.fy_months) global.period_months)

/-- The periods start in different years. -/
def StartsYearly (global : GlobalConfig) (start : Date) : Prop :=
  (periodCount global - 1) * (12 - global.fy_months) ≤ start.month - 1

instance (global : GlobalConfig) (start : Date) : Decidable (FitsCalendar global start) :=
  inferInstanceAs (Decidable (∀ i < periodCount global, _))

instance (global : GlobalConfig) (start : Date) : Decidable (StartsYearly global start) :=
  inferInstanceAs (Decidable (_ ≤ _))

end Statement

section Decomposition

structure Decomposed (fiscal_year_months remaining : ℕ) (cursor : Date) (index : ℕ)
    (periods : List GenerationPeriod) : Prop where
  length_eq : periods.length = (remaining + fiscal_year_months - 1) / fiscal_year_months
  indices : periods.map (·.index) = List.range' index periods.length
  contiguous : periods.IsChain fun p q => q.start_date = p.end_date.addDays 1
  starts : ∀ p ∈ periods.head?, p.start_date = cursor
  ends : ∀ p ∈ periods, Representable p.end_date
  months_sum : (periods.map (·.months)).sum = remaining
  labels : periods.map (·.label) = (List.range periods.length).map fun i : ℕ =>
    yearLabel ((cursor.monthNumber + i * fiscal_year_months) / 12)

variable {fiscal_year_months : ℕ}

theorem decomposed_nil (hfy : 0 < fiscal_year_months) (cursor : Date) (index : ℕ) :
    Decomposed fiscal_year_months 0 cursor index [] where
  length_eq := (Nat.div_eq_of_lt (by omega)).symm
  indices := rfl
  contiguous := .nil
  starts := nofun
  ends := nofun
  months_sum := rfl
  labels := rfl

theorem ceil_sub {remaining : ℕ} (hfy : 0 < fiscal_year_months) (h : 0 < remaining) :
    (remaining + fiscal_year_months - 1) / fiscal_year_months =
      (remaining - min remaining fiscal_year_months + fiscal_year_months - 1) /
        fiscal_year_months + 1 := by
  rw [← Nat.add_div_right _ hfy]
  rcases le_total remaining fiscal_year_months with hle | hle
  · rw [min_eq_left hle, Nat.sub_self]
    have hone : (remaining + fiscal_year_months - 1) / fiscal_year_months = 1 :=
      Nat.div_eq_of_lt_le (by omega) (by omega)
    have hone' : (0 + fiscal_year_months - 1 + fiscal_year_months) / fiscal_year_months = 1 :=
      Nat.div_eq_of_lt_le (by omega) (by omega)
    rw [hone, hone']
  · rw [min_eq_right hle]
    congr 1
    omega

/-- A period before those of the months that remain after it. -/
theorem decomposed_cons {remaining : ℕ} {cursor next end_date : Date} {index : ℕ}
    {periods : List GenerationPeriod} (hfy : 0 < fiscal_year_months) (hremaining : 0 < remaining)
    (hcursor : Representable cursor)
    (hnext : add_months cursor (min remaining fiscal_year_months) = some next)
    (hend : next.pred? = some end_date)
    (h : Decomposed fiscal_year_months (remaining - min remaining fiscal_year_months) next
      (index + 1) periods) :
    Decomposed fiscal_year_months remaining cursor index
      (⟨index, yearLabel cursor.year, cursor, end_date,
        min remaining fiscal_year_months⟩ :: periods) := by
  obtain ⟨hrange, hend⟩ : Representable end_date ∧ next.addDays (-1) = end_date := by
    rw [Date.pred?] at hend
    split at hend
    · rename_i hrange
      obtain rfl := Option.some.inj hend
      exact ⟨hrange, rfl⟩
    · cases hend
  have hnumber : next.monthNumber = cursor.monthNumber + min remaining fiscal_year_months := by
    obtain ⟨-, next', hnext', -, hnumber, -⟩ | ⟨-, hnone⟩ :=
      add_months_eq hcursor (min remaining fiscal_year_months)
    · rw [hnext] at hnext'
      obtain rfl := Option.some.inj hnext'
      exact hnumber
    · rw [hnext] at hnone
      cases hnone
  refine ⟨?_, ?_, ?_, ?_, ?_, ?_, ?_⟩
  · rw [List.length_cons, h.length_eq, ceil_sub hfy hremaining]
  · rw [List.map_cons, h.indices, List.length_cons, List.range'_succ]
  · rw [List.isChain_cons]
    refine ⟨?_, h.contiguous⟩
    intro q hq
    rw [h.starts q hq, ← hend]
    apply Date.dayNumber_injective
    show _ = _ + -1 + 1
    omega
  · rintro p hp
    cases hp
    rfl
  · rw [List.forall_mem_cons]
    exact ⟨hrange, h.ends⟩
  · rw [List.map_cons, List.sum_cons, h.months_sum]
    show min remaining fiscal_year_months + _ = remaining
    omega
  · rw [List.map_cons, h.labels, List.length_cons, List.range_succ_eq_map, List.map_cons,
      List.map_map, Date.year_eq]
    congr 1
    · simp
    · apply List.map_congr_left
      intro i hi
      rw [hnumber]
      -- There is a later period only after a whole fiscal year.
      have hlt : i < periods.length := List.mem_range.mp hi
      have hwhole : fiscal_year_months ≤ remaining := by
        by_contra hlt'
        have hzero : remaining - min remaining fiscal_year_months = 0 := by omega
        rw [h.length_eq, hzero, Nat.div_eq_of_lt (by omega)] at hlt
        omega
      rw [min_eq_right hwhole]
      show yearLabel _ = yearLabel ((_ + ((i + 1 : ℕ) : ℤ) * _) / 12)
      congr 2
      push_cast
      ring

/-- The ends of the periods, in months: that of the first one, and those of the others. -/
theorem forall_ends_iff {remaining : ℕ} (hremaining : 0 < remaining) {P : ℕ → Prop} :
    (∀ i, i * fiscal_year_months < remaining → P (min ((i + 1) * fiscal_year_months) remaining)) ↔
      P (min remaining fiscal_year_months) ∧
        ∀ i, i * fiscal_year_months < remaining - min remaining fiscal_year_months →
          P (min remaining fiscal_year_months + min ((i + 1) * fiscal_year_months)
            (remaining - min remaining fiscal_year_months)) := by
  have hlater : ∀ i, fiscal_year_months ≤ remaining →
      min ((i + 1 + 1) * fiscal_year_months) remaining =
        min remaining fiscal_year_months + min ((i + 1) * fiscal_year_months)
          (remaining - min remaining fiscal_year_months) := by
    intro i hwhole
    rw [add_mul (i + 1), one_mul]
    generalize (i + 1) * fiscal_year_months = x
    omega
  constructor
  · intro h
    refine ⟨?_, ?_⟩
    · have hfirst := h 0 (by omega)
      rwa [zero_add, one_mul, min_comm] at hfirst
    · intro i hi
      have hwhole : fiscal_year_months ≤ remaining := by omega
      have hnext := h (i + 1) (by rw [add_mul, one_mul]; omega)
      rwa [hlater i hwhole] at hnext
  · rintro ⟨hfirst, hrest⟩ i hi
    induction i with
    | zero => rwa [zero_add, one_mul, min_comm]
    | succ i _ =>
        rw [add_mul, one_mul] at hi
        have hwhole : fiscal_year_months ≤ remaining := by omega
        rw [hlater i hwhole]
        exact hrest i (by omega)

theorem periodLoop_spec (hfy : 0 < fiscal_year_months) {fuel remaining index : ℕ} {cursor : Date}
    (hfuel : remaining ≤ fuel) (hcursor : Representable cursor) :
    (∀ periods, periodLoop fiscal_year_months fuel remaining cursor index = some periods →
        Decomposed fiscal_year_months remaining cursor index periods) ∧
      ((periodLoop fiscal_year_months fuel remaining cursor index).isSome ↔
        ∀ i, i * fiscal_year_months < remaining →
          InCalendar (cursor.monthNumber +
            (min ((i + 1) * fiscal_year_months) remaining : ℕ))) := by
  induction fuel generalizing remaining index cursor with
  | zero =>
      obtain rfl : remaining = 0 := by omega
      refine ⟨?_, ?_⟩
      · rintro periods h
        cases h
        exact decomposed_nil hfy cursor index
      · simp [periodLoop]
  | succ fuel ih =>
      rw [periodLoop]
      by_cases hzero : remaining = 0
      · subst hzero
        rw [if_pos rfl]
        refine ⟨?_, ?_⟩
        · rintro periods h
          cases h
          exact decomposed_nil hfy cursor index
        · simp
      · have hremaining : 0 < remaining := by omega
        rw [if_neg hzero, forall_ends_iff hremaining
          (P := fun k => InCalendar (cursor.monthNumber + k))]
        dsimp only
        obtain ⟨hin, next, hnext, hrep, hnumber, -⟩ | ⟨hout, hnone⟩ :=
          add_months_eq hcursor (min remaining fiscal_year_months)
        · have hlt : cursor < next := by
            by_contra hle
            have hmono := Date.monthNumber_mono (not_lt.mp hle)
            omega
          have hend := pred?_eq hcursor hrep hlt
          have hsmaller : remaining - min remaining fiscal_year_months ≤ fuel := by omega
          obtain ⟨hspec, hsome⟩ := @ih _ (index + 1) _ hsmaller hrep
          rw [hnext, Option.bind_eq_bind, Option.bind_some, hend, Option.bind_eq_bind,
            Option.bind_some]
          refine ⟨?_, ?_⟩
          · rintro periods h
            obtain ⟨rest, hrest, h⟩ := Option.bind_eq_some_iff.mp h
            obtain rfl := Option.some.inj h
            exact decomposed_cons hfy hremaining hcursor hnext hend (hspec rest hrest)
          · rw [and_iff_right hin]
            simp only [hnumber, add_assoc, ← Nat.cast_add] at hsome
            rw [← hsome]
            cases periodLoop fiscal_year_months fuel
              (remaining - min remaining fiscal_year_months) next (index + 1) with
            | none => rfl
            | some rest => rfl
        · rw [hnone]
          refine ⟨nofun, ?_⟩
          simp only [hout, false_and]
          exact iff_of_false nofun id

theorem lt_count_iff (hfy : 0 < fiscal_year_months) {total i : ℕ} :
    i < (total + fiscal_year_months - 1) / fiscal_year_months ↔ i * fiscal_year_months < total := by
  rw [← Nat.succ_le_iff, Nat.le_div_iff_mul_le hfy, Nat.succ_mul]
  omega

theorem compute_periods_spec {start_date : Date} {total : ℕ} (hfy : 0 < fiscal_year_months)
    (htotal : 0 < total) (hstart : Representable start_date) :
    (∀ periods, GenerationPeriod.compute_periods start_date total fiscal_year_months =
          some periods → Decomposed fiscal_year_months total start_date 0 periods) ∧
      ((GenerationPeriod.compute_periods start_date total fiscal_year_months).isSome ↔
        ∀ i < (total + fiscal_year_months - 1) / fiscal_year_months, InCalendar
          (start_date.monthNumber + (min ((i + 1) * fiscal_year_months) total : ℕ))) := by
  rw [GenerationPeriod.compute_periods, if_neg (by omega)]
  simp only [lt_count_iff hfy]
  exact periodLoop_spec hfy le_rfl hstart

end Decomposition

section Labels

theorem yearLabel_injective : Function.Injective yearLabel := by
  intro year year' h
  exact repr_injective ((String.append_right_inj "FY").mp h)

/-- The first months of the periods lie in different years if no year is left behind. -/
theorem nodup_years_iff {k : ℤ} {fiscal_year_months n : ℕ} (hfy : 0 < fiscal_year_months) :
    ((List.range n).map fun i : ℕ => (k + i * fiscal_year_months) / 12).Nodup ↔
      ((n - 1) * (12 - fiscal_year_months) : ℕ) ≤ k % 12 := by
  rw [List.nodup_map_iff_inj_on List.nodup_range]
  simp only [List.mem_range]
  constructor
  · intro hinj
    by_contra hlt
    push Not at hlt
    have hshort : fiscal_year_months < 12 := by
      by_contra hlong
      rw [Nat.sub_eq_zero_of_le (not_lt.mp hlong), Nat.mul_zero] at hlt
      omega
    -- The first period that starts a year late starts in the year of the one before it.
    have hexists : ∃ i, k % 12 < (i * (12 - fiscal_year_months) : ℕ) := ⟨_, hlt⟩
    have hfirst := Nat.find_spec hexists
    have hle := Nat.find_min' hexists hlt
    have hbefore := fun m => Nat.find_min (m := m) hexists
    generalize Nat.find hexists = i at hfirst hle hbefore
    obtain ⟨i, rfl⟩ : ∃ i', i = i' + 1 := by
      apply Nat.exists_eq_succ_of_ne_zero
      rintro rfl
      rw [Nat.zero_mul] at hfirst
      omega
    have hprevious := hbefore i (Nat.lt_succ_self i)
    have hsum : i * fiscal_year_months + i * (12 - fiscal_year_months) = i * 12 := by
      rw [← Nat.mul_add]
      congr 1
      omega
    have heq := hinj i (by omega) (i + 1) (by omega)
    rw [Nat.succ_mul] at hfirst
    have hnat : (((i + 1 : ℕ) : ℤ) * fiscal_year_months) =
        (i * fiscal_year_months : ℕ) + fiscal_year_months := by
      push_cast
      ring
    rw [hnat, ← Nat.cast_mul] at heq
    generalize i * fiscal_year_months = x at hsum heq
    generalize i * (12 - fiscal_year_months) = y at hsum hfirst hprevious
    omega
  · intro hle
    have hlt : ∀ i j : ℕ, j < n → i < j →
        (k + i * fiscal_year_months) / 12 < (k + j * fiscal_year_months) / 12 := by
      intro i j hj hij
      rw [← Nat.cast_mul, ← Nat.cast_mul]
      have hstep : i * fiscal_year_months + fiscal_year_months ≤ j * fiscal_year_months := by
        rw [← Nat.succ_mul]
        exact Nat.mul_le_mul_right _ hij
      rcases le_total 12 fiscal_year_months with hlong | hshort
      · generalize i * fiscal_year_months = x at hstep
        generalize j * fiscal_year_months = y at hstep
        omega
      · have hsplit : ∀ i, i * fiscal_year_months + i * (12 - fiscal_year_months) = i * 12 := by
          intro i
          rw [← Nat.mul_add]
          congr 1
          omega
        have hlate : j * (12 - fiscal_year_months) ≤ (n - 1) * (12 - fiscal_year_months) :=
          Nat.mul_le_mul_right _ (by omega)
        have hi := hsplit i
        have hj' := hsplit j
        generalize (n - 1) * (12 - fiscal_year_months) = z at hle hlate
        generalize i * fiscal_year_months = x at hi
        generalize j * fiscal_year_months = y at hj'
        omega
    intro i hi j hj heq
    rcases lt_trichotomy i j with h | h | h
    · exact absurd heq (hlt i j hj h).ne
    · exact h
    · exact absurd heq (hlt j i hi h).ne'

end Labels

section Extensions

variable {Settings Order : Type} {platform : Platform Settings Order}

/-- A month after the end of a period is never the day after it. -/
theorem add_months_one_ne {date next : Date} (hdate : Representable date)
    (h : add_months date 1 = some next) : next ≠ date.addDays 1 := by
  rintro rfl
  obtain ⟨-, next, hnext, -, hnumber, hday⟩ | ⟨-, hnone⟩ := add_months_eq hdate 1
  · rw [h] at hnext
    obtain rfl := Option.some.inj hnext
    obtain ⟨-, hspec⟩ := date.day_spec
    obtain ⟨-, hspec'⟩ := (date.addDays 1).day_spec
    obtain ⟨hmonth, -⟩ := date.month_spec
    have hle := date.day_le
    have hlong := le_daysInMonth date.year date.month
    have hlong' := le_daysInMonth (date.addDays 1).year (date.addDays 1).month
    have hsucc := monthStart_succ date.year hmonth
    have hsame : date.year * 12 + date.month = date.monthNumber + 1 := by
      rw [Date.monthNumber]
      omega
    rw [hsame, add_sub_cancel_right] at hsucc
    rw [hnumber, Nat.cast_one, hsucc] at hspec'
    have hfirst : date.dayNumber = (monthStart date.monthNumber).dayNumber + (date.day - 1) :=
      congrArg Date.dayNumber hspec
    have hsecond : date.dayNumber + 1 = (monthStart date.monthNumber).dayNumber +
        daysInMonth date.year date.month + ((date.addDays 1).day - 1) :=
      congrArg Date.dayNumber hspec'
    omega
  · rw [h] at hnone
    cases hnone

theorem generate_next_period_periods (platform : Platform Settings Order)
    (session : Session Settings) :
    (generate_next_period platform session).2.periods = session.periods := by
  rw [generate_next_period]
  split
  · rfl
  · dsimp only
    split
    · rfl
    · split
      · rfl
      · rfl

theorem generateLoop_periods (platform : Platform Settings Order) (fuel : ℕ)
    (session : Session Settings) :
    (generateLoop platform fuel session).2.periods = session.periods := by
  induction fuel generalizing session with
  | zero => rfl
  | succ fuel ih =>
      have hstep := generate_next_period_periods platform session
      rw [generateLoop]
      split
      · rename_i heq
        rwa [heq] at hstep
      · rename_i heq
        rwa [heq] at hstep
      · rename_i result session' heq
        rw [heq] at hstep
        exact (ih session').trans hstep

theorem generate_delta_periods {session session' : Session Settings} {months : ℕ}
    {results : Except SynthError (List PeriodResult)}
    (h : generate_delta platform session months = some (results, session')) :
    ∃ outcome, delta_periods platform session months = some outcome ∧
      session'.periods = session.periods ++ outcome.toOption.getD [] := by
  obtain ⟨outcome, houtcome, h⟩ := Option.bind_eq_some_iff.mp h
  refine ⟨outcome, houtcome, ?_⟩
  cases outcome with
  | error e =>
      obtain ⟨-, rfl⟩ := Prod.mk.inj (Option.some.inj h)
      exact (List.append_nil _).symm
  | ok new_periods =>
      have hperiods := generateLoop_periods platform
        (remaining_periods { session with periods := session.periods ++ new_periods } + 1)
        { session with periods := session.periods ++ new_periods }
      have hall := congrArg Prod.snd (Option.some.inj h)
      exact (congrArg Session.periods hall).symm.trans hperiods

theorem extendAll_periods {deltas : List ℕ} {session session' : Session Settings}
    (h : extendAll platform deltas session = some session') :
    ∃ more, session'.periods = session.periods ++ more := by
  induction deltas generalizing session with
  | nil =>
      obtain rfl := Option.some.inj h
      exact ⟨[], (List.append_nil _).symm⟩
  | cons months deltas ih =>
      obtain ⟨⟨results, next⟩, hdelta, h⟩ := Option.bind_eq_some_iff.mp h
      obtain ⟨outcome, -, hnew⟩ := generate_delta_periods hdelta
      obtain ⟨more, hmore⟩ := ih h
      exact ⟨outcome.toOption.getD [] ++ more, by rw [hmore, hnew, List.append_assoc]⟩

/-- An extension leaves a gap, which no later one closes. -/
theorem not_contiguous_of_delta {session session' : Session Settings} {months : ℕ}
    {deltas : List ℕ} {last : GenerationPeriod} (hlast : session.periods.getLast? = some last)
    (hend : Representable last.end_date) (hfy : 0 < session.config.global.fy_months)
    (hmonths : 0 < months) (h : extendAll platform (months :: deltas) session = some session') :
    ¬ session'.periods.IsChain fun p q => q.start_date = p.end_date.addDays 1 := by
  obtain ⟨⟨results, extended⟩, hdelta, h⟩ := Option.bind_eq_some_iff.mp h
  obtain ⟨more, hmore⟩ := extendAll_periods h
  obtain ⟨outcome, houtcome, hnew⟩ := generate_delta_periods hdelta
  rw [delta_periods, hlast] at houtcome
  obtain ⟨start, hstart, houtcome⟩ := Option.bind_eq_some_iff.mp houtcome
  obtain ⟨next, hnext, rfl⟩ := Option.map_eq_some_iff.mp hstart
  obtain ⟨periods, hperiods, houtcome⟩ := Option.bind_eq_some_iff.mp houtcome
  obtain rfl := Option.some.inj houtcome
  have hrep : Representable next := by
    obtain ⟨-, next', hnext', hrep, -⟩ | ⟨-, hnone⟩ := add_months_eq hend 1
    · rw [hnext] at hnext'
      obtain rfl := Option.some.inj hnext'
      exact hrep
    · rw [hnext] at hnone
      cases hnone
  have hdecomposed := (compute_periods_spec hfy hmonths hrep).1 periods hperiods
  have hne : 0 < periods.length := by
    rw [hdecomposed.length_eq]
    exact Nat.div_pos (by omega) hfy
  obtain ⟨first, periods, rfl⟩ := List.exists_cons_of_length_pos hne
  intro hchain
  rw [hmore, hnew, List.append_assoc, List.isChain_append] at hchain
  have hgap := hchain.2.2 last hlast { first with index := session.periods.length }
    (by simp [Except.toOption])
  have hfirst : first.start_date = next := hdecomposed.starts first rfl
  exact add_months_one_ne hend hnext (hfirst.symm.trans hgap)

end Extensions

section Timeline

variable {Settings Order : Type}

theorem tiles_iff {total fiscal_year_months : ℕ} {start : Date} {periods : List GenerationPeriod}
    (hfy : 0 < fiscal_year_months)
    (h : Decomposed fiscal_year_months total start 0 periods) :
    Tiles total periods ↔
      ((total + fiscal_year_months - 1) / fiscal_year_months - 1) * (12 - fiscal_year_months) ≤
        start.month - 1 := by
  have hlabels : (periods.map (·.label)).Nodup ↔
      (periods.length - 1) * (12 - fiscal_year_months) ≤ start.month - 1 := by
    have hmonth := Date.month_eq start
    obtain ⟨hone, -⟩ := start.month_spec
    have hmap : periods.map (·.label) = ((List.range periods.length).map fun i : ℕ =>
        (start.monthNumber + i * fiscal_year_months) / 12).map yearLabel := by
      rw [h.labels, List.map_map]
      rfl
    rw [hmap, List.nodup_map_iff yearLabel_injective, nodup_years_iff hfy]
    generalize (periods.length - 1) * (12 - fiscal_year_months) = late
    omega
  rw [← h.length_eq, ← hlabels]
  constructor
  · intro htiles
    exact htiles.labels_nodup
  · intro hnodup
    refine ⟨?_, h.contiguous, h.months_sum, hnodup⟩
    rw [h.indices, List.range_eq_range']

theorem new_eq {platform : Platform Settings Order} {config : GeneratorConfig Settings}
    {start : Date} (hparse : platform.parse_from_str config.global.start_date = .ok start)
    (order : Order) (output_path : PathBuf) :
    new platform config order output_path =
      (GenerationPeriod.compute_periods start config.global.period_months
        config.global.fy_months).map fun periods =>
          .ok ⟨config, SessionState.new (config.global.seed.getD 42)
            (platform.compute_config_hash config order), periods,
            .ofPeriods periods output_path⟩ := by
  rw [new, parse_start_date, hparse]
  show Option.bind _ _ = _
  rw [Option.map_eq_bind]
  rfl

section Sessions

variable {platform : Platform Settings Order} {config : GeneratorConfig Settings} {start : Date}
  (hparse : platform.parse_from_str config.global.start_date = .ok start)
  (hmonths : 0 < config.global.period_months) (hfy : 0 < config.global.fy_months)

include hparse hmonths hfy

theorem tilesTimeline_nil_iff (order : Order) (output_path : PathBuf) :
    TilesTimeline platform config order output_path [] ↔
      FitsCalendar config.global start ∧ StartsYearly config.global start := by
  obtain ⟨hspec, hsome⟩ :=
    compute_periods_spec hfy hmonths (platform.representable _ _ hparse)
  rw [TilesTimeline, new_eq hparse order output_path]
  constructor
  · rintro ⟨session, session', hnew, hextend, htiles⟩
    obtain ⟨periods, hperiods, hsession⟩ := Option.map_eq_some_iff.mp hnew
    obtain rfl := Except.ok.inj hsession
    obtain rfl := Option.some.inj hextend
    refine ⟨hsome.mp (Option.isSome_iff_exists.mpr ⟨periods, hperiods⟩), ?_⟩
    exact (tiles_iff hfy (hspec periods hperiods)).mp htiles
  · rintro ⟨hfits, hyearly⟩
    obtain ⟨periods, hperiods⟩ := Option.isSome_iff_exists.mp (hsome.mpr hfits)
    refine ⟨_, _, Option.map_eq_some_iff.mpr ⟨periods, hperiods, rfl⟩, rfl, ?_⟩
    exact (tiles_iff hfy (hspec periods hperiods)).mpr hyearly

theorem not_tilesTimeline_cons (order : Order) (output_path : PathBuf) {months : ℕ}
    (hpos : 0 < months) (deltas : List ℕ) :
    ¬ TilesTimeline platform config order output_path (months :: deltas) := by
  rw [TilesTimeline, new_eq hparse order output_path]
  rintro ⟨session, session', hnew, hextend, htiles⟩
  obtain ⟨periods, hperiods, hsession⟩ := Option.map_eq_some_iff.mp hnew
  obtain rfl := Except.ok.inj hsession
  have hdecomposed := (compute_periods_spec hfy hmonths
    (platform.representable _ _ hparse)).1 periods hperiods
  have hne : periods ≠ [] := by
    apply List.ne_nil_of_length_pos
    rw [hdecomposed.length_eq]
    exact Nat.div_pos (by omega) hfy
  exact not_contiguous_of_delta (List.getLast?_eq_some_getLast hne)
    (hdecomposed.ends _ (List.getLast_mem hne)) hfy hpos hextend htiles.contiguous

end Sessions

/-- The periods tile the time line if the session is never extended, the calendar has room for
them and they start in different years. -/
theorem tilesTimeline_iff (platform : Platform Settings Order) (config : GeneratorConfig Settings)
    (order : Order) (output_path : PathBuf) {deltas : List ℕ} {start : Date}
    (hparse : platform.parse_from_str config.global.start_date = .ok start)
    (hmonths : 0 < config.global.period_months) (hfy : 0 < config.global.fy_months)
    (hdeltas : ∀ months ∈ deltas, 0 < months) :
    TilesTimeline platform config order output_path deltas ↔
      deltas = [] ∧ FitsCalendar config.global start ∧ StartsYearly config.global start := by
  cases deltas with
  | nil =>
      rw [tilesTimeline_nil_iff hparse hmonths hfy]
      exact (and_iff_right rfl).symm
  | cons months deltas =>
      refine iff_of_false ?_ (fun h => List.cons_ne_nil _ _ h.1)
      exact not_tilesTimeline_cons hparse hmonths hfy order output_path
        (hdeltas months List.mem_cons_self) deltas

end Timeline

section Samples

/-- Every text is read as one date, and nothing fails. -/
def samplePlatform (start : Date) (hstart : Representable start) : Platform Unit Unit where
  parse_from_str _ := .ok start
  representable _ _ h := by
    obtain rfl := Except.ok.inj h
    exact hstart
  format _ := ""
  advance_seed seed index := seed + index
  compute_config_hash _ _ := ""
  to_string_pretty _ := .ok ""
  from_str _ := .ok (SessionState.new 0 "")
  create_dir_all _ := .ok ()
  generate _ := .ok ⟨[], ⟨0, 0, 0, 0, 0, 0, 0⟩, 0⟩

def sampleConfig (period_months : ℕ) (fiscal_year_months : Option ℕ) : GeneratorConfig Unit :=
  ⟨⟨some 42, "2024-01-01", period_months, fiscal_year_months⟩, ()⟩

def newYear : Platform Unit Unit := samplePlatform (Date.ofYmd 2024 1 1) (by
  show yearInRange _ = true
  decide)

/-- Three fiscal years. -/
theorem tilesTimeline_threeYears :
    TilesTimeline newYear (sampleConfig 36 (some 12)) () ⟨true, ["out"]⟩ [] := by
  have hparse : newYear.parse_from_str "2024-01-01" = .ok (Date.ofYmd 2024 1 1) := rfl
  apply (tilesTimeline_iff newYear (sampleConfig 36 (some 12)) () ⟨true, ["out"]⟩ hparse
    (by decide) (by decide) ?_).mpr
  · exact ⟨rfl, by decide, by decide⟩
  · intro months hmonths
    cases hmonths

/-- A year that is extended by another one: the second one starts on the last day of January. -/
theorem not_tilesTimeline_extended :
    ¬ TilesTimeline newYear (sampleConfig 12 none) () ⟨true, ["out"]⟩ [12] := by
  have hparse : newYear.parse_from_str "2024-01-01" = .ok (Date.ofYmd 2024 1 1) := rfl
  exact not_tilesTimeline_cons hparse (by decide) (by decide) () ⟨true, ["out"]⟩ (by decide) []

example :
    ((new newYear (sampleConfig 12 none) () ⟨true, ["out"]⟩).bind fun session =>
      session.toOption.bind fun session =>
        (extendAll newYear [12] session).map fun session =>
          session.periods.map fun p => (p.start_date, p.end_date)) =
      some [(Date.ofYmd 2024 1 1, Date.ofYmd 2024 12 31),
        (Date.ofYmd 2025 1 31, Date.ofYmd 2026 1 30)] := by
  decide

end Samples

end Datasynth.Runtime.SessionPeriods
