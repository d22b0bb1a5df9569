import Datasynth.Group.NciMeasurement
import Datasynth.Lib.ExceptRuns

/-!
The rollforward of an equity-method investment.  Losses beyond the carrying value
are suppressed and recovered from later profits; together the carrying value and the
suppressed losses are a signed balance that the period's movements change.
-/

namespace Datasynth.Group.EquityMethod

open Datasynth.Group.Config
open Datasynth.Group.ManifestBuilder
open Datasynth.Group.NciMeasurement
open Datasynth.Lib.CarryForward
open Datasynth.Lib.CivilCalendar
open Datasynth.Lib.DecimalText
open Datasynth.Lib.ExceptRuns
open Datasynth.Lib.HalfEvenRounding

structure EquityMethodInvestment where
  investee_code : String
  investor_entity_code : String
  ownership_percent : ℚ
  opening_carrying_value : ℚ
  opening_suppressed_loss : ℚ
  share_of_profit : ℚ
  share_of_profit_recognised : ℚ
  dividends_received : ℚ
  impairment : ℚ
  suppressed_loss_this_period : ℚ
  closing_suppressed_loss : ℚ
  closing_carrying_value : ℚ
  period_end : Date
  currency : String
deriving DecidableEq

structure EquityMethodInputs where
  investee : ManifestEntity
  investor_entity_code : String
  investee_net_income : ℚ
  investee_dividends_paid : ℚ
  opening_carrying_value : ℚ
  opening_suppressed_loss : ℚ
  impairment : ℚ
  period_end : Date
  currency : String

def validateInvestee (investee : ManifestEntity) : GroupResult ℚ :=
  if investee.consolidation_method ≠ .equityMethod then
    .error <| .aggregate <|
      s!"compute_equity_method_investment: entity `{investee.code}` has consolidation_method=" ++
        methodDebugName investee.consolidation_method ++
        " — equity-method treatment is only valid for ConsolidationMethod::EquityMethod " ++
        "(Parent / Full are line-by-line consolidated; Proportional / FairValue use other methods)"
  else
    match investee.ownership_percent with
    | none => .error <| .aggregate <|
        s!"compute_equity_method_investment: entity `{investee.code}` is " ++
          "consolidation_method=EquityMethod but has no ownership_percent set — supply " ++
          "ownership_percent in (0, 1)"
    | some ownership_percent =>
        if ownership_percent ≤ 0 ∨ 1 ≤ ownership_percent then
          .error <| .aggregate <|
            s!"compute_equity_method_investment: entity `{investee.code}` ownership_percent=" ++
              decimalText ownership_percent ++ " is outside (0, 1) — equity-method treatment " ++
              "requires strict 0 < ownership < 1"
        else .ok ownership_percent

/-- The recognised part of a share of profit and what is left of the suppressed losses. -/
def recoverSuppressed (share_of_profit opening_suppressed : ℚ) : ℚ × ℚ :=
  if 0 < share_of_profit ∧ 0 < opening_suppressed then
    let recovered := min share_of_profit opening_suppressed
    (share_of_profit - recovered, opening_suppressed - recovered)
  else (share_of_profit, opening_suppressed)

/-- The closing carrying value and the loss suppressed to keep it at zero. -/
def clampAtZero (raw_closing : ℚ) : ℚ × ℚ :=
  if raw_closing < 0 then (0, roundDp 2 (-raw_closing)) else (raw_closing, 0)

def rollInvestment (inputs : EquityMethodInputs) (ownership_percent : ℚ) :
    EquityMethodInvestment :=
  let share_of_profit := ownership_percent * inputs.investee_net_income
  let dividends_received := ownership_percent * inputs.investee_dividends_paid
  let opening_suppressed := max inputs.opening_suppressed_loss 0
  let recovery := recoverSuppressed share_of_profit opening_suppressed
  let raw_closing := roundDp 2 (inputs.opening_carrying_value + recovery.1 - dividends_received -
    inputs.impairment)
  let closing := clampAtZero raw_closing
  { investee_code := inputs.investee.code
    investor_entity_code := inputs.investor_entity_code
    ownership_percent
    opening_carrying_value := roundDp 2 inputs.opening_carrying_value
    opening_suppressed_loss := roundDp 2 opening_suppressed
    share_of_profit := roundDp 2 share_of_profit
    share_of_profit_recognised := roundDp 2 recovery.1
    dividends_received := roundDp 2 dividends_received
    impairment := roundDp 2 inputs.impairment
    suppressed_loss_this_period := closing.2
    closing_suppressed_loss := roundDp 2 (recovery.2 + closing.2)
    closing_carrying_value := closing.1
    period_end := inputs.period_end
    currency := inputs.currency }

def compute_equity_method_investment (inputs : EquityMethodInputs) :
    GroupResult EquityMethodInvestment :=
  (validateInvestee inputs.investee).bind fun ownership_percent =>
    .ok (rollInvestment inputs ownership_percent)

/-- An investee that passes validation, with the share held in it. -/
structure HeldByEquityMethod (investee : ManifestEntity) (ownership_percent : ℚ) : Prop where
  method_eq : investee.consolidation_method = .equityMethod
  ownership_eq : investee.ownership_percent = some ownership_percent
  ownership_pos : 0 < ownership_percent
  ownership_lt_one : ownership_percent < 1

theorem validateInvestee_eq_ok_iff {investee : ManifestEntity} {ownership_percent : ℚ} :
    validateInvestee investee = .ok ownership_percent ↔
      HeldByEquityMethod investee ownership_percent := by
  constructor
  · intro h
    rw [validateInvestee] at h
    split at h
    · cases h
    · rename_i hmethod
      split at h
      · cases h
      · rename_i ownership hownership
        split at h
        · cases h
        · rename_i hrange
          cases h
          rw [not_or, not_le, not_le] at hrange
          exact ⟨not_not.mp hmethod, hownership, hrange.1, hrange.2⟩
  · intro h
    simp [validateInvestee, h.method_eq, h.ownership_eq, h.ownership_pos.not_ge,
      h.ownership_lt_one.not_ge]

theorem compute_equity_method_investment_eq_ok_iff {inputs : EquityMethodInputs}
    {record : EquityMethodInvestment} :
    compute_equity_method_investment inputs = .ok record ↔
      ∃ ownership_percent, HeldByEquityMethod inputs.investee ownership_percent ∧
        rollInvestment inputs ownership_percent = record := by
  simp only [compute_equity_method_investment, bind_eq_ok_iff, validateInvestee_eq_ok_iff,
    Except.ok.injEq]

section Movement

variable {share suppressed raw : ℚ}

/-- Recovering losses moves the profit past the carrying value, not past the balance. -/
theorem recoverSuppressed_conserves (share suppressed : ℚ) :
    (recoverSuppressed share suppressed).1 - (recoverSuppressed share suppressed).2 =
      share - suppressed := by
  rw [recoverSuppressed]
  split
  · ring
  · rfl

theorem recoverSuppressed_nonneg (hsuppressed : 0 ≤ suppressed) :
    0 ≤ (recoverSuppressed share suppressed).2 := by
  rw [recoverSuppressed]
  split
  · exact sub_nonneg.mpr (min_le_right _ _)
  · exact hsuppressed

/-- While losses stay suppressed no profit is recognised. -/
theorem recoverSuppressed_fst_nonpos (hleft : 0 < (recoverSuppressed share suppressed).2) :
    (recoverSuppressed share suppressed).1 ≤ 0 := by
  rw [recoverSuppressed] at hleft ⊢
  split
  · rename_i hboth
    rw [if_pos hboth] at hleft
    have hmin : min share suppressed < suppressed := by simpa using hleft
    rcases min_lt_iff.mp hmin with hshare | hself
    · simp [min_eq_left hshare.le]
    · exact absurd hself (lt_irrefl _)
  · rename_i hneither
    rw [if_neg hneither] at hleft
    by_contra hshare
    exact hneither ⟨not_le.mp hshare, hleft⟩

theorem clampAtZero_nonneg (raw : ℚ) : 0 ≤ (clampAtZero raw).1 ∧ 0 ≤ (clampAtZero raw).2 := by
  rw [clampAtZero]
  split
  · rename_i hneg
    exact ⟨le_rfl, roundDp_nonneg 2 (neg_nonneg.mpr hneg.le)⟩
  · rename_i hnonneg
    exact ⟨not_lt.mp hnonneg, le_rfl⟩

/-- Clamping an amount of whole cents moves it between the two columns. -/
theorem clampAtZero_conserves (x : ℚ) :
    (clampAtZero (roundDp 2 x)).1 - (clampAtZero (roundDp 2 x)).2 = roundDp 2 x := by
  rw [clampAtZero]
  split
  · rw [roundDp_neg_roundDp]
    ring
  · exact sub_zero _

theorem clampAtZero_of_nonpos (hraw : raw ≤ 0) : (clampAtZero raw).1 = 0 := by
  rw [clampAtZero]
  split
  · rfl
  · rename_i hnonneg
    exact le_antisymm hraw (not_lt.mp hnonneg)

theorem clampAtZero_snd_of_pos (hraw : 0 < (clampAtZero raw).1) : (clampAtZero raw).2 = 0 := by
  rw [clampAtZero] at hraw ⊢
  split
  · rename_i hneg
    rw [if_pos hneg] at hraw
    exact absurd hraw (lt_irrefl _)
  · rfl

end Movement

structure Opening where
  carrying_value : ℚ
  suppressed_loss : ℚ

/-- Non-negative balances of which at most one is positive. -/
structure Opening.WellFormed (o : Opening) : Prop where
  carrying_nonneg : 0 ≤ o.carrying_value
  suppressed_nonneg : 0 ≤ o.suppressed_loss
  exclusive : o.carrying_value = 0 ∨ o.suppressed_loss = 0

/-- The carrying value net of the losses that wait to be recovered. -/
def Opening.balance (o : Opening) : ℚ := o.carrying_value - o.suppressed_loss

def carriedForward (record : EquityMethodInvestment) : Opening :=
  ⟨record.closing_carrying_value, record.closing_suppressed_loss⟩

def settle (o : Opening) (share received impairment : ℚ) : Opening :=
  let recovery := recoverSuppressed share (max o.suppressed_loss 0)
  let closing := clampAtZero (roundDp 2 (o.carrying_value + recovery.1 - received - impairment))
  ⟨closing.1, roundDp 2 (recovery.2 + closing.2)⟩

theorem carriedForward_rollInvestment (inputs : EquityMethodInputs) (ownership_percent : ℚ) :
    carriedForward (rollInvestment inputs ownership_percent) =
      settle ⟨inputs.opening_carrying_value, inputs.opening_suppressed_loss⟩
        (ownership_percent * inputs.investee_net_income)
        (ownership_percent * inputs.investee_dividends_paid) inputs.impairment := rfl

section Settlement

variable {o : Opening} {share received impairment : ℚ}

/-- What remains suppressed keeps the carrying value at zero. -/
theorem settle_wellFormed (ho : o.WellFormed) (hreceived : 0 ≤ received)
    (himpairment : 0 ≤ impairment) : (settle o share received impairment).WellFormed := by
  have hleft : 0 ≤ (recoverSuppressed share o.suppressed_loss).2 :=
    recoverSuppressed_nonneg ho.suppressed_nonneg
  rw [settle, max_eq_left ho.suppressed_nonneg]
  refine ⟨(clampAtZero_nonneg _).1,
    roundDp_nonneg 2 (add_nonneg hleft (clampAtZero_nonneg _).2), ?_⟩
  rcases hleft.eq_or_lt with hrecovered | hremaining
  · rcases (clampAtZero_nonneg (roundDp 2 (o.carrying_value +
      (recoverSuppressed share o.suppressed_loss).1 - received - impairment))).1.eq_or_lt
      with hzero | hpos
    · exact .inl hzero.symm
    · refine .inr ?_
      simp [← hrecovered, clampAtZero_snd_of_pos hpos]
  · have hcarried : o.carrying_value = 0 := by
      refine ho.exclusive.resolve_right fun hzero => hremaining.ne' ?_
      simp [hzero, recoverSuppressed]
    have hrecognised := recoverSuppressed_fst_nonpos hremaining
    exact .inl (clampAtZero_of_nonpos (roundDp_nonpos 2 (by linarith)))

/-- The balance moves by the period's movements, rounded twice. -/
theorem settle_balance (ho : 0 ≤ o.suppressed_loss) :
    |(settle o share received impairment).balance - o.balance -
      (share - received - impairment)| ≤ 1 / 100 := by
  rw [settle, max_eq_left ho, Opening.balance, Opening.balance]
  have hrecovery := recoverSuppressed_conserves share o.suppressed_loss
  generalize recoverSuppressed share o.suppressed_loss = recovery at *
  have hclamp := clampAtZero_conserves (o.carrying_value + recovery.1 - received - impairment)
  have hround := two_mul_abs_roundDp_sub_le 2
    (o.carrying_value + recovery.1 - received - impairment)
  generalize roundDp 2 (o.carrying_value + recovery.1 - received - impairment) = raw at *
  have hround' := two_mul_abs_roundDp_sub_le 2 (recovery.2 + (clampAtZero raw).2)
  have hsplit : (clampAtZero raw).1 - roundDp 2 (recovery.2 + (clampAtZero raw).2) -
      (o.carrying_value - o.suppressed_loss) - (share - received - impairment) =
      (raw - (o.carrying_value + recovery.1 - received - impairment)) -
        (roundDp 2 (recovery.2 + (clampAtZero raw).2) - (recovery.2 + (clampAtZero raw).2)) := by
    linarith
  rw [hsplit]
  refine (abs_sub _ _).trans ?_
  norm_num at hround hround' ⊢
  linarith

end Settlement

structure InvesteePeriod where
  investee : ManifestEntity
  investor_entity_code : String
  investee_net_income : ℚ
  investee_dividends_paid : ℚ
  impairment : ℚ
  period_end : Date
  currency : String

def rollPeriod (o : Opening) (p : InvesteePeriod) : GroupResult EquityMethodInvestment :=
  compute_equity_method_investment
    { investee := p.investee
      investor_entity_code := p.investor_entity_code
      investee_net_income := p.investee_net_income
      investee_dividends_paid := p.investee_dividends_paid
      opening_carrying_value := o.carrying_value
      opening_suppressed_loss := o.suppressed_loss
      impairment := p.impairment
      period_end := p.period_end
      currency := p.currency }

/-- A valid investee that neither claws dividends back nor reverses impairments. -/
structure InvesteePeriod.Regular (p : InvesteePeriod) : Prop where
  held : ∃ ownership_percent, HeldByEquityMethod p.investee ownership_percent
  dividends_nonneg : 0 ≤ p.investee_dividends_paid
  impairment_nonneg : 0 ≤ p.impairment

/-- The closing balances are well-formed, and their difference has changed by the share
of profit less dividends and impairment, within a cent. -/
structure RollsForward (o : Opening) (p : InvesteePeriod) (record : EquityMethodInvestment) :
    Prop where
  closing_wellFormed : (carriedForward record).WellFormed
  movement : |(carriedForward record).balance - o.balance -
    (record.ownership_percent * p.investee_net_income -
      record.ownership_percent * p.investee_dividends_paid - p.impairment)| ≤ 1 / 100

theorem rollPeriod_rollsForward {o : Opening} {p : InvesteePeriod}
    {record : EquityMethodInvestment} (ho : o.WellFormed) (hp : p.Regular)
    (h : rollPeriod o p = .ok record) : RollsForward o p record := by
  obtain ⟨ownership_percent, hheld, rfl⟩ := compute_equity_method_investment_eq_ok_iff.mp h
  have hreceived : 0 ≤ ownership_percent * p.investee_dividends_paid :=
    mul_nonneg hheld.ownership_pos.le hp.dividends_nonneg
  constructor
  · rw [carriedForward_rollInvestment]
    exact settle_wellFormed ho hreceived hp.impairment_nonneg
  · rw [carriedForward_rollInvestment]
    exact settle_balance ho.suppressed_nonneg

theorem exists_rollPeriod_eq_ok (o : Opening) {p : InvesteePeriod} (hp : p.Regular) :
    ∃ record, rollPeriod o p = .ok record := by
  obtain ⟨ownership_percent, hheld⟩ := hp.held
  exact ⟨_, compute_equity_method_investment_eq_ok_iff.mpr ⟨ownership_percent, hheld, rfl⟩⟩

theorem runPeriods_rollsForward {periods : List InvesteePeriod} {o : Opening}
    (ho : o.WellFormed) (hregular : ∀ p ∈ periods, p.Regular) :
    ∃ records, runPeriods rollPeriod carriedForward o periods = .ok records ∧
      EveryPeriod carriedForward RollsForward o periods records := by
  refine exists_runPeriods_everyPeriod (fun o _ _ => exists_rollPeriod_eq_ok o) ?_ ho hregular
  intro o p record ho hp hstep
  have hrolls := rollPeriod_rollsForward ho hp hstep
  exact ⟨hrolls.closing_wellFormed, hrolls⟩

def sampleAssociate : ManifestEntity where
  code := "S"
  name := none
  country := "DE"
  functional_currency := "EUR"
  scoping_profile := "significant"
  consolidation_method := .equityMethod
  ownership_percent := some (3 / 10)
  parent_code := some "P"
  accounting_framework := none
  industry := none
  hyperinflation_status := .notHyperinflationary
  ownership_changes := []
  entity_seed := ""
  shard_id := ""

def associateYear (year : ℤ) (net_income : ℚ) : InvesteePeriod :=
  ⟨sampleAssociate, "P", net_income, 0, 0, Date.ofYmd year 12 31, "EUR"⟩

/-- A loss beyond the carrying value, then a profit that recovers part of it. -/
theorem loss_then_recovery_rollsForward :
    ∃ records, runPeriods rollPeriod carriedForward ⟨100, 0⟩
        [associateYear 2024 (-1000), associateYear 2025 500] = .ok records ∧
      EveryPeriod carriedForward RollsForward ⟨100, 0⟩
        [associateYear 2024 (-1000), associateYear 2025 500] records := by
  refine runPeriods_rollsForward ⟨by norm_num, le_rfl, .inr rfl⟩ ?_
  have hregular : ∀ year net_income, (associateYear year net_income).Regular := fun _ _ =>
    ⟨⟨3 / 10, rfl, rfl, by norm_num, by norm_num⟩, le_rfl, le_rfl⟩
  simp [hregular]

end Datasynth.Group.EquityMethod
