import Datasynth.Group.EquityMethod
import Datasynth.Group.FinancialStatements

/-!
The overlay of non-controlling interests and equity-method investments on the
post-elimination trial balance.
-/

namespace Datasynth.Group.PostElimination

open Datasynth.Core.TrialBalances
open Datasynth.Group.Config
open Datasynth.Group.EquityMethod
open Datasynth.Group.FinancialStatements
open Datasynth.Group.NciMeasurement
open Datasynth.Group.PreElimination
open Datasynth.Lib.CivilCalendar
open Datasynth.Lib.ExceptRuns
open Datasynth.Lib.SortedEntries

def NCI_EQUITY : String := "3500"

def EQUITY_METHOD_INVESTMENT : String := "1850"

def SHARE_OF_PROFIT_OF_ASSOCIATES : String := "4900"

def RETAINED_EARNINGS : String := "3300"

/-- A line that is posted without a journal entry. -/
structure OverlayLine where
  account_code : String
  debit_amount : ℚ
  credit_amount : ℚ

def OverlayLine.net (line : OverlayLine) : ℚ := line.debit_amount - line.credit_amount

/-- An account that is not there yet is created with the default type. -/
def apply_line_to_account (post : AggregatedTb) (line : OverlayLine) : AggregatedTb :=
  { post with
    account_totals := post.account_totals.upsert line.account_code fun existing =>
      (existing.getD (.fresh line.account_code .default)).post line.debit_amount
        line.credit_amount }

def applyLines (post : AggregatedTb) (lines : List OverlayLine) : AggregatedTb :=
  lines.foldl apply_line_to_account post

def withTotals (post : AggregatedTb) : AggregatedTb :=
  { post with
    total_debits := (recompute_totals post).1
    total_credits := (recompute_totals post).2 }

def checkNciCurrency (currency : String) (rf : NciRollforward) : GroupResult Unit :=
  if rf.currency ≠ currency then
    .error <| .aggregate <|
      s!"apply_nci_and_equity_method: NCI rollforward for entity `{rf.entity_code}` is " ++
        s!"denominated in `{rf.currency}` but consolidated TB is in `{currency}` — " ++
        "translation needed first (Chunk 6)"
  else .ok ()

def checkInvestmentCurrency (currency : String) (inv : EquityMethodInvestment) :
    GroupResult Unit :=
  if inv.currency ≠ currency then
    .error <| .aggregate <|
      s!"apply_nci_and_equity_method: equity-method investment for investee " ++
        s!"`{inv.investee_code}` is denominated in `{inv.currency}` but consolidated TB is in " ++
        s!"`{currency}` — translation needed first (Chunk 6)"
  else .ok ()

def nciLines (total_closing_nci : ℚ) : List OverlayLine :=
  if total_closing_nci ≠ 0 then
    [⟨NCI_EQUITY, 0, total_closing_nci⟩, ⟨RETAINED_EARNINGS, total_closing_nci, 0⟩]
  else []

def investmentLines (inv : EquityMethodInvestment) : List OverlayLine :=
  if inv.closing_carrying_value ≠ 0 then
    [⟨EQUITY_METHOD_INVESTMENT, inv.closing_carrying_value, 0⟩,
      ⟨RETAINED_EARNINGS, 0, inv.closing_carrying_value⟩]
  else []

def shareOfProfitLines (inv : EquityMethodInvestment) : List OverlayLine :=
  if inv.share_of_profit ≠ 0 then
    [⟨SHARE_OF_PROFIT_OF_ASSOCIATES, 0, inv.share_of_profit⟩,
      ⟨RETAINED_EARNINGS, inv.share_of_profit, 0⟩]
  else []

def totalClosingNci (nci_rollforwards : List NciRollforward) : ℚ :=
  (nci_rollforwards.map (·.closing_nci)).sum

def totalCarryingValue (investments : List EquityMethodInvestment) : ℚ :=
  (investments.map (·.closing_carrying_value)).sum

def totalShareOfProfit (investments : List EquityMethodInvestment) : ℚ :=
  (investments.map (·.share_of_profit)).sum

def overlayLines (nci_rollforwards : List NciRollforward)
    (equity_method_investments : List EquityMethodInvestment) : List OverlayLine :=
  nciLines (totalClosingNci nci_rollforwards) ++
    equity_method_investments.flatMap fun inv => investmentLines inv ++ shareOfProfitLines inv

/-- An imbalance of the result is logged, not refused. -/
def apply_nci_and_equity_method (post_elim_tb : AggregatedTb)
    (nci_rollforwards : List NciRollforward)
    (equity_method_investments : List EquityMethodInvestment) : GroupResult AggregatedTb :=
  (traverseRun (checkNciCurrency post_elim_tb.currency) nci_rollforwards).bind fun _ =>
    (traverseRun (checkInvestmentCurrency post_elim_tb.currency) equity_method_investments).bind
      fun _ => .ok <| withTotals <|
        applyLines post_elim_tb (overlayLines nci_rollforwards equity_method_investments)

section Posting

variable {tb : AggregatedTb}

/-- Posting keeps the type of every account, also of one that it creates. -/
@[simp] theorem typeOf_apply_line_to_account (line : OverlayLine) (code : String) :
    (apply_line_to_account tb line).typeOf code = tb.typeOf code := by
  simp only [AggregatedTb.typeOf, apply_line_to_account, OrderedMap.find?_upsert]
  split
  · rename_i hcode
    rw [hcode]
    cases tb.account_totals.find? line.account_code <;> simp
  · rfl

theorem weighted_apply_line_to_account (weight : String → AccountType → ℚ) (line : OverlayLine) :
    (apply_line_to_account tb line).weighted weight =
      tb.weighted weight + weight line.account_code (tb.typeOf line.account_code) * line.net := by
  simp only [AggregatedTb.weighted, apply_line_to_account, OrderedMap.sumOver_upsert,
    AggregatedTb.typeOf]
  cases tb.account_totals.find? line.account_code with
  | none => simp [OverlayLine.net]
  | some account =>
      simp only [Option.elim_some, Option.getD_some, AggregatedAccount.account_type_post,
        AggregatedAccount.net_post, OverlayLine.net]
      ring

theorem weighted_applyLines (weight : String → AccountType → ℚ) (lines : List OverlayLine)
    (tb : AggregatedTb) :
    (applyLines tb lines).weighted weight = tb.weighted weight +
      (lines.map fun line => weight line.account_code (tb.typeOf line.account_code) *
        line.net).sum := by
  induction lines generalizing tb with
  | nil => exact (add_zero _).symm
  | cons line lines ih =>
      have hrest := ih (apply_line_to_account tb line)
      simp only [typeOf_apply_line_to_account, weighted_apply_line_to_account] at hrest
      rw [applyLines, List.foldl_cons, ← applyLines, hrest, List.map_cons, List.sum_cons, add_assoc]

theorem sum_pair (weigh : String → ℚ) {amount : ℚ} {first second : OverlayLine}
    (hfirst : amount = 0 → first.net = 0) (hsecond : amount = 0 → second.net = 0) :
    ((if amount ≠ 0 then [first, second] else []).map fun line =>
        weigh line.account_code * line.net).sum =
      weigh first.account_code * first.net + weigh second.account_code * second.net := by
  split
  · simp
  · rename_i hzero
    simp [hfirst (not_not.mp hzero), hsecond (not_not.mp hzero)]

theorem sum_overlayLines (weigh : String → ℚ) (nci_rollforwards : List NciRollforward)
    (investments : List EquityMethodInvestment) :
    ((overlayLines nci_rollforwards investments).map fun line =>
        weigh line.account_code * line.net).sum =
      (weigh RETAINED_EARNINGS - weigh NCI_EQUITY) * totalClosingNci nci_rollforwards +
        (weigh EQUITY_METHOD_INVESTMENT - weigh RETAINED_EARNINGS) *
          totalCarryingValue investments +
        (weigh RETAINED_EARNINGS - weigh SHARE_OF_PROFIT_OF_ASSOCIATES) *
          totalShareOfProfit investments := by
  have hinvestments : ((investments.flatMap fun inv =>
      investmentLines inv ++ shareOfProfitLines inv).map fun line =>
        weigh line.account_code * line.net).sum =
      (weigh EQUITY_METHOD_INVESTMENT - weigh RETAINED_EARNINGS) *
          totalCarryingValue investments +
        (weigh RETAINED_EARNINGS - weigh SHARE_OF_PROFIT_OF_ASSOCIATES) *
          totalShareOfProfit investments := by
    induction investments with
    | nil => simp [totalCarryingValue, totalShareOfProfit]
    | cons inv investments ih =>
        rw [List.flatMap_cons, List.map_append, List.sum_append, ih, List.map_append,
          List.sum_append, investmentLines, shareOfProfitLines,
          sum_pair weigh (by simp [OverlayLine.net]) (by simp [OverlayLine.net]),
          sum_pair weigh (by simp [OverlayLine.net]) (by simp [OverlayLine.net])]
        simp only [OverlayLine.net, totalCarryingValue, totalShareOfProfit, List.map_cons,
          List.sum_cons]
        ring
  rw [overlayLines, List.map_append, List.sum_append, hinvestments, nciLines,
    sum_pair weigh (by simp [OverlayLine.net]) (by simp [OverlayLine.net])]
  simp only [OverlayLine.net]
  ring

end Posting

section Overlay

variable {tb overlay : AggregatedTb} {nci_rollforwards : List NciRollforward}
  {equity_method_investments : List EquityMethodInvestment}

/-- The overlay fails exactly on a foreign currency. -/
theorem apply_nci_and_equity_method_eq_ok_iff :
    apply_nci_and_equity_method tb nci_rollforwards equity_method_investments = .ok overlay ↔
      (∀ rf ∈ nci_rollforwards, rf.currency = tb.currency) ∧
        (∀ inv ∈ equity_method_investments, inv.currency = tb.currency) ∧
        overlay = withTotals
          (applyLines tb (overlayLines nci_rollforwards equity_method_investments)) := by
  have hnci : (∃ us, traverseRun (checkNciCurrency tb.currency) nci_rollforwards = .ok us) ↔
      ∀ rf ∈ nci_rollforwards, rf.currency = tb.currency := by
    simp [exists_traverseRun_iff, checkNciCurrency]
  have hinvestments : (∃ us, traverseRun (checkInvestmentCurrency tb.currency)
      equity_method_investments = .ok us) ↔
      ∀ inv ∈ equity_method_investments, inv.currency = tb.currency := by
    simp [exists_traverseRun_iff, checkInvestmentCurrency]
  rw [← hnci, ← hinvestments, apply_nci_and_equity_method]
  simp only [bind_eq_ok_iff, Except.ok.injEq]
  constructor
  · rintro ⟨us, hus, vs, hvs, rfl⟩
    exact ⟨⟨us, hus⟩, ⟨vs, hvs⟩, rfl⟩
  · rintro ⟨⟨us, hus⟩, ⟨vs, hvs⟩, rfl⟩
    exact ⟨us, hus, vs, hvs, rfl⟩

theorem exists_overlay (hnci : ∀ rf ∈ nci_rollforwards, rf.currency = tb.currency)
    (hinvestments : ∀ inv ∈ equity_method_investments, inv.currency = tb.currency) :
    ∃ overlay,
      apply_nci_and_equity_method tb nci_rollforwards equity_method_investments = .ok overlay :=
  ⟨_, apply_nci_and_equity_method_eq_ok_iff.mpr ⟨hnci, hinvestments, rfl⟩⟩

/-- The overlay changes a weighted total by its three amounts, weighed by the types
that the accounts had before. -/
theorem weighted_overlay
    (h : apply_nci_and_equity_method tb nci_rollforwards equity_method_investments = .ok overlay)
    (weight : String → AccountType → ℚ) {weigh : String → ℚ}
    (hweigh : ∀ code, weigh code = weight code (tb.typeOf code)) :
    overlay.weighted weight = tb.weighted weight +
      ((weigh RETAINED_EARNINGS - weigh NCI_EQUITY) * totalClosingNci nci_rollforwards +
        (weigh EQUITY_METHOD_INVESTMENT - weigh RETAINED_EARNINGS) *
          totalCarryingValue equity_method_investments +
        (weigh RETAINED_EARNINGS - weigh SHARE_OF_PROFIT_OF_ASSOCIATES) *
          totalShareOfProfit equity_method_investments) := by
  rw [← sum_overlayLines weigh, (apply_nci_and_equity_method_eq_ok_iff.mp h).2.2]
  simp only [hweigh]
  exact weighted_applyLines weight _ tb

/-- Whether the balance sheet presents an account among the assets, as it does with
one that the overlay has to create. -/
def onAssetSide (tb : AggregatedTb) (code : String) : ℚ :=
  if (tb.typeOf code).isAssetSide then 1 else 0

/-- The closing balances, and only they, are added to the balance sheet. -/
structure OverlayPresented (nci_rollforwards : List NciRollforward)
    (equity_method_investments : List EquityMethodInvestment)
    (before after : ConsolidatedBalanceSheet) : Prop where
  nci_growth : after.total_nci = before.total_nci + totalClosingNci nci_rollforwards
  asset_growth :
    after.total_assets = before.total_assets + totalCarryingValue equity_method_investments

/-- The overlay's accounts have types under which its lines end where they should. -/
structure OverlayAccountsTyped (tb : AggregatedTb) (nci_rollforwards : List NciRollforward)
    (equity_method_investments : List EquityMethodInvestment) : Prop where
  nci_in_equity :
    totalClosingNci nci_rollforwards = 0 ∨ (tb.typeOf NCI_EQUITY).isEquitySide = true
  asset_lines :
    onAssetSide tb EQUITY_METHOD_INVESTMENT * totalCarryingValue equity_method_investments +
      onAssetSide tb RETAINED_EARNINGS * (totalClosingNci nci_rollforwards -
        totalCarryingValue equity_method_investments +
          totalShareOfProfit equity_method_investments) -
      onAssetSide tb SHARE_OF_PROFIT_OF_ASSOCIATES *
        totalShareOfProfit equity_method_investments =
    totalCarryingValue equity_method_investments

variable {group_id : String} {date : Date} {names : AccountNameDictionary}
  {before after : ConsolidatedBalanceSheet}

theorem total_nci_growth
    (h : apply_nci_and_equity_method tb nci_rollforwards equity_method_investments = .ok overlay)
    (hbefore : build_consolidated_balance_sheet_with_names tb group_id date names = .ok before)
    (hafter : build_consolidated_balance_sheet_with_names overlay group_id date names =
      .ok after) :
    after.total_nci = before.total_nci +
      if (tb.typeOf NCI_EQUITY).isEquitySide then totalClosingNci nci_rollforwards else 0 := by
  have hnci : codeIn 3500 3599 NCI_EQUITY = true := by decide
  have hothers : codeIn 3500 3599 RETAINED_EARNINGS = false ∧
      codeIn 3500 3599 EQUITY_METHOD_INVESTMENT = false ∧
        codeIn 3500 3599 SHARE_OF_PROFIT_OF_ASSOCIATES = false := by decide
  rw [total_nci_eq hbefore, total_nci_eq hafter, weighted_overlay h _ fun _ => rfl]
  simp only [hnci, hothers, Bool.and_true, Bool.and_false]
  cases (tb.typeOf NCI_EQUITY).isEquitySide <;> simp

theorem total_assets_growth
    (h : apply_nci_and_equity_method tb nci_rollforwards equity_method_investments = .ok overlay)
    (hbefore : build_consolidated_balance_sheet_with_names tb group_id date names = .ok before)
    (hafter : build_consolidated_balance_sheet_with_names overlay group_id date names =
      .ok after) :
    after.total_assets = before.total_assets +
      ((onAssetSide tb RETAINED_EARNINGS - onAssetSide tb NCI_EQUITY) *
          totalClosingNci nci_rollforwards +
        (onAssetSide tb EQUITY_METHOD_INVESTMENT - onAssetSide tb RETAINED_EARNINGS) *
          totalCarryingValue equity_method_investments +
        (onAssetSide tb RETAINED_EARNINGS - onAssetSide tb SHARE_OF_PROFIT_OF_ASSOCIATES) *
          totalShareOfProfit equity_method_investments) := by
  rw [total_assets_eq hbefore, total_assets_eq hafter]
  exact weighted_overlay h _ fun _ => rfl

theorem onAssetSide_of_isEquitySide {code : String}
    (hequity : (tb.typeOf code).isEquitySide = true) : onAssetSide tb code = 0 := by
  rw [onAssetSide]
  cases htype : tb.typeOf code <;> simp_all [AccountType.isEquitySide, AccountType.isAssetSide]

/-- An absent overlay account is created as an asset, so the overlay reaches the
balance sheet as intended only where the accounts' types already say so. -/
theorem overlayPresented_iff
    (h : apply_nci_and_equity_method tb nci_rollforwards equity_method_investments = .ok overlay)
    (hbefore : build_consolidated_balance_sheet_with_names tb group_id date names = .ok before)
    (hafter : build_consolidated_balance_sheet_with_names overlay group_id date names =
      .ok after) :
    OverlayPresented nci_rollforwards equity_method_investments before after ↔
      OverlayAccountsTyped tb nci_rollforwards equity_method_investments := by
  have hnci := total_nci_growth h hbefore hafter
  have hassets := total_assets_growth h hbefore hafter
  have hnone : totalClosingNci nci_rollforwards = 0 ∨ (tb.typeOf NCI_EQUITY).isEquitySide = true →
      onAssetSide tb NCI_EQUITY * totalClosingNci nci_rollforwards = 0 := by
    rintro (hzero | hequity)
    · rw [hzero, mul_zero]
    · rw [onAssetSide_of_isEquitySide hequity, zero_mul]
  constructor
  · rintro ⟨hnci', hassets'⟩
    have htyped : totalClosingNci nci_rollforwards = 0 ∨
        (tb.typeOf NCI_EQUITY).isEquitySide = true := by
      rw [hnci, add_right_inj] at hnci'
      split at hnci'
      · rename_i hequity
        exact .inr hequity
      · exact .inl hnci'.symm
    have hzero := hnone htyped
    refine ⟨htyped, ?_⟩
    rw [hassets, add_right_inj] at hassets'
    linarith
  · rintro ⟨htyped, hlines⟩
    have hzero := hnone htyped
    constructor
    · rw [hnci]
      rcases htyped with hnothing | hequity
      · rw [hnothing, ite_self]
      · rw [if_pos hequity]
    · rw [hassets, add_right_inj]
      linarith

end Overlay

section Bookings

variable {tb overlay : AggregatedTb} {nci_rollforwards : List NciRollforward}
  {inputs : List EquityMethodInputs} {investments : List EquityMethodInvestment}

end Bookings

def sampleRollforward (closing_nci : ℚ) : NciRollforward where
  entity_code := "S"
  parent_entity_code := "P"
  ownership_percent := 4 / 5
  nci_percent := 1 / 5
  opening_nci := closing_nci
  nci_share_of_profit := 0
  nci_share_of_oci := 0
  nci_dividends := 0
  equity_transaction_adjustments := 0
  pl_remeasurement_gain_or_loss := 0
  closing_nci := closing_nci
  period_end := Date.ofYmd 2024 12 31
  currency := "EUR"

theorem sampleRollforward_currency (tb : AggregatedTb) (closing_nci : ℚ)
    (htb : tb.currency = "EUR") :
    ∀ rf ∈ [sampleRollforward closing_nci], rf.currency = tb.currency := by
  simp [htb, sampleRollforward]

def parentTb (nci_accounts : List AggregatedAccount) : AggregatedTb :=
  sampleTb ([⟨"1000", 100, 0, 100, 1, .asset⟩, ⟨"3300", 0, 100, -100, 1, .equity⟩] ++ nci_accounts)

theorem nci_in_equity_is_presented :
    ∃ overlay before after,
      apply_nci_and_equity_method (parentTb [⟨"3500", 0, 0, 0, 1, .equity⟩])
          [sampleRollforward 40] [] = .ok overlay ∧
        build_consolidated_balance_sheet_with_names (parentTb [⟨"3500", 0, 0, 0, 1, .equity⟩])
          "GROUP" (Date.ofYmd 2024 12 31) ⟨OrderedMap.empty⟩ = .ok before ∧
        build_consolidated_balance_sheet_with_names overlay "GROUP" (Date.ofYmd 2024 12 31)
          ⟨OrderedMap.empty⟩ = .ok after ∧
        OverlayPresented [sampleRollforward 40] [] before after := by
  obtain ⟨overlay, happly⟩ := exists_overlay
    (sampleRollforward_currency (parentTb [⟨"3500", 0, 0, 0, 1, .equity⟩]) 40 rfl)
    (List.forall_mem_nil _)
  refine ⟨overlay, _, _, happly, rfl, rfl, (overlayPresented_iff happly rfl rfl).mpr ?_⟩
  exact ⟨by decide +kernel, by decide +kernel⟩

/-- Without an NCI account the closing NCI of 40 is credited to a new asset. -/
theorem nci_without_account_is_presented_as_asset :
    ∃ overlay before after,
      apply_nci_and_equity_method (parentTb []) [sampleRollforward 40] [] = .ok overlay ∧
        build_consolidated_balance_sheet_with_names (parentTb []) "GROUP"
          (Date.ofYmd 2024 12 31) ⟨OrderedMap.empty⟩ = .ok before ∧
        build_consolidated_balance_sheet_with_names overlay "GROUP" (Date.ofYmd 2024 12 31)
          ⟨OrderedMap.empty⟩ = .ok after ∧
        ¬ OverlayPresented [sampleRollforward 40] [] before after := by
  obtain ⟨overlay, happly⟩ := exists_overlay
    (sampleRollforward_currency (parentTb []) 40 rfl) (List.forall_mem_nil _)
  refine ⟨overlay, _, _, happly, rfl, rfl, fun hpresented => ?_⟩
  have hgrowth := hpresented.nci_growth
  rw [total_nci_growth happly rfl rfl, add_right_inj] at hgrowth
  exact absurd hgrowth (by decide +kernel)

end Datasynth.Group.PostElimination
