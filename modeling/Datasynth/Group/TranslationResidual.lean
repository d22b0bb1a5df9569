import Mathlib.Algebra.BigOperators.Ring.List
import Datasynth.Group.Translation

/-!
The residual of a translation: what it is without restatement, at one rate and at the rate
of one.
-/

namespace Datasynth.Group.TranslationResidual

open Datasynth.Core.OwnershipChanges (HyperinflationStatus)
open Datasynth.Core.TrialBalances
open Datasynth.Group.Config
open Datasynth.Group.FxMaster
open Datasynth.Group.NciAggregation (DrCr)
open Datasynth.Group.Translation
open Datasynth.Lib.CivilCalendar
open Datasynth.Lib.ExceptRuns
open Datasynth.Lib.HalfEvenRounding
open Datasynth.Lib.SortedEntries

section Sides

def sideSign : DrCr → ℚ
  | .debit => 1
  | .credit => -1

theorem abs_sideSign (side : DrCr) : |sideSign side| ≤ 1 := by
  cases side <;> simp [sideSign]

/-- At most one side of a line has a balance, and none is negative. -/
structure OneSided (tbl : TrialBalanceLine) : Prop where
  debit_nonneg : 0 ≤ tbl.debit_balance
  credit_nonneg : 0 ≤ tbl.credit_balance
  one_zero : tbl.debit_balance = 0 ∨ tbl.credit_balance = 0

theorem signed_direction_and_amount {tbl : TrialBalanceLine} (h : OneSided tbl) :
    sideSign (direction_and_amount tbl).2 * (direction_and_amount tbl).1 =
      tbl.debit_balance - tbl.credit_balance := by
  have hdebit := h.debit_nonneg
  have hcredit := h.credit_nonneg
  rw [direction_and_amount]
  split
  · rename_i hpos
    rw [h.one_zero.resolve_left hpos.ne', sub_zero]
    exact one_mul _
  · rename_i hdebit_zero
    have hzero : tbl.debit_balance = 0 := le_antisymm (not_lt.mp hdebit_zero) hdebit
    split
    · rw [hzero, zero_sub]
      exact neg_one_mul _
    · rename_i hcredit_zero
      have hnone : tbl.credit_balance = 0 := le_antisymm (not_lt.mp hcredit_zero) hcredit
      rw [hzero, hnone, sub_zero]
      split <;> exact mul_zero _

/-- The difference of the totals of the sides is the signed sum of the lines. -/
theorem totalOf_sub_totalOf (lines : List TranslatedLine) :
    totalOf .debit lines - totalOf .credit lines =
      (lines.map fun line => sideSign line.local_dr_cr * line.translated_amount).sum := by
  induction lines with
  | nil => simp [totalOf]
  | cons line lines ih =>
      rw [List.map_cons, List.sum_cons, ← ih, totalOf, totalOf, totalOf, totalOf]
      cases hside : line.local_dr_cr with
      | debit =>
          simp [hside, sideSign]
          ring
      | credit =>
          simp [hside, sideSign]
          ring

end Sides

section Lines

variable {functional_currency presentation_currency : String} {master : FxRateMaster}
  {date : Date} {hyperinflation : HyperinflationStatus}
  {restatement : Option IndexedRestatement} {tbl : TrialBalanceLine} {line : TranslatedLine}

def TwoDecimals (x : ℚ) : Prop := ∃ n : ℤ, x = n / 10 ^ 2

theorem TwoDecimals.roundDp_eq {x : ℚ} (h : TwoDecimals x) : roundDp 2 x = x := by
  obtain ⟨n, rfl⟩ := h
  exact roundDp_intCast_div 2 n

/-- What a translated line keeps of its line, and its rate. -/
structure Translates (functional_currency presentation_currency : String) (tbl : TrialBalanceLine)
    (factor : ℚ) (line : TranslatedLine) : Prop where
  account_code : line.account_code = tbl.account_code
  local_dr_cr : line.local_dr_cr = (direction_and_amount tbl).2
  local_amount : line.local_amount = roundDp 2 ((direction_and_amount tbl).1 * factor)
  translated_amount : line.translated_amount = roundDp 2 (line.local_amount * line.fx_rate)
  fx_rate : functional_currency = presentation_currency → line.fx_rate = 1

theorem translates_of_translateLine
    (h : translateLine functional_currency master date presentation_currency hyperinflation
      restatement tbl = .ok line) :
    ∃ factor, (restatement = none → factor = 1) ∧
      Translates functional_currency presentation_currency tbl factor line := by
  obtain ⟨rate, hrate, hline⟩ := bind_eq_ok_iff.mp h
  cases hline
  refine ⟨_, fun hnone => ?_, rfl, rfl, rfl, rfl, fun hsame => ?_⟩
  · rw [hnone]
    rfl
  · rw [lineRate, if_pos hsame] at hrate
    exact (Except.ok.inj hrate).symm

theorem translates_of_translate {tb : TrialBalance} {t : TranslatedTb}
    (h : translate_entity_tb_with_indexed_restatement functional_currency master date
      presentation_currency hyperinflation tb restatement = .ok t) :
    List.Forall₂ (fun tbl line => ∃ factor, (restatement = none → factor = 1) ∧
        Translates functional_currency presentation_currency tbl factor line) tb.lines t.lines ∧
      t.total_translated_debits = totalOf .debit t.lines ∧
      t.total_translated_credits = totalOf .credit t.lines ∧
      t.cta = t.total_translated_debits - t.total_translated_credits := by
  obtain ⟨lines, hlines, ht⟩ := bind_eq_ok_iff.mp h
  cases ht
  refine ⟨?_, rfl, rfl, rfl⟩
  exact (traverseRun_eq_ok_iff.mp hlines).imp fun _ _ => translates_of_translateLine

end Lines

section Residual

variable {functional_currency presentation_currency : String} {master : FxRateMaster}
  {date : Date} {hyperinflation : HyperinflationStatus} {tb : TrialBalance} {t : TranslatedTb}

/-- Lines that are one-sided with amounts of at most two decimals, as many debits as
credits. -/
structure Balanced (tb : TrialBalance) : Prop where
  one_sided : ∀ tbl ∈ tb.lines, OneSided tbl
  two_decimals : ∀ tbl ∈ tb.lines,
    TwoDecimals tbl.debit_balance ∧ TwoDecimals tbl.credit_balance
  equal : (tb.lines.map (·.debit_balance)).sum = (tb.lines.map (·.credit_balance)).sum

theorem map_eq_map_of_forall₂ {α β γ : Type} {f : α → γ} {g : β → γ} {l : List α} {l' : List β}
    (h : List.Forall₂ (fun a b => f a = g b) l l') : l.map f = l'.map g := by
  rw [← List.forall₂_eq_eq_eq, List.forall₂_map_left_iff, List.forall₂_map_right_iff]
  exact h

theorem sum_net (lines : List TrialBalanceLine) :
    (lines.map fun tbl => tbl.debit_balance - tbl.credit_balance).sum =
      (lines.map (·.debit_balance)).sum - (lines.map (·.credit_balance)).sum := by
  induction lines with
  | nil => simp
  | cons tbl lines ih =>
      simp only [List.map_cons, List.sum_cons]
      rw [ih, add_sub_add_comm]

theorem twoDecimals_direction_and_amount {tbl : TrialBalanceLine}
    (hdebit : TwoDecimals tbl.debit_balance) (hcredit : TwoDecimals tbl.credit_balance) :
    TwoDecimals (direction_and_amount tbl).1 := by
  have hzero : TwoDecimals 0 := ⟨0, by simp⟩
  rw [direction_and_amount]
  split
  · exact hdebit
  · split
    · exact hcredit
    · split <;> exact hzero

/-- Without restatement the local amounts of the lines stay balanced. -/
theorem sum_local_amounts (htb : Balanced tb)
    (h : translate_entity_tb_with_indexed_restatement functional_currency master date
      presentation_currency hyperinflation tb none = .ok t) :
    (t.lines.map fun line => sideSign line.local_dr_cr * line.local_amount).sum = 0 := by
  have hnet : List.Forall₂ (fun tbl line => tbl.debit_balance - tbl.credit_balance =
      sideSign line.local_dr_cr * line.local_amount) tb.lines t.lines := by
    have hlines := (List.forall₂_and_left _ _).mpr
      ⟨fun tbl htbl => And.intro (htb.one_sided tbl htbl) (htb.two_decimals tbl htbl),
        (translates_of_translate h).1⟩
    refine hlines.imp ?_
    rintro tbl line ⟨⟨hside, hdebit, hcredit⟩, factor, hone, htranslates⟩
    rw [htranslates.local_dr_cr, htranslates.local_amount, hone rfl, mul_one,
      (twoDecimals_direction_and_amount hdebit hcredit).roundDp_eq,
      signed_direction_and_amount hside]
  rw [← map_eq_map_of_forall₂ hnet, sum_net, htb.equal, sub_self]

theorem cta_eq {restatement : Option IndexedRestatement}
    (h : translate_entity_tb_with_indexed_restatement functional_currency master date
      presentation_currency hyperinflation tb restatement = .ok t) :
    t.cta = (t.lines.map fun line => sideSign line.local_dr_cr * line.translated_amount).sum := by
  obtain ⟨-, hdebits, hcredits, hcta⟩ := translates_of_translate h
  rw [hcta, hdebits, hcredits, totalOf_sub_totalOf]

theorem exists_translates_of_mem {restatement : Option IndexedRestatement}
    (h : translate_entity_tb_with_indexed_restatement functional_currency master date
      presentation_currency hyperinflation tb restatement = .ok t)
    {line : TranslatedLine} (hline : line ∈ t.lines) :
    ∃ tbl factor, Translates functional_currency presentation_currency tbl factor line := by
  obtain ⟨lines, hlines, ht⟩ := bind_eq_ok_iff.mp h
  cases ht
  obtain ⟨tbl, -, htranslated⟩ := exists_of_mem_traverseRun hlines hline
  obtain ⟨factor, -, htranslates⟩ := translates_of_translateLine htranslated
  exact ⟨tbl, factor, htranslates⟩

/-- Where nothing is translated, nothing is left. -/
theorem cta_eq_zero_of_identity (htb : Balanced tb)
    (h : translate_entity_tb_with_indexed_restatement functional_currency master date
      presentation_currency hyperinflation tb none = .ok t)
    (hsame : functional_currency = presentation_currency) : t.cta = 0 := by
  rw [cta_eq h, ← sum_local_amounts htb h]
  congr 1
  apply List.map_congr_left
  intro line hline
  obtain ⟨tbl, factor, htranslates⟩ := exists_translates_of_mem h hline
  rw [htranslates.translated_amount, htranslates.fx_rate hsame, mul_one,
    htranslates.local_amount, roundDp_roundDp]

/-- At a single rate only the rounding of the lines is left. -/
theorem abs_cta_le_of_single_rate (htb : Balanced tb)
    (h : translate_entity_tb_with_indexed_restatement functional_currency master date
      presentation_currency hyperinflation tb none = .ok t)
    {rate : ℚ} (hrate : ∀ line ∈ t.lines, line.fx_rate = rate) :
    |t.cta| ≤ t.lines.length * (1 / 200) := by
  have hrounded : (t.lines.map fun line =>
      sideSign line.local_dr_cr * line.translated_amount) =
        t.lines.map fun line =>
          sideSign line.local_dr_cr * roundDp 2 (line.local_amount * rate) := by
    apply List.map_congr_left
    intro line hline
    obtain ⟨tbl, factor, htranslates⟩ := exists_translates_of_mem h hline
    rw [htranslates.translated_amount, hrate line hline]
  have hexact : (t.lines.map fun line =>
      sideSign line.local_dr_cr * (line.local_amount * rate)).sum = 0 := by
    simp only [← mul_assoc]
    rw [List.sum_map_mul_right, sum_local_amounts htb h, zero_mul]
  have hbound := two_mul_abs_sum_roundDp_sub_le 2 (fun line => line.local_amount * rate)
    (fun line (_ : line ∈ t.lines) => abs_sideSign line.local_dr_cr)
  rw [hexact, sub_zero, ← hrounded, ← cta_eq h] at hbound
  linarith

/-- What a translation keeps and reports. -/
structure TranslatesTb (tb : TrialBalance) (t : TranslatedTb) : Prop where
  account_codes : t.lines.map (·.account_code) = tb.lines.map (·.account_code)
  total_debits : t.total_translated_debits = totalOf .debit t.lines
  total_credits : t.total_translated_credits = totalOf .credit t.lines
  equalized : t.total_translated_debits = t.total_translated_credits + t.cta

/-- Every translation keeps its lines and reports its residual; of balanced lines that are
not restated nothing is left without a rate, and at one rate half a cent for each line. -/
theorem translate_residual {restatement : Option IndexedRestatement}
    (h : translate_entity_tb_with_indexed_restatement functional_currency master date
      presentation_currency hyperinflation tb restatement = .ok t) :
    TranslatesTb tb t ∧
      (restatement = none → Balanced tb →
        (functional_currency = presentation_currency → t.cta = 0) ∧
        ∀ rate, (∀ line ∈ t.lines, line.fx_rate = rate) →
          |t.cta| ≤ t.lines.length * (1 / 200)) := by
  obtain ⟨hlines, hdebits, hcredits, hcta⟩ := translates_of_translate h
  have hcodes : List.Forall₂ (fun tbl line => tbl.account_code = line.account_code)
      tb.lines t.lines :=
    hlines.imp fun tbl line ⟨_, _, htranslates⟩ => htranslates.account_code.symm
  refine ⟨⟨(map_eq_map_of_forall₂ hcodes).symm, hdebits, hcredits, ?_⟩, ?_⟩
  · rw [hcta, add_sub_cancel]
  · rintro rfl htb
    exact ⟨cta_eq_zero_of_identity htb h, fun rate => abs_cta_le_of_single_rate htb h⟩

section Runs

def balanceLine (account_code : String) (account_type : AccountType) (debit credit : ℚ) :
    TrialBalanceLine :=
  ⟨account_code, account_type, debit, credit⟩

def balanceOf (lines : List TrialBalanceLine) (total : ℚ) : TrialBalance where
  company_code := "C001"
  as_of_date := .ofYmd 2024 12 31
  fiscal_year := 2024
  fiscal_period := 12
  currency := "USD"
  lines := lines
  total_debits := total
  total_credits := total

/-- Cash paid in as capital. -/
def paidIn : TrialBalance :=
  balanceOf [balanceLine "1000" .asset 100 0, balanceLine "3000" .equity 0 100] 100

/-- Cash of which a part is shown on the credit side of its own line. -/
def partlyNetted : TrialBalance :=
  balanceOf [balanceLine "1000" .asset 100 40, balanceLine "3000" .equity 0 60] 100

def doubled : IndexedRestatement := ⟨100, 200, 150, by norm_num, by norm_num, by norm_num⟩

def noRates : FxRateMaster :=
  ⟨"USD", ⟨.closing, .average, .historical⟩, OrderedMap.empty, OrderedMap.empty, OrderedMap.empty⟩

/-- A translation into the own currency, with no rates. -/
def translateOwn (hyperinflation : HyperinflationStatus) (tb : TrialBalance)
    (restatement : Option IndexedRestatement) : GroupResult TranslatedTb :=
  translate_entity_tb_with_indexed_restatement "USD" noRates (.ofYmd 2024 12 31) "USD"
    hyperinflation tb restatement

theorem exists_cta {run : GroupResult TranslatedTb} {cta : ℚ}
    (h : run.toOption.map (·.cta) = some cta) : ∃ t, run = .ok t ∧ t.cta = cta := by
  cases run with
  | error e => cases h
  | ok t => exact ⟨t, rfl, Option.some.inj h⟩

theorem balanced_paidIn : Balanced paidIn where
  one_sided := by
    rw [paidIn, balanceOf, List.forall_mem_cons, List.forall_mem_singleton]
    constructor <;> constructor <;> simp [balanceLine]
  two_decimals := by
    rw [paidIn, balanceOf, List.forall_mem_cons, List.forall_mem_singleton]
    have hzero : TwoDecimals 0 := ⟨0, by norm_num⟩
    have hundred : TwoDecimals 100 := ⟨10000, by norm_num⟩
    exact ⟨⟨hundred, hzero⟩, hzero, hundred⟩
  equal := by simp [paidIn, balanceOf, balanceLine]

/-- Nothing is left of the paid-in capital where it is not translated. -/
theorem paidIn_identity :
    ∃ t, translateOwn .notHyperinflationary paidIn none = .ok t ∧ t.cta = 0 := by
  obtain ⟨t, ht⟩ := exists_ok_of_isOk
    (x := translateOwn .notHyperinflationary paidIn none) (by decide)
  exact ⟨t, ht, ((translate_residual ht).2 rfl balanced_paidIn).1 rfl⟩

/-- Restatement and lines with two sides leave a residual even without a rate. -/
theorem residual_of_identity :
    (∃ t, translateOwn .hyperinflationary paidIn (some doubled) = .ok t ∧ t.cta = -100) ∧
      ∃ t, translateOwn .notHyperinflationary partlyNetted none = .ok t ∧ t.cta = 40 :=
  ⟨exists_cta (by decide +kernel), exists_cta (by decide +kernel)⟩

end Runs

end Residual

end Datasynth.Group.TranslationResidual
