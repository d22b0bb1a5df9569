import Datasynth.Core.CountryPacks
import Datasynth.Core.TrialBalances
import Datasynth.Generators.DocumentFlow
import Datasynth.Lib.ExceptRuns
import Datasynth.Lib.HalfEvenRounding
import Datasynth.Lib.HashedMaximum
import Mathlib.Data.Prod.Lex
import Mathlib.Data.Rat.Floor

/-!
Translation of trial balances and of single amounts into a group currency, and when the two give
an account the same rate.  Names and descriptions, which are only copied, are left out.
-/

namespace Datasynth.Generators.CurrencyTranslation

open Datasynth.Core.AccountBalances (AccountCategory)
open Datasynth.Core.CountryOverrides (asciiUpper)
open Datasynth.Core.CountryPacks (to_uppercase)
open Datasynth.Core.TrialBalances (TrialBalance TrialBalanceLine)
open Datasynth.Generators.DocumentFlow (takeBytes)
open Datasynth.Lib.CivilCalendar
open Datasynth.Lib.ExceptRuns
open Datasynth.Lib.HalfEvenRounding
open Datasynth.Lib.HashIteration
open Datasynth.Lib.LastMaximum
open Datasynth.Lib.SortedEntries

section Rates

inductive RateType where
  | spot
  | closing
  | average
  | budget
  | historical
  | negotiated
  | custom (name : String)
deriving DecidableEq, Repr

def RateType.to_string : RateType → String
  | spot => "SPOT"
  | closing => "CLOSING"
  | average => "AVERAGE"
  | budget => "BUDGET"
  | historical => "HISTORICAL"
  | negotiated => "NEGOTIATED"
  | custom name => name

structure FxRate where
  from_currency : String
  to_currency : String
  rate_type : RateType
  effective_date : Date
  rate : ℚ
  valid_until : Option Date
deriving DecidableEq

namespace FxRate

def new (upper : Char → List Char) (from_currency to_currency : String) (rate_type : RateType)
    (effective_date : Date) (rate : ℚ) : FxRate :=
  ⟨to_uppercase upper from_currency, to_uppercase upper to_currency, rate_type, effective_date,
    rate, none⟩

def is_valid_on (rate : FxRate) (date : Date) : Bool :=
  if date < rate.effective_date then false
  else
    match rate.valid_until with
    | some valid_until => date ≤ valid_until
    | none => true

end FxRate

/-- Rates by the text of their pair and that of their type. -/
structure FxRateTable where
  rates : OrderedMap (String ×ₗ String) (List FxRate)

namespace FxRateTable

def new : FxRateTable := ⟨.empty⟩

def add_rate (rate_table : FxRateTable) (rate : FxRate) : FxRateTable where
  rates := rate_table.rates.upsert
    (toLex (rate.from_currency ++ "_" ++ rate.to_currency, rate.rate_type.to_string))
    fun rates => rates.getD [] ++ [rate]

variable (upper : Char → List Char) (rate_table : FxRateTable) (from_currency to_currency : String)
  (date : Date)

/-- The latest of the rates valid on a date; none within one currency. -/
def get_rate (rate_type : RateType) : Option FxRate :=
  if to_uppercase upper from_currency = to_uppercase upper to_currency then none
  else
    (rate_table.rates.find? (toLex (to_uppercase upper from_currency ++ "_" ++
      to_uppercase upper to_currency, rate_type.to_string))).bind fun rates =>
        maxByKey FxRate.effective_date (rates.filter (·.is_valid_on date))

def get_closing_rate : Option FxRate :=
  rate_table.get_rate upper from_currency to_currency date .closing

def get_average_rate : Option FxRate :=
  rate_table.get_rate upper from_currency to_currency date .average

end FxRateTable

end Rates

section Classification

def toDigit (c : Char) : Option ℕ := if c.isDigit then some (c.toNat - '0'.toNat) else none

def classOf (account : String) : Option ℕ := account.toList.head?.bind toDigit

def subclassOf (account : String) : Option ℕ := account.toList.tail.head?.bind toDigit

def us_gaap_classify (account : String) : AccountCategory := .from_account account

def pcg_classify (account : String) : AccountCategory :=
  match classOf account with
  | some 1 =>
      match subclassOf account with
      | some 0 | some 1 | some 2 | some 3 | some 4 => .equity
      | _ => .liability
  | some 2 | some 3 | some 5 => .asset
  | some 4 =>
      match subclassOf account with
      | some 1 => .asset
      | _ => .liability
  | some 6 => .operatingExpense
  | some 7 => .revenue
  | some 8 | some 9 => .suspense
  | _ => .unknown

def skr04_classify (account : String) : AccountCategory :=
  match classOf account with
  | some 0 | some 1 => .asset
  | some 2 => .equity
  | some 3 => .liability
  | some 4 => .revenue
  | some 5 => .cogs
  | some 6 => .operatingExpense
  | some 7 => .otherIncomeExpense
  | some 8 => .tax
  | some 9 => .suspense
  | _ => .unknown

/-- The classification of accounts in a framework; in an unknown one that of US GAAP. -/
def for_framework (framework : String) : String → AccountCategory :=
  if framework ∈ ["french_gaap", "FrenchGaap"] then pcg_classify
  else if framework ∈ ["german_gaap", "GermanGaap", "hgb"] then skr04_classify
  else us_gaap_classify

/-- By the first two bytes; the source panics if they end inside a character. -/
def is_monetary_asset (account_code : String) : Option Bool :=
  if account_code.utf8ByteSize < 2 then some true
  else
    (takeBytes 2 account_code.toList).map fun prefix2 =>
      String.ofList prefix2 ∉ ["14", "15", "16", "17", "18", "19"]

def is_monetary (classify : String → AccountCategory) (account_code : String) : Option Bool :=
  match classify account_code with
  | .liability => some true
  | .equity => some false
  | .revenue | .cogs | .operatingExpense | .otherIncomeExpense | .tax => some true
  | .asset => is_monetary_asset account_code
  | .suspense | .unknown => some true

end Classification

section Translator

inductive TranslationMethod where
  | currentRate
  | temporal
  | monetaryNonMonetary
deriving DecidableEq, Repr

inductive TranslationAccountType where
  | asset
  | liability
  | equity
  | revenue
  | expense
  | retainedEarnings
  | commonStock
  | additionalPaidInCapital
deriving DecidableEq, Repr

structure CurrencyTranslatorConfig where
  method : TranslationMethod
  group_currency : String
  account_type_map : OrderedMap String TranslationAccountType
  historical_rate_accounts : List String
  retained_earnings_account : String
  cta_account : String

def CurrencyTranslatorConfig.default : CurrencyTranslatorConfig where
  method := .currentRate
  group_currency := "USD"
  account_type_map := .ofList [("1", .asset), ("2", .liability), ("3", .equity), ("4", .revenue),
    ("5", .expense), ("6", .expense)]
  historical_rate_accounts := ["3100", "3200"]
  retained_earnings_account := "3300"
  cta_account := "3900"

structure CurrencyTranslator where
  config : CurrencyTranslatorConfig
  historical_equity_rates : OrderedMap String ℚ
  classify : String → AccountCategory

structure TranslatedAmount where
  local_amount : ℚ
  local_currency : String
  group_amount : ℚ
  group_currency : String
  rate_used : ℚ
  rate_type : RateType
  translation_date : Date
deriving DecidableEq

structure TranslatedTrialBalanceLine where
  account_code : String
  account_type : TranslationAccountType
  local_debit : ℚ
  local_credit : ℚ
  rate_used : ℚ
  rate_type : RateType
  group_debit : ℚ
  group_credit : ℚ
deriving DecidableEq

structure TranslatedTrialBalance where
  company_code : String
  local_currency : String
  group_currency : String
  period_end_date : Date
  fiscal_year : ℤ
  fiscal_period : ℕ
  lines : List TranslatedTrialBalanceLine
  closing_rate : ℚ
  average_rate : ℚ
  total_local_debit : ℚ
  total_local_credit : ℚ
  total_group_debit : ℚ
  total_group_credit : ℚ
  cta_amount : ℚ
  translation_method : TranslationMethod
deriving DecidableEq

def starts_with (start account_code : String) : Bool :=
  start.toList.isPrefixOf account_code.toList

/-- The type of an account listed as one of historical rates, and of the retained earnings. -/
def CurrencyTranslatorConfig.specific_account_type (config : CurrencyTranslatorConfig)
    (account_code : String) : Option TranslationAccountType :=
  if account_code ∈ config.historical_rate_accounts ∧ starts_with "31" account_code then
    some .commonStock
  else if account_code ∈ config.historical_rate_accounts ∧ starts_with "32" account_code then
    some .additionalPaidInCapital
  else if account_code = config.retained_earnings_account then some .retainedEarnings
  else none

namespace CurrencyTranslator

def new_with_framework (config : CurrencyTranslatorConfig) (framework : String) :
    CurrencyTranslator :=
  ⟨config, .empty, for_framework framework⟩

def new (config : CurrencyTranslatorConfig) : CurrencyTranslator :=
  .new_with_framework config "us_gaap"

variable (translator : CurrencyTranslator)

def set_historical_equity_rates (rates : OrderedMap String ℚ) : CurrencyTranslator :=
  { translator with historical_equity_rates := rates }

/-- Of the registered prefixes, the first in the order of iteration decides. -/
def determine_account_type (order : HashOrder) (account_code : String) : TranslationAccountType :=
  match translator.config.specific_account_type account_code with
  | some account_type => account_type
  | none =>
      match (order.iter translator.config.account_type_map.entries).find? fun e =>
          starts_with e.1 account_code with
      | some (_, account_type) => account_type
      | none => .asset

def lookup_historical_equity_rate (account_code : String) (historical_rates : OrderedMap String ℚ)
    (fallback : ℚ) : ℚ :=
  ((translator.historical_equity_rates.find? account_code).or
    (historical_rates.find? account_code)).getD fallback

/-- The rate of an account of the balance sheet; there is none where the source panics. -/
def balance_sheet_rate (account_code : String) (closing_rate : ℚ)
    (historical_rates : OrderedMap String ℚ) : Option ℚ :=
  (is_monetary translator.classify account_code).map fun monetary =>
    if monetary then closing_rate else (historical_rates.find? account_code).getD closing_rate

def determine_rate (account_code : String) (account_type : TranslationAccountType)
    (closing_rate average_rate : ℚ) (historical_rates : OrderedMap String ℚ) : Option ℚ :=
  match translator.config.method with
  | .currentRate =>
      match account_type with
      | .asset | .liability => some closing_rate
      | .revenue | .expense => some average_rate
      | .commonStock | .additionalPaidInCapital =>
          some (translator.lookup_historical_equity_rate account_code historical_rates closing_rate)
      | .equity | .retainedEarnings => some closing_rate
  | .temporal =>
      match account_type with
      | .commonStock | .additionalPaidInCapital | .retainedEarnings | .equity =>
          some (translator.lookup_historical_equity_rate account_code historical_rates closing_rate)
      | .revenue | .expense => some average_rate
      | .asset | .liability =>
          translator.balance_sheet_rate account_code closing_rate historical_rates
  | .monetaryNonMonetary =>
      match account_type with
      | .commonStock | .additionalPaidInCapital | .retainedEarnings | .equity =>
          some (translator.lookup_historical_equity_rate account_code historical_rates closing_rate)
      | _ => translator.balance_sheet_rate account_code closing_rate historical_rates

def rate_type_for_account : TranslationAccountType → RateType
  | .asset | .liability => .closing
  | .revenue | .expense => .average
  | .equity | .commonStock | .additionalPaidInCapital | .retainedEarnings => .historical

/-- The rate of a single amount of an equity account. -/
def equity_amount_rate (account_code : String) : ℚ × RateType :=
  ((translator.historical_equity_rates.find? account_code).getD 1, .historical)

def monetary_amount_rate (account_code : String) (closing_rate : ℚ) : Option (ℚ × RateType) :=
  (is_monetary translator.classify account_code).map fun monetary =>
    if monetary then (closing_rate, .closing)
    else ((translator.historical_equity_rates.find? account_code).getD closing_rate, .historical)

/-- The rate of a single amount, with its type. -/
def amount_rate (account_code : String) (account_type : TranslationAccountType)
    (closing_rate average_rate : ℚ) : Option (ℚ × RateType) :=
  match translator.config.method with
  | .currentRate =>
      match account_type with
      | .asset | .liability => some (closing_rate, .closing)
      | .revenue | .expense => some (average_rate, .average)
      | .equity | .commonStock | .additionalPaidInCapital | .retainedEarnings =>
          some (translator.equity_amount_rate account_code)
  | .temporal =>
      match account_type with
      | .revenue | .expense => some (average_rate, .average)
      | .commonStock | .additionalPaidInCapital | .retainedEarnings | .equity =>
          some (translator.equity_amount_rate account_code)
      | .asset | .liability => translator.monetary_amount_rate account_code closing_rate
  | .monetaryNonMonetary =>
      match account_type with
      | .commonStock | .additionalPaidInCapital | .retainedEarnings | .equity =>
          some (translator.equity_amount_rate account_code)
      | _ => translator.monetary_amount_rate account_code closing_rate

variable (upper : Char → List Char) (rate_table : FxRateTable) (local_currency : String)
  (date : Date)

def closing_rate : ℚ :=
  ((rate_table.get_closing_rate upper local_currency translator.config.group_currency date).map
    FxRate.rate).getD 1

def average_rate : ℚ :=
  ((rate_table.get_average_rate upper local_currency translator.config.group_currency date).map
    FxRate.rate).getD (translator.closing_rate upper rate_table local_currency date)

def translate_amount (amount : ℚ) (account_code : String)
    (account_type : TranslationAccountType) : Option TranslatedAmount :=
  (translator.amount_rate account_code account_type
    (translator.closing_rate upper rate_table local_currency date)
    (translator.average_rate upper rate_table local_currency date)).map fun rate => {
      local_amount := amount
      local_currency
      group_amount := roundDp 2 (amount * rate.1)
      group_currency := translator.config.group_currency
      rate_used := rate.1
      rate_type := rate.2
      translation_date := date }

variable (historical_rates : OrderedMap String ℚ)

def translate_line (account_type : TranslationAccountType) (line : TrialBalanceLine) :
    Option TranslatedTrialBalanceLine :=
  (translator.determine_rate line.account_code account_type
    (translator.closing_rate upper rate_table local_currency date)
    (translator.average_rate upper rate_table local_currency date) historical_rates).map
    fun rate => {
      account_code := line.account_code
      account_type
      local_debit := line.debit_balance
      local_credit := line.credit_balance
      rate_used := rate
      rate_type := rate_type_for_account account_type
      group_debit := roundDp 2 (line.debit_balance * rate)
      group_credit := roundDp 2 (line.credit_balance * rate) }

def translate_trial_balance (order : HashOrder) (trial_balance : TrialBalance) :
    Option TranslatedTrialBalance :=
  (trial_balance.lines.mapM fun line =>
    translator.translate_line upper rate_table trial_balance.currency trial_balance.as_of_date
      historical_rates (translator.determine_account_type order line.account_code) line).map
    fun lines => {
      company_code := trial_balance.company_code
      local_currency := trial_balance.currency
      group_currency := translator.config.group_currency
      period_end_date := trial_balance.as_of_date
      fiscal_year := trial_balance.fiscal_year
      fiscal_period := trial_balance.fiscal_period % 2 ^ 8
      lines
      closing_rate := translator.closing_rate upper rate_table trial_balance.currency
        trial_balance.as_of_date
      average_rate := translator.average_rate upper rate_table trial_balance.currency
        trial_balance.as_of_date
      total_local_debit := (lines.map (·.local_debit)).sum
      total_local_credit := (lines.map (·.local_credit)).sum
      total_group_debit := (lines.map (·.group_debit)).sum
      total_group_credit := (lines.map (·.group_credit)).sum
      cta_amount := (lines.map (·.group_debit)).sum - (lines.map (·.group_credit)).sum
      translation_method := translator.config.method }

end CurrencyTranslator

end Translator

section AccountTypes

variable (config : CurrencyTranslatorConfig) (account_code : String)

/-- The types registered for the prefixes of a code. -/
def CurrencyTranslatorConfig.prefix_types : List TranslationAccountType :=
  (config.account_type_map.entries.filter fun e => starts_with e.1 account_code).map Prod.snd

/-- The types an account may be given. -/
def CurrencyTranslatorConfig.candidate_types : List TranslationAccountType :=
  match config.specific_account_type account_code with
  | some account_type => [account_type]
  | none =>
      if config.prefix_types account_code = [] then [.asset] else config.prefix_types account_code

variable {config account_code}

theorem mem_prefix_types_iff {account_type : TranslationAccountType} :
    account_type ∈ config.prefix_types account_code ↔
      ∃ e ∈ config.account_type_map.entries,
        starts_with e.1 account_code = true ∧ e.2 = account_type := by
  simp only [CurrencyTranslatorConfig.prefix_types, List.mem_map, List.mem_filter, and_assoc]

variable {translator : CurrencyTranslator}

theorem determine_account_type_of_specific {account_type : TranslationAccountType}
    (h : translator.config.specific_account_type account_code = some account_type)
    (order : HashOrder) : translator.determine_account_type order account_code = account_type := by
  rw [CurrencyTranslator.determine_account_type, h]

variable (account_code translator) in
/-- Without a type of its own an account has that of a prefix, or is an asset if there is none. -/
theorem determine_account_type_mem (order : HashOrder) :
    translator.determine_account_type order account_code ∈
      translator.config.candidate_types account_code := by
  rw [CurrencyTranslator.determine_account_type, CurrencyTranslatorConfig.candidate_types]
  split
  · exact List.mem_singleton_self _
  · cases hfind : (order.iter translator.config.account_type_map.entries).find? fun e =>
        starts_with e.1 account_code with
    | some e =>
        have hstarts := List.find?_some hfind
        have hmem : e.2 ∈ translator.config.prefix_types account_code := by
          refine mem_prefix_types_iff.mpr ⟨e, ?_, hstarts, rfl⟩
          exact (order.perm _).mem_iff.mp (List.mem_of_find?_eq_some hfind)
        rw [if_neg (List.ne_nil_of_mem hmem)]
        exact hmem
    | none =>
        have hnil : translator.config.prefix_types account_code = [] := by
          rw [List.eq_nil_iff_forall_not_mem]
          intro account_type hmem
          obtain ⟨e, he, hstarts, -⟩ := mem_prefix_types_iff.mp hmem
          exact List.find?_eq_none.mp hfind e ((order.perm _).mem_iff.mpr he) hstarts
        rw [if_pos hnil]
        exact List.mem_singleton_self _

variable (translator) in
/-- Each registered prefix of a code decides in some order of iteration. -/
theorem mem_candidate_types_iff {account_type : TranslationAccountType} :
    account_type ∈ translator.config.candidate_types account_code ↔
      ∃ order, translator.determine_account_type order account_code = account_type := by
  constructor
  · intro h
    rw [CurrencyTranslatorConfig.candidate_types] at h
    split at h
    · rename_i specific hspecific
      rw [List.mem_singleton.mp h]
      exact ⟨.insertion, determine_account_type_of_specific hspecific _⟩
    · rename_i hspecific
      split at h
      · rename_i hnil
        have hmem := determine_account_type_mem account_code translator .insertion
        rw [CurrencyTranslatorConfig.candidate_types, hspecific] at hmem
        simp only [if_pos hnil] at hmem
        rw [List.mem_singleton.mp h]
        exact ⟨.insertion, List.mem_singleton.mp hmem⟩
      · obtain ⟨e, he, hstarts, rfl⟩ := mem_prefix_types_iff.mp h
        obtain ⟨order, horder⟩ := HashOrder.exists_find?_eq
          (fun e => starts_with e.1 account_code) he hstarts
        refine ⟨order, ?_⟩
        rw [CurrencyTranslator.determine_account_type, hspecific, horder]
  · rintro ⟨order, rfl⟩
    exact determine_account_type_mem account_code translator order

end AccountTypes

section Agreement

variable (translator : CurrencyTranslator) (upper : Char → List Char) (rate_table : FxRateTable)
  (historical_rates : OrderedMap String ℚ)

/-- A line with the rate and the amounts that single amounts of its account get, with its type and
the end of the period. -/
structure Carries (trial_balance : TrialBalance) (order : HashOrder) (line : TrialBalanceLine)
    (translated : TranslatedTrialBalanceLine) : Prop where
  account_code : translated.account_code = line.account_code
  account_type : translated.account_type =
    translator.determine_account_type order line.account_code
  debit : ∃ amount, translator.translate_amount upper rate_table trial_balance.currency
      trial_balance.as_of_date line.debit_balance line.account_code translated.account_type =
        some amount ∧
    translated.rate_used = amount.rate_used ∧ translated.rate_type = amount.rate_type ∧
      translated.group_debit = amount.group_amount
  credit : ∃ amount, translator.translate_amount upper rate_table trial_balance.currency
      trial_balance.as_of_date line.credit_balance line.account_code translated.account_type =
        some amount ∧
    translated.rate_used = amount.rate_used ∧ translated.rate_type = amount.rate_type ∧
      translated.group_credit = amount.group_amount

/-- In every order the lines are those of single amounts, and the order makes no difference. -/
structure TranslatesAlike (trial_balance : TrialBalance) : Prop where
  carries : ∀ order, ∃ translated, translator.translate_trial_balance upper rate_table
      historical_rates order trial_balance = some translated ∧
    List.Forall₂ (Carries translator upper rate_table trial_balance order) trial_balance.lines
      translated.lines
  order_eq : ∀ order order',
    translator.translate_trial_balance upper rate_table historical_rates order trial_balance =
      translator.translate_trial_balance upper rate_table historical_rates order' trial_balance

/-- When both rates of an account agree, by its type: for equity with a historical rate or a closing
rate of one, on the balance sheet for monetary accounts. -/
def RatesAgree (account_code : String) (closing_rate : ℚ) (account_type : TranslationAccountType) :
    Prop :=
  match translator.config.method with
  | .currentRate =>
      match account_type with
      | .asset | .liability | .revenue | .expense => True
      | .commonStock | .additionalPaidInCapital =>
          historical_rates.find? account_code = none → closing_rate = 1
      | .equity | .retainedEarnings =>
          (historical_rates.find? account_code).getD 1 = closing_rate
  | .temporal =>
      match account_type with
      | .revenue | .expense => True
      | .asset | .liability => is_monetary translator.classify account_code = some true
      | .equity | .commonStock | .additionalPaidInCapital | .retainedEarnings =>
          historical_rates.find? account_code = none → closing_rate = 1
  | .monetaryNonMonetary =>
      match account_type with
      | .revenue | .expense => False
      | .asset | .liability => is_monetary translator.classify account_code = some true
      | .equity | .commonStock | .additionalPaidInCapital | .retainedEarnings =>
          historical_rates.find? account_code = none → closing_rate = 1

end Agreement

section Rates

variable {translator : CurrencyTranslator} {account_code : String} {closing_rate : ℚ}
  {historical_rates : OrderedMap String ℚ}

variable (account_code closing_rate) in
/-- What stands in for a rate that is not known decides whether the two agree on equity. -/
theorem lookup_eq_equity_rate_iff (h : translator.historical_equity_rates = historical_rates) :
    translator.lookup_historical_equity_rate account_code historical_rates closing_rate =
        (translator.historical_equity_rates.find? account_code).getD 1 ↔
      (historical_rates.find? account_code = none → closing_rate = 1) := by
  rw [CurrencyTranslator.lookup_historical_equity_rate, h]
  cases historical_rates.find? account_code with
  | some rate => simp
  | none => simp

variable (translator account_code closing_rate historical_rates) in
theorem balance_sheet_rate_agrees_iff {rate_type : RateType}
    (hrate_type : rate_type ≠ .historical) :
    (∃ rate, translator.balance_sheet_rate account_code closing_rate historical_rates = some rate ∧
        translator.monetary_amount_rate account_code closing_rate = some (rate, rate_type)) ↔
      is_monetary translator.classify account_code = some true ∧ rate_type = .closing := by
  rw [CurrencyTranslator.balance_sheet_rate, CurrencyTranslator.monetary_amount_rate]
  cases is_monetary translator.classify account_code with
  | none => simp
  | some monetary =>
      cases monetary with
      | true => simp [eq_comm]
      | false => simp [hrate_type.symm]

/-- A known rate on one side, on the other the rate of an equity account. -/
theorem exists_equity_rate_iff {rate : ℚ} :
    (∃ rate', some rate = some rate' ∧ some (translator.equity_amount_rate account_code) =
        some (rate', RateType.historical)) ↔
      rate = (translator.historical_equity_rates.find? account_code).getD 1 := by
  rw [CurrencyTranslator.equity_amount_rate]
  constructor
  · rintro ⟨rate', hrate, hequity⟩
    cases hrate
    cases hequity
    rfl
  · rintro rfl
    exact ⟨_, rfl, rfl⟩

theorem ratesAgree_iff (h : translator.historical_equity_rates = historical_rates)
    (account_type : TranslationAccountType) (average_rate : ℚ) :
    (∃ rate, translator.determine_rate account_code account_type closing_rate average_rate
        historical_rates = some rate ∧
      translator.amount_rate account_code account_type closing_rate average_rate =
        some (rate, CurrencyTranslator.rate_type_for_account account_type)) ↔
      RatesAgree translator historical_rates account_code closing_rate account_type := by
  have hequity := exists_equity_rate_iff.trans
    (lookup_eq_equity_rate_iff account_code closing_rate h)
  have hclosing : RateType.closing ≠ .historical := by decide
  have hmonetary := balance_sheet_rate_agrees_iff translator account_code closing_rate
    historical_rates hclosing
  have haverage : RateType.average ≠ .historical := by decide
  have hincome := balance_sheet_rate_agrees_iff translator account_code closing_rate
    historical_rates haverage
  unfold CurrencyTranslator.determine_rate CurrencyTranslator.amount_rate RatesAgree
  cases translator.config.method with
  | currentRate =>
      cases account_type with
      | asset | liability | revenue | expense => exact iff_of_true ⟨_, rfl, rfl⟩ trivial
      | commonStock | additionalPaidInCapital => exact hequity
      | equity | retainedEarnings =>
          refine exists_equity_rate_iff.trans ?_
          rw [h]
          exact eq_comm
  | temporal =>
      cases account_type with
      | revenue | expense => exact iff_of_true ⟨_, rfl, rfl⟩ trivial
      | asset | liability => exact hmonetary.trans (and_iff_left rfl)
      | equity | commonStock | additionalPaidInCapital | retainedEarnings => exact hequity
  | monetaryNonMonetary =>
      cases account_type with
      | revenue | expense =>
          refine iff_of_false ?_ not_false
          rw [CurrencyTranslator.rate_type_for_account, hincome]
          rintro ⟨-, ⟨⟩⟩
      | asset | liability => exact hmonetary.trans (and_iff_left rfl)
      | equity | commonStock | additionalPaidInCapital | retainedEarnings => exact hequity

end Rates

section Runs

variable {translator : CurrencyTranslator} {upper : Char → List Char} {rate_table : FxRateTable}
  {historical_rates : OrderedMap String ℚ} {trial_balance : TrialBalance} {order order' : HashOrder}
  {line : TrialBalanceLine}

theorem exists_translate_line_iff (h : translator.historical_equity_rates = historical_rates) :
    (∃ translated, translator.translate_line upper rate_table trial_balance.currency
        trial_balance.as_of_date historical_rates
        (translator.determine_account_type order line.account_code) line = some translated ∧
      Carries translator upper rate_table trial_balance order line translated) ↔
      RatesAgree translator historical_rates line.account_code
        (translator.closing_rate upper rate_table trial_balance.currency trial_balance.as_of_date)
        (translator.determine_account_type order line.account_code) := by
  rw [← ratesAgree_iff h _ (translator.average_rate upper rate_table trial_balance.currency
    trial_balance.as_of_date)]
  constructor
  · rintro ⟨translated, htranslated, hcarries⟩
    obtain ⟨rate, hrate, rfl⟩ := Option.map_eq_some_iff.mp htranslated
    obtain ⟨amount, hamount, hused, hrate_type, -⟩ := hcarries.debit
    obtain ⟨rate', hrate', rfl⟩ := Option.map_eq_some_iff.mp hamount
    exact ⟨rate, hrate, hrate'.trans (congrArg some (Prod.ext hused.symm hrate_type.symm))⟩
  · rintro ⟨rate, hrate, hamount_rate⟩
    have hamount : ∀ amount, ∃ translated, translator.translate_amount upper rate_table
        trial_balance.currency trial_balance.as_of_date amount line.account_code
        (translator.determine_account_type order line.account_code) = some translated ∧
          rate = translated.rate_used ∧
            CurrencyTranslator.rate_type_for_account
              (translator.determine_account_type order line.account_code) =
                translated.rate_type ∧
              roundDp 2 (amount * rate) = translated.group_amount := by
      intro amount
      rw [CurrencyTranslator.translate_amount, hamount_rate]
      exact ⟨_, rfl, rfl, rfl, rfl⟩
    rw [CurrencyTranslator.translate_line, hrate]
    exact ⟨_, rfl, rfl, rfl, hamount line.debit_balance, hamount line.credit_balance⟩

/-- The lines of a run carry what single amounts get exactly if each line's rates agree. -/
theorem exists_translated_iff (h : translator.historical_equity_rates = historical_rates) :
    (∃ translated, translator.translate_trial_balance upper rate_table historical_rates order
        trial_balance = some translated ∧
      List.Forall₂ (Carries translator upper rate_table trial_balance order) trial_balance.lines
        translated.lines) ↔
      ∀ line ∈ trial_balance.lines, RatesAgree translator historical_rates line.account_code
        (translator.closing_rate upper rate_table trial_balance.currency trial_balance.as_of_date)
        (translator.determine_account_type order line.account_code) := by
  simp only [← exists_translate_line_iff h]
  rw [← exists_mapM_forall₂_iff]
  constructor
  · rintro ⟨translated, htranslated, hall⟩
    obtain ⟨lines, hlines, rfl⟩ := Option.map_eq_some_iff.mp htranslated
    exact ⟨lines, hlines, hall⟩
  · rintro ⟨lines, hlines, hall⟩
    rw [CurrencyTranslator.translate_trial_balance, hlines]
    exact ⟨_, rfl, hall⟩

theorem account_type_of_translate_line {local_currency : String} {date : Date}
    {account_type : TranslationAccountType} {translated : TranslatedTrialBalanceLine}
    (h : translator.translate_line upper rate_table local_currency date historical_rates
      account_type line = some translated) : translated.account_type = account_type := by
  obtain ⟨rate, -, rfl⟩ := Option.map_eq_some_iff.mp h
  rfl

/-- The types of the accounts can be read off the translated lines. -/
theorem determine_account_type_eq {translated : TranslatedTrialBalance}
    (h : translator.translate_trial_balance upper rate_table historical_rates order
      trial_balance = some translated)
    (h' : translator.translate_trial_balance upper rate_table historical_rates order'
      trial_balance = some translated) (hline : line ∈ trial_balance.lines) :
    translator.determine_account_type order line.account_code =
      translator.determine_account_type order' line.account_code := by
  obtain ⟨lines, hlines, rfl⟩ := Option.map_eq_some_iff.mp h
  obtain ⟨lines', hlines', heq⟩ := Option.map_eq_some_iff.mp h'
  rw [TranslatedTrialBalance.mk.injEq] at heq
  obtain ⟨-, -, -, -, -, -, rfl, -⟩ := heq
  have hmap := mapM_eq_some_iff.mp hlines
  have hmap' := mapM_eq_some_iff.mp hlines'
  have htranslated := List.map_inj_left.mp (hmap.trans hmap'.symm) line hline
  have hmem := List.mem_map_of_mem (f := fun line => translator.translate_line upper rate_table
    trial_balance.currency trial_balance.as_of_date historical_rates
      (translator.determine_account_type order line.account_code) line) hline
  rw [hmap] at hmem
  obtain ⟨translated, -, hsome⟩ := List.mem_map.mp hmem
  rw [← account_type_of_translate_line hsome.symm,
    ← account_type_of_translate_line (htranslated.symm.trans hsome.symm)]

/-- Accounts whose types the order does not change are translated alike in every order. -/
theorem translate_trial_balance_congr
    (h : ∀ line ∈ trial_balance.lines,
      translator.determine_account_type order line.account_code =
        translator.determine_account_type order' line.account_code) :
    translator.translate_trial_balance upper rate_table historical_rates order trial_balance =
      translator.translate_trial_balance upper rate_table historical_rates order'
        trial_balance := by
  rw [CurrencyTranslator.translate_trial_balance, CurrencyTranslator.translate_trial_balance]
  congr 1
  refine mapM_congr_left fun line hline => ?_
  rw [h line hline]

/-- A translation is that of the single amounts, whatever the order of the prefixes, exactly if
each line's prefixes give it one type, of which the rates agree. -/
theorem translatesAlike_iff (config : CurrencyTranslatorConfig) (framework : String)
    (upper : Char → List Char) (rate_table : FxRateTable) (historical_rates : OrderedMap String ℚ)
    (trial_balance : TrialBalance) :
    TranslatesAlike ((CurrencyTranslator.new_with_framework config
        framework).set_historical_equity_rates historical_rates) upper rate_table historical_rates
        trial_balance ↔
      ∀ line ∈ trial_balance.lines, ∀ account_type ∈ config.candidate_types line.account_code,
        (∀ other ∈ config.candidate_types line.account_code, other = account_type) ∧
        RatesAgree (.new_with_framework config framework) historical_rates line.account_code
          ((CurrencyTranslator.new_with_framework config framework).closing_rate upper rate_table
            trial_balance.currency trial_balance.as_of_date) account_type := by
  let translator := (CurrencyTranslator.new_with_framework config
    framework).set_historical_equity_rates historical_rates
  constructor
  · intro h line hline account_type htype
    obtain ⟨order, rfl⟩ := (mem_candidate_types_iff translator).mp htype
    constructor
    · intro other hother
      obtain ⟨order', rfl⟩ := (mem_candidate_types_iff translator).mp hother
      obtain ⟨translated, htranslated, -⟩ := h.carries order
      have htranslated' := (h.order_eq order' order).trans htranslated
      exact determine_account_type_eq htranslated' htranslated hline
    · exact (exists_translated_iff rfl).mp (h.carries order) line hline
  · intro h
    constructor
    · intro order
      refine (exists_translated_iff rfl).mpr fun line hline => ?_
      exact (h line hline _ (determine_account_type_mem _ translator order)).2
    · intro order order'
      refine translate_trial_balance_congr fun line hline => ?_
      exact (h line hline _ (determine_account_type_mem _ translator order')).1 _
        (determine_account_type_mem _ translator order)

def retainedEarningsBalance : TrialBalance :=
  ⟨"1200", .ofYmd 2024 12 31, 2024, 12, "EUR", [⟨"3300", .equity, 0, 70000⟩], 0, 70000⟩

/-- Retained earnings: at the closing rate on the trial balance, and as a single amount at one. -/
theorem retained_earnings_translated_apart :
    ¬ ∀ (config : CurrencyTranslatorConfig) (framework : String) (upper : Char → List Char)
      (rate_table : FxRateTable) (historical_rates : OrderedMap String ℚ)
      (trial_balance : TrialBalance),
        TranslatesAlike ((CurrencyTranslator.new_with_framework config
          framework).set_historical_equity_rates historical_rates) upper rate_table
          historical_rates trial_balance := by
  intro h
  let rate_table := FxRateTable.new.add_rate
    (.new asciiUpper "EUR" "USD" .closing (.ofYmd 2024 12 31) (11 / 10))
  have hcarries := (h .default "us_gaap" asciiUpper rate_table .empty
    retainedEarningsBalance).carries .insertion
  have hrates := (exists_translated_iff rfl).mp hcarries _ (List.mem_singleton_self _)
  have htype : (CurrencyTranslator.new .default).determine_account_type .insertion "3300" =
      .retainedEarnings := by
    decide +kernel
  have hclosing : (CurrencyTranslator.new .default).closing_rate asciiUpper rate_table "EUR"
      (.ofYmd 2024 12 31) = 11 / 10 := by
    decide +kernel
  have hone : (1 : ℚ) = (CurrencyTranslator.new .default).closing_rate asciiUpper rate_table "EUR"
      (.ofYmd 2024 12 31) := by
    change RatesAgree _ _ _ _ ((CurrencyTranslator.new .default).determine_account_type .insertion
      "3300") at hrates
    rw [htype] at hrates
    exact hrates
  rw [hclosing] at hone
  norm_num at hone

end Runs

end Datasynth.Generators.CurrencyTranslation
