import Mathlib.Algebra.BigOperators.Ring.List
import Mathlib.Data.List.Dedup
import Mathlib.Data.List.Induction
import Mathlib.Tactic.Linarith
import Mathlib.Tactic.Ring
import Datasynth.Generators.BalanceTracker

/-!
When the balance sheet check of the tracker passes: the balances it keeps, and what taking
their absolute values does to the equation.
-/

namespace Datasynth.Generators.BalanceSheetChecks

open Datasynth.Core.AccountBalances
open Datasynth.Core.JournalEntries
open Datasynth.Core.TrialBalances
open Datasynth.Generators.BalanceTracker
open Datasynth.Lib.CivilCalendar
open Datasynth.Lib.SignedPostings
open Datasynth.Lib.SortedEntries

section Postings

/-- What a line posts: only its positive amounts. -/
def posted (line : JournalEntryLine) : ℚ := max line.debit_amount 0 - max line.credit_amount 0

/-- What it leaves out, with the sign in which that is missing. -/
def skipped (line : JournalEntryLine) : ℚ :=
  max (-line.debit_amount) 0 - max (-line.credit_amount) 0

def linesOf (company_code : String) (entries : List (String × JournalEntry)) :
    List JournalEntryLine :=
  (entries.filter fun e => e.2.header.company_code = company_code).flatMap (·.2.lines)

def postingsOf (company_code : String) (entries : List (String × JournalEntry)) :
    List (String × ℚ) :=
  (linesOf company_code entries).map fun line => (line.gl_account, posted line)

/-- A net on the side on which accounts of the type do not normally stand.  Assets may stand
on both. -/
def WrongSide (account_type : AccountType) (net : ℚ) : Prop :=
  account_type ≠ .asset ∧ if isDebitNormal account_type then net < 0 else 0 < net

instance (account_type : AccountType) (net : ℚ) : Decidable (WrongSide account_type net) := by
  unfold WrongSide
  infer_instance

/-- The net of all accounts of a company that stand on the wrong side. -/
def wrongSideNet (typeOf : String → AccountType) (postings : List (String × ℚ)) : ℚ :=
  ((postings.map Prod.fst).dedup.map fun account =>
    if WrongSide (typeOf account) (netOn account postings) then netOn account postings else 0).sum

/-- By how much the sides of the balance sheet of a company differ. -/
def sheetGap (typeOf : String → AccountType) (company_code : String)
    (entries : List (String × JournalEntry)) : ℚ :=
  ((linesOf company_code entries).map skipped).sum -
    2 * wrongSideNet typeOf (postingsOf company_code entries)

theorem posted_eq (line : JournalEntryLine) :
    posted line = line.debit_amount - line.credit_amount + skipped line := by
  have hparts : ∀ x : ℚ, max x 0 = x + max (-x) 0 := by
    intro x
    rcases le_total x 0 with h | h
    · rw [max_eq_right h, max_eq_left (neg_nonneg.mpr h), add_neg_cancel]
    · rw [max_eq_left h, max_eq_right (neg_nonpos.mpr h), add_zero]
  rw [posted, skipped, hparts line.debit_amount, hparts line.credit_amount]
  ring

/-- Balanced entries post what they leave out. -/
theorem sum_posted {entries : List (String × JournalEntry)}
    (hbalanced : ∀ e ∈ entries, e.2.total_debit = e.2.total_credit) (company_code : String) :
    ((linesOf company_code entries).map posted).sum =
      ((linesOf company_code entries).map skipped).sum := by
  have hsums : ((linesOf company_code entries).map (·.debit_amount)).sum =
      ((linesOf company_code entries).map (·.credit_amount)).sum := by
    induction entries with
    | nil => rfl
    | cons e entries ih =>
        rw [List.forall_mem_cons] at hbalanced
        rw [linesOf, List.filter_cons]
        split
        · rw [List.flatMap_cons, List.map_append, List.sum_append, List.map_append,
            List.sum_append]
          exact congrArg₂ _ hbalanced.1 (ih hbalanced.2)
        · exact ih hbalanced.2
  have hlines : ((linesOf company_code entries).map fun line =>
      posted line + line.credit_amount).sum =
        ((linesOf company_code entries).map fun line => line.debit_amount + skipped line).sum := by
    congr 1
    apply List.map_congr_left
    intro line _
    rw [posted_eq]
    ring
  rw [List.sum_map_add, List.sum_map_add, hsums] at hlines
  linarith

end Postings

section Balances

/-- A balance that holds a net of debits over credits. -/
structure Carries (balance : AccountBalance) (t : AccountType) (n : ℚ) : Prop where
  account_type : balance.account_type = t
  opening_balance : balance.opening_balance = 0
  net : balance.period_debits - balance.period_credits = n
  closing_balance : balance.closing_balance = if isDebitNormal t then n else -n

variable {balance : AccountBalance} {account_type : AccountType} {net : ℚ}

theorem carries_new (company_code account_code : String) (currency : String) (fiscal_year : ℤ)
    (fiscal_period : ℕ) : Carries (.new company_code account_code account_type currency fiscal_year
      fiscal_period) account_type 0 := by
  refine ⟨rfl, rfl, sub_zero 0, ?_⟩
  rw [neg_zero, ite_self]
  rfl

theorem carries_recalculate_closing (balance : AccountBalance)
    (htype : balance.account_type = account_type)
    (hopening : balance.opening_balance = 0)
    (hnet : balance.period_debits - balance.period_credits = net) :
    Carries balance.recalculate_closing account_type net := by
  refine ⟨htype, hopening, hnet, ?_⟩
  rw [← hnet, ← htype]
  simp only [AccountBalance.recalculate_closing, hopening]
  split
  · ring
  · ring

theorem Carries.apply_debit (h : Carries balance account_type net) (amount : ℚ) :
    Carries (balance.apply_debit amount) account_type (net + amount) := by
  have hnet : balance.period_debits + amount - balance.period_credits = net + amount := by
    rw [← h.net]
    ring
  exact carries_recalculate_closing { balance with period_debits := _ }
    h.account_type h.opening_balance hnet

theorem Carries.apply_credit (h : Carries balance account_type net) (amount : ℚ) :
    Carries (balance.apply_credit amount) account_type (net - amount) := by
  have hnet : balance.period_debits - (balance.period_credits + amount) = net - amount := by
    rw [← h.net]
    ring
  exact carries_recalculate_closing { balance with period_credits := _ }
    h.account_type h.opening_balance hnet

theorem Carries.applyLine (h : Carries balance account_type net) (line : JournalEntryLine) :
    Carries (RunningBalanceTracker.applyLine line balance) account_type (net + posted line) := by
  have hdebit : Carries (if 0 < line.debit_amount then balance.apply_debit line.debit_amount
      else balance) account_type (net + max line.debit_amount 0) := by
    split
    · rename_i hpos
      rw [max_eq_left hpos.le]
      exact h.apply_debit _
    · rename_i hneg
      rw [max_eq_right (not_lt.mp hneg), add_zero]
      exact h
  rw [posted, ← add_sub_assoc, RunningBalanceTracker.applyLine]
  split
  · rename_i hpos
    rw [max_eq_left hpos.le]
    exact hdebit.apply_credit _
  · rename_i hneg
    rw [max_eq_right (not_lt.mp hneg), sub_zero]
    exact hdebit

end Balances

section Companies

/-- The balances of a company hold the nets of its postings, account by account. -/
structure Carried (typeOf : String → AccountType)
    (company_balances : OrderedMap String AccountBalance) (postings : List (String × ℚ)) :
    Prop where
  keys : ∀ account, account ∈ company_balances.keys ↔ account ∈ postings.map Prod.fst
  carries : ∀ account balance, company_balances.find? account = some balance →
    Carries balance (typeOf account) (netOn account postings)

variable {tracker : RunningBalanceTracker} {company_balances : OrderedMap String AccountBalance}
  {postings : List (String × ℚ)}

theorem carried_empty (typeOf : String → AccountType) : Carried typeOf .empty [] := by
  refine ⟨fun account => Iff.rfl, ?_⟩
  intro account balance h
  cases h

theorem Carried.lineBalance (h : Carried tracker.determine_account_type company_balances postings)
    (entry : JournalEntry) (line : JournalEntryLine) :
    Carries (tracker.lineBalance entry company_balances line)
      (tracker.determine_account_type line.gl_account) (netOn line.gl_account postings) := by
  rw [RunningBalanceTracker.lineBalance]
  cases hfind : company_balances.find? line.gl_account with
  | some balance => exact h.carries _ _ hfind
  | none =>
      have hnotMem : line.gl_account ∉ postings.map Prod.fst := by
        rw [← h.keys, OrderedMap.mem_keys_iff, hfind]
        exact Bool.false_ne_true
      rw [netOn_eq_zero hnotMem]
      apply carries_new

/-- One line moves one balance, by what it posts. -/
theorem Carried.insert_applyLine
    (h : Carried tracker.determine_account_type company_balances postings)
    (entry : JournalEntry) (line : JournalEntryLine) :
    Carried tracker.determine_account_type
      (company_balances.insert line.gl_account
        (RunningBalanceTracker.applyLine line (tracker.lineBalance entry company_balances line)))
      (postings ++ [(line.gl_account, posted line)]) := by
  constructor
  · intro account
    rw [OrderedMap.mem_keys_iff, OrderedMap.find?_insert, List.map_append, List.mem_append,
      ← h.keys, OrderedMap.mem_keys_iff]
    split
    · rename_i heq
      simp [heq]
    · rename_i hne
      simp [hne]
  · intro account balance hfind
    rw [OrderedMap.find?_insert] at hfind
    rw [netOn_append, netOn_cons, netOn_nil, add_zero]
    split at hfind
    · rename_i heq
      subst heq
      obtain rfl := Option.some.inj hfind
      rw [if_pos rfl]
      exact (h.lineBalance entry line).applyLine line
    · rename_i hne
      rw [if_neg fun heq => hne heq.symm, add_zero]
      exact h.carries _ _ hfind

theorem Carried.applyLines
    (h : Carried tracker.determine_account_type company_balances postings)
    (document_number : String) (entry : JournalEntry) (lines : List JournalEntryLine) :
    Carried tracker.determine_account_type
      (tracker.applyLines document_number entry lines company_balances).1
      (postings ++ lines.map fun line => (line.gl_account, posted line)) := by
  induction lines generalizing company_balances postings with
  | nil =>
      rw [List.map_nil, List.append_nil]
      exact h
  | cons line lines ih =>
      rw [List.map_cons, List.append_cons]
      exact ih (h.insert_applyLine entry line)

/-- What an account adds to the left side of the equation, less what it adds to the right. -/
def contribution (account_type : AccountType) (closing_balance : ℚ) : ℚ :=
  if account_type = .asset then closing_balance
  else if isDebitNormal account_type then |closing_balance| else -|closing_balance|

theorem abs_eq_self_sub (x : ℚ) : |x| = x - 2 * if x < 0 then x else 0 := by
  split
  · rename_i hneg
    rw [abs_of_neg hneg]
    ring
  · rename_i hnonneg
    rw [abs_of_nonneg (not_lt.mp hnonneg)]
    ring

theorem neg_abs_eq_self_sub (x : ℚ) : -|x| = x - 2 * if 0 < x then x else 0 := by
  rw [← abs_neg, abs_eq_self_sub]
  simp only [neg_lt_zero]
  split
  · ring
  · ring

theorem Carries.contribution_eq {balance : AccountBalance} {account_type : AccountType} {net : ℚ}
    (h : Carries balance account_type net) :
    contribution account_type balance.closing_balance =
      net - 2 * (if WrongSide account_type net then net else 0) := by
  rw [contribution, h.closing_balance]
  by_cases hasset : account_type = .asset
  · subst hasset
    have hright : ¬WrongSide .asset net := fun hwrong => hwrong.1 rfl
    rw [if_pos rfl, if_neg hright, mul_zero, sub_zero]
    rfl
  · rw [if_neg hasset]
    simp only [WrongSide, ne_eq, hasset, not_false_eq_true, true_and]
    cases isDebitNormal account_type with
    | true =>
        simp only [if_true]
        exact abs_eq_self_sub net
    | false =>
        simp only [Bool.false_eq_true, if_false]
        rw [abs_neg]
        exact neg_abs_eq_self_sub net

theorem sides_eq_sumOver (tracker : RunningBalanceTracker)
    (company_balances : OrderedMap String AccountBalance) :
    tracker.totalAssets company_balances -
        (tracker.totalLiabilities company_balances + tracker.totalEquity company_balances +
          tracker.netIncome company_balances) =
      company_balances.sumOver fun account_code balance =>
        contribution (tracker.determine_account_type account_code) balance.closing_balance := by
  rw [RunningBalanceTracker.totalAssets, RunningBalanceTracker.totalLiabilities,
    RunningBalanceTracker.totalEquity, RunningBalanceTracker.netIncome]
  simp only [RunningBalanceTracker.totalOf, ← OrderedMap.sumOver_sub, ← OrderedMap.sumOver_add]
  apply OrderedMap.sumOver_congr
  intro account_code balance _
  rw [contribution]
  cases tracker.determine_account_type account_code
  all_goals simp [isDebitNormal]

/-- The sides differ by the net of the postings, less twice the net on the wrong side. -/
theorem Carried.sides_eq
    (h : Carried tracker.determine_account_type company_balances postings) :
    tracker.totalAssets company_balances -
        (tracker.totalLiabilities company_balances + tracker.totalEquity company_balances +
          tracker.netIncome company_balances) =
      (postings.map Prod.snd).sum - 2 * wrongSideNet tracker.determine_account_type postings := by
  have hkeys : company_balances.keys.Perm (postings.map Prod.fst).dedup := by
    rw [List.perm_ext_iff_of_nodup company_balances.keys_nodup (List.nodup_dedup _)]
    intro account
    rw [h.keys, List.mem_dedup]
  have hmem : ∀ p ∈ postings, p.1 ∈ company_balances.keys := by
    intro p hp
    exact (h.keys p.1).mpr (List.mem_map_of_mem hp)
  rw [sides_eq_sumOver, OrderedMap.sumOver_congr fun account balance hfind =>
      (h.carries account balance hfind).contribution_eq,
    OrderedMap.sumOver_sub, OrderedMap.sumOver_keys, OrderedMap.sumOver_keys,
    sum_netOn company_balances.keys_nodup hmem, wrongSideNet, List.sum_map_mul_left]
  congr 2
  exact (hkeys.map _).sum_eq

end Companies

section Validation

variable {tracker : RunningBalanceTracker} (company_code : String) (date : Date)
  (entry_id : Option String)

theorem validate_balance_sheet_keeps (tracker : RunningBalanceTracker) :
    ∃ stats validation_errors, (tracker.validate_balance_sheet company_code date entry_id).2 =
      { tracker with stats := stats, validation_errors := validation_errors } := by
  rw [RunningBalanceTracker.validate_balance_sheet]
  split
  · exact ⟨_, _, rfl⟩
  · simp only
    split
    · split
      · exact ⟨_, _, rfl⟩
      · exact ⟨_, _, rfl⟩
    · exact ⟨_, _, rfl⟩

/-- The validation reports nothing exactly within the tolerance. -/
theorem validate_balance_sheet_eq_iff {company_balances : OrderedMap String AccountBalance}
    (hfind : tracker.balances.find? company_code = some company_balances) :
    tracker.validate_balance_sheet company_code date entry_id = (.ok (), tracker) ↔
      |tracker.totalAssets company_balances -
        (tracker.totalLiabilities company_balances + tracker.totalEquity company_balances +
          tracker.netIncome company_balances)| ≤ tracker.config.balance_tolerance := by
  rw [RunningBalanceTracker.validate_balance_sheet, hfind]
  simp only
  constructor
  · intro h
    by_contra hover
    rw [if_pos (not_le.mp hover)] at h
    split at h
    · cases congrArg Prod.fst h
    · have herrors := congrArg (fun result => result.2.validation_errors) h
      exact List.cons_ne_nil _ _ (List.append_right_eq_self.mp herrors)
  · intro h
    rw [if_neg (not_lt.mpr h)]

end Validation

section Runs

variable {start tracker : RunningBalanceTracker} {entries : List (String × JournalEntry)}

theorem postingsOf_concat (company_code : String) (entries : List (String × JournalEntry))
    (e : String × JournalEntry) :
    postingsOf company_code (entries ++ [e]) = postingsOf company_code entries ++
      if e.2.header.company_code = company_code then
        e.2.lines.map fun line => (line.gl_account, posted line)
      else [] := by
  rw [postingsOf, linesOf, List.filter_append, List.flatMap_append, List.map_append]
  congr 1
  rw [List.filter_singleton]
  split
  · rename_i hcompany
    rw [decide_eq_true hcompany, cond_true, List.flatMap_singleton]
  · rename_i hcompany
    rw [decide_eq_false hcompany]
    rfl

/-- A tracker that has posted entries from an empty start. -/
structure Tracks (start tracker : RunningBalanceTracker)
    (entries : List (String × JournalEntry)) : Prop where
  config : tracker.config = start.config
  determine_account_type : tracker.determine_account_type = start.determine_account_type
  companies : ∀ company_code, (tracker.balances.find? company_code).isSome ↔
    ∃ e ∈ entries, e.2.header.company_code = company_code
  carried : ∀ company_code,
    Carried start.determine_account_type ((tracker.balances.find? company_code).getD .empty)
      (postingsOf company_code entries)

theorem Tracks.post (h : Tracks start tracker entries) (e : String × JournalEntry) :
    Tracks start (tracker.post e.1 e.2) (entries ++ [e]) := by
  refine ⟨h.config, h.determine_account_type, ?_, ?_⟩
  · intro company_code
    rw [RunningBalanceTracker.post]
    simp only [OrderedMap.find?_insert, List.mem_append, List.mem_singleton, or_and_right,
      exists_or, exists_eq_left, ← h.companies]
    split
    · rename_i heq
      simp [heq]
    · rename_i hne
      simp [Ne.symm hne]
  · intro company_code
    rw [postingsOf_concat, RunningBalanceTracker.post]
    simp only [OrderedMap.find?_insert]
    by_cases hcompany : company_code = e.2.header.company_code
    · rw [if_pos hcompany, if_pos hcompany.symm, Option.getD_some, hcompany,
        ← h.determine_account_type]
      apply Carried.applyLines
      rw [h.determine_account_type]
      exact h.carried _
    · rw [if_neg hcompany, if_neg (Ne.symm hcompany), List.append_nil]
      exact h.carried _

/-- A balanced entry is posted, and only the errors and their count may change besides. -/
theorem Tracks.apply_entry (h : Tracks start tracker entries) (e : String × JournalEntry)
    (hbalanced : e.2.total_debit = e.2.total_credit) :
    Tracks start (tracker.apply_entry e.1 e.2).2 (entries ++ [e]) := by
  have hposted := h.post e
  rw [RunningBalanceTracker.apply_entry, if_neg fun hunbalanced => hunbalanced.1 hbalanced,
    if_neg (not_not_intro hbalanced)]
  simp only
  split
  · obtain ⟨stats, validation_errors, hkeeps⟩ :=
      validate_balance_sheet_keeps e.2.header.company_code e.2.header.posting_date (some e.1)
        (tracker.post e.1 e.2)
    rw [hkeeps]
    exact ⟨hposted.config, hposted.determine_account_type, hposted.companies, hposted.carried⟩
  · exact hposted

theorem tracks_applyEntries (hempty : start.balances = .empty)
    (hbalanced : ∀ e ∈ entries, e.2.total_debit = e.2.total_credit) :
    Tracks start (start.applyEntries entries) entries := by
  induction entries using List.reverseRecOn with
  | nil =>
      refine ⟨rfl, rfl, ?_, ?_⟩
      · intro company_code
        simp [RunningBalanceTracker.applyEntries, hempty]
      · intro company_code
        rw [RunningBalanceTracker.applyEntries, List.foldl_nil, hempty]
        exact carried_empty _
  | append_singleton entries e ih =>
      rw [List.forall_mem_append, List.forall_mem_singleton] at hbalanced
      rw [RunningBalanceTracker.applyEntries, List.foldl_concat]
      exact (ih hbalanced.1).apply_entry e hbalanced.2

/-- What the check compares after balanced entries is the gap of the entries. -/
theorem Tracks.validate_eq_iff (h : Tracks start tracker entries)
    (hbalanced : ∀ e ∈ entries, e.2.total_debit = e.2.total_credit) (company_code : String)
    (date : Date) (entry_id : Option String) :
    tracker.validate_balance_sheet company_code date entry_id = (.ok (), tracker) ↔
      (∃ e ∈ entries, e.2.header.company_code = company_code) →
        |sheetGap start.determine_account_type company_code entries| ≤
          start.config.balance_tolerance := by
  rw [← h.companies]
  cases hfind : tracker.balances.find? company_code with
  | none =>
      rw [RunningBalanceTracker.validate_balance_sheet, hfind]
      simp
  | some company_balances =>
      have hcarried := h.carried company_code
      rw [hfind, Option.getD_some, ← h.determine_account_type] at hcarried
      have hsum : ((postingsOf company_code entries).map Prod.snd).sum =
          ((linesOf company_code entries).map skipped).sum := by
        rw [postingsOf, List.map_map]
        exact sum_posted hbalanced company_code
      rw [validate_balance_sheet_eq_iff _ _ _ hfind, hcarried.sides_eq, hsum, h.config,
        h.determine_account_type, sheetGap]
      simp

/-- The check reports no imbalance for any company, after no number of the entries. -/
def NeverReports (tracker : RunningBalanceTracker) (entries : List (String × JournalEntry)) :
    Prop :=
  ∀ before after, entries = before ++ after → ∀ company_code date entry_id,
    (tracker.applyEntries before).validate_balance_sheet company_code date entry_id =
      (.ok (), tracker.applyEntries before)

variable (config : BalanceTrackerConfig) (currency : String)
  (account_types : List (String × AccountType)) (classifier : String → AccountCategory)

theorem balance_sheet_holds_iff
    (hbalanced : ∀ e ∈ entries, e.2.total_debit = e.2.total_credit) :
    NeverReports (.new config currency account_types classifier) entries ↔
      ∀ before after, entries = before ++ after → ∀ e ∈ before,
        |sheetGap (RunningBalanceTracker.new config currency account_types
          classifier).determine_account_type e.2.header.company_code before| ≤
            config.balance_tolerance := by
  rw [NeverReports]
  refine forall₃_congr fun before after heq => ?_
  have hbefore : ∀ e ∈ before, e.2.total_debit = e.2.total_credit := by
    intro e he
    apply hbalanced
    rw [heq]
    exact List.mem_append_left after he
  have htracks : Tracks (.new config currency account_types classifier) _ before :=
    tracks_applyEntries rfl hbefore
  constructor
  · intro h e he
    exact (htracks.validate_eq_iff hbefore _ e.2.header.posting_date none).mp (h _ _ _)
      ⟨e, he, rfl⟩
  · intro h company_code date entry_id
    refine (htracks.validate_eq_iff hbefore _ _ _).mpr ?_
    rintro ⟨e, he, rfl⟩
    exact h e he

/-- A balanced entry of one amount. -/
def transferEntry (debit_account credit_account : String) (amount : ℚ) : JournalEntry :=
  { header := .new "1000" (.ofYmd 2024 1 15)
    lines := [.debit 1 debit_account amount, .credit 2 credit_account amount] }

theorem cash_sale_never_reports :
    NeverReports (.new .default "USD" [] AccountCategory.from_account)
      [("JE-1", transferEntry "1000" "4000" 100)] := by
  refine (balance_sheet_holds_iff _ _ _ _ ?_).mpr ?_
  · decide +kernel
  · intro before after heq e he
    cases before with
    | nil => cases he
    | cons e' before =>
        obtain ⟨rfl, hrest⟩ := List.cons.inj heq
        obtain ⟨rfl, rfl⟩ := List.append_eq_nil_iff.mp hrest.symm
        obtain rfl := List.mem_singleton.mp he
        decide +kernel

/-- A payment before the invoice: the liability stands on the debit side. -/
theorem prepaid_liability_reports :
    (transferEntry "2000" "1000" 100).total_debit = (transferEntry "2000" "1000" 100).total_credit ∧
      ¬NeverReports (.new .default "USD" [] AccountCategory.from_account)
        [("JE-1", transferEntry "2000" "1000" 100)] := by
  refine ⟨by decide +kernel, ?_⟩
  intro h
  have hpasses := h _ [] (List.append_nil _).symm "1000" (.ofYmd 2024 1 15) none
  have herrors := congrArg (fun result => result.2.stats.validation_errors) hpasses
  revert herrors
  decide +kernel

end Runs

end Datasynth.Generators.BalanceSheetChecks
