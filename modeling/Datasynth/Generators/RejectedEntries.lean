import Mathlib
import Datasynth.Generators.BalanceSheetChecks

/-!
What an entry that the tracker answers with an error leaves behind.
-/

namespace Datasynth.Generators.RejectedEntries

open Datasynth.Core.AccountBalances
open Datasynth.Core.JournalEntries
open Datasynth.Core.TrialBalances
open Datasynth.Generators.BalanceSheetChecks
open Datasynth.Generators.BalanceTracker
open Datasynth.Generators.BalanceTracker.RunningBalanceTracker
open Datasynth.Lib.CivilCalendar
open Datasynth.Lib.SortedEntries

section Sheets

variable (tracker : RunningBalanceTracker) (entry : JournalEntry)

/-- The balance of an account of the company of an entry, as the tracker has it. -/
def balanceBefore (account_code : String) : Option AccountBalance :=
  (tracker.balances.find? entry.header.company_code).bind (·.find? account_code)

/-- The balance that a first line on an account starts from. -/
def openedBalance (account_code : String) : AccountBalance :=
  .new entry.header.company_code account_code (tracker.determine_account_type account_code)
    tracker.currency entry.header.posting_date.year entry.header.posting_date.month

/-- The balance of an account with the lines on it, and no others, applied in turn. -/
def balanceAfter (lines : List JournalEntryLine) (account_code : String)
    (balance : Option AccountBalance) : Option AccountBalance :=
  (lines.filter fun line => line.gl_account = account_code).foldl
    (fun balance line =>
      some (applyLine line (balance.getD (openedBalance tracker entry account_code))))
    balance

/-- The accounts of the company of an entry that have a balance, or get one by it. -/
def sheetAccounts : Finset String :=
  ((tracker.balances.find? entry.header.company_code).getD .empty).keys.toFinset ∪
    (entry.lines.map (·.gl_account)).toFinset

/-- By how much the sides of the balance sheet of the company differ, the entry included. -/
def sheetGapAfter : ℚ :=
  ∑ account_code ∈ sheetAccounts tracker entry,
    (balanceAfter tracker entry entry.lines account_code
        (balanceBefore tracker entry account_code)).elim 0
      fun balance =>
        contribution (tracker.determine_account_type account_code) balance.closing_balance

/-- The one way to be rejected that comes too late: a balanced entry that tips the sheet. -/
structure TipsSheet : Prop where
  balanced : entry.total_debit = entry.total_credit
  fail_on_validation_error : tracker.config.fail_on_validation_error = true
  validate_on_each_entry : tracker.config.validate_on_each_entry = true
  gap : tracker.config.balance_tolerance < |sheetGapAfter tracker entry|

end Sheets

/-- Balances, history and statistics of two trackers agree. -/
structure SameBooks (a b : RunningBalanceTracker) : Prop where
  balances : a.balances = b.balances
  history : a.history = b.history
  stats : a.stats = b.stats

section Posting

variable {tracker : RunningBalanceTracker} {entry : JournalEntry}
  {company_balances : OrderedMap String AccountBalance} (document_number : String)

theorem lineBalance_eq (line : JournalEntryLine) :
    tracker.lineBalance entry company_balances line =
      (company_balances.find? line.gl_account).getD (openedBalance tracker entry line.gl_account) :=
  rfl

theorem balanceAfter_cons (line : JournalEntryLine) (lines : List JournalEntryLine)
    (account_code : String) (balance : Option AccountBalance) :
    balanceAfter tracker entry (line :: lines) account_code balance =
      balanceAfter tracker entry lines account_code
        (if line.gl_account = account_code then
          some (applyLine line (balance.getD (openedBalance tracker entry account_code)))
        else balance) := by
  rw [balanceAfter, List.filter_cons]
  split
  · rename_i haccount
    rw [if_pos (of_decide_eq_true haccount)]
    rfl
  · rename_i haccount
    rw [if_neg fun heq => haccount (decide_eq_true heq)]
    rfl

/-- Posting lines changes each account by the lines on it. -/
theorem find?_applyLines (lines : List JournalEntryLine) (account_code : String) :
    (tracker.applyLines document_number entry lines company_balances).1.find? account_code =
      balanceAfter tracker entry lines account_code (company_balances.find? account_code) := by
  induction lines generalizing company_balances with
  | nil => rfl
  | cons line lines ih =>
      rw [applyLines, balanceAfter_cons]
      simp only [ih, OrderedMap.find?_insert, eq_comm (a := account_code)]
      split
      · rename_i haccount
        rw [lineBalance_eq, haccount]
      · rfl

theorem isSome_balanceAfter (lines : List JournalEntryLine) (account_code : String)
    (balance : Option AccountBalance) :
    (balanceAfter tracker entry lines account_code balance).isSome ↔
      balance.isSome ∨ account_code ∈ lines.map (·.gl_account) := by
  induction lines generalizing balance with
  | nil => simp [balanceAfter]
  | cons line lines ih =>
      rw [balanceAfter_cons, ih, List.map_cons, List.mem_cons, eq_comm (a := account_code)]
      split
      · rename_i haccount
        simp [haccount]
      · rename_i haccount
        simp [haccount]

/-- Over the keys, a sum over a map is a sum of what is found under them. -/
theorem sumOver_eq_sum (m : OrderedMap String AccountBalance)
    (weight : String → AccountBalance → ℚ) :
    m.sumOver weight = ∑ k ∈ m.keys.toFinset, (m.find? k).elim 0 (weight k) := by
  have hcongr : m.sumOver weight = m.sumOver fun k _ => (m.find? k).elim 0 (weight k) := by
    apply OrderedMap.sumOver_congr
    intro k v hfind
    rw [hfind, Option.elim_some]
  rw [hcongr, OrderedMap.sumOver_keys, List.sum_toFinset _ m.keys_nodup]

theorem keys_applyLines (lines : List JournalEntryLine) :
    (tracker.applyLines document_number entry lines company_balances).1.keys.toFinset =
      company_balances.keys.toFinset ∪ (lines.map (·.gl_account)).toFinset := by
  ext account_code
  rw [List.mem_toFinset, OrderedMap.mem_keys_iff, find?_applyLines, isSome_balanceAfter,
    Finset.mem_union, List.mem_toFinset, List.mem_toFinset, OrderedMap.mem_keys_iff]

theorem find?_getD_empty (account_code : String) :
    ((tracker.balances.find? entry.header.company_code).getD .empty).find? account_code =
      balanceBefore tracker entry account_code := by
  rw [balanceBefore]
  cases tracker.balances.find? entry.header.company_code with
  | none => rfl
  | some company_balances => rfl

end Posting

section Rejection

variable (tracker : RunningBalanceTracker) (document_number : String) (entry : JournalEntry)

/-- After the posting, the sides of the company's sheet differ by the gap. -/
theorem post_sides_eq : ∃ company_balances,
    (tracker.post document_number entry).balances.find? entry.header.company_code =
        some company_balances ∧
      (tracker.post document_number entry).totalAssets company_balances -
          ((tracker.post document_number entry).totalLiabilities company_balances +
            (tracker.post document_number entry).totalEquity company_balances +
            (tracker.post document_number entry).netIncome company_balances) =
        sheetGapAfter tracker entry := by
  refine ⟨_, by rw [post, OrderedMap.find?_insert, if_pos rfl], ?_⟩
  rw [sides_eq_sumOver, sumOver_eq_sum, keys_applyLines, sheetGapAfter, sheetAccounts]
  apply Finset.sum_congr rfl
  intro account_code _
  rw [find?_applyLines, find?_getD_empty]
  rfl

/-- Validation does not count entries. -/
theorem entries_processed_validate (company_code : String) (date : Date)
    (entry_id : Option String) :
    (tracker.validate_balance_sheet company_code date entry_id).2.stats.entries_processed =
      tracker.stats.entries_processed := by
  rw [validate_balance_sheet]
  split
  · rfl
  · simp only
    split
    · split
      · rfl
      · rfl
    · rfl

theorem validate_errs_iff {company_code : String} {date : Date} {entry_id : Option String}
    {company_balances : OrderedMap String AccountBalance}
    (hfind : tracker.balances.find? company_code = some company_balances) :
    (∃ e, (tracker.validate_balance_sheet company_code date entry_id).1 = .error e) ↔
      tracker.config.fail_on_validation_error = true ∧
        tracker.config.balance_tolerance <
          |tracker.totalAssets company_balances -
            (tracker.totalLiabilities company_balances + tracker.totalEquity company_balances +
              tracker.netIncome company_balances)| := by
  rw [validate_balance_sheet, hfind]
  simp only
  split
  · rename_i hover
    rw [and_iff_left hover]
    split
    · rename_i hfail
      exact iff_of_true ⟨_, rfl⟩ hfail
    · rename_i hfail
      exact iff_of_false (by simp) hfail
  · rename_i hwithin
    exact iff_of_false (by simp) fun h => hwithin h.2

/-- A balanced entry is answered with an error exactly if it tips the sheet. -/
theorem apply_entry_errs_iff (hbalanced : entry.total_debit = entry.total_credit) :
    (∃ e, (tracker.apply_entry document_number entry).1 = .error e) ↔
      TipsSheet tracker entry := by
  rw [apply_entry, if_neg fun h => h.1 hbalanced, if_neg (not_not_intro hbalanced)]
  simp only
  have hconfig : (tracker.post document_number entry).config = tracker.config := rfl
  obtain ⟨company_balances, hfind, hsides⟩ := post_sides_eq tracker document_number entry
  split
  · rename_i hvalidate
    rw [validate_errs_iff _ hfind, hsides]
    constructor
    · rintro ⟨hfail, hgap⟩
      exact ⟨hbalanced, hfail, hvalidate, hgap⟩
    · intro h
      exact ⟨h.fail_on_validation_error, h.gap⟩
  · rename_i hvalidate
    exact iff_of_false (by simp) fun h => hvalidate h.validate_on_each_entry

/-- A balanced entry is counted, whatever the answer. -/
theorem entries_processed_apply_entry (hbalanced : entry.total_debit = entry.total_credit) :
    (tracker.apply_entry document_number entry).2.stats.entries_processed =
      tracker.stats.entries_processed + 1 := by
  rw [apply_entry, if_neg fun h => h.1 hbalanced, if_neg (not_not_intro hbalanced)]
  simp only
  split
  · rw [entries_processed_validate]
    rfl
  · rfl

/-- An entry that tips the sheet is answered with an error, and counted. -/
theorem not_atomic_of_tipsSheet (htips : TipsSheet tracker entry) :
    ¬ ∀ e, (tracker.apply_entry document_number entry).1 = .error e →
      SameBooks (tracker.apply_entry document_number entry).2 tracker := by
  intro hatomic
  obtain ⟨e, he⟩ := (apply_entry_errs_iff tracker document_number entry htips.balanced).mpr htips
  have hsame := hatomic e he
  have hcount := entries_processed_apply_entry tracker document_number entry htips.balanced
  rw [hsame.stats] at hcount
  exact absurd hcount.symm (Nat.succ_ne_self _)

/-- An error leaves the books as they were, unless it is that of an entry that tips the sheet. -/
theorem apply_entry_atomic_iff :
    (tracker.config.fail_on_validation_error = true →
        ∀ e, (tracker.apply_entry document_number entry).1 = .error e →
          SameBooks (tracker.apply_entry document_number entry).2 tracker) ↔
      ¬ TipsSheet tracker entry := by
  constructor
  · intro hatomic htips
    exact not_atomic_of_tipsSheet tracker document_number entry htips
      (hatomic htips.fail_on_validation_error)
  · intro hkeeps hfail e he
    have hunbalanced : entry.total_debit ≠ entry.total_credit := by
      intro hbalanced
      exact hkeeps ((apply_entry_errs_iff tracker document_number entry hbalanced).mp ⟨e, he⟩)
    rw [apply_entry, if_pos ⟨hunbalanced, hfail⟩]
    exact ⟨rfl, rfl, rfl⟩

/-- A payment before its invoice is answered with an error, and posted all the same. -/
theorem rejected_payment_is_posted :
    ¬ ∀ (tracker : RunningBalanceTracker) (document_number : String) (entry : JournalEntry),
      tracker.config.fail_on_validation_error = true →
        ∀ e, (tracker.apply_entry document_number entry).1 = .error e →
          SameBooks (tracker.apply_entry document_number entry).2 tracker := by
  intro h
  let config : BalanceTrackerConfig :=
    { BalanceTrackerConfig.default with fail_on_validation_error := true }
  let tracker := RunningBalanceTracker.new config "USD" [] AccountCategory.from_account
  let entry := transferEntry "2000" "1000" 100
  have htips : TipsSheet tracker entry := ⟨by decide_cbv, rfl, rfl, by decide_cbv⟩
  exact not_atomic_of_tipsSheet tracker "JE-1" entry htips (h tracker "JE-1" entry rfl)

end Rejection

end Datasynth.Generators.RejectedEntries
