import Mathlib
import Datasynth.Generators.BalanceSheetChecks
import Datasynth.Lib.Grouping
import Datasynth.Lib.HashIteration

/-!
What the tracker reads out of its maps: the type of an account by the registered prefixes of its
code, and the changes of the accounts of a company between two days.
-/

namespace Datasynth.Generators.BalanceChanges

open Datasynth.Core.AccountBalances
open Datasynth.Core.JournalEntries
open Datasynth.Core.TrialBalances
open Datasynth.Generators.BalanceSheetChecks
open Datasynth.Generators.BalanceTracker
open Datasynth.Lib.CivilCalendar
open Datasynth.Lib.Grouping
open Datasynth.Lib.HashIteration
open Datasynth.Lib.SignedPostings
open Datasynth.Lib.SortedEntries

section AccountTypes

/-- The registered prefixes of a code, with their types. -/
def prefixesOf (registered : OrderedMap String AccountType) (account_code : String) :
    List (String × AccountType) :=
  registered.entries.filter fun e => e.1.toList.isPrefixOf account_code.toList

/-- The type of the longest registered prefix of a code; the default if there is none. -/
inductive LongestPrefixType (registered : OrderedMap String AccountType) (default : AccountType)
    (account_code : String) : AccountType → Prop where
  | unregistered (hnone : prefixesOf registered account_code = []) :
      LongestPrefixType registered default account_code default
  | registered (e : String × AccountType) (he : e ∈ prefixesOf registered account_code)
      (hlongest : ∀ e' ∈ prefixesOf registered account_code,
        e'.1.toList.length ≤ e.1.toList.length) :
      LongestPrefixType registered default account_code e.2

/-- A tracker whose map of registered types is iterated in an order. -/
def registering (tracker : RunningBalanceTracker) (registered : OrderedMap String AccountType)
    (order : HashOrder) : RunningBalanceTracker :=
  { tracker with account_types := order.iter registered.entries }

variable {registered : OrderedMap String AccountType} {default : AccountType}
  {account_code : String}

theorem mem_prefixesOf_iff {e : String × AccountType} :
    e ∈ prefixesOf registered account_code ↔
      e ∈ registered.entries ∧ e.1.toList <+: account_code.toList := by
  rw [prefixesOf, List.mem_filter, List.isPrefixOf_iff_prefix]

/-- Prefixes of one code that are equally long are the same, and registered once. -/
theorem eq_of_mem_prefixesOf {e e' : String × AccountType}
    (he : e ∈ prefixesOf registered account_code) (he' : e' ∈ prefixesOf registered account_code)
    (hlength : e.1.toList.length = e'.1.toList.length) : e = e' := by
  rw [mem_prefixesOf_iff] at he he'
  have hkey : e.1 = e'.1 := by
    apply String.toList_injective
    exact (List.prefix_of_prefix_length_le he.2 he'.2 hlength.le).eq_of_length hlength
  have hfind : registered.find? e.1 = some e.2 := (OrderedMap.mem_entries_iff _).mp he.1
  have hfind' : registered.find? e'.1 = some e'.2 := (OrderedMap.mem_entries_iff _).mp he'.1
  rw [hkey, hfind'] at hfind
  exact Prod.ext hkey (Option.some.inj hfind).symm

theorem LongestPrefixType.unique {t t' : AccountType}
    (h : LongestPrefixType registered default account_code t)
    (h' : LongestPrefixType registered default account_code t') : t = t' := by
  cases h with
  | unregistered hnone =>
      cases h' with
      | unregistered _ => rfl
      | registered e he _ =>
          rw [hnone] at he
          cases he
  | registered e he hlongest =>
      cases h' with
      | unregistered hnone =>
          rw [hnone] at he
          cases he
      | registered e' he' hlongest' =>
          rw [eq_of_mem_prefixesOf he he' (le_antisymm (hlongest' e he) (hlongest e' he'))]

theorem exists_longestPrefixType (h : prefixesOf registered account_code ≠ []) :
    ∃ e ∈ prefixesOf registered account_code,
      LongestPrefixType registered default account_code e.2 := by
  let length : String × AccountType → ℕ := fun e => e.1.toList.length
  have hsome : List.argmax length (prefixesOf registered account_code) ≠ none := by
    rw [ne_eq, List.argmax_eq_none]
    exact h
  obtain ⟨e, he⟩ := Option.ne_none_iff_exists'.mp hsome
  refine ⟨e, List.argmax_mem he, .registered e (List.argmax_mem he) ?_⟩
  intro e' he'
  exact List.le_of_mem_argmax (f := length) he' he

variable {tracker : RunningBalanceTracker} {order : HashOrder}

variable (tracker order) in
/-- The type comes from some registered prefix, if there is one. -/
theorem determine_account_type_mem (h : prefixesOf registered account_code ≠ []) :
    ∃ e ∈ prefixesOf registered account_code,
      (registering tracker registered order).determine_account_type account_code = e.2 := by
  rw [RunningBalanceTracker.determine_account_type]
  split
  · rename_i e account_type hfind
    refine ⟨(e, account_type), ?_, rfl⟩
    have hprefix := List.find?_some hfind
    rw [prefixesOf, List.mem_filter]
    exact ⟨(order.perm _).mem_iff.mp (List.mem_of_find?_eq_some hfind), hprefix⟩
  · rename_i hnone
    obtain ⟨e, he⟩ := List.exists_mem_of_ne_nil _ h
    rw [prefixesOf, List.mem_filter] at he
    have hno := List.find?_eq_none.mp hnone e ((order.perm _).mem_iff.mpr he.1)
    exact absurd he.2 hno

theorem determine_account_type_unregistered (h : prefixesOf registered account_code = []) :
    (registering tracker registered order).determine_account_type account_code =
      account_type_from_category (tracker.classifier account_code) := by
  have hnone : (order.iter registered.entries).find?
      (fun e => e.1.toList.isPrefixOf account_code.toList) = none := by
    rw [List.find?_eq_none]
    intro e he
    exact List.filter_eq_nil_iff.mp h e ((order.perm _).mem_iff.mp he)
  rw [RunningBalanceTracker.determine_account_type, registering, hnone]

variable (tracker) in
/-- Every registered prefix decides in some order of iteration. -/
theorem exists_order_deciding {e : String × AccountType}
    (he : e ∈ prefixesOf registered account_code) :
    ∃ order : HashOrder,
      (registering tracker registered order).determine_account_type account_code = e.2 := by
  rw [prefixesOf, List.mem_filter] at he
  obtain ⟨order, hfind⟩ := HashOrder.exists_find?_eq
    (fun e => e.1.toList.isPrefixOf account_code.toList) he.1 he.2
  refine ⟨order, ?_⟩
  rw [RunningBalanceTracker.determine_account_type, registering, hfind]

/-- In every order the longest prefix decides exactly if the prefixes of the code agree. -/
theorem determine_account_type_iff (tracker : RunningBalanceTracker)
    (registered : OrderedMap String AccountType) (account_code : String) :
    (∀ order : HashOrder, LongestPrefixType registered
        (account_type_from_category (tracker.classifier account_code)) account_code
        ((registering tracker registered order).determine_account_type account_code)) ↔
      ∀ e ∈ prefixesOf registered account_code, ∀ e' ∈ prefixesOf registered account_code,
        e.2 = e'.2 := by
  constructor
  · intro h e he e' he'
    obtain ⟨order, horder⟩ := exists_order_deciding tracker he
    obtain ⟨order', horder'⟩ := exists_order_deciding tracker he'
    rw [← horder, ← horder']
    exact (h order).unique (h order')
  · intro h order
    by_cases hnone : prefixesOf registered account_code = []
    · rw [determine_account_type_unregistered hnone]
      exact .unregistered hnone
    · obtain ⟨e, he, hdecides⟩ := determine_account_type_mem tracker order hnone
      obtain ⟨longest, hmem, hlongest⟩ := exists_longestPrefixType hnone
      rw [hdecides, h e he longest hmem]
      exact hlongest

/-- A contra account registered under a longer prefix than the assets. -/
theorem shorter_prefix_decides :
    ¬ ∀ (tracker : RunningBalanceTracker) (registered : OrderedMap String AccountType)
      (account_code : String) (order : HashOrder), LongestPrefixType registered
        (account_type_from_category (tracker.classifier account_code)) account_code
        ((registering tracker registered order).determine_account_type account_code) := by
  intro h
  have hlongest := h (.new .default "USD" [] AccountCategory.from_account)
    (OrderedMap.ofList [("1", .asset), ("17", .contraAsset)]) "1700" .insertion
  have hcontra : LongestPrefixType
      (OrderedMap.ofList [("1", AccountType.asset), ("17", .contraAsset)]) .asset "1700"
      .contraAsset := by
    apply LongestPrefixType.registered ("17", .contraAsset)
    · decide
    · decide
  have hshorter := hlongest.unique hcontra
  revert hshorter
  decide

end AccountTypes

section Activity

structure AccountPeriodActivity where
  account_code : String
  period_start : Date
  period_end : Date
  opening_balance : ℚ
  closing_balance : ℚ
  total_debits : ℚ
  total_credits : ℚ
  net_change : ℚ
  transaction_count : ℕ

namespace AccountPeriodActivity

def new (account_code : String) (period_start period_end : Date) : AccountPeriodActivity :=
  ⟨account_code, period_start, period_end, 0, 0, 0, 0, 0, 0⟩

variable (change : AccountPeriodActivity)

/-- The change with one entry of the history counted. -/
def record (entry : BalanceHistoryEntry) : AccountPeriodActivity :=
  let counted :=
    if 0 < entry.change then { change with total_debits := change.total_debits + entry.change }
    else { change with total_credits := change.total_credits + |entry.change| }
  { counted with
    net_change := counted.net_change + entry.change
    transaction_count := counted.transaction_count + 1 }

/-- The balances from those of the company as they are now. -/
def update_balances (company_balances : Option (OrderedMap String AccountBalance)) :
    AccountPeriodActivity :=
  match company_balances.bind (·.find? change.account_code) with
  | some balance =>
      { change with
        closing_balance := balance.closing_balance
        opening_balance := balance.closing_balance - change.net_change }
  | none => change

end AccountPeriodActivity

/-- The changes by account, over entries of the history. -/
def changes_by_account (from_date to_date : Date) (history : List BalanceHistoryEntry) :
    OrderedMap String AccountPeriodActivity :=
  (history.filter fun e => from_date ≤ e.date ∧ e.date ≤ to_date).foldl (fun changes entry =>
    changes.upsert entry.account_code fun change =>
      (change.getD (.new entry.account_code from_date to_date)).record entry) .empty

/-- The order is that in which the map of the changes is iterated. -/
def get_balance_changes (tracker : RunningBalanceTracker) (order : HashOrder)
    (company_code : String) (from_date to_date : Date) : List AccountPeriodActivity :=
  match tracker.history.find? company_code with
  | none => []
  | some history =>
      order.iter ((changes_by_account from_date to_date history).values.map
        (·.update_balances (tracker.balances.find? company_code)))

end Activity

section Applied

variable (config : BalanceTrackerConfig) (entries : List (String × JournalEntry))
  (company_code account_code : String) (from_date to_date : Date)

/-- The entries that are not turned away as unbalanced. -/
def applied : List (String × JournalEntry) :=
  entries.filter fun e =>
    e.2.total_debit = e.2.total_credit ∨ config.fail_on_validation_error = false

def window : List (String × JournalEntry) :=
  entries.filter fun e => from_date ≤ e.2.header.posting_date ∧ e.2.header.posting_date ≤ to_date

/-- Debits less credits of an account between two days. -/
def netBetween : ℚ :=
  netOn account_code ((linesOf company_code (window entries from_date to_date)).map fun line =>
    (line.gl_account, line.debit_amount - line.credit_amount))

/-- What is posted to an account after a day. -/
def postedAfter : ℚ :=
  netOn account_code (postingsOf company_code
    (entries.filter fun e => to_date < e.2.header.posting_date))

/-- A net with the sign of the side on which accounts of a type normally stand. -/
def signed (account_type : AccountType) (net : ℚ) : ℚ :=
  if isDebitNormal account_type then net else -net

/-- The closing balance of an account, and zero for one without postings. -/
def closingOf (tracker : RunningBalanceTracker) : ℚ :=
  ((tracker.balances.find? company_code).bind (·.find? account_code)).elim 0
    AccountBalance.closing_balance

/-- The balance of an account when only the entries up to a day have been applied. -/
def balanceOn (start : RunningBalanceTracker) (date : Date) : ℚ :=
  closingOf company_code account_code
    (start.applyEntries (entries.filter fun e => e.2.header.posting_date ≤ date))

/-- A change whose balances are those of the window, with its sign that of the account. -/
structure Reconciles (start : RunningBalanceTracker) (change : AccountPeriodActivity) : Prop where
  net : change.opening_balance + change.net_change = change.closing_balance
  closing_balance : change.closing_balance =
    balanceOn entries company_code change.account_code start to_date
  net_change : change.net_change =
    signed (start.determine_account_type change.account_code)
      (netBetween (applied start.config entries) company_code change.account_code from_date to_date)

end Applied

section Runs

variable {start tracker : RunningBalanceTracker} {entries : List (String × JournalEntry)}

theorem signed_eq_iff {account_type : AccountType} {a b : ℚ} :
    signed account_type a = signed account_type b ↔ a = b := by
  rw [signed, signed]
  split
  · rfl
  · rw [neg_inj]

theorem applied_concat (config : BalanceTrackerConfig) (entries : List (String × JournalEntry))
    (e : String × JournalEntry) :
    applied config (entries ++ [e]) = applied config entries ++
      if e.2.total_debit = e.2.total_credit ∨ config.fail_on_validation_error = false then [e]
      else [] := by
  rw [applied, List.filter_append, List.filter_singleton]
  congr 1
  split
  · rename_i h
    rw [decide_eq_true h, cond_true]
  · rename_i h
    rw [decide_eq_false h, cond_false]

/-- What an entry leaves: the tracker as it was, or the entry posted; errors and statistics may
change besides. -/
theorem apply_entry_cases (tracker : RunningBalanceTracker) (e : String × JournalEntry) :
    (¬(e.2.total_debit = e.2.total_credit ∨ tracker.config.fail_on_validation_error = false) ∧
        (tracker.apply_entry e.1 e.2).2 = tracker) ∨
      (e.2.total_debit = e.2.total_credit ∨ tracker.config.fail_on_validation_error = false) ∧
        ∃ before stats after, (tracker.apply_entry e.1 e.2).2 =
          { { tracker with validation_errors := before }.post e.1 e.2 with
            stats := stats
            validation_errors := after } := by
  rw [RunningBalanceTracker.apply_entry]
  split
  · rename_i hrejected
    refine .inl ⟨?_, rfl⟩
    rintro (hbalanced | hkeeps)
    · exact hrejected.1 hbalanced
    · rw [hkeeps] at hrejected
      exact Bool.false_ne_true hrejected.2
  · rename_i hposts
    rw [not_and_or, not_not, Bool.not_eq_true] at hposts
    refine .inr ⟨hposts, ?_⟩
    have hbefore : ∃ before,
        (if e.2.total_debit ≠ e.2.total_credit then
          { tracker with
            validation_errors := tracker.validation_errors ++
              [RunningBalanceTracker.unbalancedError e.1 e.2] }
        else tracker) = { tracker with validation_errors := before } := by
      split
      · exact ⟨_, rfl⟩
      · exact ⟨tracker.validation_errors, rfl⟩
    obtain ⟨before, hbefore⟩ := hbefore
    refine ⟨before, ?_⟩
    simp only [hbefore]
    split
    · obtain ⟨stats, after, hkeeps⟩ := validate_balance_sheet_keeps
        e.2.header.company_code e.2.header.posting_date (some e.1)
        ({ tracker with validation_errors := before }.post e.1 e.2)
      exact ⟨stats, after, hkeeps⟩
    · exact ⟨_, _, rfl⟩

/-- What the changes of a company are read from. -/
def historyOf (company_code : String) (entries : List (String × JournalEntry)) :
    List (Date × String × ℚ) :=
  (entries.filter fun e => e.2.header.company_code = company_code).flatMap fun e =>
    e.2.lines.map fun line =>
      (e.2.header.posting_date, line.gl_account, line.debit_amount - line.credit_amount)

def BalanceHistoryEntry.movement (entry : BalanceHistoryEntry) : Date × String × ℚ :=
  (entry.date, entry.account_code, entry.change)

theorem historyOf_append (company_code : String) (entries entries' : List (String × JournalEntry)) :
    historyOf company_code (entries ++ entries') =
      historyOf company_code entries ++ historyOf company_code entries' := by
  rw [historyOf, List.filter_append, List.flatMap_append]
  rfl

theorem historyOf_singleton (company_code : String) (e : String × JournalEntry) :
    historyOf company_code [e] =
      if e.2.header.company_code = company_code then
        e.2.lines.map fun line =>
          (e.2.header.posting_date, line.gl_account, line.debit_amount - line.credit_amount)
      else [] := by
  rw [historyOf, List.filter_singleton]
  split
  · rename_i hcompany
    rw [decide_eq_true hcompany, cond_true, List.flatMap_singleton]
  · rename_i hcompany
    rw [decide_eq_false hcompany, cond_false, List.flatMap_nil]

theorem history_applyLines (tracker : RunningBalanceTracker) (document_number : String)
    (entry : JournalEntry) (lines : List JournalEntryLine)
    (company_balances : OrderedMap String AccountBalance) :
    (tracker.applyLines document_number entry lines company_balances).2.map
        BalanceHistoryEntry.movement =
      if tracker.config.track_history then
        lines.map fun line =>
          (entry.header.posting_date, line.gl_account, line.debit_amount - line.credit_amount)
      else [] := by
  induction lines generalizing company_balances with
  | nil =>
      rw [List.map_nil, ite_self]
      rfl
  | cons line lines ih =>
      rw [RunningBalanceTracker.applyLines]
      simp only
      split
      · rename_i htrack
        rw [List.map_cons, ih, if_pos htrack]
        rfl
      · rename_i htrack
        rw [ih, if_neg htrack]

/-- A tracker that has posted entries from an empty start, with their history. -/
structure Logs (start tracker : RunningBalanceTracker) (entries : List (String × JournalEntry)) :
    Prop where
  tracks : Tracks start tracker entries
  history : ∀ company_code,
    ((tracker.history.find? company_code).getD []).map BalanceHistoryEntry.movement =
      if start.config.track_history then historyOf company_code entries else []

theorem history_post (tracker : RunningBalanceTracker) (e : String × JournalEntry)
    (company_code : String) :
    (((tracker.post e.1 e.2).history.find? company_code).getD []).map
        BalanceHistoryEntry.movement =
      ((tracker.history.find? company_code).getD []).map BalanceHistoryEntry.movement ++
        if tracker.config.track_history then historyOf company_code [e] else [] := by
  have hlines := history_applyLines tracker e.1 e.2 e.2.lines
    ((tracker.balances.find? e.2.header.company_code).getD .empty)
  have hcompanyOnly : (if tracker.config.track_history then historyOf company_code [e] else []) =
      if company_code = e.2.header.company_code then
        (tracker.applyLines e.1 e.2 e.2.lines
          ((tracker.balances.find? e.2.header.company_code).getD .empty)).2.map
            BalanceHistoryEntry.movement
      else [] := by
    rw [hlines, historyOf_singleton]
    split_ifs with htrack hcompany hother hother hother
    · rfl
    · exact absurd hcompany.symm hother
    · exact absurd hother.symm hcompany
    · rfl
    · rfl
    · rfl
  rw [hcompanyOnly, RunningBalanceTracker.post]
  simp only
  split
  · rename_i hnone
    rw [hnone, List.map_nil, ite_self, List.append_nil]
  · rw [OrderedMap.find?_upsert]
    split
    · rename_i hcompany
      rw [Option.getD_some, List.map_append, hcompany]
    · rw [List.append_nil]

theorem Logs.post (h : Logs start tracker entries) (e : String × JournalEntry) :
    Logs start (tracker.post e.1 e.2) (entries ++ [e]) := by
  refine ⟨h.tracks.post e, ?_⟩
  intro company_code
  rw [history_post, h.history, h.tracks.config, historyOf_append]
  split
  · rfl
  · rfl

/-- Errors and statistics aside. -/
theorem Logs.congr (h : Logs start tracker entries) (stats : TrackerStatistics)
    (validation_errors : List ValidationError) :
    Logs start { tracker with stats := stats, validation_errors := validation_errors } entries :=
  ⟨⟨h.tracks.config, h.tracks.determine_account_type, h.tracks.companies, h.tracks.carried⟩,
    h.history⟩

theorem logs_applyEntries (hbalances : start.balances = .empty) (hhistory : start.history = .empty)
    (entries : List (String × JournalEntry)) :
    Logs start (start.applyEntries entries) (applied start.config entries) := by
  induction entries using List.reverseRecOn with
  | nil =>
      refine ⟨tracks_applyEntries hbalances (List.forall_mem_nil _), ?_⟩
      intro company_code
      rw [RunningBalanceTracker.applyEntries, List.foldl_nil, hhistory]
      split
      · rfl
      · rfl
  | append_singleton entries e ih =>
      rw [RunningBalanceTracker.applyEntries, List.foldl_concat, applied_concat]
      rcases apply_entry_cases (start.applyEntries entries) e with
        ⟨hrejected, hsame⟩ | ⟨hposts, before, stats, after, hposted⟩
      · rw [ih.tracks.config] at hrejected
        rw [if_neg hrejected, List.append_nil]
        exact hsame ▸ ih
      · rw [ih.tracks.config] at hposts
        rw [if_pos hposts]
        have hbooked := (ih.congr (start.applyEntries entries).stats before).post e
        have hlogs := hbooked.congr stats after
        rw [← hposted] at hlogs
        exact hlogs

theorem closingOf_eq (h : Tracks start tracker entries) (company_code account_code : String) :
    closingOf company_code account_code tracker =
      signed (start.determine_account_type account_code)
        (netOn account_code (postingsOf company_code entries)) := by
  have hbind : (tracker.balances.find? company_code).bind (·.find? account_code) =
      ((tracker.balances.find? company_code).getD .empty).find? account_code := by
    cases tracker.balances.find? company_code with
    | none => rfl
    | some company_balances => rfl
  rw [closingOf, hbind]
  cases hfind : ((tracker.balances.find? company_code).getD .empty).find? account_code with
  | some balance =>
      exact ((h.carried company_code).carries account_code balance hfind).closing_balance
  | none =>
      have hnotMem : account_code ∉ (postingsOf company_code entries).map Prod.fst := by
        rw [← (h.carried company_code).keys, OrderedMap.mem_keys_iff, hfind]
        exact Bool.false_ne_true
      rw [netOn_eq_zero hnotMem, signed, neg_zero, ite_self]
      rfl

theorem netOn_postingsOf_cons (company_code account_code : String) (e : String × JournalEntry)
    (entries : List (String × JournalEntry)) :
    netOn account_code (postingsOf company_code (e :: entries)) =
      netOn account_code (postingsOf company_code [e]) +
        netOn account_code (postingsOf company_code entries) := by
  rw [← netOn_append, ← List.singleton_append, postingsOf, linesOf, List.filter_append,
    List.flatMap_append, List.map_append]
  rfl

/-- Up to a day and after it. -/
theorem netOn_postingsOf_split (company_code account_code : String) (date : Date)
    (entries : List (String × JournalEntry)) :
    netOn account_code (postingsOf company_code entries) =
      netOn account_code (postingsOf company_code
          (entries.filter fun e => e.2.header.posting_date ≤ date)) +
        postedAfter entries company_code account_code date := by
  rw [postedAfter]
  induction entries with
  | nil => exact (add_zero _).symm
  | cons e entries ih =>
      rw [netOn_postingsOf_cons, ih, List.filter_cons, List.filter_cons]
      rcases le_or_gt e.2.header.posting_date date with hle | hlt
      · rw [if_pos (decide_eq_true hle), if_neg (by simpa using hle),
          netOn_postingsOf_cons _ _ e (entries.filter _), add_assoc]
      · rw [if_neg (by simpa using hlt), if_pos (decide_eq_true hlt),
          netOn_postingsOf_cons _ _ e (entries.filter _), add_left_comm]

theorem applied_filter (config : BalanceTrackerConfig) (entries : List (String × JournalEntry))
    (p : String × JournalEntry → Bool) :
    applied config (entries.filter p) = (applied config entries).filter p := by
  rw [applied, applied, List.filter_filter, List.filter_filter]
  congr 1
  funext e
  exact Bool.and_comm _ _

/-- The balance is that of the window's end exactly if nothing is posted after it. -/
theorem closingOf_eq_balanceOn_iff (hbalances : start.balances = .empty)
    (hhistory : start.history = .empty) (entries : List (String × JournalEntry))
    (company_code account_code : String) (to_date : Date) :
    closingOf company_code account_code (start.applyEntries entries) =
        balanceOn entries company_code account_code start to_date ↔
      postedAfter (applied start.config entries) company_code account_code to_date = 0 := by
  rw [balanceOn, closingOf_eq (logs_applyEntries hbalances hhistory entries).tracks,
    closingOf_eq (logs_applyEntries hbalances hhistory _).tracks, signed_eq_iff, applied_filter,
    netOn_postingsOf_split company_code account_code to_date, add_eq_left]

end Runs

section Changes

variable {from_date to_date : Date}

theorem net_change_foldl_record (history : List BalanceHistoryEntry)
    (change : AccountPeriodActivity) :
    (history.foldl AccountPeriodActivity.record change).net_change =
      change.net_change + (history.map (·.change)).sum := by
  induction history generalizing change with
  | nil => exact (add_zero _).symm
  | cons entry history ih =>
      rw [List.foldl_cons, ih, List.map_cons, List.sum_cons, ← add_assoc]
      congr 1
      rw [AccountPeriodActivity.record]
      simp only
      split
      · rfl
      · rfl

theorem account_code_foldl_record (history : List BalanceHistoryEntry)
    (change : AccountPeriodActivity) :
    (history.foldl AccountPeriodActivity.record change).account_code = change.account_code := by
  induction history generalizing change with
  | nil => rfl
  | cons entry history ih =>
      rw [List.foldl_cons, ih, AccountPeriodActivity.record]
      simp only
      split
      · rfl
      · rfl

/-- The history of an account between two days. -/
def accountWindow (from_date to_date : Date) (history : List BalanceHistoryEntry)
    (account_code : String) : List BalanceHistoryEntry :=
  (history.filter fun e => from_date ≤ e.date ∧ e.date ≤ to_date).filter
    (·.account_code = account_code)

theorem find?_changes_by_account (history : List BalanceHistoryEntry) (account_code : String) :
    (changes_by_account from_date to_date history).find? account_code =
      if accountWindow from_date to_date history account_code = [] then none
      else some ((accountWindow from_date to_date history account_code).foldl
        AccountPeriodActivity.record (.new account_code from_date to_date)) := by
  rw [changes_by_account, find?_foldl_upsert, ← accountWindow, OrderedMap.find?_empty]
  have hcongr : ∀ change : Option AccountPeriodActivity,
      ∀ entry ∈ accountWindow from_date to_date history account_code,
        some ((change.getD (.new entry.account_code from_date to_date)).record entry) =
          some ((change.getD (.new account_code from_date to_date)).record entry) := by
    intro change entry hentry
    rw [accountWindow, List.mem_filter] at hentry
    rw [of_decide_eq_true hentry.2]
  rw [List.foldl_ext _ _ _ hcongr]
  split
  · rename_i hnil
    rw [hnil]
    rfl
  · rename_i hne
    exact foldl_getD _ _ hne _

/-- The change that is reported for an account. -/
def changeOf (from_date to_date : Date) (tracker : RunningBalanceTracker) (company_code : String)
    (account_code : String) : AccountPeriodActivity :=
  ((accountWindow from_date to_date ((tracker.history.find? company_code).getD [])
    account_code).foldl AccountPeriodActivity.record
      (.new account_code from_date to_date)).update_balances (tracker.balances.find? company_code)

variable (tracker : RunningBalanceTracker) (order : HashOrder) (company_code : String)

theorem mem_get_balance_changes_iff (change : AccountPeriodActivity) :
    change ∈ get_balance_changes tracker order company_code from_date to_date ↔
      ∃ account_code, accountWindow from_date to_date
          ((tracker.history.find? company_code).getD []) account_code ≠ [] ∧
        change = changeOf from_date to_date tracker company_code account_code := by
  simp only [changeOf]
  rw [get_balance_changes]
  cases tracker.history.find? company_code with
  | none => simp [accountWindow]
  | some history =>
      simp only [Option.getD_some]
      rw [(order.perm _).mem_iff, List.mem_map]
      constructor
      · rintro ⟨recorded, hrecorded, rfl⟩
        obtain ⟨account_code, hfind⟩ := (OrderedMap.mem_values_iff _).mp hrecorded
        rw [find?_changes_by_account] at hfind
        split at hfind
        · cases hfind
        · rename_i hne
          exact ⟨account_code, hne, by rw [← Option.some.inj hfind]⟩
      · rintro ⟨account_code, hne, rfl⟩
        refine ⟨_, (OrderedMap.mem_values_iff _).mpr ⟨account_code, ?_⟩, rfl⟩
        rw [find?_changes_by_account, if_neg hne]

theorem account_code_changeOf (account_code : String) :
    (changeOf from_date to_date tracker company_code account_code).account_code =
      account_code := by
  rw [changeOf, AccountPeriodActivity.update_balances]
  split
  · exact account_code_foldl_record _ _
  · exact account_code_foldl_record _ _

theorem net_change_changeOf (account_code : String) :
    (changeOf from_date to_date tracker company_code account_code).net_change =
      ((accountWindow from_date to_date ((tracker.history.find? company_code).getD [])
        account_code).map (·.change)).sum := by
  have hrecorded := net_change_foldl_record (accountWindow from_date to_date
    ((tracker.history.find? company_code).getD []) account_code)
      (.new account_code from_date to_date)
  rw [AccountPeriodActivity.new, zero_add] at hrecorded
  rw [changeOf, AccountPeriodActivity.update_balances]
  split
  · exact hrecorded
  · exact hrecorded

variable (from_date to_date) in
/-- The balances of a reported change are those of its account now. -/
theorem balances_changeOf {account_code : String} {balance : AccountBalance}
    (hfind : (tracker.balances.find? company_code).bind (·.find? account_code) = some balance) :
    (changeOf from_date to_date tracker company_code account_code).closing_balance =
        balance.closing_balance ∧
      (changeOf from_date to_date tracker company_code account_code).opening_balance =
        balance.closing_balance -
          (changeOf from_date to_date tracker company_code account_code).net_change := by
  have hcode := account_code_foldl_record (accountWindow from_date to_date
    ((tracker.history.find? company_code).getD []) account_code)
      (.new account_code from_date to_date)
  rw [AccountPeriodActivity.new] at hcode
  rw [changeOf, AccountPeriodActivity.update_balances, AccountPeriodActivity.new, hcode, hfind]
  exact ⟨rfl, rfl⟩

end Changes

section Windows

variable {from_date to_date : Date} {start tracker : RunningBalanceTracker}
  {entries : List (String × JournalEntry)} {company_code account_code : String}

theorem filter_historyOf_singleton (from_date to_date : Date) (company_code : String)
    (e : String × JournalEntry) :
    (historyOf company_code [e]).filter (fun m => from_date ≤ m.1 ∧ m.1 ≤ to_date) =
      if from_date ≤ e.2.header.posting_date ∧ e.2.header.posting_date ≤ to_date then
        historyOf company_code [e]
      else [] := by
  have hdate : ∀ m ∈ historyOf company_code [e], m.1 = e.2.header.posting_date := by
    intro m hm
    rw [historyOf_singleton] at hm
    split at hm
    · obtain ⟨line, _, rfl⟩ := List.mem_map.mp hm
      rfl
    · cases hm
  split
  · rename_i hwithin
    rw [List.filter_eq_self]
    intro m hm
    rw [hdate m hm]
    exact decide_eq_true hwithin
  · rename_i hoff
    rw [List.filter_eq_nil_iff]
    intro m hm
    rw [hdate m hm]
    exact fun h => hoff (of_decide_eq_true h)

theorem filter_historyOf (from_date to_date : Date) (company_code : String)
    (entries : List (String × JournalEntry)) :
    (historyOf company_code entries).filter (fun m => from_date ≤ m.1 ∧ m.1 ≤ to_date) =
      historyOf company_code (window entries from_date to_date) := by
  induction entries with
  | nil => rfl
  | cons e entries ih =>
      rw [← List.singleton_append, historyOf_append, List.filter_append, ih,
        filter_historyOf_singleton, List.singleton_append, window, window, List.filter_cons]
      split
      · rename_i hwithin
        rw [if_pos (decide_eq_true hwithin), ← historyOf_append, List.singleton_append]
      · rename_i hoff
        rw [if_neg fun h => hoff (of_decide_eq_true h), List.nil_append]

theorem map_snd_historyOf (company_code : String) (entries : List (String × JournalEntry)) :
    (historyOf company_code entries).map Prod.snd =
      (linesOf company_code entries).map fun line =>
        (line.gl_account, line.debit_amount - line.credit_amount) := by
  rw [historyOf, linesOf, List.map_flatMap, List.map_flatMap]
  congr 1
  funext e
  rw [List.map_map]
  rfl

theorem netOn_map_snd (account_code : String) (history : List (Date × String × ℚ)) :
    netOn account_code (history.map Prod.snd) =
      ((history.filter (·.2.1 = account_code)).map (·.2.2)).sum := by
  induction history with
  | nil => rfl
  | cons m history ih =>
      rw [List.map_cons, netOn_cons, ih, List.filter_cons]
      split
      · rename_i haccount
        rw [if_pos (decide_eq_true haccount), List.map_cons, List.sum_cons]
      · rename_i haccount
        rw [if_neg fun h => haccount (of_decide_eq_true h), zero_add]

/-- The history of an account between two days, by the entries. -/
theorem map_accountWindow (h : Logs start tracker entries)
    (htrack : start.config.track_history = true) :
    (accountWindow from_date to_date ((tracker.history.find? company_code).getD [])
        account_code).map BalanceHistoryEntry.movement =
      (historyOf company_code (window entries from_date to_date)).filter
        (·.2.1 = account_code) := by
  have hhistory := h.history company_code
  rw [if_pos htrack] at hhistory
  rw [← filter_historyOf, ← hhistory, List.filter_map, List.filter_map]
  rfl

theorem net_change_eq (h : Logs start tracker entries)
    (htrack : start.config.track_history = true) :
    (changeOf from_date to_date tracker company_code account_code).net_change =
      netBetween entries company_code account_code from_date to_date := by
  rw [net_change_changeOf, netBetween, ← map_snd_historyOf, netOn_map_snd,
    ← map_accountWindow h htrack, List.map_map]
  rfl

theorem accountWindow_ne_nil_iff (h : Logs start tracker entries)
    (htrack : start.config.track_history = true) :
    accountWindow from_date to_date ((tracker.history.find? company_code).getD [])
        account_code ≠ [] ↔
      account_code ∈
        (linesOf company_code (window entries from_date to_date)).map (·.gl_account) := by
  have haccounts : (linesOf company_code (window entries from_date to_date)).map (·.gl_account) =
      (historyOf company_code (window entries from_date to_date)).map (·.2.1) := by
    have hpairs := congrArg (List.map Prod.fst)
      (map_snd_historyOf company_code (window entries from_date to_date))
    rw [List.map_map, List.map_map] at hpairs
    exact hpairs.symm
  rw [haccounts, List.mem_map, ne_eq, ← List.map_eq_nil_iff (f := BalanceHistoryEntry.movement),
    map_accountWindow h htrack, List.filter_eq_nil_iff]
  simp

/-- An account with lines in the window has a balance. -/
theorem exists_balance (h : Logs start tracker entries)
    (hline : account_code ∈
      (linesOf company_code (window entries from_date to_date)).map (·.gl_account)) :
    ∃ balance, (tracker.balances.find? company_code).bind (·.find? account_code) =
      some balance := by
  have hposting : account_code ∈ (postingsOf company_code entries).map Prod.fst := by
    obtain ⟨line, hmem, rfl⟩ := List.mem_map.mp hline
    obtain ⟨e, he, hmem⟩ := List.mem_flatMap.mp hmem
    have he' : e ∈ entries ∧ e.2.header.company_code = company_code := by
      rw [List.mem_filter, window, List.mem_filter] at he
      exact ⟨he.1.1, of_decide_eq_true he.2⟩
    rw [postingsOf, List.map_map]
    refine List.mem_map_of_mem (List.mem_flatMap.mpr ⟨e, ?_, hmem⟩)
    exact List.mem_filter.mpr ⟨he'.1, decide_eq_true he'.2⟩
  rw [← (h.tracks.carried company_code).keys, OrderedMap.mem_keys_iff] at hposting
  cases hfind : tracker.balances.find? company_code with
  | none =>
      rw [hfind] at hposting
      cases hposting
  | some company_balances =>
      rw [hfind] at hposting
      exact Option.isSome_iff_exists.mp hposting

/-- The entries after the window net to nothing on the account, and the account is one of the
debit side or nets to nothing within it. -/
structure Settled (entries : List (String × JournalEntry)) (company_code : String)
    (from_date to_date : Date) (account_type : AccountType) (account_code : String) : Prop where
  after : postedAfter entries company_code account_code to_date = 0
  side : isDebitNormal account_type = true ∨
    netBetween entries company_code account_code from_date to_date = 0

variable (start) in
theorem reconciles_changeOf_iff (hbalances : start.balances = .empty)
    (hhistory : start.history = .empty) (htrack : start.config.track_history = true)
    (hline : account_code ∈ (linesOf company_code
      (window (applied start.config entries) from_date to_date)).map (·.gl_account)) :
    Reconciles entries company_code from_date to_date start
        (changeOf from_date to_date (start.applyEntries entries) company_code account_code) ↔
      Settled (applied start.config entries) company_code from_date to_date
        (start.determine_account_type account_code) account_code := by
  have hlogs := logs_applyEntries hbalances hhistory entries
  obtain ⟨balance, hbalance⟩ := exists_balance hlogs hline
  obtain ⟨hclosing, hopening⟩ := balances_changeOf from_date to_date _ _ hbalance
  have hnow : closingOf company_code account_code (start.applyEntries entries) =
      balance.closing_balance := by
    rw [closingOf, hbalance, Option.elim_some]
  have hafter := closingOf_eq_balanceOn_iff hbalances hhistory entries company_code account_code
    to_date
  rw [hnow, ← hclosing] at hafter
  constructor
  · rintro ⟨-, hclosing_balance, hnet_change⟩
    rw [account_code_changeOf] at hclosing_balance hnet_change
    refine ⟨hafter.mp hclosing_balance, ?_⟩
    rw [net_change_eq hlogs htrack, signed] at hnet_change
    split at hnet_change
    · rename_i hside
      exact .inl hside
    · exact .inr (self_eq_neg.mp hnet_change)
  · rintro ⟨hsettled, hside⟩
    refine ⟨?_, ?_, ?_⟩
    · rw [hopening, hclosing, sub_add_cancel]
    · rw [account_code_changeOf]
      exact hafter.mpr hsettled
    · rw [account_code_changeOf, net_change_eq hlogs htrack, signed]
      rcases hside with hdebit | hzero
      · rw [if_pos hdebit]
      · rw [hzero, neg_zero, ite_self]

/-- Every reported change reconciles exactly if each account with lines in the window is settled. -/
theorem get_balance_changes_iff (config : BalanceTrackerConfig) (currency : String)
    (account_types : List (String × AccountType)) (classifier : String → AccountCategory)
    (entries : List (String × JournalEntry)) (company_code : String) (from_date to_date : Date) :
    (∀ order, ∀ change ∈ get_balance_changes
        ((RunningBalanceTracker.new config currency account_types classifier).applyEntries entries)
        order company_code from_date to_date,
      Reconciles entries company_code from_date to_date
        (.new config currency account_types classifier) change) ↔
      (config.track_history = true → ∀ account_code ∈ (linesOf company_code
          (window (applied config entries) from_date to_date)).map (·.gl_account),
        Settled (applied config entries) company_code from_date to_date
          ((RunningBalanceTracker.new config currency account_types
            classifier).determine_account_type account_code) account_code) := by
  have hlogs : Logs (.new config currency account_types classifier) _ (applied config entries) :=
    logs_applyEntries rfl rfl entries
  let start := RunningBalanceTracker.new config currency account_types classifier
  constructor
  · intro h htrack account_code hline
    refine (reconciles_changeOf_iff start rfl rfl htrack hline).mp (h .insertion _ ?_)
    refine (mem_get_balance_changes_iff _ _ _ _).mpr ⟨account_code, ?_, rfl⟩
    exact (accountWindow_ne_nil_iff hlogs htrack).mpr hline
  · intro h order change hchange
    obtain ⟨account_code, hne, rfl⟩ := (mem_get_balance_changes_iff _ _ _ _).mp hchange
    have htrack : config.track_history = true := by
      by_contra hoff
      have hhistory := hlogs.history company_code
      have hnil := List.map_eq_nil_iff.mp (hhistory.trans (if_neg hoff))
      rw [hnil] at hne
      exact hne rfl
    have hline := (accountWindow_ne_nil_iff hlogs htrack).mp hne
    exact (reconciles_changeOf_iff start rfl rfl htrack hline).mpr (h htrack account_code hline)

/-- A sale on credit side: the revenue falls in the report by what it grew. -/
theorem sale_change_reversed :
    ¬ ∀ (config : BalanceTrackerConfig) (currency : String)
      (account_types : List (String × AccountType)) (classifier : String → AccountCategory)
      (entries : List (String × JournalEntry)) (company_code : String) (from_date to_date : Date)
      (order : HashOrder), ∀ change ∈ get_balance_changes
        ((RunningBalanceTracker.new config currency account_types classifier).applyEntries entries)
        order company_code from_date to_date,
      Reconciles entries company_code from_date to_date
        (.new config currency account_types classifier) change := by
  intro h
  let start := RunningBalanceTracker.new .default "USD" [] AccountCategory.from_account
  let entries := [("JE-1", transferEntry "1000" "4000" 100)]
  have hlogs : Logs start (start.applyEntries entries) (applied start.config entries) :=
    logs_applyEntries rfl rfl entries
  have hline : "4000" ∈ (linesOf "1000" (window (applied start.config entries)
      (.ofYmd 2024 1 1) (.ofYmd 2024 1 31))).map (·.gl_account) := by
    decide_cbv
  have hreported := (mem_get_balance_changes_iff (start.applyEntries entries) .insertion "1000"
    (changeOf (.ofYmd 2024 1 1) (.ofYmd 2024 1 31) (start.applyEntries entries) "1000" "4000")).mpr
      ⟨"4000", (accountWindow_ne_nil_iff hlogs rfl).mpr hline, rfl⟩
  have hreconciles := h .default "USD" [] AccountCategory.from_account entries "1000"
    (.ofYmd 2024 1 1) (.ofYmd 2024 1 31) .insertion _ hreported
  have hsettled := (reconciles_changeOf_iff start rfl rfl rfl hline).mp hreconciles
  rcases hsettled.side with hside | hnet
  · revert hside
    decide_cbv
  · revert hnet
    decide_cbv

end Windows

end Datasynth.Generators.BalanceChanges
