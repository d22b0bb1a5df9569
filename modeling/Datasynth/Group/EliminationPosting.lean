import Datasynth.Core.JournalEntries
import Datasynth.Group.PostElimination

/-!
The elimination entries posted to the pre-elimination trial balance.
-/

namespace Datasynth.Group.EliminationPosting

open Datasynth.Core.JournalEntries
open Datasynth.Core.TrialBalances (AccountType)
open Datasynth.Group.Config
open Datasynth.Group.PostElimination
open Datasynth.Group.PreElimination
open Datasynth.Lib.ExceptRuns
open Datasynth.Lib.SortedEntries

def postingOf (line : JournalEntryLine) : OverlayLine :=
  ⟨line.gl_account, line.debit_amount, line.credit_amount⟩

/-- Entries that are no eliminations are passed over, whatever their currency. -/
def applyEntry (post : AggregatedTb) (je : JournalEntry) : GroupResult AggregatedTb :=
  if !je.header.is_elimination then .ok post
  else if je.header.currency ≠ post.currency then
    .error <| .aggregate <|
      s!"apply_eliminations_to_tb: JE currency `{je.header.currency}` ≠ pre-elim currency " ++
        s!"`{post.currency}` — translation needed first (Chunk 6)"
  else .ok (applyLines post (je.lines.map postingOf))

/-- An imbalance of the result is logged, not refused. -/
def apply_eliminations_to_tb (pre_elim : AggregatedTb) (elim_jes : List JournalEntry) :
    GroupResult AggregatedTb :=
  (foldRun applyEntry pre_elim elim_jes).map withTotals

section Lines

variable {tb : AggregatedTb}

def eliminations (jes : List JournalEntry) : List JournalEntry :=
  jes.filter (·.header.is_elimination)

/-- All lines that are posted. -/
def eliminationLines (jes : List JournalEntry) : List OverlayLine :=
  (eliminations jes).flatMap fun je => je.lines.map postingOf

/-- What the elimination entries are out of balance. -/
def eliminationImbalance (jes : List JournalEntry) : ℚ :=
  ((eliminations jes).map fun je => je.total_debit - je.total_credit).sum

theorem sum_map_net (lines : List JournalEntryLine) :
    (lines.map fun line => (postingOf line).net).sum =
      (lines.map (·.debit_amount)).sum - (lines.map (·.credit_amount)).sum := by
  induction lines with
  | nil => simp
  | cons line lines ih =>
      rw [List.map_cons, List.sum_cons, ih, List.map_cons, List.sum_cons, List.map_cons,
        List.sum_cons, add_sub_add_comm]
      rfl

def SameCurrency (tb : AggregatedTb) (jes : List JournalEntry) : Prop :=
  ∀ je ∈ eliminations jes, je.header.currency = tb.currency

theorem post_right_comm (account : AggregatedAccount) (d c d' c' : ℚ) :
    (account.post d c).post d' c' = (account.post d' c').post d c := by
  simp only [AggregatedAccount.post, add_right_comm]

/-- Two lines may be posted in either order. -/
theorem apply_line_to_account_comm (line line' : OverlayLine) :
    apply_line_to_account (apply_line_to_account tb line) line' =
      apply_line_to_account (apply_line_to_account tb line') line := by
  have htotals : (apply_line_to_account (apply_line_to_account tb line) line').account_totals =
      (apply_line_to_account (apply_line_to_account tb line') line).account_totals := by
    apply OrderedMap.ext_find?
    intro code
    simp only [apply_line_to_account, OrderedMap.find?_upsert]
    by_cases hsame : line.account_code = line'.account_code
    · rw [hsame]
      split
      · rw [if_pos rfl, if_pos rfl, Option.getD_some, Option.getD_some, post_right_comm]
      · rfl
    · have hsame' : line'.account_code ≠ line.account_code := fun h => hsame h.symm
      rw [if_neg hsame, if_neg hsame']
      by_cases hcode : code = line.account_code
      · rw [if_pos hcode, if_pos hcode, if_neg fun h => hsame (hcode.symm.trans h)]
      · rw [if_neg hcode, if_neg hcode]
  rw [apply_line_to_account, apply_line_to_account, AggregatedTb.mk.injEq]
  exact ⟨rfl, rfl, rfl, htotals, rfl, rfl, rfl, rfl⟩

theorem applyLines_perm {lines lines' : List OverlayLine} (h : lines.Perm lines') :
    applyLines tb lines = applyLines tb lines' :=
  h.foldl_eq' (fun line _ line' _ _ => apply_line_to_account_comm line line') tb

theorem applyLines_append (lines lines' : List OverlayLine) :
    applyLines tb (lines ++ lines') = applyLines (applyLines tb lines) lines' :=
  List.foldl_append

@[simp] theorem currency_applyLines (lines : List OverlayLine) :
    (applyLines tb lines).currency = tb.currency := by
  induction lines generalizing tb with
  | nil => rfl
  | cons line lines ih => exact ih

end Lines

section Runs

variable {tb post : AggregatedTb} {je : JournalEntry} {jes jes' : List JournalEntry}

theorem applyEntry_eq_ok_iff :
    applyEntry tb je = .ok post ↔
      SameCurrency tb [je] ∧ post = applyLines tb (eliminationLines [je]) := by
  rw [applyEntry]
  cases helim : je.header.is_elimination with
  | false =>
      simp [SameCurrency, eliminationLines, eliminations, helim, applyLines, eq_comm]
  | true =>
      by_cases hcurrency : je.header.currency = tb.currency
      · simp [SameCurrency, eliminationLines, eliminations, helim, hcurrency, eq_comm]
      · simp [SameCurrency, eliminations, helim, hcurrency]

theorem foldRun_applyEntry_eq_ok_iff :
    foldRun applyEntry tb jes = .ok post ↔
      SameCurrency tb jes ∧ post = applyLines tb (eliminationLines jes) := by
  induction jes generalizing tb with
  | nil => simp [foldRun, SameCurrency, eliminations, eliminationLines, applyLines, eq_comm]
  | cons je jes ih =>
      have happend : eliminations (je :: jes) = eliminations [je] ++ eliminations jes := by
        rw [eliminations, ← List.singleton_append, List.filter_append]
        rfl
      have hlines : eliminationLines (je :: jes) =
          eliminationLines [je] ++ eliminationLines jes := by
        rw [eliminationLines, happend, List.flatMap_append]
        rfl
      have hcurrency : SameCurrency tb (je :: jes) ↔
          SameCurrency tb [je] ∧ SameCurrency tb jes := by
        rw [SameCurrency, happend]
        exact List.forall_mem_append
      rw [foldRun, bind_eq_ok_iff, hlines, applyLines_append, hcurrency]
      simp only [applyEntry_eq_ok_iff, ih]
      constructor
      · rintro ⟨middle, ⟨hje, rfl⟩, hjes, rfl⟩
        exact ⟨⟨hje, by simpa [SameCurrency] using hjes⟩, rfl⟩
      · rintro ⟨⟨hje, hjes⟩, rfl⟩
        exact ⟨_, ⟨hje, rfl⟩, by simpa [SameCurrency] using hjes, rfl⟩

/-- A run succeeds if the eliminations have the currency of the trial balance. -/
theorem apply_eliminations_to_tb_eq_ok_iff :
    apply_eliminations_to_tb tb jes = .ok post ↔
      SameCurrency tb jes ∧ post = withTotals (applyLines tb (eliminationLines jes)) := by
  rw [apply_eliminations_to_tb]
  cases hrun : foldRun applyEntry tb jes with
  | error e =>
      have hfails : ¬ SameCurrency tb jes := by
        intro hcurrency
        have hok := foldRun_applyEntry_eq_ok_iff.mpr ⟨hcurrency, rfl⟩
        rw [hrun] at hok
        cases hok
      simp [Except.map, hfails]
  | ok after =>
      obtain ⟨hcurrency, rfl⟩ := foldRun_applyEntry_eq_ok_iff.mp hrun
      simp [Except.map, hcurrency, eq_comm]

theorem exists_error_iff :
    (∃ e, apply_eliminations_to_tb tb jes = .error e) ↔ ¬ SameCurrency tb jes := by
  cases hrun : apply_eliminations_to_tb tb jes with
  | error e =>
      refine iff_of_true ⟨e, rfl⟩ fun hcurrency => ?_
      have hok := apply_eliminations_to_tb_eq_ok_iff.mpr ⟨hcurrency, rfl⟩
      rw [hrun] at hok
      cases hok
  | ok after =>
      refine iff_of_false (fun ⟨e, he⟩ => by cases he) fun hnot => ?_
      exact hnot (apply_eliminations_to_tb_eq_ok_iff.mp hrun).1

theorem sum_net_eliminationLines :
    ((eliminationLines jes).map OverlayLine.net).sum = eliminationImbalance jes := by
  rw [eliminationLines, eliminationImbalance]
  induction eliminations jes with
  | nil => rfl
  | cons je rest ih =>
      rw [List.flatMap_cons, List.map_append, List.sum_append, ih, List.map_cons, List.sum_cons,
        JournalEntry.total_debit, JournalEntry.total_credit, ← sum_map_net je.lines, List.map_map]
      rfl

/-- The totals of the result are those of its accounts. -/
theorem recompute_totals_withTotals (tb : AggregatedTb) :
    recompute_totals (withTotals tb) =
      ((withTotals tb).total_debits, (withTotals tb).total_credits) := rfl

theorem perm_eliminationLines (h : jes'.Perm jes) :
    (eliminationLines jes').Perm (eliminationLines jes) :=
  (h.filter _).flatMap_right _

theorem sameCurrency_perm (h : jes'.Perm jes) : SameCurrency tb jes' ↔ SameCurrency tb jes := by
  simp only [SameCurrency, eliminations, (h.filter _).mem_iff]

theorem eliminations_eliminations : eliminations (eliminations jes) = eliminations jes := by
  simp [eliminations]

/-- The accounts' net balances grow by what the eliminations are out of balance. -/
theorem imbalance_applyLines :
    (recompute_totals (applyLines tb (eliminationLines jes))).1 -
        (recompute_totals (applyLines tb (eliminationLines jes))).2 =
      (recompute_totals tb).1 - (recompute_totals tb).2 + eliminationImbalance jes := by
  rw [← weighted_one, ← weighted_one, weighted_applyLines, ← sum_net_eliminationLines]
  simp only [one_mul]

/-- What a successful run over some entries leaves. -/
structure Posted (tb : AggregatedTb) (jes : List JournalEntry) (post : AggregatedTb) :
    Prop where
  imbalance : post.total_debits - post.total_credits =
    (recompute_totals tb).1 - (recompute_totals tb).2 + eliminationImbalance jes
  totals : (post.total_debits, post.total_credits) = recompute_totals post
  only_eliminations : apply_eliminations_to_tb tb (eliminations jes) = .ok post
  any_order : ∀ jes', jes'.Perm jes → apply_eliminations_to_tb tb jes' = .ok post

theorem posted_of_sameCurrency (h : SameCurrency tb jes) :
    Posted tb jes (withTotals (applyLines tb (eliminationLines jes))) where
  imbalance := imbalance_applyLines
  totals := (recompute_totals_withTotals _).symm
  only_eliminations := by
    rw [apply_eliminations_to_tb_eq_ok_iff, SameCurrency, eliminationLines, eliminationLines,
      eliminations_eliminations]
    exact ⟨h, rfl⟩
  any_order := fun jes' hperm => by
    rw [apply_eliminations_to_tb_eq_ok_iff, sameCurrency_perm hperm,
      applyLines_perm (perm_eliminationLines hperm)]
    exact ⟨h, rfl⟩

/-- A run posts the eliminations in any order, or fails on a currency in every order. -/
theorem apply_eliminations_to_tb_posts (tb : AggregatedTb) (jes : List JournalEntry) :
    (SameCurrency tb jes →
      ∃ post, apply_eliminations_to_tb tb jes = .ok post ∧ Posted tb jes post) ∧
    (¬ SameCurrency tb jes →
      ∀ jes', jes'.Perm jes → ∃ e, apply_eliminations_to_tb tb jes' = .error e) := by
  constructor
  · intro h
    have hrun := apply_eliminations_to_tb_eq_ok_iff.mpr ⟨h, rfl⟩
    exact ⟨_, hrun, posted_of_sameCurrency h⟩
  · intro h jes' hperm
    rw [exists_error_iff, sameCurrency_perm hperm]
    exact h

end Runs

section Mismatches

def emptyTb (total_debits : ℚ) : AggregatedTb where
  group_id := "G"
  currency := "USD"
  as_of_date := .ofYmd 2024 12 31
  account_totals := OrderedMap.empty
  contributing_entities := []
  deferred_entities := []
  total_debits := total_debits
  total_credits := 0

def entryIn (currency : String) (is_elimination : Bool) : JournalEntry where
  header :=
    { JournalEntryHeader.new "C001" (.ofYmd 2024 12 31) with
      currency := currency
      is_elimination := is_elimination }
  lines := [.debit 1 "1150" 10, .credit 2 "2050" 10]

/-- The error names the first foreign currency, only eliminations are checked, and totals
that were not those of the accounts are replaced. -/
theorem runs_beside_eliminations :
    apply_eliminations_to_tb (emptyTb 0) [entryIn "EUR" true, entryIn "GBP" true] ≠
        apply_eliminations_to_tb (emptyTb 0) [entryIn "GBP" true, entryIn "EUR" true] ∧
      (∃ post, apply_eliminations_to_tb (emptyTb 0) [entryIn "EUR" false] = .ok post) ∧
      ∃ post, apply_eliminations_to_tb (emptyTb 5) [] = .ok post ∧
        post.total_debits - post.total_credits ≠
          (emptyTb 5).total_debits - (emptyTb 5).total_credits + eliminationImbalance [] := by
  refine ⟨?_, ⟨_, rfl⟩, _, rfl, ?_⟩
  · intro h
    have herror := Except.error.inj h
    revert herror
    decide
  · have hnone : eliminationImbalance [] = 0 := rfl
    have hbefore : (emptyTb 5).total_debits - (emptyTb 5).total_credits = 5 := sub_zero 5
    have hafter : (withTotals (emptyTb 5)).total_debits - (withTotals (emptyTb 5)).total_credits =
        0 := sub_self 0
    rw [hnone, hbefore, hafter]
    norm_num

end Mismatches

end Datasynth.Group.EliminationPosting
