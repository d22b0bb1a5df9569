import Mathlib.Data.List.Infix
import Mathlib.Data.List.Induction
import Mathlib.Tactic.Linarith
import Mathlib.Tactic.Ring
import Datasynth.Runtime.SessionResume

/-!
The balances that a session carries from period to period: the balance of each account is what
all periods have posted to it, while the retained earnings count the result of a period once
for it and once for each later period.
-/

namespace Datasynth.Runtime.CarriedBalances

open Datasynth.Lib.CivilCalendar
open Datasynth.Lib.SignedPostings
open Datasynth.Lib.SortedEntries
open Datasynth.Core.GenerationPeriods
open Datasynth.Core.JournalEntries
open Datasynth.Runtime.GenerationSession
open Datasynth.Runtime.SessionPeriods
open Datasynth.Runtime.SessionResume

section Statement

/-- The debits less the credits on an account. -/
def accountBalance (account : String) (entries : List JournalEntry) : ℚ :=
  netOn account (entries.flatMap (·.postings))

/-- The credits less the debits on the income statement accounts. -/
def profit (entries : List JournalEntry) : ℚ :=
  -netWhere isIncomeStatement (entries.flatMap (·.postings))

/-- The balances are those of the journal entries of some periods. -/
structure Carries (periods : List (List JournalEntry)) (balances : BalanceState) : Prop where
  gl_balances : ∀ account, (balances.gl_balances.find? account).getD 0 =
    (periods.map (accountBalance account)).sum
  retained_earnings : balances.retained_earnings = (periods.map profit).sum
  ar_total : balances.ar_total = max ((periods.map (accountBalance "1100")).sum) 0
  ap_total : balances.ap_total = max (-(periods.map (accountBalance "2000")).sum) 0

/-- The journal entries of the periods that a session has generated. -/
def generatedEntries {Settings Order : Type} (platform : Platform Settings Order)
    (session : Session Settings) : List (List JournalEntry) :=
  (session.periods.take session.state.period_cursor).map fun period =>
    match platform.generate (period_config platform session period) with
    | .ok result => result.journal_entries
    | .error _ => []

/-- The sum of the results up to each of the periods but the last. -/
def earlierResults (results : List ℚ) : ℚ := (results.inits.dropLast.map List.sum).sum

end Statement

section Balances

/-- The balances after some periods. -/
def carried (periods : List (List JournalEntry)) : BalanceState :=
  periods.foldl carry_forward .default

theorem carried_append (periods : List (List JournalEntry)) (entries : List JournalEntry) :
    carried (periods ++ [entries]) = carry_forward (carried periods) entries := by
  rw [carried, List.foldl_append]
  rfl

theorem find?_carried (periods : List (List JournalEntry)) (account : String) :
    ((carried periods).gl_balances.find? account).getD 0 =
      (periods.map (accountBalance account)).sum := by
  induction periods using List.reverseRecOn with
  | nil => rfl
  | append_singleton periods entries ih =>
      rw [carried_append, carry_forward]
      dsimp only
      rw [find?_post, ih, netOn_entries, find?_tally, List.map_append, List.sum_append,
        List.map_singleton, List.sum_singleton]
      rfl

theorem sumOver_carried (periods : List (List JournalEntry)) :
    ((carried periods).gl_balances.sumOver fun account bal =>
        if isIncomeStatement account then bal else 0) = -(periods.map profit).sum := by
  induction periods using List.reverseRecOn with
  | nil => rfl
  | append_singleton periods entries ih =>
      rw [carried_append, carry_forward]
      dsimp only
      rw [sumOver_post, ih, netWhere_entries_tally, List.map_append, List.sum_append,
        List.map_singleton, List.sum_singleton, profit, neg_add, neg_neg]

theorem inits_append_singleton {α : Type} (l : List α) (a : α) :
    (l ++ [a]).inits = l.inits ++ [l ++ [a]] := by
  simp [List.inits_append]

theorem retained_earnings_carried (periods : List (List JournalEntry)) :
    (carried periods).retained_earnings = ((periods.map profit).inits.map List.sum).sum := by
  induction periods using List.reverseRecOn with
  | nil => simp [carried, BalanceState.default]
  | append_singleton periods entries ih =>
      have hincome := sumOver_carried (periods ++ [entries])
      have hneg : (fun account (bal : ℚ) => if isIncomeStatement account then -bal else 0) =
          fun account bal => 0 - if isIncomeStatement account then bal else 0 := by
        funext account bal
        split <;> ring
      have hzero : (carried (periods ++ [entries])).gl_balances.sumOver (fun _ _ => (0 : ℚ)) = 0 :=
        OrderedMap.sumOver_eq_zero fun _ _ => rfl
      have hretained : (carried (periods ++ [entries])).retained_earnings =
          (carried periods).retained_earnings +
            (carried (periods ++ [entries])).gl_balances.sumOver fun account bal =>
              if isIncomeStatement account then -bal else 0 := by
        rw [carried_append]
        rfl
      rw [hretained, hneg, OrderedMap.sumOver_sub, hzero, hincome, ih, List.map_append,
        List.map_singleton, inits_append_singleton, List.map_append, List.sum_append,
        List.map_singleton, List.sum_singleton, sub_neg_eq_add, zero_add]
      simp only [List.sum_append, List.sum_singleton]

theorem inits_sum (results : List ℚ) :
    (results.inits.map List.sum).sum = earlierResults results + results.sum := by
  induction results using List.reverseRecOn with
  | nil => rfl
  | append_singleton results result ih =>
      rw [earlierResults, inits_append_singleton, List.dropLast_concat, List.map_append,
        List.sum_append, List.map_singleton, List.sum_singleton]

theorem ar_ap_total_carried (periods : List (List JournalEntry)) :
    (carried periods).ar_total =
        max (((carried periods).gl_balances.find? "1100").getD 0) 0 ∧
      (carried periods).ap_total =
        max (-((carried periods).gl_balances.find? "2000").getD 0) 0 := by
  induction periods using List.reverseRecOn with
  | nil => exact ⟨by decide, by decide⟩
  | append_singleton periods entries _ =>
      rw [carried_append]
      exact ⟨rfl, rfl⟩

theorem carries_carried_iff (periods : List (List JournalEntry)) :
    Carries periods (carried periods) ↔ earlierResults (periods.map profit) = 0 := by
  have hretained := retained_earnings_carried periods
  rw [inits_sum] at hretained
  constructor
  · intro h
    rw [h.retained_earnings] at hretained
    linarith
  · intro h
    obtain ⟨har, hap⟩ := ar_ap_total_carried periods
    rw [find?_carried] at har hap
    refine ⟨find?_carried periods, ?_, har, hap⟩
    rw [hretained, h, zero_add]

end Balances

section Sessions

variable {Settings Order : Type} {platform : Platform Settings Order}

/-- The state of a session is that of the entries it has generated. -/
def Balanced (platform : Platform Settings Order) (session : Session Settings) : Prop :=
  session.state.period_cursor ≤ session.periods.length ∧
    session.state.balance_state = carried (generatedEntries platform session)

theorem balanced_generate_next_period {session : Session Settings}
    (h : Balanced platform session) :
    Balanced platform (generate_next_period platform session).2 := by
  obtain ⟨hwithin, hbalances⟩ := h
  obtain ⟨-, hnext⟩ | ⟨period, hperiod, ⟨e, hnext⟩ | ⟨result, output, hgenerate, hnext, -⟩⟩ :=
    generate_next_period_cases platform session
  · rw [hnext]
    exact ⟨hwithin, hbalances⟩
  · rw [hnext]
    exact ⟨hwithin, hbalances⟩
  · rw [hnext]
    refine ⟨(List.getElem?_eq_some_iff.mp hperiod).1, ?_⟩
    have hentries : generatedEntries platform
        { session with state := record session.state period result } =
          generatedEntries platform session ++ [result.journal_entries] := by
      show (session.periods.take (session.state.period_cursor + 1)).map _ = _
      rw [List.take_add_one, hperiod, Option.toList_some, List.map_append, List.map_singleton]
      show _ ++ [match platform.generate (period_config platform session period) with
        | .ok result => result.journal_entries
        | .error _ => []] = _
      rw [hgenerate]
      rfl
    rw [hentries, carried_append, ← hbalances]
    rfl

theorem balanced_extend {session : Session Settings} (new_periods : List GenerationPeriod)
    (h : Balanced platform session) :
    Balanced platform { session with periods := session.periods ++ new_periods } := by
  obtain ⟨hwithin, hbalances⟩ := h
  refine ⟨?_, ?_⟩
  · rw [List.length_append]
    exact hwithin.trans (Nat.le_add_right _ _)
  · rw [hbalances, generatedEntries, generatedEntries, List.take_append_of_le_length hwithin]
    rfl

/-- The balances of a run are those of its entries. -/
theorem balance_state_eq {config : GeneratorConfig Settings} {order : Order}
    {output_path : PathBuf} {history : List Command} {session session' : Session Settings}
    {outcomes : List Outcome} (hnew : new platform config order output_path = some (.ok session))
    (hrun : run platform history session = some (outcomes, session')) :
    session'.state.balance_state = carried (generatedEntries platform session') := by
  obtain ⟨-, -, -, -, -, -, hcursor, hbalances⟩ := new_spec hnew
  have hinitial : Balanced platform session := by
    refine ⟨by omega, ?_⟩
    rw [hbalances, generatedEntries, hcursor]
    rfl
  exact (run_invariant (fun _ => balanced_generate_next_period)
    (fun _ new_periods => balanced_extend new_periods) hrun hinitial).2

/-- The carried balances are those of the generated entries if the results of the earlier
periods, each added up from the first period on, come to nothing together. -/
theorem carries_iff (platform : Platform Settings Order) {config : GeneratorConfig Settings}
    {order : Order} {output_path : PathBuf} {history : List Command}
    {session session' : Session Settings} {outcomes : List Outcome}
    (hnew : new platform config order output_path = some (.ok session))
    (hrun : run platform history session = some (outcomes, session')) :
    Carries (generatedEntries platform session') session'.state.balance_state ↔
      earlierResults ((generatedEntries platform session').map profit) = 0 := by
  rw [balance_state_eq hnew hrun]
  exact carries_carried_iff _

end Sessions

section Samples

/-- A sale of 100 on account. -/
def sale : JournalEntry where
  header := .new "1000" (Date.ofYmd 2024 1 15)
  lines := [.debit 1 "1100" 100, .credit 2 "4000" 100]

/-- Every period has one sale. -/
def selling : Platform Unit Unit :=
  { newYear with generate := fun _ => .ok { emptyResult with journal_entries := [sale] } }

def secondPeriod : GenerationPeriod :=
  ⟨1, "FY2025", Date.ofYmd 2025 1 1, Date.ofYmd 2025 12 31, 12⟩

def twoYears : Session Unit :=
  ⟨sampleConfig 24 (some 12), SessionState.new 42 "", [firstPeriod, secondPeriod],
    .multiPeriod outputDirectory⟩

theorem new_selling :
    new selling (sampleConfig 24 (some 12)) () outputDirectory = some (.ok twoYears) := by
  have hparse : selling.parse_from_str "2024-01-01" = .ok (Date.ofYmd 2024 1 1) := rfl
  have hperiods : GenerationPeriod.compute_periods (Date.ofYmd 2024 1 1) 24 12 =
      some [firstPeriod, secondPeriod] := by
    decide
  rw [new_eq hparse]
  show Option.map _ (GenerationPeriod.compute_periods (Date.ofYmd 2024 1 1) 24 12) = _
  rw [hperiods]
  rfl

def firstYear : Session Unit := (generate_next_period selling twoYears).2

def secondYear : Session Unit := (generate_next_period selling firstYear).2

/-- After one period the balances are those of its entries. -/
theorem carries_firstYear :
    Carries (generatedEntries selling firstYear) firstYear.state.balance_state := by
  have hrun : run selling [.generate_next_period] twoYears = some (_, firstYear) := rfl
  have hentries : generatedEntries selling firstYear = [[sale]] := rfl
  apply (carries_iff selling new_selling hrun).mpr
  rw [hentries]
  simp [earlierResults]

/-- After two sales of 100 the retained earnings are 300. -/
theorem not_carries_secondYear :
    new selling (sampleConfig 24 (some 12)) () outputDirectory = some (.ok twoYears) ∧
      (∃ outcomes, run selling [.generate_next_period, .generate_next_period] twoYears =
        some (outcomes, secondYear)) ∧
      generatedEntries selling secondYear = [[sale], [sale]] ∧
      ¬ Carries (generatedEntries selling secondYear) secondYear.state.balance_state := by
  have hrun : run selling [.generate_next_period, .generate_next_period] twoYears =
      some (_, secondYear) := rfl
  have hentries : generatedEntries selling secondYear = [[sale], [sale]] := rfl
  have hprofit : profit [sale] = 100 := by
    have hreceivables : isIncomeStatement "1100" = false := by decide
    have hrevenue : isIncomeStatement "4000" = true := by decide
    simp [profit, netWhere, JournalEntry.postings, sale, JournalEntryLine.debit,
      JournalEntryLine.credit, hreceivables, hrevenue]
  refine ⟨new_selling, ⟨_, hrun⟩, hentries, ?_⟩
  rw [balance_state_eq new_selling hrun, carries_carried_iff, hentries, List.map_cons, hprofit]
  simp [earlierResults]

end Samples

end Datasynth.Runtime.CarriedBalances
