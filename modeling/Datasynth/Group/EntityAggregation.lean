import Datasynth.Core.TrialBalances
import Datasynth.Group.Config
import Datasynth.Group.ManifestBuilder
import Datasynth.Lib.SortedEntries
import Mathlib.Data.List.Sort
import Mathlib.Tactic.Ring

/-! The aggregated trial balance of a group. -/

namespace Datasynth.Group.PreElimination

open Datasynth.Core.TrialBalances
open Datasynth.Group.Config
open Datasynth.Lib.CivilCalendar
open Datasynth.Lib.SortedEntries

structure AggregatedAccount where
  account_code : String
  debit_total : ℚ
  credit_total : ℚ
  net_balance : ℚ
  contributing_entities : ℕ
  account_type : AccountType
deriving DecidableEq

structure DeferredEntity where
  entity_code : String
  method : ConsolidationMethod
deriving DecidableEq

structure AggregatedTb where
  group_id : String
  currency : String
  as_of_date : Date
  account_totals : OrderedMap String AggregatedAccount
  contributing_entities : List String
  deferred_entities : List DeferredEntity
  total_debits : ℚ
  total_credits : ℚ

/-- An account before anything is posted to it. -/
def AggregatedAccount.fresh (account_code : String) (account_type : AccountType) :
    AggregatedAccount :=
  ⟨account_code, 0, 0, 0, 0, account_type⟩

def AggregatedAccount.post (account : AggregatedAccount) (debit credit : ℚ) :
    AggregatedAccount :=
  { account with
    debit_total := account.debit_total + debit
    credit_total := account.credit_total + credit
    net_balance := (account.debit_total + debit) - (account.credit_total + credit) }

def AggregatedAccount.net (account : AggregatedAccount) : ℚ :=
  account.debit_total - account.credit_total

@[simp] theorem AggregatedAccount.net_fresh (code : String) (account_type : AccountType) :
    (fresh code account_type).net = 0 := sub_zero 0

@[simp] theorem AggregatedAccount.account_type_fresh (code : String) (account_type : AccountType) :
    (fresh code account_type).account_type = account_type := rfl

@[simp] theorem AggregatedAccount.account_type_post (account : AggregatedAccount)
    (debit credit : ℚ) : (account.post debit credit).account_type = account.account_type := rfl

@[simp] theorem AggregatedAccount.net_post (account : AggregatedAccount) (debit credit : ℚ) :
    (account.post debit credit).net = account.net + (debit - credit) := by
  simp only [net, post]
  ring

namespace AggregatedTb

/-- The accounts' net balances, each weighted by its code and type. -/
def weighted (tb : AggregatedTb) (weight : String → AccountType → ℚ) : ℚ :=
  tb.account_totals.sumOver fun code account => weight code account.account_type * account.net

def netOn (tb : AggregatedTb) (code : String) : ℚ :=
  (tb.account_totals.find? code).elim 0 (·.net)

def typeOf (tb : AggregatedTb) (code : String) : AccountType :=
  (tb.account_totals.find? code).elim AccountType.default (·.account_type)

end AggregatedTb

def recompute_totals (tb : AggregatedTb) : ℚ × ℚ :=
  (tb.account_totals.sumOver fun _ account => account.debit_total,
    tb.account_totals.sumOver fun _ account => account.credit_total)

section Weighted

variable {tb : AggregatedTb}

theorem weighted_add (v w : String → AccountType → ℚ) :
    tb.weighted (fun code type => v code type + w code type) = tb.weighted v + tb.weighted w := by
  simp only [AggregatedTb.weighted, add_mul]
  exact OrderedMap.sumOver_add ..

theorem weighted_sub (v w : String → AccountType → ℚ) :
    tb.weighted (fun code type => v code type - w code type) = tb.weighted v - tb.weighted w := by
  simp only [AggregatedTb.weighted, sub_mul]
  exact OrderedMap.sumOver_sub ..

theorem weighted_one : tb.weighted (fun _ _ => 1) =
    (recompute_totals tb).1 - (recompute_totals tb).2 := by
  simp only [AggregatedTb.weighted, one_mul]
  exact OrderedMap.sumOver_sub ..

end Weighted

end Datasynth.Group.PreElimination

/-!
The combination of entity trial balances into the pre-elimination trial balance of the
group, in one pass over a list or entity by entity.
-/

namespace Datasynth.Group.EntityAggregation

open Datasynth.Core.TrialBalances
open Datasynth.Group.Config
open Datasynth.Group.ManifestBuilder
open Datasynth.Group.PreElimination
open Datasynth.Lib.CivilCalendar
open Datasynth.Lib.ExceptRuns
open Datasynth.Lib.SortedEntries

def lookup_consolidation_method (manifest : GroupManifest) (entity_code : String) :
    GroupResult ConsolidationMethod :=
  match manifest.ownership_graph.entities.find? (·.code = entity_code) with
  | none => .error <| .aggregate <|
      s!"aggregate_pre_elimination: entity `{entity_code}` not in manifest"
  | some entity => .ok entity.consolidation_method

/-- The accounts so far, and those that the current entity has touched. -/
abbrev LineWalk := OrderedMap String AggregatedAccount × OrderedMap String Unit

def accumulateLine (st : LineWalk) (line : TrialBalanceLine) : LineWalk :=
  let entry := ((st.1.find? line.account_code).getD
    (.fresh line.account_code line.account_type)).post line.debit_balance line.credit_balance
  if (st.2.find? line.account_code).isSome then (st.1.insert line.account_code entry, st.2)
  else
    (st.1.insert line.account_code
      { entry with contributing_entities := entry.contributing_entities + 1 },
      st.2.insert line.account_code ())

def accumulateLines (account_totals : OrderedMap String AggregatedAccount)
    (lines : List TrialBalanceLine) : OrderedMap String AggregatedAccount :=
  (lines.foldl accumulateLine (account_totals, OrderedMap.empty)).1

def accumulate_tb (agg : AggregatedTb) (entity_code : String) (tb : TrialBalance) :
    AggregatedTb :=
  { agg with
    account_totals := accumulateLines agg.account_totals tb.lines
    total_debits := agg.total_debits + tb.total_debits
    total_credits := agg.total_credits + tb.total_credits
    contributing_entities := agg.contributing_entities ++ [entity_code] }

def pushDeferred (agg : AggregatedTb) (entity_code : String) (method : ConsolidationMethod) :
    AggregatedTb :=
  { agg with deferred_entities := agg.deferred_entities ++ [⟨entity_code, method⟩] }

def sortEntities (agg : AggregatedTb) : AggregatedTb :=
  { agg with
    contributing_entities := agg.contributing_entities.insertionSort (· ≤ ·)
    deferred_entities := agg.deferred_entities.insertionSort fun a b =>
      a.entity_code ≤ b.entity_code }

/-- A trial balance in another currency is logged, not refused. -/
def aggregate_pre_elimination (manifest : GroupManifest)
    (entity_tbs : List (String × TrialBalance)) : GroupResult AggregatedTb :=
  let agg : AggregatedTb :=
    { group_id := manifest.group_id
      currency := manifest.presentation_currency
      as_of_date := manifest.period.end
      account_totals := OrderedMap.empty
      contributing_entities := []
      deferred_entities := []
      total_debits := 0
      total_credits := 0 }
  (foldRun (fun agg (entity_code, tb) =>
    (lookup_consolidation_method manifest entity_code).bind fun method =>
      match method with
      | .parent | .full => .ok (accumulate_tb agg entity_code tb)
      | .equityMethod | .proportional | .fairValue =>
          .ok (pushDeferred agg entity_code method)) agg entity_tbs).bind fun agg =>
    .ok (sortEntities agg)

def accumulate_entity_into_aggregate (agg : AggregatedTb) (manifest : GroupManifest)
    (entity_code : String) (tb : TrialBalance) : GroupResult AggregatedTb :=
  (lookup_consolidation_method manifest entity_code).bind fun method =>
    match method with
    | .parent | .full => .ok (accumulate_tb agg entity_code tb)
    | .equityMethod | .proportional | .fairValue => .ok (pushDeferred agg entity_code method)

def finalise_streaming_aggregate (agg : AggregatedTb) : AggregatedTb := sortEntities agg

def empty_aggregate (manifest : GroupManifest) : AggregatedTb where
  group_id := manifest.group_id
  currency := manifest.presentation_currency
  as_of_date := manifest.period.end
  account_totals := OrderedMap.empty
  contributing_entities := []
  deferred_entities := []
  total_debits := 0
  total_credits := 0

/-- The aggregate of trial balances that arrive one by one. -/
def streamingAggregate (manifest : GroupManifest) (entity_tbs : List (String × TrialBalance)) :
    GroupResult AggregatedTb :=
  (foldRun (fun agg (entity_code, tb) =>
    accumulate_entity_into_aggregate agg manifest entity_code tb)
    (empty_aggregate manifest) entity_tbs).bind fun agg => .ok (finalise_streaming_aggregate agg)

section Account

/-- An account to which several lines are posted at once. -/
def absorb (account : AggregatedAccount) (debit credit : ℚ) (entities : ℕ) :
    AggregatedAccount :=
  { account with
    debit_total := account.debit_total + debit
    credit_total := account.credit_total + credit
    net_balance := (account.debit_total + debit) - (account.credit_total + credit)
    contributing_entities := account.contributing_entities + entities }

theorem absorb_absorb (account : AggregatedAccount) (debit credit debit' credit' : ℚ)
    (entities entities' : ℕ) :
    absorb (absorb account debit credit entities) debit' credit' entities' =
      absorb account (debit + debit') (credit + credit') (entities + entities') := by
  simp only [absorb, add_assoc]

def linesOn (code : String) (lines : List TrialBalanceLine) : List TrialBalanceLine :=
  lines.filter (·.account_code = code)

def debitsOf (lines : List TrialBalanceLine) : ℚ := (lines.map (·.debit_balance)).sum

def creditsOf (lines : List TrialBalanceLine) : ℚ := (lines.map (·.credit_balance)).sum

theorem find?_accumulateLine (st : LineWalk) (line : TrialBalanceLine) (code : String) :
    (accumulateLine st line).1.find? code =
      if code = line.account_code then
        some (absorb ((st.1.find? code).getD (.fresh code line.account_type)) line.debit_balance
          line.credit_balance (if (st.2.find? code).isSome then 0 else 1))
      else st.1.find? code := by
  rw [accumulateLine]
  by_cases hcode : code = line.account_code
  · rw [if_pos hcode, hcode]
    split <;> simp [OrderedMap.find?_insert, AggregatedAccount.post, absorb]
  · rw [if_neg hcode]
    split <;> rw [OrderedMap.find?_insert, if_neg hcode]

theorem isSome_find?_accumulateLine (st : LineWalk) (line : TrialBalanceLine) (code : String) :
    ((accumulateLine st line).2.find? code).isSome =
      (decide (code = line.account_code) || (st.2.find? code).isSome) := by
  rw [accumulateLine]
  split
  · rename_i htouched
    by_cases hcode : code = line.account_code
    · simp [hcode, htouched]
    · simp [hcode]
  · by_cases hcode : code = line.account_code <;> simp [OrderedMap.find?_insert, hcode]

/-- What a list of lines does to one account depends on the lines on it. -/
theorem find?_foldl_accumulateLine (lines : List TrialBalanceLine) (st : LineWalk)
    (code : String) :
    (lines.foldl accumulateLine st).1.find? code =
      match linesOn code lines with
      | [] => st.1.find? code
      | first :: rest =>
          some (absorb ((st.1.find? code).getD (.fresh code first.account_type))
            (debitsOf (first :: rest)) (creditsOf (first :: rest))
            (if (st.2.find? code).isSome then 0 else 1)) := by
  induction lines generalizing st with
  | nil => rfl
  | cons line lines ih =>
      rw [List.foldl_cons, ih, find?_accumulateLine, isSome_find?_accumulateLine]
      by_cases hcode : line.account_code = code
      · have hon : linesOn code (line :: lines) = line :: linesOn code lines := by
          simp [linesOn, hcode]
        rw [hon]
        cases linesOn code lines with
        | nil => simp [hcode, debitsOf, creditsOf]
        | cons next rest => simp [hcode, debitsOf, creditsOf, absorb_absorb]
      · have hon : linesOn code (line :: lines) = linesOn code lines := by
          simp [linesOn, hcode]
        rw [hon]
        simp [Ne.symm hcode]

/-- What one trial balance posts to an account, if it has the account. -/
structure Touch where
  account_type : AccountType
  debits : ℚ
  credits : ℚ

def touchOf (code : String) (tb : TrialBalance) : Option Touch :=
  match linesOn code tb.lines with
  | [] => none
  | first :: rest =>
      some ⟨first.account_type, debitsOf (first :: rest), creditsOf (first :: rest)⟩

theorem find?_accumulateLines (account_totals : OrderedMap String AggregatedAccount)
    (tb : TrialBalance) (code : String) :
    (accumulateLines account_totals tb.lines).find? code =
      match touchOf code tb with
      | none => account_totals.find? code
      | some touch =>
          some (absorb ((account_totals.find? code).getD (.fresh code touch.account_type))
            touch.debits touch.credits 1) := by
  rw [accumulateLines, find?_foldl_accumulateLine, touchOf]
  cases linesOn code tb.lines <;> simp

def touchesOf (code : String) (tbs : List TrialBalance) : List Touch :=
  tbs.filterMap (touchOf code)

/-- The account a list of trial balances leaves: the first of them gives the type. -/
def aggregatedAccount (code : String) (start : Option AggregatedAccount) :
    List Touch → Option AggregatedAccount
  | [] => start
  | first :: rest =>
      some (absorb (start.getD (.fresh code first.account_type))
        ((first :: rest).map (·.debits)).sum ((first :: rest).map (·.credits)).sum
        (first :: rest).length)

theorem find?_foldl_accumulateLines (tbs : List TrialBalance)
    (account_totals : OrderedMap String AggregatedAccount) (code : String) :
    (tbs.foldl (fun totals tb => accumulateLines totals tb.lines) account_totals).find? code =
      aggregatedAccount code (account_totals.find? code) (touchesOf code tbs) := by
  induction tbs generalizing account_totals with
  | nil => rfl
  | cons tb tbs ih =>
      rw [List.foldl_cons, ih, find?_accumulateLines, touchesOf, touchesOf, List.filterMap_cons]
      cases touchOf code tb with
      | none => rfl
      | some touch =>
          cases tbs.filterMap (touchOf code) with
          | nil => simp [aggregatedAccount]
          | cons next rest => simp [aggregatedAccount, absorb_absorb, add_comm 1]

end Account

def contributes : ConsolidationMethod → Bool
  | .parent | .full => true
  | .equityMethod | .proportional | .fairValue => false

def methodOf (manifest : GroupManifest) (entity_code : String) : Option ConsolidationMethod :=
  (manifest.ownership_graph.entities.find? (·.code = entity_code)).map (·.consolidation_method)

theorem lookup_consolidation_method_eq_ok_iff {manifest : GroupManifest} {entity_code : String}
    {method : ConsolidationMethod} :
    lookup_consolidation_method manifest entity_code = .ok method ↔
      methodOf manifest entity_code = some method := by
  rw [lookup_consolidation_method, methodOf]
  cases manifest.ownership_graph.entities.find? (·.code = entity_code) <;> simp

theorem accumulate_entity_into_aggregate_eq_ok_iff {agg agg' : AggregatedTb}
    {manifest : GroupManifest} {entity_code : String} {tb : TrialBalance} :
    accumulate_entity_into_aggregate agg manifest entity_code tb = .ok agg' ↔
      ∃ method, methodOf manifest entity_code = some method ∧
        agg' = if contributes method then accumulate_tb agg entity_code tb
          else pushDeferred agg entity_code method := by
  rw [accumulate_entity_into_aggregate, bind_eq_ok_iff]
  refine exists_congr fun method => ?_
  rw [lookup_consolidation_method_eq_ok_iff]
  cases method <;> simp [contributes, eq_comm]

section Aggregate

variable (manifest : GroupManifest)

/-- The trial balances that are summed. -/
def contributing (entity_tbs : List (String × TrialBalance)) : List (String × TrialBalance) :=
  entity_tbs.filter fun e => (methodOf manifest e.1).any contributes

def deferredCodes (entity_tbs : List (String × TrialBalance)) : List String :=
  (entity_tbs.filter fun e => (methodOf manifest e.1).any (!contributes ·)).map Prod.fst

def deferredEntity (entity_code : String) : DeferredEntity :=
  ⟨entity_code, (methodOf manifest entity_code).getD .equityMethod⟩

/-- What a list of known entities adds to an aggregate. -/
def aggregateOf (agg : AggregatedTb) (entity_tbs : List (String × TrialBalance)) :
    AggregatedTb :=
  { agg with
    account_totals := ((contributing manifest entity_tbs).map Prod.snd).foldl
      (fun totals tb => accumulateLines totals tb.lines) agg.account_totals
    contributing_entities :=
      agg.contributing_entities ++ (contributing manifest entity_tbs).map Prod.fst
    deferred_entities := agg.deferred_entities ++
      (deferredCodes manifest entity_tbs).map (deferredEntity manifest)
    total_debits := agg.total_debits +
      ((contributing manifest entity_tbs).map (·.2.total_debits)).sum
    total_credits := agg.total_credits +
      ((contributing manifest entity_tbs).map (·.2.total_credits)).sum }

/-- Whether the manifest has every entity of a list. -/
def Known (entity_tbs : List (String × TrialBalance)) : Prop :=
  ∀ e ∈ entity_tbs, (methodOf manifest e.1).isSome

variable {manifest} {entity_tbs : List (String × TrialBalance)} {agg agg' : AggregatedTb}

theorem foldRun_accumulate_entity_eq_ok_iff :
    foldRun (fun agg (e : String × TrialBalance) =>
        accumulate_entity_into_aggregate agg manifest e.1 e.2) agg entity_tbs = .ok agg' ↔
      Known manifest entity_tbs ∧ agg' = aggregateOf manifest agg entity_tbs := by
  induction entity_tbs generalizing agg with
  | nil =>
      have hnil : aggregateOf manifest agg [] = agg := by
        simp [aggregateOf, contributing, deferredCodes]
      simp [foldRun, Known, hnil, @eq_comm _ agg]
  | cons e entity_tbs ih =>
      rw [foldRun, bind_eq_ok_iff, Known, List.forall_mem_cons]
      simp only [accumulate_entity_into_aggregate_eq_ok_iff, ih]
      cases hmethod : methodOf manifest e.1 with
      | none => simp
      | some method =>
          cases hcontributes : contributes method with
          | true =>
              simp [Known, aggregateOf, contributing, deferredCodes, hmethod, hcontributes,
                accumulate_tb, add_assoc]
          | false =>
              simp [Known, aggregateOf, contributing, deferredCodes, hmethod, hcontributes,
                pushDeferred, deferredEntity]

theorem streamingAggregate_eq (manifest : GroupManifest)
    (entity_tbs : List (String × TrialBalance)) :
    streamingAggregate manifest entity_tbs = aggregate_pre_elimination manifest entity_tbs := rfl

theorem aggregate_pre_elimination_eq_ok_iff :
    aggregate_pre_elimination manifest entity_tbs = .ok agg ↔
      Known manifest entity_tbs ∧
        agg = sortEntities (aggregateOf manifest (empty_aggregate manifest) entity_tbs) := by
  rw [← streamingAggregate_eq, streamingAggregate, bind_eq_ok_iff]
  constructor
  · rintro ⟨agg', hfold, heq⟩
    obtain ⟨hknown, rfl⟩ := foldRun_accumulate_entity_eq_ok_iff.mp hfold
    cases heq
    exact ⟨hknown, rfl⟩
  · rintro ⟨hknown, rfl⟩
    exact ⟨_, foldRun_accumulate_entity_eq_ok_iff.mpr ⟨hknown, rfl⟩, rfl⟩

theorem find?_aggregateOf (code : String) :
    (aggregateOf manifest (empty_aggregate manifest) entity_tbs).account_totals.find? code =
      aggregatedAccount code none
        (touchesOf code ((contributing manifest entity_tbs).map Prod.snd)) :=
  find?_foldl_accumulateLines ..

end Aggregate

section Order

variable (manifest : GroupManifest) (entity_tbs : List (String × TrialBalance))

/-- The type a trial balance gives an account: that of its first line on it. -/
def firstType (code : String) (tb : TrialBalance) : Option AccountType :=
  (tb.lines.find? (·.account_code = code)).map (·.account_type)

/-- The summed trial balances agree on the type of every account. -/
def TypesAgree : Prop :=
  ∀ code, ∀ e ∈ contributing manifest entity_tbs, ∀ e' ∈ contributing manifest entity_tbs,
    ∀ account_type ∈ firstType code e.2, ∀ account_type' ∈ firstType code e'.2,
      account_type = account_type'

/-- The aggregate does not depend on the order the entities are walked in. -/
def OrderInsensitive : Prop :=
  ∀ entity_tbs', entity_tbs'.Perm entity_tbs →
    (aggregate_pre_elimination manifest entity_tbs').toOption =
      (aggregate_pre_elimination manifest entity_tbs).toOption

variable {manifest entity_tbs}

theorem firstType_eq (code : String) (tb : TrialBalance) :
    firstType code tb = (touchOf code tb).map (·.account_type) := by
  rw [firstType, ← List.head?_filter, touchOf, linesOn]
  cases tb.lines.filter (·.account_code = code) <;> rfl

theorem aggregatedAccount_perm (code : String) {touches touches' : List Touch}
    (hperm : touches'.Perm touches)
    (hagree : ∀ t ∈ touches, ∀ t' ∈ touches, t.account_type = t'.account_type) :
    aggregatedAccount code none touches' = aggregatedAccount code none touches := by
  cases touches' with
  | nil => rw [List.nil_perm.mp hperm]
  | cons first' rest' =>
      cases touches with
      | nil => exact absurd hperm.length_eq (by simp)
      | cons first rest =>
          have htype : first'.account_type = first.account_type :=
            hagree _ (hperm.mem_iff.mp List.mem_cons_self) _ List.mem_cons_self
          rw [aggregatedAccount, aggregatedAccount, htype, (hperm.map _).sum_eq,
            (hperm.map _).sum_eq, hperm.length_eq]

theorem aggregate_pre_elimination_toOption (hknown : Known manifest entity_tbs) :
    (aggregate_pre_elimination manifest entity_tbs).toOption =
      some (sortEntities (aggregateOf manifest (empty_aggregate manifest) entity_tbs)) := by
  rw [aggregate_pre_elimination_eq_ok_iff.mpr ⟨hknown, rfl⟩]
  rfl

theorem aggregate_pre_elimination_toOption_of_unknown (hunknown : ¬ Known manifest entity_tbs) :
    (aggregate_pre_elimination manifest entity_tbs).toOption = none := by
  cases hagg : aggregate_pre_elimination manifest entity_tbs with
  | error e => rfl
  | ok agg => exact absurd (aggregate_pre_elimination_eq_ok_iff.mp hagg).1 hunknown

theorem insertionSort_eq_of_perm {codes codes' : List String} (hperm : codes'.Perm codes) :
    codes'.insertionSort (· ≤ ·) = codes.insertionSort (· ≤ ·) := by
  have hsorted : (codes'.insertionSort (· ≤ ·)).Perm (codes.insertionSort (· ≤ ·)) :=
    ((List.perm_insertionSort _ _).trans hperm).trans (List.perm_insertionSort _ _).symm
  exact hsorted.eq_of_pairwise' (List.pairwise_insertionSort _ _) (List.pairwise_insertionSort _ _)

/-- Sorting by code undoes the order of the walk. -/
theorem sort_deferred (codes : List String) :
    ((codes.map (deferredEntity manifest)).insertionSort fun a b =>
      a.entity_code ≤ b.entity_code) =
        (codes.insertionSort (· ≤ ·)).map (deferredEntity manifest) :=
  (List.map_insertionSort (· ≤ ·) _ (deferredEntity manifest) codes fun _ _ _ _ => Iff.rfl).symm

theorem sortEntities_aggregateOf_perm {entity_tbs' : List (String × TrialBalance)}
    (hperm : entity_tbs'.Perm entity_tbs)
    (htotals : ∀ code, aggregatedAccount code none
        (touchesOf code ((contributing manifest entity_tbs').map Prod.snd)) =
      aggregatedAccount code none
        (touchesOf code ((contributing manifest entity_tbs).map Prod.snd))) :
    sortEntities (aggregateOf manifest (empty_aggregate manifest) entity_tbs') =
      sortEntities (aggregateOf manifest (empty_aggregate manifest) entity_tbs) := by
  have haccounts :
      (aggregateOf manifest (empty_aggregate manifest) entity_tbs').account_totals =
        (aggregateOf manifest (empty_aggregate manifest) entity_tbs).account_totals := by
    refine OrderedMap.ext_find? fun code => ?_
    rw [find?_aggregateOf, find?_aggregateOf, htotals]
  have hsummed : (contributing manifest entity_tbs').Perm (contributing manifest entity_tbs) :=
    hperm.filter _
  have hdeferred : (deferredCodes manifest entity_tbs').Perm (deferredCodes manifest entity_tbs) :=
    (hperm.filter _).map _
  rw [sortEntities, haccounts]
  simp only [sortEntities, aggregateOf, empty_aggregate, List.nil_append, sort_deferred,
    insertionSort_eq_of_perm (hsummed.map Prod.fst), insertionSort_eq_of_perm hdeferred,
    (hsummed.map _).sum_eq]

theorem known_perm {entity_tbs' : List (String × TrialBalance)}
    (hperm : entity_tbs'.Perm entity_tbs) :
    Known manifest entity_tbs' ↔ Known manifest entity_tbs :=
  forall_congr' fun _ => imp_congr_left hperm.mem_iff

/-- A walk that starts with an entity gives its accounts the types it gives them. -/
theorem type_of_find?_aggregateOf_cons {code : String} {e : String × TrialBalance}
    {account_type : AccountType} (hsummed : (methodOf manifest e.1).any contributes = true)
    (htype : firstType code e.2 = some account_type) :
    ((aggregateOf manifest (empty_aggregate manifest) (e :: entity_tbs)).account_totals.find?
      code).map (·.account_type) = some account_type := by
  have hcons : contributing manifest (e :: entity_tbs) = e :: contributing manifest entity_tbs :=
    List.filter_cons_of_pos hsummed
  rw [firstType_eq] at htype
  obtain ⟨touch, htouch, rfl⟩ := Option.map_eq_some_iff.mp htype
  rw [find?_aggregateOf, hcons, List.map_cons, touchesOf, List.filterMap_cons, htouch]
  rfl

theorem typesAgree_of_orderInsensitive (hknown : Known manifest entity_tbs)
    (hinsensitive : OrderInsensitive manifest entity_tbs) : TypesAgree manifest entity_tbs := by
  have htype : ∀ code, ∀ e ∈ contributing manifest entity_tbs,
      ∀ account_type ∈ firstType code e.2,
        ((aggregateOf manifest (empty_aggregate manifest) entity_tbs).account_totals.find?
          code).map (·.account_type) = some account_type := by
    intro code e he account_type htype
    obtain ⟨hmem, hsummed⟩ := List.mem_filter.mp he
    obtain ⟨before, after, rfl⟩ := List.append_of_mem hmem
    have hperm : (e :: (before ++ after)).Perm (before ++ e :: after) := List.perm_middle.symm
    have hsame := hinsensitive _ hperm
    rw [aggregate_pre_elimination_toOption hknown,
      aggregate_pre_elimination_toOption ((known_perm hperm).mpr hknown)] at hsame
    have haccounts := congrArg AggregatedTb.account_totals (Option.some.inj hsame)
    simp only [sortEntities] at haccounts
    rw [← haccounts]
    exact type_of_find?_aggregateOf_cons hsummed htype
  intro code e he e' he' account_type hfirst account_type' hfirst'
  exact Option.some.inj ((htype code e he account_type hfirst).symm.trans
    (htype code e' he' account_type' hfirst'))

theorem orderInsensitive_of_typesAgree (hknown : Known manifest entity_tbs)
    (hagree : TypesAgree manifest entity_tbs) : OrderInsensitive manifest entity_tbs := by
  intro entity_tbs' hperm
  rw [aggregate_pre_elimination_toOption hknown,
    aggregate_pre_elimination_toOption ((known_perm hperm).mpr hknown)]
  refine congrArg some (sortEntities_aggregateOf_perm hperm fun code => ?_)
  refine aggregatedAccount_perm code (((hperm.filter _).map _).filterMap _) ?_
  intro t ht t' ht'
  obtain ⟨tb, htb, htouch⟩ := List.mem_filterMap.mp ht
  obtain ⟨tb', htb', htouch'⟩ := List.mem_filterMap.mp ht'
  obtain ⟨e, he, rfl⟩ := List.mem_map.mp htb
  obtain ⟨e', he', rfl⟩ := List.mem_map.mp htb'
  refine hagree code e he e' he' _ ?_ _ ?_
  · rw [firstType_eq, htouch]
    rfl
  · rw [firstType_eq, htouch']
    rfl

/-- First seen is a rule about the order unless the types agree. -/
theorem aggregation_order_iff (manifest : GroupManifest)
    (entity_tbs : List (String × TrialBalance)) :
    (OrderInsensitive manifest entity_tbs ∧
      streamingAggregate manifest entity_tbs = aggregate_pre_elimination manifest entity_tbs) ↔
      ¬ Known manifest entity_tbs ∨ TypesAgree manifest entity_tbs := by
  rw [and_iff_left (streamingAggregate_eq manifest entity_tbs)]
  by_cases hknown : Known manifest entity_tbs
  · rw [or_iff_right (not_not.mpr hknown)]
    exact ⟨typesAgree_of_orderInsensitive hknown, orderInsensitive_of_typesAgree hknown⟩
  · rw [iff_true_right (.inl hknown)]
    intro entity_tbs' hperm
    rw [aggregate_pre_elimination_toOption_of_unknown hknown,
      aggregate_pre_elimination_toOption_of_unknown (mt (known_perm hperm).mp hknown)]

end Order

def pairManifest : GroupManifest :=
  { GroupManifest.bare year2024 with
    ownership_graph := ⟨"P", [.bare "P" .parent, .bare "S" .full]⟩ }

def tbWithLines (company_code : String) (lines : List TrialBalanceLine) : TrialBalance where
  company_code := company_code
  as_of_date := Date.ofYmd 2024 12 31
  fiscal_year := 2024
  fiscal_period := 12
  currency := "EUR"
  lines := lines
  total_debits := debitsOf lines
  total_credits := creditsOf lines

/-- An account that one entity books as an asset and the other as a contra asset. -/
def disputedTbs : List (String × TrialBalance) :=
  [("P", tbWithLines "P" [⟨"1800", .asset, 100, 0⟩]),
    ("S", tbWithLines "S" [⟨"1800", .contraAsset, 0, 40⟩])]

theorem disputed_type_depends_on_order :
    ¬ (OrderInsensitive pairManifest disputedTbs ∧
      streamingAggregate pairManifest disputedTbs =
        aggregate_pre_elimination pairManifest disputedTbs) := by
  rintro ⟨hinsensitive, -⟩
  have hsame := congrArg
    (Option.map fun agg => agg.typeOf "1800")
    (hinsensitive disputedTbs.reverse (List.reverse_perm _))
  exact absurd hsame (by decide)

end Datasynth.Group.EntityAggregation
