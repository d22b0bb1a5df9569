import Datasynth.Generators.ClosingToOpening
import Datasynth.Group.ManifestBuilder
import Datasynth.Lib.ExceptRuns
import Datasynth.Lib.HashedMaximum
import Mathlib.Data.Prod.Lex

/-!
The chain of years: the openings of each year are the projections of the closing trial
balances in the prior year's shard output.
-/

namespace Datasynth.Group.MultiPeriod

open Datasynth.Core.TrialBalances
open Datasynth.Generators.ClosingToOpening
open Datasynth.Group.Config
open Datasynth.Group.ManifestBuilder
open Datasynth.Lib.CarryForward
open Datasynth.Lib.CivilCalendar
open Datasynth.Lib.ExceptRuns
open Datasynth.Lib.SortedEntries

/-- The trial balances in each entity's file, if the file is there. -/
abbrev ShardOutput := String → Option (List TrialBalance)

/-- The latest trial balance, the last one of several of the same date. -/
def latestTb (tbs : List TrialBalance) : Option TrialBalance :=
  tbs.foldl (fun best tb =>
    match best with
    | none => some tb
    | some latest => if latest.as_of_date ≤ tb.as_of_date then some tb else some latest) none

def tbPath (prior_period_shards_dir code : String) : String :=
  s!"{prior_period_shards_dir}/entities/{code}/period_close/trial_balances.json"

def openEntity (prior_period_shards_dir : String) (shards : ShardOutput) (framework : String)
    (openings_by_entity : OrderedMap String (List EntityOpeningBalance))
    (entity : ManifestEntity) : GroupResult (OrderedMap String (List EntityOpeningBalance)) :=
  match shards entity.code with
  | none => .error <| .shard <|
      s!"build_opening_balances_from_prior: missing prior-period TB for `{entity.code}` at `" ++
        tbPath prior_period_shards_dir entity.code ++
        "` — the prior-period shard must contain every entity in the manifest"
  | some tbs =>
      match latestTb tbs with
      | none => .error <| .shard <|
          s!"build_opening_balances_from_prior: prior-period TB file for `{entity.code}` was empty"
      | some closing_tb => .ok <|
          openings_by_entity.insert entity.code (project_closing_to_opening closing_tb framework)

def build_opening_balances_from_prior (manifest : GroupManifest)
    (prior_period_shards_dir : String) (shards : ShardOutput) (framework : String) :
    GroupResult (OrderedMap String (List EntityOpeningBalance)) :=
  foldRun (openEntity prior_period_shards_dir shards framework) OrderedMap.empty
    manifest.ownership_graph.entities

def closingTb (shards : ShardOutput) (code : String) : Option TrialBalance :=
  (shards code).bind latestTb

section Openings

variable {dir framework : String} {shards : ShardOutput}

theorem openEntity_eq_ok_iff {openings openings' : OrderedMap String (List EntityOpeningBalance)}
    {entity : ManifestEntity} :
    openEntity dir shards framework openings entity = .ok openings' ↔
      ∃ tb, closingTb shards entity.code = some tb ∧
        openings.insert entity.code (project_closing_to_opening tb framework) = openings' := by
  rw [openEntity, closingTb]
  cases shards entity.code with
  | none => simp
  | some tbs =>
      rw [Option.bind_some]
      cases hlatest : latestTb tbs <;> simp [hlatest]

theorem find?_openings {entities : List ManifestEntity}
    {openings result : OrderedMap String (List EntityOpeningBalance)}
    (h : foldRun (openEntity dir shards framework) openings entities = .ok result) :
    (∀ entity ∈ entities, ∃ tb, closingTb shards entity.code = some tb ∧
      result.find? entity.code = some (project_closing_to_opening tb framework)) ∧
    ∀ code, (∀ entity ∈ entities, entity.code ≠ code) →
      result.find? code = openings.find? code := by
  induction entities generalizing openings with
  | nil =>
      cases h
      exact ⟨by simp, fun _ _ => rfl⟩
  | cons entity entities ih =>
      obtain ⟨openings', hstep, hrest⟩ := bind_eq_ok_iff.mp h
      obtain ⟨tb, htb, rfl⟩ := openEntity_eq_ok_iff.mp hstep
      obtain ⟨hopened, hothers⟩ := ih hrest
      constructor
      · rw [List.forall_mem_cons]
        refine ⟨⟨tb, htb, ?_⟩, hopened⟩
        by_cases hagain : ∃ other ∈ entities, other.code = entity.code
        · obtain ⟨other, hother, hcode⟩ := hagain
          obtain ⟨tb', htb', hfind⟩ := hopened other hother
          rw [hcode] at htb' hfind
          rw [hfind, Option.some.inj (htb'.symm.trans htb)]
        · rw [hothers entity.code fun other hother hcode => hagain ⟨other, hother, hcode⟩,
            OrderedMap.find?_insert, if_pos rfl]
      · intro code hcode
        rw [List.forall_mem_cons] at hcode
        rw [hothers code hcode.2, OrderedMap.find?_insert, if_neg hcode.1.symm]

end Openings

/-- A year of the chain.  How its shards turn openings into closing trial balances is
left open. -/
structure ChainedYear where
  manifest : GroupManifest
  prior_period_shards_dir : String
  framework : String
  run_shards : OrderedMap String (List EntityOpeningBalance) → ShardOutput

structure YearRecord where
  openings : OrderedMap String (List EntityOpeningBalance)
  closings : ShardOutput

def chainYear (shards : ShardOutput) (year : ChainedYear) : GroupResult YearRecord :=
  (build_opening_balances_from_prior year.manifest year.prior_period_shards_dir shards
    year.framework).bind fun openings => .ok ⟨openings, year.run_shards openings⟩

def ClosingsBalanced (shards : ShardOutput) : Prop :=
  ∀ code, ∀ tb ∈ closingTb shards code, closingImbalance tb.lines = 0

/-- What the year posts is balanced, so that closings are when openings are. -/
def ChainedYear.PostsBalanced (year : ChainedYear) : Prop :=
  ∀ openings code, ∀ tb ∈ closingTb (year.run_shards openings) code,
    closingImbalance tb.lines = openingImbalance ((openings.find? code).getD [])

/-- Every entity's openings carry its prior closing forward. -/
def CarriesClosings (shards : ShardOutput) (year : ChainedYear) (record : YearRecord) : Prop :=
  ∀ entity ∈ year.manifest.ownership_graph.entities, ∃ tb rows,
    closingTb shards entity.code = some tb ∧ record.openings.find? entity.code = some rows ∧
      CarriesForward (FrameworkAccounts.for_framework year.framework).retained_earnings tb.lines
        rows

def OpeningsBalanced (record : YearRecord) : Prop :=
  ∀ code, ∀ rows ∈ record.openings.find? code, openingImbalance rows = 0

section Chain

variable {shards : ShardOutput} {year : ChainedYear} {record : YearRecord}

theorem chainYear_carriesClosings (h : chainYear shards year = .ok record) :
    CarriesClosings shards year record := by
  obtain ⟨openings, hopenings, heq⟩ := bind_eq_ok_iff.mp h
  cases heq
  intro entity hentity
  obtain ⟨tb, htb, hfind⟩ := (find?_openings hopenings).1 entity hentity
  exact ⟨tb, _, htb, hfind, project_carriesForward tb year.framework⟩

theorem chainYear_openingsBalanced (hshards : ClosingsBalanced shards)
    (h : chainYear shards year = .ok record) : OpeningsBalanced record := by
  obtain ⟨openings, hopenings, heq⟩ := bind_eq_ok_iff.mp h
  cases heq
  obtain ⟨hopened, hothers⟩ := find?_openings hopenings
  intro code rows hrows
  by_cases hlisted : ∃ entity ∈ year.manifest.ownership_graph.entities, entity.code = code
  · obtain ⟨entity, hentity, rfl⟩ := hlisted
    obtain ⟨tb, htb, hfind⟩ := hopened entity hentity
    cases hfind.symm.trans hrows
    rw [(project_carriesForward tb year.framework).imbalance]
    exact hshards entity.code tb htb
  · have hnone := hothers code fun entity hentity hcode => hlisted ⟨entity, hentity, hcode⟩
    cases hnone.symm.trans hrows

theorem chainYear_closingsBalanced (hyear : year.PostsBalanced)
    (hopenings : OpeningsBalanced record) (h : chainYear shards year = .ok record) :
    ClosingsBalanced record.closings := by
  obtain ⟨openings, -, heq⟩ := bind_eq_ok_iff.mp h
  cases heq
  intro code tb htb
  rw [hyear openings code tb htb]
  cases hfind : openings.find? code with
  | none => simp [openingImbalance]
  | some rows => exact hopenings code rows hfind

/-- Every projection carries the balance sheet forward, so along a chain of years the
openings carry the closings forward and stay balanced if the years post balanced. -/
theorem openings_carry_forward :
    (∀ (closing_tb : TrialBalance) (framework : String),
      CarriesForward (FrameworkAccounts.for_framework framework).retained_earnings
        closing_tb.lines (project_closing_to_opening closing_tb framework)) ∧
    ∀ (shards : ShardOutput) (years : List ChainedYear) (records : List YearRecord),
      runPeriods chainYear YearRecord.closings shards years = .ok records →
        EveryPeriod YearRecord.closings CarriesClosings shards years records ∧
        (ClosingsBalanced shards → (∀ year ∈ years, year.PostsBalanced) →
          EveryPeriod YearRecord.closings (fun _ _ record => OpeningsBalanced record) shards years
            records) := by
  refine ⟨project_carriesForward, fun shards years records hrun => ⟨?_, fun hshards hyears => ?_⟩⟩
  · exact everyPeriod_of_step (fun _ _ _ => chainYear_carriesClosings) hrun
  · refine everyPeriod_of_invariant (fun shards year record hshards hyear hstep => ?_) hshards
      hyears hrun
    have hopenings := chainYear_openingsBalanced hshards hstep
    exact ⟨chainYear_closingsBalanced hyear hopenings hstep, hopenings⟩

end Chain

def tbOfLines (lines : List TrialBalanceLine) : TrialBalance :=
  ⟨"P", Date.ofYmd 2024 12 31, 2024, 12, "EUR", lines, (lines.map (·.debit_balance)).sum,
    (lines.map (·.credit_balance)).sum⟩

def dormantYear : ChainedYear where
  manifest := manifestOf (platformOf (hashOfTable seedDigests))
    (sampleConfig [sampleEntity "P" .parent none] [])
  prior_period_shards_dir := "prior"
  framework := "us_gaap"
  run_shards := fun openings code => (openings.find? code).map fun rows =>
    [tbOfLines (rows.map fun row => ⟨row.account_code, row.account_type, row.debit, row.credit⟩)]

theorem dormantYear_postsBalanced : dormantYear.PostsBalanced := by
  intro openings code tb htb
  cases hfind : openings.find? code with
  | none => simp [closingTb, dormantYear, hfind] at htb
  | some rows =>
      simp only [closingTb, dormantYear, hfind, Option.map_some, Option.bind_some, latestTb,
        List.foldl_cons, List.foldl_nil, Option.mem_some_iff] at htb
      simp [← htb, tbOfLines, closingImbalance, openingImbalance, Function.comp_def]

def profitableShards : ShardOutput := fun code =>
  if code = "P" then
    some [tbOfLines [⟨"1000", .asset, 150, 0⟩, ⟨"3200", .equity, 0, 100⟩,
      ⟨"4000", .revenue, 0, 80⟩, ⟨"6000", .expense, 30, 0⟩]]
  else none

theorem profitableShards_balanced : ClosingsBalanced profitableShards := by
  intro code tb htb
  simp only [closingTb, profitableShards] at htb
  split at htb
  · simp only [Option.bind_some, latestTb, List.foldl_cons, List.foldl_nil,
      Option.mem_some_iff] at htb
    rw [← htb]
    decide_cbv
  · simp at htb

theorem profit_is_carried_forward :
    ∃ records, runPeriods chainYear YearRecord.closings profitableShards
        [dormantYear, dormantYear] = .ok records ∧
      EveryPeriod YearRecord.closings CarriesClosings profitableShards [dormantYear, dormantYear]
        records ∧
      EveryPeriod YearRecord.closings (fun _ _ record => OpeningsBalanced record)
        profitableShards [dormantYear, dormantYear] records := by
  obtain ⟨records, hrun⟩ : ∃ records, runPeriods chainYear YearRecord.closings profitableShards
      [dormantYear, dormantYear] = .ok records := ⟨_, rfl⟩
  obtain ⟨hcarries, hbalanced⟩ := openings_carry_forward.2 _ _ _ hrun
  exact ⟨records, hrun, hcarries,
    hbalanced profitableShards_balanced (by simp [dormantYear_postsBalanced])⟩

end Datasynth.Group.MultiPeriod

/-!
The trial balance of an entity that each consumer of a shard's output takes for its
closing one: the carry-forward of the multi-period chain, the loader of the aggregate
phase, and its reader of a prior period.
-/

namespace Datasynth.Group.LatestTrialBalance

open Datasynth.Core.TrialBalances
open Datasynth.Group.Config
open Datasynth.Group.MultiPeriod
open Datasynth.Lib.CivilCalendar
open Datasynth.Lib.ExceptRuns
open Datasynth.Lib.LastMaximum
open Datasynth.Lib.SortedEntries

/-- Fiscal year, then fiscal period. -/
def fiscalKey (tb : TrialBalance) : Lex (ℤ × ℕ) := toLex (tb.fiscal_year, tb.fiscal_period)

def load_entity_trial_balance (entity_dir entity_label : String) (arr : List TrialBalance) :
    GroupResult TrialBalance :=
  match maxByKey fiscalKey arr with
  | none => .error <| .aggregate <|
      s!"load_entity_trial_balance: `{entity_label}` contains an empty trial-balance array " ++
        s!"at `{entity_dir}/period_close/trial_balances.json` — orchestrator should always " ++
        "emit at least one period-close TB"
  | some tb => .ok tb

def readClosingTb (prior_period_dir : String) (shards : ShardOutput)
    (out : OrderedMap String TrialBalance) (code : String) :
    GroupResult (OrderedMap String TrialBalance) :=
  match shards code with
  | none => .ok out
  | some tbs =>
      match maxByKey fiscalKey tbs with
      | none => .error <| .aggregate <|
          "read_prior_period_closing_tbs: `" ++ tbPath prior_period_dir code ++
            "` contains no trial balances"
      | some latest => .ok (out.insert code latest)

/-- The closing trial balances of a prior period, none when its directory is not there. -/
def read_prior_period_closing_tbs (prior_period_dir : String) (prior : Option ShardOutput)
    (entity_codes : List String) : GroupResult (OrderedMap String TrialBalance) :=
  match prior with
  | none => .ok OrderedMap.empty
  | some shards => foldRun (readClosingTb prior_period_dir shards) OrderedMap.empty entity_codes

/-- The three consumers agree on the latest trial balance of the entity. -/
structure SelectSame (shards : ShardOutput) (code : String) (tbs : List TrialBalance) : Prop where
  loader : ∀ dir label tb,
    load_entity_trial_balance dir label tbs = .ok tb ↔ closingTb shards code = some tb
  reader : ∀ dir codes out, code ∈ codes →
    read_prior_period_closing_tbs dir (some shards) codes = .ok out →
      out.find? code = closingTb shards code

/-- One of the trial balances is the last maximum of both keys. -/
def LatestBothWays (tbs : List TrialBalance) : Prop :=
  ∃ before tb after, tbs = before ++ tb :: after ∧
    (∀ earlier ∈ before, earlier.as_of_date ≤ tb.as_of_date ∧ fiscalKey earlier ≤ fiscalKey tb) ∧
    ∀ later ∈ after, later.as_of_date < tb.as_of_date ∧ fiscalKey later < fiscalKey tb

section Selection

variable {shards : ShardOutput} {code : String} {tbs : List TrialBalance}

theorem latestTb_eq_maxByKey (tbs : List TrialBalance) :
    latestTb tbs = maxByKey (·.as_of_date) tbs := by
  rw [latestTb, maxByKey]
  congr 1
  funext best tb
  cases best with
  | none => rfl
  | some latest => exact if_congr Iff.rfl rfl rfl

theorem load_entity_trial_balance_eq_ok_iff {dir label : String} {tb : TrialBalance} :
    load_entity_trial_balance dir label tbs = .ok tb ↔ maxByKey fiscalKey tbs = some tb := by
  rw [load_entity_trial_balance]
  cases maxByKey fiscalKey tbs <;> simp

theorem readClosingTb_eq_ok_iff {dir : String} {out out' : OrderedMap String TrialBalance} :
    readClosingTb dir shards out code = .ok out' ↔
      (shards code = none ∧ out = out') ∨
        ∃ tbs latest, shards code = some tbs ∧ maxByKey fiscalKey tbs = some latest ∧
          out.insert code latest = out' := by
  rw [readClosingTb]
  cases shards code with
  | none => simp
  | some tbs => cases hlatest : maxByKey fiscalKey tbs <;> simp [hlatest]

/-- A read leaves each code it is asked for with its latest trial balance. -/
theorem find?_of_foldRun_readClosingTb {dir : String} {codes : List String}
    {out out' : OrderedMap String TrialBalance}
    (h : foldRun (readClosingTb dir shards) out codes = .ok out') (htbs : shards code = some tbs)
    (hread : code ∈ codes ∨ out.find? code = maxByKey fiscalKey tbs) :
    out'.find? code = maxByKey fiscalKey tbs := by
  induction codes generalizing out with
  | nil =>
      cases h
      exact hread.resolve_left List.not_mem_nil
  | cons first codes ih =>
      obtain ⟨mid, hmid, hrest⟩ := bind_eq_ok_iff.mp h
      refine ih hrest ?_
      rcases readClosingTb_eq_ok_iff.mp hmid with ⟨hnone, rfl⟩ | ⟨tbs', latest, htbs', hlatest, rfl⟩
      · refine hread.imp (fun hmem => (List.mem_cons.mp hmem).resolve_left ?_) id
        rintro rfl
        rw [htbs] at hnone
        cases hnone
      · by_cases hcode : code = first
        · right
          cases hcode
          cases htbs.symm.trans htbs'
          rw [OrderedMap.find?_insert, if_pos rfl, hlatest]
        · refine hread.imp (fun hmem => (List.mem_cons.mp hmem).resolve_left hcode) ?_
          intro hfind
          rw [OrderedMap.find?_insert, if_neg hcode, hfind]

/-- The consumers agree exactly when the two keys have their maximum at one place. -/
theorem maxByKey_agree_iff : maxByKey fiscalKey tbs = latestTb tbs ↔
    tbs = [] ∨ LatestBothWays tbs := by
  rw [latestTb_eq_maxByKey]
  constructor
  · intro hagree
    cases hlatest : maxByKey fiscalKey tbs with
    | none => exact .inl (maxByKey_eq_none_iff.mp hlatest)
    | some tb =>
        right
        obtain ⟨before, after, hsplit, hbefore, hafter⟩ :=
          (maxByKey_eq_some_iff.mp (hagree.symm.trans hlatest)).split_of_both
            (maxByKey_eq_some_iff.mp hlatest)
        exact ⟨before, tb, after, hsplit, hbefore, hafter⟩
  · rintro (rfl | ⟨before, tb, after, hsplit, hbefore, hafter⟩)
    · rfl
    · have hfiscal : maxByKey fiscalKey tbs = some tb := maxByKey_eq_some_iff.mpr
        ⟨before, after, hsplit, fun b hb => (hbefore b hb).2, fun b hb => (hafter b hb).2⟩
      have hdate : maxByKey (·.as_of_date) tbs = some tb := maxByKey_eq_some_iff.mpr
        ⟨before, after, hsplit, fun b hb => (hbefore b hb).1, fun b hb => (hafter b hb).1⟩
      rw [hfiscal, hdate]

end Selection

/-- What is latest by date and what is latest by fiscal period are chosen separately. -/
theorem selectSame_iff (shards : ShardOutput) (code : String) :
    (∀ tbs, shards code = some tbs → SelectSame shards code tbs) ↔
      ∀ tbs, shards code = some tbs → tbs = [] ∨ LatestBothWays tbs := by
  refine forall_congr' fun tbs => forall_congr' fun htbs => ?_
  have hclosing : closingTb shards code = latestTb tbs := by rw [closingTb, htbs, Option.bind_some]
  rw [← maxByKey_agree_iff]
  constructor
  · intro hsame
    have hloader := hsame.loader "" ""
    simp only [load_entity_trial_balance_eq_ok_iff, hclosing] at hloader
    exact Option.ext hloader
  · intro hagree
    refine ⟨fun dir label tb => ?_, fun dir codes out hcode hread => ?_⟩
    · rw [load_entity_trial_balance_eq_ok_iff, hclosing, hagree]
    · rw [find?_of_foldRun_readClosingTb hread htbs (.inl hcode), hclosing, hagree]

def adjustedYear : ShardOutput := fun code =>
  if code = "P" then
    some [{ tbOfLines [] with fiscal_period := 13 }, tbOfLines []]
  else none

/-- The chain carries the twelfth period forward and the aggregate consolidates the
thirteenth. -/
theorem adjustment_period_is_not_carried_forward :
    ¬ ∀ tbs, adjustedYear "P" = some tbs → SelectSame adjustedYear "P" tbs := by
  intro hsame
  have hloader := (hsame _ rfl).loader "" "" { tbOfLines [] with fiscal_period := 13 }
  exact absurd (hloader.mp (by decide)) (by decide)

end Datasynth.Group.LatestTrialBalance
