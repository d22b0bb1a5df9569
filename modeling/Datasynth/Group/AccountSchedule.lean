import Datasynth.Group.EntityAggregation
import Datasynth.Group.MultiPeriod

/-!
The consolidation schedule: what each entity contributes to an account, next to the
account's totals before and after eliminations.
-/

namespace Datasynth.Group.AccountSchedule

open Datasynth.Core.TrialBalances
open Datasynth.Group.Config
open Datasynth.Group.EntityAggregation
open Datasynth.Group.LatestTrialBalance
open Datasynth.Group.ManifestBuilder
open Datasynth.Group.MultiPeriod
open Datasynth.Group.PreElimination
open Datasynth.Lib.CivilCalendar
open Datasynth.Lib.ExceptRuns
open Datasynth.Lib.LastMaximum
open Datasynth.Lib.SortedEntries

def account_category_label (code : String) : String :=
  match parse_u32 code with
  | none => "Other"
  | some n =>
      if 1000 ≤ n ∧ n ≤ 1999 then "Asset"
      else if 2000 ≤ n ∧ n ≤ 2999 then "Liability"
      else if 3000 ≤ n ∧ n ≤ 3999 then "Equity"
      else if 4000 ≤ n ∧ n ≤ 4999 then "Revenue"
      else if 5000 ≤ n ∧ n ≤ 6999 then "Expense"
      else if 7000 ≤ n ∧ n ≤ 7999 then "Other Income/Expense"
      else if 8000 ≤ n ∧ n ≤ 8999 then "Tax"
      else if 9000 ≤ n ∧ n ≤ 9999 then "Suspense"
      else "Other"

structure ScheduleLine where
  account_category : String
  account_code : String
  entity_amounts : OrderedMap String ℚ
  pre_elimination_total : ℚ
  elimination_adjustments : ℚ
  post_elimination_total : ℚ

structure ConsolidationSchedule where
  group_id : String
  as_of_date : Date
  currency : String
  lines : List ScheduleLine

abbrev EntityContributions := OrderedMap String (OrderedMap String ℚ)

def netBalance (line : TrialBalanceLine) : ℚ := line.debit_balance - line.credit_balance

def contributeLine (entity_code : String) (entity_contributions : EntityContributions)
    (line : TrialBalanceLine) : EntityContributions :=
  entity_contributions.upsert line.account_code fun existing =>
    (existing.getD OrderedMap.empty).insert entity_code (netBalance line)

def contributeTb (entity_contributions : EntityContributions) (entity_code : String)
    (tb : TrialBalance) : EntityContributions :=
  tb.lines.foldl (contributeLine entity_code) entity_contributions

def netBalanceOn (tb : AggregatedTb) (code : String) : ℚ :=
  (tb.account_totals.find? code).elim 0 (·.net_balance)

def unionCodes (pre_elim_tb post_elim_tb : AggregatedTb) : List String :=
  (OrderedMap.ofList ((pre_elim_tb.account_totals.keys ++ post_elim_tb.account_totals.keys).map
    fun code => (code, ()))).keys

def scheduleLine (pre_elim_tb post_elim_tb : AggregatedTb)
    (entity_contributions : EntityContributions) (code : String) : ScheduleLine where
  account_category := account_category_label code
  account_code := code
  entity_amounts := (entity_contributions.find? code).getD OrderedMap.empty
  pre_elimination_total := netBalanceOn pre_elim_tb code
  elimination_adjustments := netBalanceOn post_elim_tb code - netBalanceOn pre_elim_tb code
  post_elimination_total := netBalanceOn post_elim_tb code

def build_consolidation_schedule_with_contributions (pre_elim_tb post_elim_tb : AggregatedTb)
    (entity_contributions : EntityContributions) (group_id : String) (as_of_date : Date) :
    ConsolidationSchedule where
  group_id := group_id
  as_of_date := as_of_date
  currency := pre_elim_tb.currency
  lines := ((unionCodes pre_elim_tb post_elim_tb).map
    (scheduleLine pre_elim_tb post_elim_tb entity_contributions)).insertionSort fun a b =>
      a.account_code ≤ b.account_code

def contributionsOf (entity_tbs : List (String × TrialBalance)) : EntityContributions :=
  entity_tbs.foldl (fun entity_contributions e => contributeTb entity_contributions e.1 e.2)
    OrderedMap.empty

def build_consolidation_schedule (pre_elim_tb post_elim_tb : AggregatedTb)
    (entity_tbs : List (String × TrialBalance)) (group_id : String) (as_of_date : Date) :
    ConsolidationSchedule :=
  build_consolidation_schedule_with_contributions pre_elim_tb post_elim_tb
    (contributionsOf entity_tbs) group_id as_of_date

/-- What the walk over the entities collects for the aggregate and the schedule. -/
structure StreamingWalkOutcome where
  pre_elim : AggregatedTb
  entity_contributions : EntityContributions
  deferred_tbs : List (String × TrialBalance)
  entities_missing : List String

def walkEntity (manifest : GroupManifest) (shards_dir : String) (shards : ShardOutput)
    (tolerate_missing_shards : Bool) (st : StreamingWalkOutcome) (entity : ManifestEntity) :
    GroupResult StreamingWalkOutcome :=
  match shards entity.code with
  | none =>
      if tolerate_missing_shards then
        .ok { st with entities_missing := st.entities_missing ++ [entity.code] }
      else
        .error <| .aggregate <|
          s!"run_aggregate: missing shard archive for `{entity.code}` at `" ++
            tbPath shards_dir entity.code ++ "`"
  | some tbs =>
      (load_entity_trial_balance s!"{shards_dir}/entities/{entity.code}" entity.code tbs).bind
        fun tb =>
          (accumulate_entity_into_aggregate st.pre_elim manifest entity.code tb).bind
            fun pre_elim =>
              match entity.consolidation_method with
              | .parent | .full =>
                  .ok { st with
                    pre_elim
                    entity_contributions :=
                      contributeTb st.entity_contributions entity.code tb }
              | .equityMethod | .proportional | .fairValue =>
                  .ok { st with
                    pre_elim
                    deferred_tbs := st.deferred_tbs ++ [(entity.code, tb)] }

def walk_aggregate_streaming (manifest : GroupManifest) (shards_dir : String)
    (shards : ShardOutput) (tolerate_missing_shards : Bool) : GroupResult StreamingWalkOutcome :=
  (foldRun (walkEntity manifest shards_dir shards tolerate_missing_shards)
    ⟨empty_aggregate manifest, OrderedMap.empty, [], []⟩ manifest.ownership_graph.entities).bind
      fun st => .ok { st with
        entities_missing := st.entities_missing.insertionSort (· ≤ ·)
        pre_elim := finalise_streaming_aggregate st.pre_elim }

def loadedTbs (shards : ShardOutput) (entities : List ManifestEntity) :
    List (String × TrialBalance) :=
  entities.filterMap fun entity =>
    ((shards entity.code).bind (maxByKey fiscalKey)).map fun tb => (entity.code, tb)

/-- Every account's contributions make up its total, and the adjustments lead from the
total before eliminations to the one after. -/
def Reconciles (schedule : ConsolidationSchedule) : Prop :=
  ∀ line ∈ schedule.lines,
    line.entity_amounts.sumOver (fun _ amount => amount) = line.pre_elimination_total ∧
      line.pre_elimination_total + line.elimination_adjustments = line.post_elimination_total

/-- The lines on an account that another line of the same trial balance follows. -/
def overwrittenOn (code : String) (tb : TrialBalance) : List TrialBalanceLine :=
  (linesOn code tb.lines).dropLast

/-- On every account the overwritten lines of all entities net to zero. -/
def OverwrittenNetToZero (entity_tbs : List (String × TrialBalance)) : Prop :=
  ∀ code, (entity_tbs.map fun e => ((overwrittenOn code e.2).map netBalance).sum).sum = 0

section Contributions

def amountsOn (entity_contributions : EntityContributions) (code : String) : OrderedMap String ℚ :=
  (entity_contributions.find? code).getD OrderedMap.empty

/-- The amount an entity shows for an account: the net balance of its last line. -/
def lastOn (code : String) (tb : TrialBalance) : Option ℚ :=
  (linesOn code tb.lines).getLast?.map netBalance

theorem amountsOn_contributeTb (entity_contributions : EntityContributions)
    (entity_code : String) (tb : TrialBalance) (code : String) :
    amountsOn (contributeTb entity_contributions entity_code tb) code =
      (lastOn code tb).elim (amountsOn entity_contributions code) fun amount =>
        (amountsOn entity_contributions code).insert entity_code amount := by
  have hfold : ∀ (lines : List TrialBalanceLine) (contributions : EntityContributions),
      amountsOn (lines.foldl (contributeLine entity_code) contributions) code =
        ((linesOn code lines).map netBalance).foldl
          (fun amounts amount => amounts.insert entity_code amount)
          (amountsOn contributions code) := by
    intro lines
    induction lines with
    | nil => exact fun _ => rfl
    | cons line lines ih =>
        intro contributions
        rw [List.foldl_cons, ih]
        by_cases hcode : line.account_code = code
        · simp [linesOn, hcode, contributeLine, amountsOn]
        · simp [linesOn, hcode, contributeLine, amountsOn,
            OrderedMap.find?_upsert_ne _ (Ne.symm hcode)]
  rw [contributeTb, hfold, OrderedMap.foldl_insert_self, List.getLast?_map, lastOn]

/-- Each entity adds the amount of its last line, and nothing else. -/
theorem sumOver_amountsOn_foldl (entity_tbs : List (String × TrialBalance)) (code : String)
    {entity_contributions : EntityContributions} (hcodes : (entity_tbs.map Prod.fst).Nodup)
    (hnew : ∀ e ∈ entity_tbs, (amountsOn entity_contributions code).find? e.1 = none) :
    (amountsOn (entity_tbs.foldl (fun contributions e => contributeTb contributions e.1 e.2)
        entity_contributions) code).sumOver (fun _ amount => amount) =
      (amountsOn entity_contributions code).sumOver (fun _ amount => amount) +
        (entity_tbs.map fun e => (lastOn code e.2).getD 0).sum := by
  induction entity_tbs generalizing entity_contributions with
  | nil => simp
  | cons e entity_tbs ih =>
      obtain ⟨hhead, htail⟩ := List.nodup_cons.mp hcodes
      obtain ⟨hnewHead, hnewTail⟩ := List.forall_mem_cons.mp hnew
      rw [List.foldl_cons, ih htail, amountsOn_contributeTb, List.map_cons, List.sum_cons,
        ← add_assoc]
      · congr 1
        cases lastOn code e.2 with
        | none => simp
        | some amount =>
            rw [Option.elim_some, OrderedMap.insert, OrderedMap.sumOver_upsert, hnewHead]
            simp
      · intro e' he'
        rw [amountsOn_contributeTb]
        cases lastOn code e.2 with
        | none => exact hnewTail e' he'
        | some amount =>
            rw [Option.elim_some, OrderedMap.find?_insert, if_neg, hnewTail e' he']
            intro hcode
            exact hhead (List.mem_map.mpr ⟨e', he', hcode⟩)

end Contributions

section Walk

variable {manifest : GroupManifest} {shards_dir : String} {shards : ShardOutput}
  {tolerate_missing_shards : Bool} {st st' : StreamingWalkOutcome}

/-- An entity without a trial balance is passed over; the latest one of any other entity
is aggregated, and its contributions are collected when it is summed. -/
theorem walkEntity_cases {entity : ManifestEntity}
    (h : walkEntity manifest shards_dir shards tolerate_missing_shards st entity = .ok st') :
    ((shards entity.code).bind (maxByKey fiscalKey) = none ∧ st'.pre_elim = st.pre_elim ∧
      st'.entity_contributions = st.entity_contributions) ∨
    ∃ tb, (shards entity.code).bind (maxByKey fiscalKey) = some tb ∧
      accumulate_entity_into_aggregate st.pre_elim manifest entity.code tb = .ok st'.pre_elim ∧
      st'.entity_contributions =
        if contributes entity.consolidation_method then
          contributeTb st.entity_contributions entity.code tb
        else st.entity_contributions := by
  rw [walkEntity] at h
  cases hshard : shards entity.code with
  | none =>
      rw [hshard] at h
      simp only at h
      split at h
      · cases h
        exact .inl ⟨rfl, rfl, rfl⟩
      · cases h
  | some tbs =>
      rw [hshard] at h
      obtain ⟨tb, htb, h⟩ := bind_eq_ok_iff.mp h
      obtain ⟨pre_elim, hpre, h⟩ := bind_eq_ok_iff.mp h
      refine .inr ⟨tb, load_entity_trial_balance_eq_ok_iff.mp htb, ?_⟩
      cases hkind : entity.consolidation_method <;> rw [hkind] at h <;> cases h
      all_goals exact ⟨hpre, rfl⟩

/-- The walk aggregates what it loads and collects the contributions of what it sums. -/
theorem foldRun_walkEntity {entities : List ManifestEntity}
    (hmethods : ∀ entity ∈ entities,
      methodOf manifest entity.code = some entity.consolidation_method)
    (h : foldRun (walkEntity manifest shards_dir shards tolerate_missing_shards) st entities =
      .ok st') :
    foldRun (fun agg (e : String × TrialBalance) =>
        accumulate_entity_into_aggregate agg manifest e.1 e.2) st.pre_elim
        (loadedTbs shards entities) = .ok st'.pre_elim ∧
      st'.entity_contributions = (contributing manifest (loadedTbs shards entities)).foldl
        (fun contributions e => contributeTb contributions e.1 e.2) st.entity_contributions := by
  induction entities generalizing st with
  | nil =>
      cases h
      exact ⟨rfl, rfl⟩
  | cons entity entities ih =>
      obtain ⟨hmethod, hmethods⟩ := List.forall_mem_cons.mp hmethods
      obtain ⟨mid, hmid, hrest⟩ := bind_eq_ok_iff.mp h
      obtain ⟨hpre, hcontributions⟩ := ih hmethods hrest
      rcases walkEntity_cases hmid with ⟨hnone, hpreMid, hcontributed⟩ |
        ⟨tb, hlatest, hpreMid, hcontributed⟩
      · have hloaded : loadedTbs shards (entity :: entities) = loadedTbs shards entities := by
          rw [loadedTbs, List.filterMap_cons, hnone]
          rfl
        rw [hloaded, ← hpreMid, ← hcontributed]
        exact ⟨hpre, hcontributions⟩
      · have hloaded : loadedTbs shards (entity :: entities) =
            (entity.code, tb) :: loadedTbs shards entities := by
          rw [loadedTbs, List.filterMap_cons, hlatest]
          rfl
        rw [hloaded]
        refine ⟨bind_eq_ok_iff.mpr ⟨mid.pre_elim, hpreMid, hpre⟩, ?_⟩
        have hsummed : contributing manifest ((entity.code, tb) :: loadedTbs shards entities) =
            if contributes entity.consolidation_method then
              (entity.code, tb) :: contributing manifest (loadedTbs shards entities)
            else contributing manifest (loadedTbs shards entities) := by
          rw [contributing, List.filter_cons, hmethod]
          rfl
        rw [hcontributions, hcontributed, hsummed]
        split
        · rfl
        · rfl

theorem methodOf_of_mem (hcodes : (manifest.ownership_graph.entities.map (·.code)).Nodup)
    {entity : ManifestEntity} (hentity : entity ∈ manifest.ownership_graph.entities) :
    methodOf manifest entity.code = some entity.consolidation_method := by
  rw [methodOf]
  cases hfind : manifest.ownership_graph.entities.find? (·.code = entity.code) with
  | none => simpa using List.find?_eq_none.mp hfind entity hentity
  | some found =>
      have hcode : found.code = entity.code := by simpa using List.find?_some hfind
      rw [List.inj_on_of_nodup_map hcodes (List.mem_of_find?_eq_some hfind) hentity hcode]
      rfl

theorem map_fst_loadedTbs_sublist (entities : List ManifestEntity) :
    ((loadedTbs shards entities).map Prod.fst).Sublist (entities.map (·.code)) := by
  induction entities with
  | nil => exact List.Sublist.refl _
  | cons entity entities ih =>
      rw [loadedTbs, List.filterMap_cons, List.map_cons]
      cases ((shards entity.code).bind (maxByKey fiscalKey)) with
      | none => exact ih.cons _
      | some tb => exact ih.cons_cons _

/-- What the walk hands on: the aggregate and the contributions of the loaded entities. -/
theorem walk_aggregate_streaming_eq
    (hcodes : (manifest.ownership_graph.entities.map (·.code)).Nodup)
    {outcome : StreamingWalkOutcome}
    (h : walk_aggregate_streaming manifest shards_dir shards tolerate_missing_shards =
      .ok outcome) :
    aggregate_pre_elimination manifest (loadedTbs shards manifest.ownership_graph.entities) =
        .ok outcome.pre_elim ∧
      outcome.entity_contributions = contributionsOf
        (contributing manifest (loadedTbs shards manifest.ownership_graph.entities)) := by
  obtain ⟨st, hst, heq⟩ := bind_eq_ok_iff.mp h
  cases heq
  obtain ⟨hpre, hcontributions⟩ :=
    foldRun_walkEntity (fun _ hentity => methodOf_of_mem hcodes hentity) hst
  obtain ⟨hknown, hpre⟩ := foldRun_accumulate_entity_eq_ok_iff.mp hpre
  refine ⟨aggregate_pre_elimination_eq_ok_iff.mpr ⟨hknown, ?_⟩, hcontributions⟩
  rw [← hpre]
  rfl

/-- The streamed contributions give the schedule of the trial balances held together. -/
theorem schedule_of_walk (hcodes : (manifest.ownership_graph.entities.map (·.code)).Nodup)
    {outcome : StreamingWalkOutcome}
    (h : walk_aggregate_streaming manifest shards_dir shards tolerate_missing_shards =
      .ok outcome) (post_elim_tb : AggregatedTb) (group_id : String) (as_of_date : Date) :
    build_consolidation_schedule_with_contributions outcome.pre_elim post_elim_tb
        outcome.entity_contributions group_id as_of_date =
      build_consolidation_schedule outcome.pre_elim post_elim_tb
        (contributing manifest (loadedTbs shards manifest.ownership_graph.entities)) group_id
        as_of_date := by
  rw [(walk_aggregate_streaming_eq hcodes h).2]
  rfl

end Walk

section Totals

variable {manifest : GroupManifest} {entity_tbs : List (String × TrialBalance)}

theorem touches_net (code : String) (tbs : List TrialBalance) :
    ((touchesOf code tbs).map (·.debits)).sum - ((touchesOf code tbs).map (·.credits)).sum =
      (tbs.map fun tb => ((linesOn code tb.lines).map netBalance).sum).sum := by
  have hnet : ∀ lines : List TrialBalanceLine,
      debitsOf lines - creditsOf lines = (lines.map netBalance).sum := by
    intro lines
    induction lines with
    | nil => simp [debitsOf, creditsOf]
    | cons line lines ih =>
        rw [List.map_cons, List.sum_cons, ← ih]
        simp only [debitsOf, creditsOf, List.map_cons, List.sum_cons, netBalance]
        ring
  induction tbs with
  | nil => simp [touchesOf]
  | cons tb tbs ih =>
      rw [List.map_cons, List.sum_cons, ← ih, ← hnet, touchesOf, List.filterMap_cons, touchOf]
      cases linesOn code tb.lines with
      | nil => simp [touchesOf, debitsOf, creditsOf]
      | cons first rest =>
          simp only [touchesOf, List.map_cons, List.sum_cons]
          ring

/-- The total of an account counts every line on it. -/
theorem netBalanceOn_aggregateOf (code : String) :
    netBalanceOn (sortEntities (aggregateOf manifest (empty_aggregate manifest) entity_tbs))
        code =
      ((contributing manifest entity_tbs).map fun e =>
        ((linesOn code e.2.lines).map netBalance).sum).sum := by
  have hnet := touches_net code ((contributing manifest entity_tbs).map Prod.snd)
  rw [List.map_map] at hnet
  rw [netBalanceOn, sortEntities, find?_aggregateOf]
  refine Eq.trans ?_ hnet
  cases touchesOf code ((contributing manifest entity_tbs).map Prod.snd) with
  | nil => simp [aggregatedAccount]
  | cons first rest => simp [aggregatedAccount, absorb, AggregatedAccount.fresh]

theorem linesOn_of_find?_eq_none {code : String}
    (h : (aggregateOf manifest (empty_aggregate manifest) entity_tbs).account_totals.find? code =
      none) {e : String × TrialBalance} (he : e ∈ contributing manifest entity_tbs) :
    linesOn code e.2.lines = [] := by
  rw [find?_aggregateOf] at h
  cases htouches : touchesOf code ((contributing manifest entity_tbs).map Prod.snd) with
  | cons first rest =>
      rw [htouches] at h
      cases h
  | nil =>
      have htouch := List.filterMap_eq_nil_iff.mp htouches e.2 (List.mem_map_of_mem he)
      rw [touchOf] at htouch
      cases hlines : linesOn code e.2.lines with
      | nil => rfl
      | cons first rest =>
          rw [hlines] at htouch
          cases htouch

/-- A contribution leaves out the overwritten lines. -/
theorem sum_linesOn (code : String) (tb : TrialBalance) :
    ((linesOn code tb.lines).map netBalance).sum =
      ((overwrittenOn code tb).map netBalance).sum + (lastOn code tb).getD 0 := by
  rw [overwrittenOn, lastOn]
  cases hlast : (linesOn code tb.lines).getLast? with
  | none => simp [List.getLast?_eq_none_iff.mp hlast]
  | some last =>
      obtain ⟨before, hbefore⟩ := List.getLast?_eq_some_iff.mp hlast
      simp [hbefore]

end Totals

section Schedule

variable {pre_elim_tb post_elim_tb : AggregatedTb} {entity_contributions : EntityContributions}
  {group_id : String} {as_of_date : Date}

theorem mem_unionCodes {code : String} :
    code ∈ unionCodes pre_elim_tb post_elim_tb ↔
      (pre_elim_tb.account_totals.find? code).isSome ∨
        (post_elim_tb.account_totals.find? code).isSome := by
  rw [unionCodes, OrderedMap.mem_keys_iff, OrderedMap.find?_ofList, Option.isSome_map,
    List.find?_isSome]
  simp [OrderedMap.mem_keys_iff, or_comm]

theorem reconciles_iff :
    Reconciles (build_consolidation_schedule_with_contributions pre_elim_tb post_elim_tb
        entity_contributions group_id as_of_date) ↔
      ∀ code ∈ unionCodes pre_elim_tb post_elim_tb,
        (amountsOn entity_contributions code).sumOver (fun _ amount => amount) =
          netBalanceOn pre_elim_tb code := by
  rw [Reconciles, build_consolidation_schedule_with_contributions]
  simp only [(List.perm_insertionSort _ _).mem_iff, List.forall_mem_map]
  refine forall₂_congr fun code _ => and_iff_left ?_
  simp [scheduleLine]

end Schedule

/-- The schedule keeps the last line of an entity on an account where the aggregate adds
them all. -/
theorem schedule_reconciles_iff {σ ρ : Type} (platform : Platform σ ρ) {cfg : GroupConfig ρ}
    {manifest : GroupManifest} (hbuild : build_manifest platform cfg = .ok manifest)
    {shards_dir : String} {shards : ShardOutput} {tolerate_missing_shards : Bool}
    {outcome : StreamingWalkOutcome}
    (hwalk : walk_aggregate_streaming manifest shards_dir shards tolerate_missing_shards =
      .ok outcome) (post_elim_tb : AggregatedTb) (group_id : String) (as_of_date : Date) :
    Reconciles (build_consolidation_schedule_with_contributions outcome.pre_elim post_elim_tb
        outcome.entity_contributions group_id as_of_date) ↔
      OverwrittenNetToZero (contributing manifest
        (loadedTbs shards manifest.ownership_graph.entities)) := by
  have hcodes := entity_codes_nodup_of_build_manifest platform hbuild
  obtain ⟨-, hpre⟩ := aggregate_pre_elimination_eq_ok_iff.mp
    (walk_aggregate_streaming_eq hcodes hwalk).1
  rw [schedule_of_walk hcodes hwalk, build_consolidation_schedule, reconciles_iff, hpre]
  set summed := contributing manifest (loadedTbs shards manifest.ownership_graph.entities)
    with hsummed
  have hsummedCodes : (summed.map Prod.fst).Nodup :=
    ((List.filter_sublist.map _).trans (map_fst_loadedTbs_sublist _)).nodup hcodes
  have hdiffer : ∀ code,
      (amountsOn (contributionsOf summed) code).sumOver (fun _ amount => amount) =
        netBalanceOn (sortEntities (aggregateOf manifest (empty_aggregate manifest)
          (loadedTbs shards manifest.ownership_graph.entities))) code ↔
      (summed.map fun e => ((overwrittenOn code e.2).map netBalance).sum).sum = 0 := by
    intro code
    rw [contributionsOf, sumOver_amountsOn_foldl summed code hsummedCodes fun _ _ => rfl,
      netBalanceOn_aggregateOf, ← hsummed]
    simp only [sum_linesOn, List.sum_map_add]
    rw [show (amountsOn OrderedMap.empty code).sumOver (fun _ amount => amount) = 0 from rfl,
      zero_add, eq_comm, add_eq_right]
  simp only [hdiffer, OverwrittenNetToZero]
  refine ⟨fun h code => ?_, fun h code _ => h code⟩
  by_cases hpresent : code ∈ unionCodes (sortEntities (aggregateOf manifest
      (empty_aggregate manifest) (loadedTbs shards manifest.ownership_graph.entities)))
      post_elim_tb
  · exact h code hpresent
  · have habsent : (aggregateOf manifest (empty_aggregate manifest)
        (loadedTbs shards manifest.ownership_graph.entities)).account_totals.find? code = none :=
      Option.not_isSome_iff_eq_none.mp fun hsome => hpresent (mem_unionCodes.mpr (.inl hsome))
    refine List.sum_eq_zero fun x hx => ?_
    obtain ⟨e, he, rfl⟩ := List.mem_map.mp hx
    rw [overwrittenOn, linesOn_of_find?_eq_none habsent he]
    rfl

def parentConfig : GroupConfig Unit := sampleConfig [sampleEntity "P" .parent none] []

def parentPlatform : Platform Unit Unit := platformOf (hashOfTable seedDigests)

def parentManifest : GroupManifest := manifestOf parentPlatform parentConfig

def shardsWithLines (lines : List TrialBalanceLine) : ShardOutput := fun code =>
  if code = "P" then some [tbWithLines "P" lines] else none

theorem one_line_per_account_reconciles :
    ∃ outcome, walk_aggregate_streaming parentManifest "shards"
        (shardsWithLines [⟨"1000", .asset, 150, 0⟩, ⟨"3200", .equity, 0, 150⟩]) false =
          .ok outcome ∧
      Reconciles (build_consolidation_schedule_with_contributions outcome.pre_elim
        outcome.pre_elim outcome.entity_contributions "GROUP" (Date.ofYmd 2024 12 31)) := by
  obtain ⟨outcome, hwalk⟩ : ∃ outcome, walk_aggregate_streaming parentManifest "shards"
      (shardsWithLines [⟨"1000", .asset, 150, 0⟩, ⟨"3200", .equity, 0, 150⟩]) false =
        .ok outcome := ⟨_, rfl⟩
  refine ⟨outcome, hwalk, ?_⟩
  have hbuild : build_manifest parentPlatform parentConfig = .ok parentManifest :=
    manifestOf_eq (by decide)
  refine (schedule_reconciles_iff parentPlatform hbuild hwalk _ _ _).mpr ?_
  intro code
  have hloaded : contributing parentManifest (loadedTbs (shardsWithLines
      [⟨"1000", .asset, 150, 0⟩, ⟨"3200", .equity, 0, 150⟩])
        parentManifest.ownership_graph.entities) =
      [("P", tbWithLines "P" [⟨"1000", .asset, 150, 0⟩, ⟨"3200", .equity, 0, 150⟩])] := by
    decide +kernel
  rw [hloaded]
  by_cases hcash : code = "1000"
  · subst hcash
    decide +kernel
  · by_cases hequity : code = "3200"
    · subst hequity
      decide +kernel
    · simp [overwrittenOn, linesOn, tbWithLines, Ne.symm hcash, Ne.symm hequity]

/-- Two balances on one cash account contribute only the second. -/
theorem second_line_replaces_first :
    ∃ manifest outcome, build_manifest parentPlatform parentConfig = .ok manifest ∧
      walk_aggregate_streaming manifest "shards"
        (shardsWithLines [⟨"1000", .asset, 100, 0⟩, ⟨"1000", .asset, 50, 0⟩]) false =
          .ok outcome ∧
      ¬ Reconciles (build_consolidation_schedule_with_contributions outcome.pre_elim
        outcome.pre_elim outcome.entity_contributions "GROUP" (Date.ofYmd 2024 12 31)) := by
  refine ⟨parentManifest, _, manifestOf_eq (by decide), rfl, ?_⟩
  rw [reconciles_iff]
  intro h
  exact absurd (h "1000" (by decide +kernel)) (by decide +kernel)

end Datasynth.Group.AccountSchedule
