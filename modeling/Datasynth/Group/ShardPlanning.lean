import Datasynth.Group.OwnershipExpansion
import Datasynth.Lib.Grouping
import Mathlib.Data.List.Nodup
import Mathlib.Data.List.Perm.Lattice
import Mathlib.Data.List.Sort

/-!
Assignment of entities to shards: entities are grouped by scoping profile, sorted
by code and packed next-fit into shards that are numbered within the profile.
-/

namespace Datasynth.Group.ShardPlanning

open Datasynth.Group.Config
open Datasynth.Group.OwnershipExpansion
open Datasynth.Lib.DecimalText
open Datasynth.Lib.Grouping
open Datasynth.Lib.NextFitPacking
open Datasynth.Lib.SortedEntries

def MAX_ROWS_PER_SHARD : ℕ := 10000000000

def BYTES_PER_ROW_ESTIMATE : ℕ := 800

def FALLBACK_ROW_BUDGET : ℕ := 1000000

def BYTES_PER_MB : ℕ := 1000000

def u64Max : ℕ := 2 ^ 64 - 1

def saturating_add (a b : ℕ) : ℕ := min (a + b) u64Max

def saturating_mul (a b : ℕ) : ℕ := min (a * b) u64Max

structure ShardAssignment where
  shard_id : String
  scoping_profile : String
  entity_codes : List String
  estimated_rows : ℕ
  estimated_archive_size_mb : ℕ
deriving DecidableEq, Repr

structure ShardPlan where
  shards : List ShardAssignment
deriving DecidableEq, Repr

def profile_initial (profile : String) : String :=
  match profile with
  | "significant" => "SIG"
  | "material" => "MAT"
  | "consolidation_only" => "CON"
  | other =>
      let letters := ((other.toList.filter Char.isAlpha).take 3).map Char.toUpper
      if letters = [] then "UNK"
      else String.ofList (letters ++ List.replicate (3 - letters.length) 'X')

def read_row_budget (scoping_profiles : OrderedMap String ScopingProfile) (profile : String) : ℕ :=
  ((scoping_profiles.find? profile).bind (·.row_budget)).getD FALLBACK_ROW_BUDGET

def shardId (initial : String) (index : ℕ) : String :=
  "S_" ++ initial ++ "_" ++ padded 4 index

def make_shard (initial : String) (index : ℕ) (profile : String) (entity_codes : List String)
    (estimated_rows : ℕ) : ShardAssignment where
  shard_id := shardId initial index
  scoping_profile := profile
  entity_codes := entity_codes
  estimated_rows := estimated_rows
  estimated_archive_size_mb := saturating_mul estimated_rows BYTES_PER_ROW_ESTIMATE / BYTES_PER_MB

/-- The state of the batching loop within one profile.  The index is 32 bits wide. -/
structure Batch where
  shards : List ShardAssignment
  shard_index : ℕ
  current_codes : List String
  current_rows : ℕ

def Batch.flush (initial profile : String) (batch : Batch) : Batch where
  shards := batch.shards ++
    [make_shard initial batch.shard_index profile batch.current_codes batch.current_rows]
  shard_index := (batch.shard_index + 1) % 2 ^ 32
  current_codes := []
  current_rows := 0

/-- The shards once the loop is over: what is still open is flushed. -/
def Batch.close (initial profile : String) (batch : Batch) : List ShardAssignment :=
  if batch.current_codes.isEmpty then batch.shards else (batch.flush initial profile).shards

/-- The row budget of an entity whose profile grants `row_budget_per_entity`. -/
def entityRows (row_budget_per_entity : ℕ) (entity : ExpandedEntity) : ℕ :=
  entity.rows.getD row_budget_per_entity

def batchEntity (initial profile : String) (row_budget_per_entity : ℕ) (batch : Batch)
    (entity : ExpandedEntity) : Batch :=
  let entity_rows := entityRows row_budget_per_entity entity
  let batch :=
    if !batch.current_codes.isEmpty &&
        MAX_ROWS_PER_SHARD < saturating_add batch.current_rows entity_rows then
      batch.flush initial profile
    else batch
  { batch with
    current_codes := batch.current_codes ++ [entity.code]
    current_rows := saturating_add batch.current_rows entity_rows }

def sortByCode (entities : List ExpandedEntity) : List ExpandedEntity :=
  entities.insertionSort fun a b => a.code ≤ b.code

def batchProfile (scoping_profiles : OrderedMap String ScopingProfile)
    (shards : List ShardAssignment) (group : String × List ExpandedEntity) :
    List ShardAssignment :=
  let (profile, profile_ents) := group
  let initial := profile_initial profile
  let row_budget_per_entity := read_row_budget scoping_profiles profile
  (profile_ents.foldl (batchEntity initial profile row_budget_per_entity)
    ⟨shards, 1, [], 0⟩).close initial profile

def profileEntities (entities : List ExpandedEntity) : List (String × List ExpandedEntity) :=
  (groupBy (·.scoping_profile) entities).entries.map fun group => (group.1, sortByCode group.2)

def build_shard_plan (entities : List ExpandedEntity)
    (scoping_profiles : OrderedMap String ScopingProfile) : GroupResult ShardPlan :=
  .ok ⟨(profileEntities entities).foldl (batchProfile scoping_profiles) []⟩

def ShardPlan.shard_by_code (plan : ShardPlan) : OrderedMap String String :=
  OrderedMap.ofList <| plan.shards.flatMap fun s => s.entity_codes.map fun code => (code, s.shard_id)

/-! The loop against next-fit packing. -/

def shardOfBin (initial profile : String) (row_budget_per_entity : ℕ)
    (bin : List ExpandedEntity × ℕ) : ShardAssignment :=
  make_shard initial (bin.2 % 2 ^ 32) profile (bin.1.map (·.code))
    (min (load (entityRows row_budget_per_entity) bin.1) u64Max)

def profileBins (scoping_profiles : OrderedMap String ScopingProfile)
    (group : String × List ExpandedEntity) : List (List ExpandedEntity) :=
  nextFit (entityRows (read_row_budget scoping_profiles group.1)) MAX_ROWS_PER_SHARD [] group.2

def profileShards (scoping_profiles : OrderedMap String ScopingProfile)
    (group : String × List ExpandedEntity) : List ShardAssignment :=
  ((profileBins scoping_profiles group).zipIdx 1).map
    (shardOfBin (profile_initial group.1) group.1 (read_row_budget scoping_profiles group.1))

theorem saturating_add_min (a b : ℕ) : saturating_add (min a u64Max) b = min (a + b) u64Max := by
  simp only [saturating_add]
  omega

theorem max_rows_lt_min_iff (a : ℕ) :
    MAX_ROWS_PER_SHARD < min a u64Max ↔ MAX_ROWS_PER_SHARD < a := by
  simp only [MAX_ROWS_PER_SHARD, u64Max]
  omega

/-- The loop state that stands for an open bin and the running number it will get. -/
def batchOf (row_budget_per_entity : ℕ) (shards : List ShardAssignment) (number : ℕ)
    (bin : List ExpandedEntity) : Batch :=
  ⟨shards, number % 2 ^ 32, bin.map (·.code),
    min (load (entityRows row_budget_per_entity) bin) u64Max⟩

theorem flush_batchOf (initial profile : String) (budget : ℕ) (shards : List ShardAssignment)
    (number : ℕ) (bin : List ExpandedEntity) :
    (batchOf budget shards number bin).flush initial profile =
      batchOf budget (shards ++ [shardOfBin initial profile budget (bin, number)])
        (number + 1) [] := by
  simp [batchOf, Batch.flush, shardOfBin, load]

/-- One round of the loop is one step of next-fit. -/
theorem batchEntity_batchOf (initial profile : String) (budget : ℕ)
    (shards : List ShardAssignment) (number : ℕ) (bin : List ExpandedEntity)
    (entity : ExpandedEntity) :
    batchEntity initial profile budget (batchOf budget shards number bin) entity =
      if !bin.isEmpty &&
          MAX_ROWS_PER_SHARD < load (entityRows budget) bin + entityRows budget entity then
        batchOf budget (shards ++ [shardOfBin initial profile budget (bin, number)])
          (number + 1) [entity]
      else batchOf budget shards number (bin ++ [entity]) := by
  have hguard : (!(batchOf budget shards number bin).current_codes.isEmpty &&
        MAX_ROWS_PER_SHARD <
          saturating_add (batchOf budget shards number bin).current_rows
            (entityRows budget entity)) =
      (!bin.isEmpty &&
        MAX_ROWS_PER_SHARD < load (entityRows budget) bin + entityRows budget entity) := by
    have hrows := max_rows_lt_min_iff (load (entityRows budget) bin + entityRows budget entity)
    simp only [batchOf, saturating_add_min, hrows]
    cases bin <;> rfl
  rw [batchEntity, hguard]
  split
  · rw [flush_batchOf]
    simp only [batchOf, saturating_add_min]
    simp [load]
  · simp only [batchOf, saturating_add_min, load_append_singleton]
    simp

theorem foldl_batchEntity (initial profile : String) (budget : ℕ)
    (entities : List ExpandedEntity) (shards : List ShardAssignment) (number : ℕ)
    (bin : List ExpandedEntity) :
    (entities.foldl (batchEntity initial profile budget)
        (batchOf budget shards number bin)).close initial profile =
      shards ++ ((nextFit (entityRows budget) MAX_ROWS_PER_SHARD bin entities).zipIdx number).map
        (shardOfBin initial profile budget) := by
  induction entities generalizing shards number bin with
  | nil =>
      cases bin with
      | nil => simp [nextFit, batchOf, Batch.close]
      | cons e es =>
          have hopen : ¬ (batchOf budget shards number (e :: es)).current_codes.isEmpty := by
            simp [batchOf]
          rw [List.foldl_nil, Batch.close, if_neg hopen, flush_batchOf]
          simp [nextFit, batchOf]
  | cons entity entities ih =>
      rw [List.foldl_cons, batchEntity_batchOf, nextFit]
      split
      · rw [ih, List.zipIdx_cons, List.map_cons, List.append_assoc]
        rfl
      · rw [ih]

theorem batchProfile_eq (scoping_profiles : OrderedMap String ScopingProfile)
    (shards : List ShardAssignment) (group : String × List ExpandedEntity) :
    batchProfile scoping_profiles shards group =
      shards ++ profileShards scoping_profiles group :=
  foldl_batchEntity (profile_initial group.1) group.1
    (read_row_budget scoping_profiles group.1) group.2 shards 1 []

/-- The shards of a plan, profile by profile. -/
theorem build_shard_plan_eq (entities : List ExpandedEntity)
    (scoping_profiles : OrderedMap String ScopingProfile) :
    build_shard_plan entities scoping_profiles =
      .ok ⟨(profileEntities entities).flatMap (profileShards scoping_profiles)⟩ := by
  have hfold : ∀ (groups : List (String × List ExpandedEntity)) (shards : List ShardAssignment),
      groups.foldl (batchProfile scoping_profiles) shards =
        shards ++ groups.flatMap (profileShards scoping_profiles) := by
    intro groups
    induction groups with
    | nil => simp
    | cons group groups ih =>
        intro shards
        rw [List.foldl_cons, batchProfile_eq, ih, List.flatMap_cons, List.append_assoc]
  rw [build_shard_plan, hfold, List.nil_append]

end Datasynth.Group.ShardPlanning

/-!
The shard plan as a partition of the entities.  Everything but the distinctness of
the shard identifiers holds of every plan; identifiers are built from an
abbreviation of the profile name, and clash when two profiles in use share it.
-/

namespace Datasynth.Group.ShardPartition

open Datasynth.Group.Config
open Datasynth.Group.OwnershipExpansion
open Datasynth.Group.ShardPlanning
open Datasynth.Lib.DecimalText
open Datasynth.Lib.Grouping
open Datasynth.Lib.NextFitPacking
open Datasynth.Lib.SortedEntries

def memberRows (scoping_profiles : OrderedMap String ScopingProfile)
    (entities : List ExpandedEntity) (s : ShardAssignment) : ℕ :=
  ((entities.filter fun e => e.code ∈ s.entity_codes).map fun e =>
    entityRows (read_row_budget scoping_profiles e.scoping_profile) e).sum

structure IsPartition (scoping_profiles : OrderedMap String ScopingProfile)
    (entities : List ExpandedEntity) (plan : ShardPlan) : Prop where
  each_entity_once : (plan.shards.flatMap (·.entity_codes)).Perm (entities.map (·.code))
  no_shard_empty : ∀ s ∈ plan.shards, s.entity_codes ≠ []
  within_row_limit : ∀ s ∈ plan.shards, 1 < s.entity_codes.length →
    memberRows scoping_profiles entities s ≤ MAX_ROWS_PER_SHARD
  index_agrees : ∀ code shard_id, plan.shard_by_code.find? code = some shard_id ↔
    ∃ s ∈ plan.shards, code ∈ s.entity_codes ∧ s.shard_id = shard_id
  ids_distinct : (plan.shards.map (·.shard_id)).Nodup

/-- The profiles in use abbreviate to distinct initials, and the entities of no
profile fill more shards than the 32-bit index counts. -/
structure Numberable (scoping_profiles : OrderedMap String ScopingProfile)
    (entities : List ExpandedEntity) : Prop where
  initials_distinct : ∀ e ∈ entities, ∀ e' ∈ entities,
    profile_initial e.scoping_profile = profile_initial e'.scoping_profile →
      e.scoping_profile = e'.scoping_profile
  within_index_width : ∀ group ∈ profileEntities entities,
    (profileBins scoping_profiles group).length ≤ 2 ^ 32

theorem sortByCode_perm (entities : List ExpandedEntity) :
    (sortByCode entities).Perm entities :=
  List.perm_insertionSort _ entities

theorem mem_profileEntities {entities : List ExpandedEntity}
    {group : String × List ExpandedEntity} (h : group ∈ profileEntities entities) :
    group.2 ≠ [] ∧ ∀ e ∈ group.2, e ∈ entities ∧ e.scoping_profile = group.1 := by
  obtain ⟨⟨profile, members⟩, hmem, rfl⟩ := List.mem_map.mp h
  obtain ⟨rfl, hne⟩ := (mem_entries_groupBy _ _ _ _).mp hmem
  have hperm := sortByCode_perm (entities.filter fun e => e.scoping_profile = profile)
  refine ⟨fun hnil => hne (List.Perm.nil_eq (hnil ▸ hperm)).symm, ?_⟩
  intro e he
  simpa using hperm.mem_iff.mp he

theorem flatMap_profileEntities (entities : List ExpandedEntity) :
    ((profileEntities entities).flatMap Prod.snd).Perm entities := by
  have hsorted : ((profileEntities entities).flatMap Prod.snd).Perm
      ((groupBy (·.scoping_profile) entities).entries.flatMap Prod.snd) := by
    rw [profileEntities, List.flatMap_map]
    exact List.Perm.flatMap_left _ fun group _ => sortByCode_perm group.2
  exact hsorted.trans (flatten_values_groupBy _ entities)

theorem profileEntities_keys_nodup (entities : List ExpandedEntity) :
    ((profileEntities entities).map Prod.fst).Nodup := by
  have hkeys : (profileEntities entities).map Prod.fst =
      (groupBy (·.scoping_profile) entities).keys := by
    simp [profileEntities, OrderedMap.keys]
  exact hkeys ▸ OrderedMap.keys_nodup _

theorem mem_profileEntities_keys {entities : List ExpandedEntity} {profile : String} :
    profile ∈ (profileEntities entities).map Prod.fst ↔
      ∃ e ∈ entities, e.scoping_profile = profile := by
  have hkeys : (profileEntities entities).map Prod.fst =
      (groupBy (·.scoping_profile) entities).keys := by
    simp [profileEntities, OrderedMap.keys]
  rw [hkeys, mem_keys_groupBy]

section Plan

variable (scoping_profiles : OrderedMap String ScopingProfile) (entities : List ExpandedEntity)

def plannedShards : List ShardAssignment :=
  (profileEntities entities).flatMap (profileShards scoping_profiles)

theorem profileShards_codes (group : String × List ExpandedEntity) :
    (profileShards scoping_profiles group).flatMap (·.entity_codes) =
      group.2.map (·.code) := by
  have hbins : (profileBins scoping_profiles group).flatten = group.2 := flatten_nextFit ..
  calc (profileShards scoping_profiles group).flatMap (·.entity_codes)
      = ((profileBins scoping_profiles group).zipIdx 1).flatMap
          fun bin => bin.1.map (·.code) := by
        rw [profileShards, List.flatMap_map]
        rfl
    _ = (((profileBins scoping_profiles group).zipIdx 1).map Prod.fst).flatMap
          fun bin => bin.map (·.code) := by rw [List.flatMap_map]
    _ = (profileBins scoping_profiles group).flatten.map (·.code) := by
        rw [List.zipIdx_map_fst, List.map_flatten, List.flatMap_def]
    _ = group.2.map (·.code) := by rw [hbins]

theorem plannedShards_codes :
    ((plannedShards scoping_profiles entities).flatMap (·.entity_codes)).Perm
      (entities.map (·.code)) := by
  have hcodes : (plannedShards scoping_profiles entities).flatMap (·.entity_codes) =
      ((profileEntities entities).flatMap Prod.snd).map (·.code) := by
    rw [plannedShards, List.flatMap_assoc, List.map_flatMap]
    exact List.flatMap_congr fun group _ => profileShards_codes scoping_profiles group
  rw [hcodes]
  exact (flatMap_profileEntities entities).map _

/-- Every shard is a bin of some profile, with the codes of its members. -/
theorem exists_bin_of_mem {s : ShardAssignment}
    (hs : s ∈ plannedShards scoping_profiles entities) :
    ∃ group ∈ profileEntities entities, ∃ bin ∈ profileBins scoping_profiles group,
      s.entity_codes = bin.map (·.code) := by
  obtain ⟨group, hgroup, hs⟩ := List.mem_flatMap.mp hs
  obtain ⟨⟨bin, number⟩, hbin, rfl⟩ := List.mem_map.mp hs
  exact ⟨group, hgroup, bin, List.fst_mem_of_mem_zipIdx hbin, rfl⟩

theorem mem_of_mem_bin {group : String × List ExpandedEntity} {bin : List ExpandedEntity}
    (hbin : bin ∈ profileBins scoping_profiles group) {e : ExpandedEntity} (he : e ∈ bin) :
    e ∈ group.2 := by
  have hflat : (profileBins scoping_profiles group).flatten = group.2 := flatten_nextFit ..
  exact hflat ▸ List.mem_flatten.mpr ⟨bin, hbin, he⟩

theorem bin_nodup (hcodes : (entities.map (·.code)).Nodup)
    {group : String × List ExpandedEntity} (hgroup : group ∈ profileEntities entities)
    {bin : List ExpandedEntity} (hbin : bin ∈ profileBins scoping_profiles group) :
    bin.Nodup := by
  have hentities : entities.Nodup := List.Nodup.of_map _ hcodes
  have hall : ((profileEntities entities).flatMap Prod.snd).Nodup :=
    (flatMap_profileEntities entities).nodup_iff.mpr hentities
  have hmembers : group.2.Nodup := (List.nodup_flatMap.mp hall).1 group hgroup
  have hflat : (profileBins scoping_profiles group).flatten = group.2 := flatten_nextFit ..
  exact (List.nodup_flatten.mp (hflat ▸ hmembers)).1 bin hbin

/-- Selecting the entities of a shard by code gives back its members. -/
theorem filter_codes_perm (hcodes : (entities.map (·.code)).Nodup)
    {group : String × List ExpandedEntity} (hgroup : group ∈ profileEntities entities)
    {bin : List ExpandedEntity} (hbin : bin ∈ profileBins scoping_profiles group) :
    (entities.filter fun e => e.code ∈ bin.map (·.code)).Perm bin := by
  have hentities : entities.Nodup := List.Nodup.of_map _ hcodes
  refine (List.perm_ext_iff_of_nodup (hentities.filter _)
    (bin_nodup scoping_profiles entities hcodes hgroup hbin)).mpr ?_
  have hmem : ∀ e ∈ bin, e ∈ entities := fun e he =>
    ((mem_profileEntities hgroup).2 e (mem_of_mem_bin scoping_profiles hbin he)).1
  intro e
  simp only [List.mem_filter, List.mem_map, decide_eq_true_eq]
  constructor
  · rintro ⟨he, e', he', hcode⟩
    rwa [List.inj_on_of_nodup_map hcodes he (hmem e' he') hcode.symm]
  · intro he
    exact ⟨hmem e he, e, he, rfl⟩

theorem plannedShards_within_row_limit (hcodes : (entities.map (·.code)).Nodup)
    {s : ShardAssignment} (hs : s ∈ plannedShards scoping_profiles entities)
    (hlength : 1 < s.entity_codes.length) :
    memberRows scoping_profiles entities s ≤ MAX_ROWS_PER_SHARD := by
  obtain ⟨group, hgroup, bin, hbin, hmembers⟩ := exists_bin_of_mem scoping_profiles entities hs
  rw [hmembers, List.length_map] at hlength
  have hload := load_le_of_mem_nextFit
    (entityRows (read_row_budget scoping_profiles group.1)) MAX_ROWS_PER_SHARD [] group.2
    (by simp) bin hbin hlength
  have hperm := filter_codes_perm scoping_profiles entities hcodes hgroup hbin
  calc memberRows scoping_profiles entities s
      = (bin.map fun e =>
          entityRows (read_row_budget scoping_profiles e.scoping_profile) e).sum := by
        rw [memberRows, hmembers]
        exact (hperm.map _).sum_eq
    _ = load (entityRows (read_row_budget scoping_profiles group.1)) bin := by
        rw [load]
        congr 1
        refine List.map_congr_left fun e he => ?_
        rw [((mem_profileEntities hgroup).2 e (mem_of_mem_bin scoping_profiles hbin he)).2]
    _ ≤ MAX_ROWS_PER_SHARD := hload

theorem shard_by_code_agrees (hcodes : (entities.map (·.code)).Nodup) (code shard_id : String) :
    (ShardPlan.mk (plannedShards scoping_profiles entities)).shard_by_code.find? code =
        some shard_id ↔
      ∃ s ∈ plannedShards scoping_profiles entities,
        code ∈ s.entity_codes ∧ s.shard_id = shard_id := by
  have hkeys : (((plannedShards scoping_profiles entities).flatMap fun s =>
      s.entity_codes.map fun code => (code, s.shard_id)).map Prod.fst).Nodup := by
    rw [List.map_flatMap]
    simp only [List.map_map, Function.comp_def, List.map_id']
    exact (plannedShards_codes scoping_profiles entities).nodup_iff.mpr hcodes
  constructor
  · intro h
    obtain ⟨s, hs, hcode⟩ := List.mem_flatMap.mp (OrderedMap.mem_of_find?_ofList h)
    obtain ⟨code', hcode', heq⟩ := List.mem_map.mp hcode
    cases heq
    exact ⟨s, hs, hcode', rfl⟩
  · rintro ⟨s, hs, hcode, rfl⟩
    exact OrderedMap.find?_ofList_eq_some_of_nodup hkeys
      (List.mem_flatMap.mpr ⟨s, hs, List.mem_map.mpr ⟨code, hcode, rfl⟩⟩)

end Plan

theorem profile_initial_length (profile : String) : (profile_initial profile).toList.length = 3 := by
  unfold profile_initial
  split
  · rfl
  · rfl
  · rfl
  · have hlength : (((profile.toList.filter Char.isAlpha).take 3).map Char.toUpper).length ≤ 3 := by
      simp
    dsimp only
    split
    · rfl
    · rw [String.toList_ofList, List.length_append, List.length_replicate]
      omega

/-- A shard identifier determines its three-letter initial and its index. -/
theorem shardId_inj {initial initial' : String} {index index' : ℕ}
    (hinitial : initial.toList.length = 3) (hinitial' : initial'.toList.length = 3) :
    shardId initial index = shardId initial' index' ↔ initial = initial' ∧ index = index' := by
  constructor
  · intro h
    have hchars := congrArg String.toList h
    simp only [shardId, String.toList_append, List.append_assoc] at hchars
    obtain ⟨hleft, hright⟩ := List.append_inj (List.append_cancel_left hchars)
      (hinitial.trans hinitial'.symm)
    exact ⟨String.toList_injective hleft,
      padded_injective 4 (String.toList_injective (List.append_cancel_left hright))⟩
  · rintro ⟨rfl, rfl⟩
    rfl

theorem profileShards_ids (scoping_profiles : OrderedMap String ScopingProfile)
    (group : String × List ExpandedEntity) :
    (profileShards scoping_profiles group).map (·.shard_id) =
      (List.range' 1 (profileBins scoping_profiles group).length).map fun number =>
        shardId (profile_initial group.1) (number % 2 ^ 32) := by
  rw [profileShards, List.map_map, ← List.zipIdx_map_snd 1, List.map_map]
  rfl

/-- Within a profile the identifiers are distinct up to the width of the index. -/
theorem profileShards_ids_nodup_iff (scoping_profiles : OrderedMap String ScopingProfile)
    (group : String × List ExpandedEntity) :
    ((profileShards scoping_profiles group).map (·.shard_id)).Nodup ↔
      (profileBins scoping_profiles group).length ≤ 2 ^ 32 := by
  have hinj : ∀ m n : ℕ, shardId (profile_initial group.1) (m % 2 ^ 32) =
      shardId (profile_initial group.1) (n % 2 ^ 32) ↔ m % 2 ^ 32 = n % 2 ^ 32 := by
    intro m n
    rw [shardId_inj (profile_initial_length _) (profile_initial_length _)]
    simp
  rw [profileShards_ids, List.nodup_map_iff_inj_on (List.nodup_range' ..)]
  simp only [List.mem_range'_1, hinj]
  constructor
  · intro h
    by_contra hlength
    have := h 1 ⟨by omega, by omega⟩ (1 + 2 ^ 32) ⟨by omega, by omega⟩ (by omega)
    omega
  · intro hlength m hm n hn hmod
    omega

/-- Two profiles share an identifier exactly when they share the initial: both
number their shards from one. -/
theorem profileShards_ids_disjoint_iff (scoping_profiles : OrderedMap String ScopingProfile)
    {group group' : String × List ExpandedEntity} (hgroup : group.2 ≠ [])
    (hgroup' : group'.2 ≠ []) :
    List.Disjoint ((profileShards scoping_profiles group).map (·.shard_id))
        ((profileShards scoping_profiles group').map (·.shard_id)) ↔
      profile_initial group.1 ≠ profile_initial group'.1 := by
  have hfirst : ∀ g : String × List ExpandedEntity, g.2 ≠ [] →
      shardId (profile_initial g.1) 1 ∈ (profileShards scoping_profiles g).map (·.shard_id) := by
    intro g hg
    have hbins : profileBins scoping_profiles g ≠ [] := nextFit_ne_nil _ _ hg
    rw [profileShards_ids]
    refine List.mem_map.mpr ⟨1, ?_, rfl⟩
    have := List.length_pos_of_ne_nil hbins
    exact List.mem_range'_1.mpr ⟨le_rfl, by omega⟩
  constructor
  · intro hdisjoint heq
    exact hdisjoint (hfirst group hgroup) (heq ▸ hfirst group' hgroup')
  · intro hne id hid hid'
    rw [profileShards_ids] at hid hid'
    obtain ⟨m, -, rfl⟩ := List.mem_map.mp hid
    obtain ⟨n, -, heq⟩ := List.mem_map.mp hid'
    exact hne ((shardId_inj (profile_initial_length _) (profile_initial_length _)).mp heq).1.symm

theorem plannedShards_ids_nodup_iff (scoping_profiles : OrderedMap String ScopingProfile)
    (entities : List ExpandedEntity) :
    ((plannedShards scoping_profiles entities).map (·.shard_id)).Nodup ↔
      Numberable scoping_profiles entities := by
  have hkeys := profileEntities_keys_nodup entities
  have hnonempty : ∀ group ∈ profileEntities entities, group.2 ≠ [] :=
    fun group hgroup => (mem_profileEntities hgroup).1
  rw [plannedShards, List.map_flatMap, List.nodup_flatMap]
  have hwithin : (∀ group ∈ profileEntities entities,
      ((profileShards scoping_profiles group).map (·.shard_id)).Nodup) ↔
      ∀ group ∈ profileEntities entities, (profileBins scoping_profiles group).length ≤ 2 ^ 32 :=
    forall₂_congr fun group _ => profileShards_ids_nodup_iff scoping_profiles group
  have hacross : (profileEntities entities).Pairwise
      (Function.onFun List.Disjoint fun group =>
        (profileShards scoping_profiles group).map (·.shard_id)) ↔
      ∀ e ∈ entities, ∀ e' ∈ entities,
        profile_initial e.scoping_profile = profile_initial e'.scoping_profile →
          e.scoping_profile = e'.scoping_profile := by
    have hpairwise : (profileEntities entities).Pairwise
        (Function.onFun List.Disjoint fun group =>
          (profileShards scoping_profiles group).map (·.shard_id)) ↔
        (((profileEntities entities).map Prod.fst).map profile_initial).Nodup := by
      rw [List.map_map, List.Nodup, List.pairwise_map]
      exact List.Pairwise.iff_of_mem fun hgroup hgroup' =>
        profileShards_ids_disjoint_iff scoping_profiles (hnonempty _ hgroup) (hnonempty _ hgroup')
    rw [hpairwise, List.nodup_map_iff_inj_on hkeys]
    simp only [mem_profileEntities_keys]
    constructor
    · intro h e he e' he'
      exact h _ ⟨e, he, rfl⟩ _ ⟨e', he', rfl⟩
    · rintro h _ ⟨e, he, rfl⟩ _ ⟨e', he', rfl⟩
      exact h e he e' he'
  rw [hwithin, hacross]
  exact ⟨fun h => ⟨h.2, h.1⟩, fun h => ⟨h.2, h.1⟩⟩

/-- For entities with distinct codes the plan is a partition with distinct shard
identifiers exactly when the profiles can be told apart by their initials. -/
theorem build_shard_plan_isPartition_iff (scoping_profiles : OrderedMap String ScopingProfile)
    (entities : List ExpandedEntity) (hcodes : (entities.map (·.code)).Nodup) :
    (∃ plan, build_shard_plan entities scoping_profiles = .ok plan ∧
        IsPartition scoping_profiles entities plan) ↔
      Numberable scoping_profiles entities := by
  rw [build_shard_plan_eq]
  constructor
  · rintro ⟨plan, hplan, hpartition⟩
    cases hplan
    exact (plannedShards_ids_nodup_iff scoping_profiles entities).mp hpartition.ids_distinct
  · intro hnumberable
    refine ⟨_, rfl, ?_, ?_, ?_, ?_, ?_⟩
    · exact plannedShards_codes scoping_profiles entities
    · intro s hs
      obtain ⟨group, -, bin, hbin, hmembers⟩ := exists_bin_of_mem scoping_profiles entities hs
      rw [hmembers]
      simpa using nextFit_bins_ne_nil _ _ _ _ bin hbin
    · intro s hs
      exact plannedShards_within_row_limit scoping_profiles entities hcodes hs
    · exact shard_by_code_agrees scoping_profiles entities hcodes
    · exact (plannedShards_ids_nodup_iff scoping_profiles entities).mpr hnumberable

theorem significant_and_material_partition :
    ∃ plan, build_shard_plan [entityIn "E1" "significant", entityIn "E2" "material"]
        OrderedMap.empty = .ok plan ∧
      IsPartition OrderedMap.empty [entityIn "E1" "significant", entityIn "E2" "material"] plan :=
  (build_shard_plan_isPartition_iff OrderedMap.empty
    [entityIn "E1" "significant", entityIn "E2" "material"] (by decide)).mpr
    ⟨by decide, by decide⟩

/-- Two profiles abbreviated `MAT` both call their first shard `S_MAT_0001`. -/
theorem material_and_matured_share_shard_id :
    ([entityIn "E1" "material", entityIn "E2" "matured"].map (·.code)).Nodup ∧
      ¬ ∃ plan, build_shard_plan [entityIn "E1" "material", entityIn "E2" "matured"]
          OrderedMap.empty = .ok plan ∧
        IsPartition OrderedMap.empty [entityIn "E1" "material", entityIn "E2" "matured"] plan := by
  refine ⟨by decide, ?_⟩
  rintro ⟨plan, hplan, hpartition⟩
  cases hplan
  exact absurd hpartition.ids_distinct (by decide)

end Datasynth.Group.ShardPartition
