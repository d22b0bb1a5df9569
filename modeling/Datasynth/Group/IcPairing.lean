import Datasynth.Group.IcMatching
import Datasynth.Lib.ListRearrangement

/-!
From plan derivation to matching.  The sides all shards post are, up to order, one
seller and one buyer side of every planned pair; when pair identifiers are distinct
the matcher joins them all, and when they are not it fails.
-/

namespace Datasynth.Group.IcPairing

open Datasynth.Core.JournalEntries
open Datasynth.Group.Config
open Datasynth.Group.IcExpansion
open Datasynth.Group.IcInjection
open Datasynth.Group.IcMatching
open Datasynth.Group.IcPlanning
open Datasynth.Group.ManifestBuilder
open Datasynth.Lib.ByteEncoding
open Datasynth.Lib.ExceptRuns
open Datasynth.Lib.Grouping
open Datasynth.Lib.ListRearrangement
open Datasynth.Lib.SortedEntries

/-- The type that drives a relationship. -/
def firstType (rel : ResolvedIcRelationship) : IcTransactionType := rel.types.headD .goodsSale

def pairCount (rel : ResolvedIcRelationship) : ℕ :=
  match rel.types with
  | [] => 0
  | tx_type :: _ =>
      match compute_pair_count rel.annual_volume (avg_amount tx_type) with
      | none => 0
      | some count => max count 1

def endpoint (rel : ResolvedIcRelationship) : IcRole → String
  | .seller => rel.seller
  | .buyer => rel.buyer

def partner (rel : ResolvedIcRelationship) : IcRole → String
  | .seller => rel.buyer
  | .buyer => rel.seller

theorem avg_amount_pos (t : IcTransactionType) : 0 < avg_amount t := by
  cases t <;> norm_num [avg_amount]

section Sides

variable (blake3 : List Byte → Digest) (manifest : GroupManifest)

def sidePlan (rel : ResolvedIcRelationship) (role : IcRole) (i : ℕ) : IcPairPlan :=
  pairPlan blake3 manifest rel (firstType rel) role (partner rel role) (pairCount rel) i

def pairId (rel : ResolvedIcRelationship) (i : ℕ) : IcPairId :=
  .fromBytes (derive_ic_pair_id blake3 manifest.group_seed rel.id i)

/-- The side an endpoint's shard posts for pair `i`. -/
def sideOf (rel : ResolvedIcRelationship) (role : IcRole) (i : ℕ) : ObservedSide :=
  ⟨endpoint rel role, build_je_for_plan (sidePlan blake3 manifest rel role i) ⟨endpoint rel role⟩⟩

/-- Every planned pair, as a relationship and a running number. -/
def plannedPairs : List (ResolvedIcRelationship × ℕ) :=
  manifest.ic_relationships.flatMap fun rel => (List.range (pairCount rel)).map fun i => (rel, i)

def plannedPairId (p : ResolvedIcRelationship × ℕ) : IcPairId := pairId blake3 manifest p.1 p.2

def bothSides (p : ResolvedIcRelationship × ℕ) : List (IcPairId × ObservedSide) :=
  [(plannedPairId blake3 manifest p, sideOf blake3 manifest p.1 .seller p.2),
    (plannedPairId blake3 manifest p, sideOf blake3 manifest p.1 .buyer p.2)]

def matchedPair (p : ResolvedIcRelationship × ℕ) : IcMatchedPair where
  pair_id := plannedPairId blake3 manifest p
  seller_entity := p.1.seller
  buyer_entity := p.1.buyer
  seller_je := (sideOf blake3 manifest p.1 .seller p.2).je
  buyer_je := (sideOf blake3 manifest p.1 .buyer p.2).je

def entityCodes : List String := manifest.ownership_graph.entities.map (·.code)

/-- Entity codes are distinct, and every relationship runs between two of them. -/
structure EndpointsKnown : Prop where
  codes_nodup : (entityCodes manifest).Nodup
  seller_mem : ∀ rel ∈ manifest.ic_relationships, rel.seller ∈ entityCodes manifest
  buyer_mem : ∀ rel ∈ manifest.ic_relationships, rel.buyer ∈ entityCodes manifest
  seller_ne_buyer : ∀ rel ∈ manifest.ic_relationships, rel.seller ≠ rel.buyer

/-- The output of all shards, in any order: every entity's journal entries are its
injected ones among entries without a pair identifier. -/
structure ShardEntries (entity_jes : List (String × List JournalEntry)) : Prop where
  codes_perm : (entity_jes.map Prod.fst).Perm (entityCodes manifest)
  injected : ∀ e ∈ entity_jes, e.2.filter (·.header.ic_pair_id.isSome) =
    inject_ic_journal_entries (derive_ic_pair_plans blake3 manifest e.1) ⟨e.1⟩

/-- Every planned pair is matched exactly once and nothing is left over. -/
def AllPairsMatched (entity_jes : List (String × List JournalEntry)) : Prop :=
  ∃ result, match_ic_pairs blake3 manifest entity_jes = .ok result ∧
    result.matched.Perm ((plannedPairs manifest).map (matchedPair blake3 manifest)) ∧
    result.unmatched = []

theorem relationshipPlans_eq (code : String) (rel : ResolvedIcRelationship) :
    relationshipPlans blake3 manifest code rel =
      if rel.seller = code then
        (List.range (pairCount rel)).map (sidePlan blake3 manifest rel .seller)
      else if rel.buyer = code then
        (List.range (pairCount rel)).map (sidePlan blake3 manifest rel .buyer)
      else [] := by
  have hplan : ∀ (role : IcRole) (tx_type : IcTransactionType) (rest : List IcTransactionType)
      (count : ℕ), rel.types = tx_type :: rest →
      compute_pair_count rel.annual_volume (avg_amount tx_type) = some count →
      (List.range (pairCount rel)).map (sidePlan blake3 manifest rel role) =
        (List.range (max count 1)).map
          (pairPlan blake3 manifest rel tx_type role (partner rel role) (max count 1)) := by
    intro role tx_type rest count htypes hcount
    have hpairs : pairCount rel = max count 1 := by simp [pairCount, htypes, hcount]
    have hfirst : firstType rel = tx_type := by simp [firstType, htypes]
    rw [hpairs]
    refine List.map_congr_left fun i _ => ?_
    rw [sidePlan, hpairs, hfirst]
  cases htypes : rel.types with
  | nil => simp [relationshipPlans, pairCount, htypes]
  | cons tx_type rest =>
      have havg : avg_amount tx_type ≠ 0 := (avg_amount_pos tx_type).ne'
      cases hcount : compute_pair_count rel.annual_volume (avg_amount tx_type) with
      | none => simp [relationshipPlans, pairCount, htypes, hcount]
      | some count =>
          rw [hplan .seller tx_type rest count htypes hcount,
            hplan .buyer tx_type rest count htypes hcount]
          by_cases hseller : rel.seller = code
          · simp [relationshipPlans, htypes, hcount, havg, hseller, partner]
          · by_cases hbuyer : rel.buyer = code
            · simp [relationshipPlans, htypes, hcount, havg, hseller, hbuyer, partner]
            · simp [relationshipPlans, hseller, hbuyer]

def taggedSides (code : String) (rel : ResolvedIcRelationship) :
    List (IcPairId × ObservedSide) :=
  (relationshipPlans blake3 manifest code rel).map fun plan =>
    (plan.pair_id, ⟨code, build_je_for_plan plan ⟨code⟩⟩)

theorem taggedSides_eq (code : String) (rel : ResolvedIcRelationship) :
    taggedSides blake3 manifest code rel =
      if rel.seller = code then
        (List.range (pairCount rel)).map fun i =>
          (pairId blake3 manifest rel i, sideOf blake3 manifest rel .seller i)
      else if rel.buyer = code then
        (List.range (pairCount rel)).map fun i =>
          (pairId blake3 manifest rel i, sideOf blake3 manifest rel .buyer i)
      else [] := by
  rw [taggedSides, relationshipPlans_eq]
  split
  · rename_i hseller
    subst hseller
    rw [List.map_map]
    rfl
  · split
    · rename_i hbuyer
      subst hbuyer
      rw [List.map_map]
      rfl
    · rfl

/-- Entries without a pair identifier are not observed. -/
theorem observedSides_eq {entity_jes : List (String × List JournalEntry)}
    (h : ShardEntries blake3 manifest entity_jes) :
    observedSides entity_jes = (entity_jes.map Prod.fst).flatMap fun code =>
      manifest.ic_relationships.flatMap (taggedSides blake3 manifest code) := by
  rw [observedSides, List.flatMap_map]
  refine List.flatMap_congr fun e he => ?_
  have hfilter : (e.2.filterMap fun je => je.header.ic_pair_id.map fun pair_id =>
        (pair_id, (⟨e.1, je⟩ : ObservedSide))) =
      (e.2.filter (·.header.ic_pair_id.isSome)).filterMap fun je =>
        je.header.ic_pair_id.map fun pair_id => (pair_id, (⟨e.1, je⟩ : ObservedSide)) := by
    rw [List.filterMap_filter]
    refine List.filterMap_congr fun je _ => ?_
    cases je.header.ic_pair_id <;> rfl
  calc (e.2.filterMap fun je => je.header.ic_pair_id.map fun pair_id =>
        (pair_id, (⟨e.1, je⟩ : ObservedSide)))
      = (derive_ic_pair_plans blake3 manifest e.1).map fun plan =>
          (plan.pair_id, ⟨e.1, build_je_for_plan plan ⟨e.1⟩⟩) := by
        rw [hfilter, h.injected e he, inject_ic_journal_entries, List.filterMap_map,
          ← List.filterMap_eq_map]
        rfl
    _ = manifest.ic_relationships.flatMap (taggedSides blake3 manifest e.1) := by
        rw [derive_ic_pair_plans, List.map_flatMap]
        rfl

/-- All shards together post one seller and one buyer side of every planned pair. -/
theorem observedSides_perm (hknown : EndpointsKnown manifest)
    {entity_jes : List (String × List JournalEntry)}
    (h : ShardEntries blake3 manifest entity_jes) :
    (observedSides entity_jes).Perm
      ((plannedPairs manifest).flatMap (bothSides blake3 manifest)) := by
  have hnodup : (entity_jes.map Prod.fst).Nodup := h.codes_perm.nodup_iff.mpr hknown.codes_nodup
  rw [observedSides_eq blake3 manifest h, plannedPairs, List.flatMap_assoc]
  refine (flatMap_comm_perm _ _ _).trans (List.Perm.flatMap_left _ fun rel hrel => ?_)
  have hseller := h.codes_perm.mem_iff.mpr (hknown.seller_mem rel hrel)
  have hbuyer := h.codes_perm.mem_iff.mpr (hknown.buyer_mem rel hrel)
  simp only [taggedSides_eq]
  refine (flatMap_ite_ite_perm hnodup hseller hbuyer (hknown.seller_ne_buyer rel hrel) _ _).trans ?_
  rw [List.flatMap_map, List.map_eq_flatMap, List.map_eq_flatMap]
  exact List.flatMap_append_perm _ _ _

theorem filter_bothSides (pair_id : IcPairId) (pairs : List (ResolvedIcRelationship × ℕ)) :
    (pairs.flatMap (bothSides blake3 manifest)).filter (·.1 = pair_id) =
      (pairs.filter (plannedPairId blake3 manifest · = pair_id)).flatMap
        (bothSides blake3 manifest) := by
  induction pairs with
  | nil => rfl
  | cons p pairs ih =>
      rw [List.flatMap_cons, List.filter_append, ih]
      by_cases hp : plannedPairId blake3 manifest p = pair_id
      · rw [List.filter_cons_of_pos (by simpa using hp), List.flatMap_cons]
        simp [bothSides, hp]
      · rw [List.filter_cons_of_neg (by simpa using hp)]
        simp [bothSides, hp]

/-- Whether the matching configuration turns down sides of equal amounts. -/
def rejectsEqualAmounts : Bool :=
  manifest.matching.strategy = .emergentFuzzy && manifest.matching.tolerance_percent < 0

theorem driftViolation_planned (p : ResolvedIcRelationship × ℕ) :
    driftViolation manifest (sideOf blake3 manifest p.1 .seller p.2)
        (sideOf blake3 manifest p.1 .buyer p.2) = rejectsEqualAmounts manifest := by
  have hpos : 0 < |avg_amount (firstType p.1)| := abs_pos.mpr (avg_amount_pos _).ne'
  have htotal : ∀ role, (sideOf blake3 manifest p.1 role p.2).je.total_debit =
      avg_amount (firstType p.1) := fun _ => build_je_for_plan_total_debit _ _
  simp only [driftViolation, rejectsEqualAmounts, htotal, max_self, sub_self, abs_zero, zero_div]
  cases manifest.matching.strategy <;> simp [hpos]

theorem mem_plannedPairs {p : ResolvedIcRelationship × ℕ} :
    p ∈ plannedPairs manifest ↔
      p.1 ∈ manifest.ic_relationships ∧ p.2 ∈ List.range (pairCount p.1) := by
  obtain ⟨rel, i⟩ := p
  simp only [plannedPairs, List.mem_flatMap, List.mem_map, Prod.mk.injEq]
  constructor
  · rintro ⟨rel', hrel, i', hi, rfl, rfl⟩
    exact ⟨hrel, hi⟩
  · rintro ⟨hrel, hi⟩
    exact ⟨rel, hrel, i, hi, rfl, rfl⟩

/-- Either endpoint of a planned pair derives its side. -/
theorem sidePlan_mem_derive (hknown : EndpointsKnown manifest) {p : ResolvedIcRelationship × ℕ}
    (hp : p ∈ plannedPairs manifest) (role : IcRole) :
    sidePlan blake3 manifest p.1 role p.2 ∈
      derive_ic_pair_plans blake3 manifest (endpoint p.1 role) := by
  obtain ⟨hrel, hi⟩ := (mem_plannedPairs manifest).mp hp
  refine List.mem_flatMap.mpr ⟨p.1, hrel, ?_⟩
  rw [relationshipPlans_eq]
  cases role with
  | seller =>
      rw [endpoint, if_pos rfl]
      exact List.mem_map_of_mem hi
  | buyer =>
      rw [endpoint, if_neg (hknown.seller_ne_buyer p.1 hrel), if_pos rfl]
      exact List.mem_map_of_mem hi

theorem derive_ids_sublist (code : String) :
    ((derive_ic_pair_plans blake3 manifest code).map (·.pair_id)).Sublist
      ((plannedPairs manifest).map (plannedPairId blake3 manifest)) := by
  rw [derive_ic_pair_plans, List.map_flatMap, plannedPairs, List.map_flatMap]
  refine flatMap_sublist (fun rel => ?_) _
  rw [List.map_map, relationshipPlans_eq]
  split
  · rw [List.map_map]
    exact List.Sublist.refl _
  · split
    · rw [List.map_map]
      exact List.Sublist.refl _
    · exact List.nil_sublist _

/-- With distinct pair identifiers a lookup on either endpoint finds that side's plan. -/
theorem lookup_plan_planned
    (hnodup : ((plannedPairs manifest).map (plannedPairId blake3 manifest)).Nodup)
    (hknown : EndpointsKnown manifest) {p : ResolvedIcRelationship × ℕ}
    (hp : p ∈ plannedPairs manifest) (role : IcRole) :
    lookup_plan blake3 manifest (endpoint p.1 role) (plannedPairId blake3 manifest p) =
      .ok (sidePlan blake3 manifest p.1 role p.2) := by
  have hkeys : (((derive_ic_pair_plans blake3 manifest (endpoint p.1 role)).map
      fun plan => (plan.pair_id, plan)).map Prod.fst).Nodup := by
    rw [List.map_map]
    exact hnodup.sublist (derive_ids_sublist blake3 manifest (endpoint p.1 role))
  have hfind : (plansByPair blake3 manifest (endpoint p.1 role)).find?
      (plannedPairId blake3 manifest p) = some (sidePlan blake3 manifest p.1 role p.2) :=
    OrderedMap.find?_ofList_eq_some_of_nodup hkeys
      (List.mem_map.mpr ⟨_, sidePlan_mem_derive blake3 manifest hknown hp role, rfl⟩)
  rw [lookup_plan, hfind]

/-- The outcome of a group that holds the two sides of a planned pair. -/
def joinPlanned (st : MatchState) (p : ResolvedIcRelationship × ℕ) : MatchState :=
  st.join manifest (plannedPairId blake3 manifest p) (sideOf blake3 manifest p.1 .seller p.2)
    (sideOf blake3 manifest p.1 .buyer p.2)

theorem matchGroup_planned
    (hnodup : ((plannedPairs manifest).map (plannedPairId blake3 manifest)).Nodup)
    (hknown : EndpointsKnown manifest) {p : ResolvedIcRelationship × ℕ}
    (hp : p ∈ plannedPairs manifest) {group : List (IcPairId × ObservedSide)}
    (hgroup : group.Perm (bothSides blake3 manifest p)) (st : MatchState) :
    matchGroup blake3 manifest st (plannedPairId blake3 manifest p, group) =
      .ok (joinPlanned blake3 manifest st p) := by
  have hseller := lookup_plan_planned blake3 manifest hnodup hknown hp .seller
  have hbuyer := lookup_plan_planned blake3 manifest hnodup hknown hp .buyer
  rcases perm_pair hgroup with rfl | rfl
  · simp only [matchGroup, List.map_cons, List.map_nil]
    change (lookup_plan blake3 manifest (endpoint p.1 .seller) _).bind _ = _
    rw [hseller]
    change (lookup_plan blake3 manifest (endpoint p.1 .buyer) _).bind _ = _
    rw [hbuyer]
    rfl
  · simp only [matchGroup, List.map_cons, List.map_nil]
    change (lookup_plan blake3 manifest (endpoint p.1 .buyer) _).bind _ = _
    rw [hbuyer]
    change (lookup_plan blake3 manifest (endpoint p.1 .seller) _).bind _ = _
    rw [hseller]
    rfl

theorem matchGroup_ne_ok_of_length {group : IcPairId × List (IcPairId × ObservedSide)}
    (hlength : 2 < group.2.length) (st st' : MatchState) :
    matchGroup blake3 manifest st group ≠ .ok st' := by
  obtain ⟨pair_id, sides⟩ := group
  match sides, hlength with
  | a :: b :: c :: rest, _ => exact fun h => by cases h

/-- Joining planned pairs one after the other, from sides of equal amounts. -/
theorem foldl_joinPlanned (ps : List (ResolvedIcRelationship × ℕ)) (st : MatchState) :
    (rejectsEqualAmounts manifest = true →
      (ps.foldl (joinPlanned blake3 manifest) st).matched = st.matched) ∧
    (rejectsEqualAmounts manifest = false →
      (ps.foldl (joinPlanned blake3 manifest) st).matched =
          st.matched ++ ps.map (matchedPair blake3 manifest) ∧
        (ps.foldl (joinPlanned blake3 manifest) st).unmatched = st.unmatched) := by
  induction ps generalizing st with
  | nil => simp
  | cons p ps ih =>
      obtain ⟨hrejects, haccepts⟩ := ih (joinPlanned blake3 manifest st p)
      have hdrift := driftViolation_planned blake3 manifest p
      rw [List.foldl_cons]
      constructor
      · intro h
        rw [hrejects h, joinPlanned, MatchState.join, hdrift, h]
        rfl
      · intro h
        have hjoin : joinPlanned blake3 manifest st p =
            { st with matched := st.matched ++ [matchedPair blake3 manifest p] } := by
          rw [joinPlanned, MatchState.join, hdrift, h]
          rfl
        rw [(haccepts h).1, (haccepts h).2, hjoin, List.map_cons, List.append_assoc]
        exact ⟨rfl, rfl⟩

/-- A group of the matcher that belongs to a planned pair. -/
def BelongsTo (group : IcPairId × List (IcPairId × ObservedSide))
    (p : ResolvedIcRelationship × ℕ) : Prop :=
  p ∈ plannedPairs manifest ∧ group.1 = plannedPairId blake3 manifest p ∧
    group.2.Perm (bothSides blake3 manifest p)

theorem foldRun_matchGroup
    (hnodup : ((plannedPairs manifest).map (plannedPairId blake3 manifest)).Nodup)
    (hknown : EndpointsKnown manifest)
    {groups : List (IcPairId × List (IcPairId × ObservedSide))}
    {ps : List (ResolvedIcRelationship × ℕ)}
    (h : List.Forall₂ (BelongsTo blake3 manifest) groups ps) (st : MatchState) :
    foldRun (matchGroup blake3 manifest) st groups =
      .ok (ps.foldl (joinPlanned blake3 manifest) st) := by
  induction h generalizing st with
  | nil => rfl
  | @cons group p groups ps hgroup _ ih =>
      obtain ⟨hp, hid, hperm⟩ := hgroup
      have hstep := matchGroup_planned blake3 manifest hnodup hknown hp hperm st
      rw [← hid] at hstep
      rw [foldRun, hstep]
      exact ih (joinPlanned blake3 manifest st p)

section Matched

variable {entity_jes : List (String × List JournalEntry)}

/-- The sides observed under an identifier are those of the planned pairs that have it. -/
theorem filter_observedSides_perm (hknown : EndpointsKnown manifest)
    (hshards : ShardEntries blake3 manifest entity_jes) (pair_id : IcPairId) :
    ((observedSides entity_jes).filter (·.1 = pair_id)).Perm
      (((plannedPairs manifest).filter (plannedPairId blake3 manifest · = pair_id)).flatMap
        (bothSides blake3 manifest)) := by
  rw [← filter_bothSides]
  exact (observedSides_perm blake3 manifest hknown hshards).filter _

/-- With distinct identifiers every group belongs to exactly one planned pair. -/
theorem exists_belongsTo
    (hnodup : ((plannedPairs manifest).map (plannedPairId blake3 manifest)).Nodup)
    (hknown : EndpointsKnown manifest) (hshards : ShardEntries blake3 manifest entity_jes) :
    ∀ group ∈ (groupBy Prod.fst (observedSides entity_jes)).entries,
      ∃ p, BelongsTo blake3 manifest group p := by
  rintro ⟨pair_id, sides⟩ hgroup
  obtain ⟨hsides, hne⟩ := (mem_entries_groupBy _ _ _ _).mp hgroup
  have hperm := filter_observedSides_perm blake3 manifest hknown hshards pair_id
  rw [← hsides] at hperm
  have hplanned :
      (plannedPairs manifest).filter (plannedPairId blake3 manifest · = pair_id) ≠ [] := by
    intro hnil
    rw [hnil] at hperm
    exact hne hperm.eq_nil
  obtain ⟨p, hp⟩ := List.exists_mem_of_ne_nil _ hplanned
  obtain ⟨hp, hid⟩ := List.mem_filter.mp hp
  have hid : plannedPairId blake3 manifest p = pair_id := by simpa using hid
  refine ⟨p, hp, hid.symm, ?_⟩
  rw [← hid, filter_key_eq hnodup hp, List.flatMap_singleton] at hperm
  exact hperm

/-- The groups run through the planned pairs, each once. -/
theorem perm_of_belongsTo
    (hnodup : ((plannedPairs manifest).map (plannedPairId blake3 manifest)).Nodup)
    (hknown : EndpointsKnown manifest) (hshards : ShardEntries blake3 manifest entity_jes)
    {ps : List (ResolvedIcRelationship × ℕ)}
    (h : List.Forall₂ (BelongsTo blake3 manifest)
      (groupBy Prod.fst (observedSides entity_jes)).entries ps) :
    ps.Perm (plannedPairs manifest) := by
  have hids : (groupBy Prod.fst (observedSides entity_jes)).keys =
      ps.map (plannedPairId blake3 manifest) := by
    rw [OrderedMap.keys]
    refine List.forall₂_eq_eq_eq ▸ List.forall₂_map_left_iff.mpr
      (List.forall₂_map_right_iff.mpr (h.imp fun _ _ hgroup => hgroup.2.1))
  have hps : (ps.map (plannedPairId blake3 manifest)).Nodup := hids ▸ OrderedMap.keys_nodup _
  have hsubset : ∀ p ∈ ps, p ∈ plannedPairs manifest := by
    intro p hp
    obtain ⟨group, -, hgroup⟩ := exists_left_of_forall₂ h hp
    exact hgroup.1
  refine (List.perm_ext_iff_of_nodup hps.of_map hnodup.of_map).mpr fun p => ⟨hsubset p, ?_⟩
  intro hp
  have hkey : plannedPairId blake3 manifest p ∈ ps.map (plannedPairId blake3 manifest) := by
    rw [← hids, mem_keys_groupBy]
    have hperm := observedSides_perm blake3 manifest hknown hshards
    exact ⟨_, hperm.mem_iff.mpr (List.mem_flatMap.mpr ⟨p, hp, List.mem_cons_self ..⟩), rfl⟩
  obtain ⟨p', hp', hid⟩ := List.mem_map.mp hkey
  exact List.inj_on_of_nodup_map hnodup (hsubset p' hp') hp hid ▸ hp'

/-- Two planned pairs of one identifier put four sides into one group. -/
theorem match_ic_pairs_ne_ok
    (hnodup : ¬ ((plannedPairs manifest).map (plannedPairId blake3 manifest)).Nodup)
    (hknown : EndpointsKnown manifest) (hshards : ShardEntries blake3 manifest entity_jes)
    (result : IcMatchResult) : match_ic_pairs blake3 manifest entity_jes ≠ .ok result := by
  obtain ⟨pair_id, hdup⟩ : ∃ pair_id,
      ¬ ((plannedPairs manifest).map (plannedPairId blake3 manifest)).count pair_id ≤ 1 := by
    rw [List.nodup_iff_count_le_one] at hnodup
    exact not_forall.mp hnodup
  have hcount : 2 ≤ ((plannedPairs manifest).filter
      (plannedPairId blake3 manifest · = pair_id)).length := by
    rw [List.count_eq_countP, List.countP_map, List.countP_eq_length_filter, not_le] at hdup
    refine hdup.trans_eq (congrArg List.length (List.filter_congr fun p _ => ?_))
    exact Bool.eq_iff_iff.mpr (by simp)
  have hperm := filter_observedSides_perm blake3 manifest hknown hshards pair_id
  have hlength : 2 < ((observedSides entity_jes).filter (·.1 = pair_id)).length := by
    have hsides : ∀ l : List (ResolvedIcRelationship × ℕ),
        (l.flatMap (bothSides blake3 manifest)).length = 2 * l.length := by
      intro l
      simp [List.length_flatMap, bothSides, mul_comm]
    rw [hperm.length_eq, hsides]
    omega
  have hgroup : (pair_id, (observedSides entity_jes).filter (·.1 = pair_id)) ∈
      (groupBy Prod.fst (observedSides entity_jes)).entries :=
    (mem_entries_groupBy _ _ _ _).mpr ⟨rfl, List.ne_nil_of_length_pos (by omega)⟩
  intro hrun
  obtain ⟨st, hst, -⟩ := bind_eq_ok_iff.mp hrun
  exact foldRun_ne_ok hgroup (matchGroup_ne_ok_of_length blake3 manifest hlength) _ _ hst

/-- Every planned pair is matched exactly when the planned identifiers are distinct
and the matching configuration does not turn down equal amounts. -/
theorem allPairsMatched_iff (hknown : EndpointsKnown manifest)
    (hshards : ShardEntries blake3 manifest entity_jes) :
    AllPairsMatched blake3 manifest entity_jes ↔
      ((plannedPairs manifest).map (plannedPairId blake3 manifest)).Nodup ∧
        (plannedPairs manifest ≠ [] → rejectsEqualAmounts manifest = false) := by
  by_cases hnodup : ((plannedPairs manifest).map (plannedPairId blake3 manifest)).Nodup
  · obtain ⟨ps, hps⟩ := exists_forall₂ (exists_belongsTo blake3 manifest hnodup hknown hshards)
    have hperm := perm_of_belongsTo blake3 manifest hnodup hknown hshards hps
    have hfold := foldRun_matchGroup blake3 manifest hnodup hknown hps MatchState.empty
    obtain ⟨hrejects, haccepts⟩ := foldl_joinPlanned blake3 manifest ps MatchState.empty
    constructor
    · rintro ⟨result, hrun, hmatched, -⟩
      refine ⟨hnodup, fun hplanned => ?_⟩
      by_contra hreject
      rw [Bool.not_eq_false] at hreject
      obtain ⟨st, hst, heq⟩ := bind_eq_ok_iff.mp hrun
      cases hst.symm.trans hfold
      cases heq
      rw [hrejects hreject] at hmatched
      exact hplanned (List.map_eq_nil_iff.mp hmatched.symm.eq_nil)
    · rintro ⟨-, haccept⟩
      refine ⟨_, bind_eq_ok_iff.mpr ⟨_, hfold, rfl⟩, ?_, ?_⟩
      · refine (List.perm_insertionSort _ _).trans ?_
        by_cases hplanned : plannedPairs manifest = []
        · have hnil : ps = [] := List.Perm.eq_nil (hplanned ▸ hperm)
          rw [hnil, hplanned]
          exact List.Perm.refl _
        · rw [(haccepts (haccept hplanned)).1]
          exact hperm.map _
      · by_cases hplanned : plannedPairs manifest = []
        · have hnil : ps = [] := List.Perm.eq_nil (hplanned ▸ hperm)
          rw [hnil]
          rfl
        · dsimp only
          rw [(haccepts (haccept hplanned)).2]
          rfl
  · constructor
    · rintro ⟨result, hrun, -⟩
      exact absurd hrun (match_ic_pairs_ne_ok blake3 manifest hnodup hknown hshards result)
    · rintro ⟨h, -⟩
      exact absurd h hnodup

end Matched

end Sides

end Datasynth.Group.IcPairing
