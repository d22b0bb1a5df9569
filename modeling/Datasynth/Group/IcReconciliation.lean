import Datasynth.Group.IcResolution

/-!
Intercompany reconciliation end to end: from an accepted configuration through
expansion, plan derivation and injection to the matcher.  Pair identifiers are
hashes of relationship identifiers, which are hashes of the relationship's triple,
so they are distinct exactly when the hashed strings are.
-/

namespace Datasynth.Group.IcReconciliation

open Datasynth.Core.JournalEntries
open Datasynth.Group.Config
open Datasynth.Group.IcExpansion
open Datasynth.Group.IcInjection
open Datasynth.Group.IcMatching
open Datasynth.Group.IcPairing
open Datasynth.Group.IcPlanning
open Datasynth.Group.IcResolution
open Datasynth.Group.ManifestBuilder
open Datasynth.Group.OwnershipExpansion
open Datasynth.Lib.ByteEncoding
open Datasynth.Lib.CivilCalendar
open Datasynth.Lib.ExceptRuns
open Datasynth.Lib.ListRearrangement
open Datasynth.Lib.SortedEntries

/-- Whether a relationship of this volume and type plans any pair. -/
def isPlanned (volume : ℚ) (t : IcTransactionType) : Bool :=
  (compute_pair_count volume (avg_amount t)).isSome

/-- An explicit relationship plans pairs for the triple. -/
def ExplicitPlanned (rels : List IcRelationshipConfig) (t : Triple) : Prop :=
  ∃ e ∈ explicits rels, isPlanned e.annual_volume (explicitTriple e).2.2 = true ∧
    explicitTriple e = t

/-- No explicit relationship has the triple, and the first pattern that covers it
plans pairs. -/
def PatternPlanned (entities : List ExpandedEntity) (rels : List IcRelationshipConfig)
    (t : Triple) : Prop :=
  t ∉ (explicits rels).map explicitTriple ∧
    ∃ v, firstPatternVolume entities rels t = some v ∧ isPlanned v t.2.2 = true

/-- The configurations whose pairs can be told apart: the strings hashed for the
explicit relationships that plan pairs are distinct, a triple planned by a pattern
shares its string with no other planned triple, and the matcher does not turn down
equal amounts. -/
structure Reconcilable (ic : IntercompanyConfig) (entities : List ExpandedEntity)
    (group_seed : ℕ) : Prop where
  explicit_distinct :
    (((explicits ic.relationships).filter fun e =>
      isPlanned e.annual_volume (explicitTriple e).2.2).map fun e =>
        hashInput group_seed (explicitTriple e)).Nodup
  pattern_distinct : ∀ t t', PatternPlanned entities ic.relationships t →
    (PatternPlanned entities ic.relationships t' ∨ ExplicitPlanned ic.relationships t') →
      hashInput group_seed t = hashInput group_seed t' → t = t'
  tolerates_equal_amounts :
    (∃ t, ExplicitPlanned ic.relationships t ∨ PatternPlanned entities ic.relationships t) →
      ¬ (ic.matching.strategy = .emergentFuzzy ∧ ic.matching.tolerance_percent < 0)

/-- The hash separates the strings it is applied to for this manifest. -/
structure HashInjective (blake3 : List Byte → Digest) (manifest : GroupManifest) : Prop where
  relationship_ids : Set.InjOn (fun input => digestId (blake3 input))
    {input | ∃ rel ∈ manifest.ic_relationships, hashInput manifest.group_seed (relTriple rel) = input}
  pair_ids : Set.InjOn blake3
    {input | ∃ p ∈ plannedPairs manifest, pairHashInput manifest.group_seed p.1.id p.2 = input}

theorem pairHashInput_inj {group_seed : ℕ} {id id' : String} {i j : ℕ} (hi : i < 2 ^ 64)
    (hj : j < 2 ^ 64) :
    pairHashInput group_seed id i = pairHashInput group_seed id' j ↔ id = id' ∧ i = j := by
  constructor
  · intro h
    obtain ⟨hinitials, hindex⟩ :=
      List.append_inj' h ((leBytes_length 8 i).trans (leBytes_length 8 j).symm)
    exact ⟨utf8Bytes_injective (List.append_cancel_left hinitials),
      leBytes_injOn 8 (by omega) (by omega) hindex⟩
  · rintro ⟨rfl, rfl⟩
    rfl

theorem pairCount_pos_iff {rel : ResolvedIcRelationship} (htypes : rel.types ≠ []) :
    0 < pairCount rel ↔ isPlanned rel.annual_volume (firstType rel) = true := by
  cases htypes' : rel.types with
  | nil => exact absurd htypes' htypes
  | cons tx_type rest =>
      have hfirst : firstType rel = tx_type := by simp [firstType, htypes']
      cases hcount : compute_pair_count rel.annual_volume (avg_amount tx_type) with
      | none => simp [pairCount, isPlanned, htypes', hfirst, hcount]
      | some count => simp [pairCount, isPlanned, htypes', hfirst, hcount]

/-- Pair indices fit the eight bytes they are hashed in. -/
theorem pairCount_le (rel : ResolvedIcRelationship) : pairCount rel ≤ 2 ^ 64 := by
  have hbound : ∀ (volume avg : ℚ) (count : ℕ), compute_pair_count volume avg = some count →
      count < 2 ^ 64 := by
    intro volume avg count hcount
    simp only [compute_pair_count, to_u64] at hcount
    split at hcount
    · cases hcount
    · split at hcount
      · cases hcount
        omega
      · cases hcount
  rw [pairCount]
  split
  · exact Nat.zero_le _
  · split
    · exact Nat.zero_le _
    · rename_i count hcount
      have := hbound _ _ count hcount
      omega

section Identifiers

variable {blake3 : List Byte → Digest} {manifest : GroupManifest}

theorem pairId_inj (hhash : HashInjective blake3 manifest)
    {p p' : ResolvedIcRelationship × ℕ} (hp : p ∈ plannedPairs manifest)
    (hp' : p' ∈ plannedPairs manifest) :
    plannedPairId blake3 manifest p = plannedPairId blake3 manifest p' ↔
      p.1.id = p'.1.id ∧ p.2 = p'.2 := by
  have hindex : ∀ q ∈ plannedPairs manifest, q.2 < 2 ^ 64 := fun q hq =>
    (List.mem_range.mp ((mem_plannedPairs manifest).mp hq).2).trans_le (pairCount_le q.1)
  constructor
  · intro h
    have hinput := hhash.pair_ids ⟨p, hp, rfl⟩ ⟨p', hp', rfl⟩ (congrArg IcPairId.asBytes h)
    exact (pairHashInput_inj (hindex p hp) (hindex p' hp')).mp hinput
  · rintro ⟨hid, hi⟩
    rw [plannedPairId, plannedPairId, pairId, pairId, hid, hi]

/-- Pair identifiers are distinct when the identifiers of the relationships that
plan pairs are: each of them has a pair with index zero. -/
theorem plannedPairIds_nodup_iff (hhash : HashInjective blake3 manifest) :
    ((plannedPairs manifest).map (plannedPairId blake3 manifest)).Nodup ↔
      ((manifest.ic_relationships.filter (0 < pairCount ·)).map (·.id)).Nodup := by
  have hmem : ∀ rel ∈ manifest.ic_relationships, ∀ i ∈ List.range (pairCount rel),
      (rel, i) ∈ plannedPairs manifest := fun rel hrel i hi =>
    (mem_plannedPairs manifest).mpr ⟨hrel, hi⟩
  have hinner : ∀ rel ∈ manifest.ic_relationships,
      (((List.range (pairCount rel)).map fun i => (rel, i)).map
        (plannedPairId blake3 manifest)).Nodup := by
    intro rel hrel
    rw [List.map_map]
    refine List.Nodup.map_on ?_ List.nodup_range
    intro i hi j hj h
    exact ((pairId_inj hhash (hmem rel hrel i hi) (hmem rel hrel j hj)).mp h).2
  have houter : ∀ rel ∈ manifest.ic_relationships, ∀ rel' ∈ manifest.ic_relationships,
      (List.Disjoint (((List.range (pairCount rel)).map fun i => (rel, i)).map
          (plannedPairId blake3 manifest))
        (((List.range (pairCount rel')).map fun i => (rel', i)).map
          (plannedPairId blake3 manifest)) ↔
        (0 < pairCount rel → 0 < pairCount rel' → rel.id ≠ rel'.id)) := by
    intro rel hrel rel' hrel'
    simp only [List.map_map]
    constructor
    · intro hdisjoint hpos hpos' hid
      have hfirst := List.mem_range.mpr hpos
      have hfirst' := List.mem_range.mpr hpos'
      refine hdisjoint (List.mem_map_of_mem hfirst) ?_
      refine List.mem_map.mpr ⟨0, hfirst', ?_⟩
      exact (pairId_inj hhash (hmem rel' hrel' 0 hfirst') (hmem rel hrel 0 hfirst)).mpr
        ⟨hid.symm, rfl⟩
    · intro hne pair_id hmem₁ hmem₂
      obtain ⟨i, hi, rfl⟩ := List.mem_map.mp hmem₁
      obtain ⟨j, hj, heq⟩ := List.mem_map.mp hmem₂
      have hid := ((pairId_inj hhash (hmem rel' hrel' j hj) (hmem rel hrel i hi)).mp heq).1
      have hi := List.mem_range.mp hi
      have hj := List.mem_range.mp hj
      exact hne (by omega) (by omega) hid.symm
  have hids : ((manifest.ic_relationships.filter (0 < pairCount ·)).map (·.id)).Nodup ↔
      manifest.ic_relationships.Pairwise fun rel rel' =>
        0 < pairCount rel → 0 < pairCount rel' → rel.id ≠ rel'.id := by
    rw [List.Nodup, List.pairwise_map, List.pairwise_filter]
    simp only [decide_eq_true_eq]
  rw [hids, plannedPairs, List.map_flatMap, List.nodup_flatMap]
  constructor
  · rintro ⟨-, hpairwise⟩
    exact hpairwise.imp_of_mem fun hrel hrel' h => (houter _ hrel _ hrel').mp h
  · intro hpairwise
    exact ⟨hinner, hpairwise.imp_of_mem fun hrel hrel' h => (houter _ hrel _ hrel').mpr h⟩

/-- And those are distinct when the hashed strings are. -/
theorem relationshipIds_nodup_iff {entities : List ExpandedEntity}
    (hhash : HashInjective blake3 manifest)
    (hwell : ∀ rel ∈ manifest.ic_relationships,
      WellResolved blake3 entities manifest.group_seed rel) :
    ((manifest.ic_relationships.filter (0 < pairCount ·)).map (·.id)).Nodup ↔
      ((manifest.ic_relationships.filter (0 < pairCount ·)).map fun rel =>
        hashInput manifest.group_seed (relTriple rel)).Nodup := by
  rw [List.Nodup, List.Nodup, List.pairwise_map, List.pairwise_map]
  refine List.Pairwise.iff_of_mem fun {rel rel'} hrel hrel' => ?_
  have hrel := List.mem_of_mem_filter hrel
  have hrel' := List.mem_of_mem_filter hrel'
  rw [(hwell rel hrel).id_eq, (hwell rel' hrel').id_eq]
  refine not_congr ⟨fun h => ?_, fun h => by rw [h]⟩
  exact hhash.relationship_ids ⟨rel, hrel, rfl⟩ ⟨rel', hrel', rfl⟩ h

end Identifiers

section Triples

variable {blake3 : List Byte → Digest} {entities : List ExpandedEntity} {group_seed : ℕ}
  {rels : List IcRelationshipConfig} {out added : List ResolvedIcRelationship}

/-- The pattern-resolved relationships that plan pairs are those of the triples a
pattern plans. -/
theorem patternPlanned_iff (h : Resolved blake3 entities group_seed rels out added) (t : Triple) :
    PatternPlanned entities rels t ↔
      ∃ rel ∈ added, 0 < pairCount rel ∧ relTriple rel = t := by
  have hplanned : ∀ rel ∈ added,
      (0 < pairCount rel ↔ isPlanned rel.annual_volume (relTriple rel).2.2 = true) :=
    fun rel hrel => pairCount_pos_iff
      (h.well_resolved rel (h.out_eq ▸ List.mem_append_right _ hrel)).types_ne_nil
  constructor
  · rintro ⟨hnew, v, hv, hpos⟩
    obtain ⟨rel, hrel, rfl⟩ := List.mem_map.mp ((h.covered t v hv).resolve_left hnew)
    refine ⟨rel, hrel, (hplanned rel hrel).mpr ?_, rfl⟩
    rw [h.added_volume rel hrel, Option.some.injEq] at hv
    rw [hv]
    exact hpos
  · rintro ⟨rel, hrel, hpos, rfl⟩
    exact ⟨h.added_fresh rel hrel, _, h.added_volume rel hrel, (hplanned rel hrel).mp hpos⟩

theorem filter_resolvedExplicit (h : Resolved blake3 entities group_seed rels out added) :
    ((explicits rels).map (resolvedExplicit blake3 group_seed)).filter (0 < pairCount ·) =
      ((explicits rels).filter fun e =>
        isPlanned e.annual_volume (explicitTriple e).2.2).map
          (resolvedExplicit blake3 group_seed) := by
  rw [List.filter_map]
  congr 1
  refine List.filter_congr fun e he => Bool.eq_iff_iff.mpr ?_
  have hmem : resolvedExplicit blake3 group_seed e ∈ out :=
    h.out_eq ▸ List.mem_append_left _ (List.mem_map_of_mem he)
  simp only [Function.comp_apply, decide_eq_true_eq]
  exact pairCount_pos_iff (h.well_resolved _ hmem).types_ne_nil

theorem plannedTriples_eq (h : Resolved blake3 entities group_seed rels out added) :
    (out.filter (0 < pairCount ·)).map (fun rel => hashInput group_seed (relTriple rel)) =
      ((explicits rels).filter fun e =>
          isPlanned e.annual_volume (explicitTriple e).2.2).map
            (fun e => hashInput group_seed (explicitTriple e)) ++
        (added.filter (0 < pairCount ·)).map
          (fun rel => hashInput group_seed (relTriple rel)) := by
  rw [h.out_eq, List.filter_append, List.map_append, filter_resolvedExplicit h, List.map_map]
  rfl

theorem plannedTriples_nodup_iff (h : Resolved blake3 entities group_seed rels out added) :
    ((out.filter (0 < pairCount ·)).map fun rel =>
        hashInput group_seed (relTriple rel)).Nodup ↔
      (((explicits rels).filter fun e =>
        isPlanned e.annual_volume (explicitTriple e).2.2).map fun e =>
          hashInput group_seed (explicitTriple e)).Nodup ∧
      ∀ t t', PatternPlanned entities rels t →
        (PatternPlanned entities rels t' ∨ ExplicitPlanned rels t') →
          hashInput group_seed t = hashInput group_seed t' → t = t' := by
  have hmem : ∀ rel ∈ added, 0 < pairCount rel → rel ∈ added.filter (0 < pairCount ·) :=
    fun rel hrel hpos => List.mem_filter.mpr ⟨hrel, by simpa using hpos⟩
  have hof : ∀ rel ∈ added.filter (0 < pairCount ·),
      rel ∈ added ∧ PatternPlanned entities rels (relTriple rel) := by
    intro rel hrel
    obtain ⟨hrel, hpos⟩ := List.mem_filter.mp hrel
    exact ⟨hrel, (patternPlanned_iff h _).mpr ⟨rel, hrel, by simpa using hpos, rfl⟩⟩
  rw [plannedTriples_eq h, List.nodup_append]
  refine and_congr_right fun _ => ?_
  constructor
  · rintro ⟨hadded, hdisjoint⟩ t t' ht ht' heq
    obtain ⟨rel, hrel, hpos, rfl⟩ := (patternPlanned_iff h t).mp ht
    rcases ht' with ht' | ⟨e, he, hplanned, rfl⟩
    · obtain ⟨rel', hrel', hpos', rfl⟩ := (patternPlanned_iff h t').mp ht'
      rw [List.inj_on_of_nodup_map hadded (hmem rel hrel hpos) (hmem rel' hrel' hpos') heq]
    · refine absurd heq.symm (hdisjoint _ ?_ _ (List.mem_map_of_mem (hmem rel hrel hpos)))
      exact List.mem_map_of_mem (List.mem_filter.mpr ⟨he, hplanned⟩)
  · intro hdistinct
    constructor
    · refine List.Nodup.map_on ?_ (h.added_nodup.of_map.filter _)
      intro rel hrel rel' hrel' heq
      obtain ⟨hrel, ht⟩ := hof rel hrel
      obtain ⟨hrel', ht'⟩ := hof rel' hrel'
      exact List.inj_on_of_nodup_map h.added_nodup hrel hrel' (hdistinct _ _ ht (.inl ht') heq)
    · rintro _ hexplicit _ hpattern rfl
      obtain ⟨e, he, hinput⟩ := List.mem_map.mp hexplicit
      obtain ⟨rel, hrel, hinput'⟩ := List.mem_map.mp hpattern
      obtain ⟨he, hplanned⟩ := List.mem_filter.mp he
      obtain ⟨hrel, ht⟩ := hof rel hrel
      have htriple := hdistinct _ _ ht (.inr ⟨e, he, hplanned, rfl⟩) (hinput'.trans hinput.symm)
      exact h.added_fresh rel hrel (htriple ▸ List.mem_map_of_mem he)

/-- Some relationship plans pairs exactly when some triple is planned. -/
theorem exists_planned_iff (h : Resolved blake3 entities group_seed rels out added) :
    (∃ rel ∈ out, 0 < pairCount rel) ↔
      ∃ t, ExplicitPlanned rels t ∨ PatternPlanned entities rels t := by
  have hexplicit : ∀ e ∈ explicits rels, (0 < pairCount (resolvedExplicit blake3 group_seed e) ↔
      isPlanned e.annual_volume (explicitTriple e).2.2 = true) := fun e he =>
    pairCount_pos_iff (h.well_resolved _
      (h.out_eq ▸ List.mem_append_left _ (List.mem_map_of_mem he))).types_ne_nil
  constructor
  · rintro ⟨rel, hrel, hpos⟩
    rw [h.out_eq] at hrel
    rcases List.mem_append.mp hrel with hrel | hrel
    · obtain ⟨e, he, rfl⟩ := List.mem_map.mp hrel
      exact ⟨_, .inl ⟨e, he, (hexplicit e he).mp hpos, rfl⟩⟩
    · exact ⟨_, .inr ((patternPlanned_iff h _).mpr ⟨rel, hrel, hpos, rfl⟩)⟩
  · rintro ⟨t, ⟨e, he, hplanned, rfl⟩ | ht⟩
    · refine ⟨_, ?_, (hexplicit e he).mpr hplanned⟩
      exact h.out_eq ▸ List.mem_append_left _ (List.mem_map_of_mem he)
    · obtain ⟨rel, hrel, hpos, rfl⟩ := (patternPlanned_iff h t).mp ht
      exact ⟨rel, h.out_eq ▸ List.mem_append_right _ hrel, hpos⟩

end Triples

section Builds

variable {σ ρ : Type} (platform : Platform σ ρ) {cfg : GroupConfig ρ} {manifest : GroupManifest}
  {entities : List ExpandedEntity}

/-- What a build resolves from the entities its ownership block expands to. -/
theorem resolved_of_build_manifest (hbuild : build_manifest platform cfg = .ok manifest)
    (hentities : expand_ownership platform.blake3 platform.rng cfg.ownership cfg.seed
      cfg.period.start_date = .ok entities) :
    entityCodes manifest = entities.map (·.code) ∧
      ∃ added, Resolved platform.blake3 entities cfg.seed cfg.intercompany.relationships
        manifest.ic_relationships added := by
  have hbuilt := built_of_build_manifest platform hbuild
  obtain ⟨expanded, hexpanded, hrelationships, -, -, hmanifest⟩ := hbuilt.expansion
  rw [(compute_period_spec hbuilt.period_eq).1, hentities] at hexpanded
  cases hexpanded
  exact ⟨map_manifestEntity_code hmanifest,
    exists_resolved platform.blake3 entities cfg.seed hrelationships⟩

theorem endpointsKnown_of_build_manifest (hbuild : build_manifest platform cfg = .ok manifest)
    (hentities : expand_ownership platform.blake3 platform.rng cfg.ownership cfg.seed
      cfg.period.start_date = .ok entities) : EndpointsKnown manifest := by
  obtain ⟨hcodes, added, hresolved⟩ := resolved_of_build_manifest platform hbuild hentities
  refine ⟨hcodes ▸ expand_ownership_codes_nodup platform.blake3 platform.rng hentities, ?_, ?_, ?_⟩
  · exact fun rel hrel => hcodes ▸ (hresolved.well_resolved rel hrel).seller_mem
  · exact fun rel hrel => hcodes ▸ (hresolved.well_resolved rel hrel).buyer_mem
  · exact fun rel hrel => (hresolved.well_resolved rel hrel).seller_ne_buyer

theorem plannedPairs_ne_nil_iff (manifest : GroupManifest) :
    plannedPairs manifest ≠ [] ↔ ∃ rel ∈ manifest.ic_relationships, 0 < pairCount rel := by
  constructor
  · intro hne
    obtain ⟨p, hp⟩ := List.exists_mem_of_ne_nil _ hne
    obtain ⟨hrel, hi⟩ := (mem_plannedPairs manifest).mp hp
    exact ⟨p.1, hrel, Nat.zero_lt_of_lt (List.mem_range.mp hi)⟩
  · rintro ⟨rel, hrel, hpos⟩
    exact List.ne_nil_of_mem ((mem_plannedPairs manifest).mpr
      ⟨hrel, List.mem_range.mpr hpos⟩ : (rel, 0) ∈ plannedPairs manifest)

theorem rejectsEqualAmounts_eq_false_iff (manifest : GroupManifest) :
    rejectsEqualAmounts manifest = false ↔
      ¬ (manifest.matching.strategy = .emergentFuzzy ∧ manifest.matching.tolerance_percent < 0) := by
  rw [← Bool.not_eq_true, rejectsEqualAmounts, Bool.and_eq_true, decide_eq_true_eq,
    decide_eq_true_eq]

/-- For an accepted configuration the shards' entries are matched pair by pair, with
nothing left over, exactly when the configuration's pairs can be told apart. -/
theorem allPairsMatched_iff_reconcilable (hbuild : build_manifest platform cfg = .ok manifest)
    (hentities : expand_ownership platform.blake3 platform.rng cfg.ownership cfg.seed
      cfg.period.start_date = .ok entities)
    (hhash : HashInjective platform.blake3 manifest)
    {entity_jes : List (String × List JournalEntry)}
    (hshards : ShardEntries platform.blake3 manifest entity_jes) :
    AllPairsMatched platform.blake3 manifest entity_jes ↔
      Reconcilable cfg.intercompany entities cfg.seed := by
  have hbuilt := built_of_build_manifest platform hbuild
  have hknown := endpointsKnown_of_build_manifest platform hbuild hentities
  obtain ⟨-, added, hresolved⟩ := resolved_of_build_manifest platform hbuild hentities
  have hwell : ∀ rel ∈ manifest.ic_relationships,
      WellResolved platform.blake3 entities manifest.group_seed rel :=
    hbuilt.group_seed_eq ▸ hresolved.well_resolved
  rw [allPairsMatched_iff platform.blake3 manifest hknown hshards, plannedPairIds_nodup_iff hhash,
    relationshipIds_nodup_iff hhash hwell, hbuilt.group_seed_eq,
    plannedTriples_nodup_iff hresolved, plannedPairs_ne_nil_iff, exists_planned_iff hresolved,
    rejectsEqualAmounts_eq_false_iff, hbuilt.matching_eq]
  exact ⟨fun ⟨⟨hexplicit, hpattern⟩, htolerates⟩ => ⟨hexplicit, hpattern, htolerates⟩,
    fun ⟨hexplicit, hpattern, htolerates⟩ => ⟨⟨hexplicit, hpattern⟩, htolerates⟩⟩

end Builds

theorem HashInjective.of_forall {blake3 : List Byte → Digest} {manifest : GroupManifest}
    (hrels : ∀ rel ∈ manifest.ic_relationships, ∀ rel' ∈ manifest.ic_relationships,
      digestId (blake3 (hashInput manifest.group_seed (relTriple rel))) =
          digestId (blake3 (hashInput manifest.group_seed (relTriple rel'))) →
        hashInput manifest.group_seed (relTriple rel) =
          hashInput manifest.group_seed (relTriple rel'))
    (hpairs : ∀ p ∈ plannedPairs manifest, ∀ p' ∈ plannedPairs manifest,
      blake3 (pairHashInput manifest.group_seed p.1.id p.2) =
          blake3 (pairHashInput manifest.group_seed p'.1.id p'.2) →
        pairHashInput manifest.group_seed p.1.id p.2 =
          pairHashInput manifest.group_seed p'.1.id p'.2) :
    HashInjective blake3 manifest := by
  constructor
  · rintro _ ⟨rel, hrel, rfl⟩ _ ⟨rel', hrel', rfl⟩ h
    exact hrels rel hrel rel' hrel' h
  · rintro _ ⟨p, hp, rfl⟩ _ ⟨p', hp', rfl⟩ h
    exact hpairs p hp p' hp' h

/-- The shards' output when no entity posts anything but its injected entries. -/
def injectedOnly (blake3 : List Byte → Digest) (manifest : GroupManifest) :
    List (String × List JournalEntry) :=
  (entityCodes manifest).map fun code =>
    (code, inject_ic_journal_entries (derive_ic_pair_plans blake3 manifest code) ⟨code⟩)

theorem shardEntries_injectedOnly (blake3 : List Byte → Digest) (manifest : GroupManifest) :
    ShardEntries blake3 manifest (injectedOnly blake3 manifest) := by
  constructor
  · rw [injectedOnly, List.map_map]
    exact List.Perm.of_eq (List.map_id _)
  · intro e he
    obtain ⟨code, -, rfl⟩ := List.mem_map.mp he
    refine List.filter_eq_self.mpr fun je hje => ?_
    obtain ⟨plan, -, rfl⟩ := List.mem_map.mp hje
    simp

/-- The hash of the strings a build of the parent and its subsidiary hashes. -/
def sampleHash : List Byte → Digest :=
  hashOfTable <| seedDigests ++
    [(hashInput 42 ("P", "S", .goodsSale),
        digestOfNat 0xef4cb6af1af0a80c2a8be2a520a026c087b86aaa4b2901362257670f640b64bc),
      (pairHashInput 42 "ICR_ef4cb6af1af0a80c" 0,
        digestOfNat 0x2980ea744e8e0644c88148761b495a119ddf5477f9f3ddba4e10e8db6c0ca377),
      (pairHashInput 42 "ICR_ef4cb6af1af0a80c" 1,
        digestOfNat 0xbba145480a5a0c6ee154060af014666ab0b93e5c98f17dc8d9d76c9b8af75afa)]

/-- A parent and a subsidiary trading under the given relationships. -/
def tradingConfig (relationships : List IcRelationshipConfig) : GroupConfig Unit :=
  sampleConfig [sampleEntity "P" .parent none, sampleEntity "S" .full (some "P")] relationships

/-- Goods of 100,000 sold by the parent, two pairs of 50,000. -/
def goodsFromParent : IcRelationshipExplicit := ⟨"P", "S", [.goodsSale], 100000, none, none⟩

def anyGoodsFromParent : IcRelationshipPattern :=
  ⟨⟨none, none, some "P", none⟩, [.goodsSale], 50000, none⟩

def tradingManifest (relationships : List IcRelationshipConfig) : GroupManifest :=
  manifestOf (platformOf sampleHash) (tradingConfig relationships)

def sampleEntities : List ExpandedEntity :=
  [explicitEntity (sampleEntity "P" .parent none) [],
    explicitEntity (sampleEntity "S" .full (some "P")) []]

theorem not_patternPlanned_sample (t : Triple) :
    ¬ PatternPlanned sampleEntities [.explicit goodsFromParent, .pattern anyGoodsFromParent] t := by
  rintro ⟨hnew, v, hv, -⟩
  have hcover : coversTriple sampleEntities anyGoodsFromParent t = true := by
    by_contra hcover
    simp [firstPatternVolume, hcover] at hv
  obtain ⟨seller, buyer, type_⟩ := t
  have hpairs : patternPairs sampleEntities anyGoodsFromParent.pattern =
      sampleEntities.map fun buyer => (explicitEntity (sampleEntity "P" .parent none) [], buyer) := by
    decide
  simp only [coversTriple, hpairs, Bool.and_eq_true, decide_eq_true_eq] at hcover
  obtain ⟨htype, hpair⟩ := hcover
  cases htype
  simp [sampleEntities, pairStandsFor, explicitEntity, sampleEntity] at hpair
  obtain ⟨rfl, rfl⟩ := hpair
  exact hnew (by decide)

theorem goods_from_parent_reconcile :
    AllPairsMatched sampleHash
      (tradingManifest [.explicit goodsFromParent, .pattern anyGoodsFromParent])
      (injectedOnly sampleHash
        (tradingManifest [.explicit goodsFromParent, .pattern anyGoodsFromParent])) :=
  have hentities : expand_ownership sampleHash (platformOf sampleHash).rng
      (tradingConfig [.explicit goodsFromParent, .pattern anyGoodsFromParent]).ownership 42
      (Date.ofYmd 2024 1 1) = .ok sampleEntities := by decide
  (allPairsMatched_iff_reconcilable (platformOf sampleHash) (manifestOf_eq (by decide))
    hentities (.of_forall (by decide +kernel) (by decide +kernel))
    (shardEntries_injectedOnly sampleHash _)).mpr
    { explicit_distinct := by decide +kernel
      pattern_distinct := fun t _ ht _ _ => absurd ht (not_patternPlanned_sample t)
      tolerates_equal_amounts := fun _ h => absurd h.1 (by decide) }

/-- The same relationship written twice yields every pair twice: the build accepts
it, and the matcher stops at a pair with four sides. -/
theorem repeated_relationship_is_not_matched :
    ∃ manifest, build_manifest (platformOf sampleHash)
        (tradingConfig [.explicit goodsFromParent, .explicit goodsFromParent]) = .ok manifest ∧
      HashInjective sampleHash manifest ∧
      ∃ entity_jes, ShardEntries sampleHash manifest entity_jes ∧
        ¬ AllPairsMatched sampleHash manifest entity_jes := by
  refine ⟨tradingManifest [.explicit goodsFromParent, .explicit goodsFromParent],
    manifestOf_eq (by decide +kernel), .of_forall (by decide +kernel) (by decide +kernel), _,
    shardEntries_injectedOnly sampleHash _, ?_⟩
  rintro ⟨result, hrun, -⟩
  have hfails : (match_ic_pairs sampleHash
      (tradingManifest [.explicit goodsFromParent, .explicit goodsFromParent])
      (injectedOnly sampleHash
        (tradingManifest [.explicit goodsFromParent, .explicit goodsFromParent]))).isOk = false := by
    decide +kernel
  rw [hrun] at hfails
  cases hfails

end Datasynth.Group.IcReconciliation
