import Datasynth.Group.IcPairing

/-!
What the expansion of the intercompany configuration resolves: every explicit
relationship, as often as it is written, and one relationship for every triple
that only patterns cover, with the volume of the first such pattern.
-/

namespace Datasynth.Group.IcResolution

open Datasynth.Core.JournalEntries
open Datasynth.Group.Config
open Datasynth.Group.IcExpansion
open Datasynth.Group.IcPairing
open Datasynth.Group.OwnershipExpansion
open Datasynth.Lib.ByteEncoding
open Datasynth.Lib.ExceptRuns

def explicits (rels : List IcRelationshipConfig) : List IcRelationshipExplicit :=
  rels.filterMap fun rel =>
    match rel with
    | .explicit e => some e
    | .pattern _ => none

def explicitTriple (e : IcRelationshipExplicit) : Triple :=
  (e.seller, e.buyer, e.types.headD .goodsSale)

def relTriple (rel : ResolvedIcRelationship) : Triple := (rel.seller, rel.buyer, firstType rel)

/-- Whether a seller-buyer combination stands for a triple's endpoints. -/
def pairStandsFor (t : Triple) (pair : ExpandedEntity × ExpandedEntity) : Bool :=
  pair.1.code = t.1 && pair.2.code = t.2.1 && pair.1.code ≠ pair.2.code &&
    pair.2.consolidation_method ≠ .fairValue

def coversTriple (entities : List ExpandedEntity) (p : IcRelationshipPattern) (t : Triple) : Bool :=
  p.types.head? = some t.2.2 && (patternPairs entities p.pattern).any (pairStandsFor t)

def firstPatternVolume (entities : List ExpandedEntity) (rels : List IcRelationshipConfig)
    (t : Triple) : Option ℚ :=
  rels.findSome? fun rel =>
    match rel with
    | .explicit _ => none
    | .pattern p => if coversTriple entities p t then some p.per_pair_volume else none

section Resolution

variable (blake3 : List Byte → Digest) (entities : List ExpandedEntity) (group_seed : ℕ)

def resolvedExplicit (e : IcRelationshipExplicit) : ResolvedIcRelationship :=
  resolve_explicit blake3 group_seed e (e.types.headD .goodsSale)

/-- A relationship with the identifier of its triple, between two known entities. -/
structure WellResolved (rel : ResolvedIcRelationship) : Prop where
  id_eq : rel.id = digestId (blake3 (hashInput group_seed (relTriple rel)))
  types_ne_nil : rel.types ≠ []
  seller_mem : rel.seller ∈ entities.map (·.code)
  buyer_mem : rel.buyer ∈ entities.map (·.code)
  seller_ne_buyer : rel.seller ≠ rel.buyer

theorem expandExplicitRelationship_eq_ok {st st' : RelationshipExpansion}
    {rel : IcRelationshipConfig}
    (h : expandExplicitRelationship blake3 entities group_seed st rel = .ok st') :
    st'.out = st.out ++ (explicits [rel]).map (resolvedExplicit blake3 group_seed) ∧
      st'.seen = st.seen ++ (explicits [rel]).map explicitTriple ∧
      ∀ e ∈ explicits [rel], WellResolved blake3 entities group_seed
        (resolvedExplicit blake3 group_seed e) := by
  cases rel with
  | pattern p =>
      cases h
      simp [explicits]
  | explicit e =>
      cases htypes : e.types with
      | nil => simp [expandExplicitRelationship, htypes] at h
      | cons first_type rest =>
          simp only [expandExplicitRelationship, htypes] at h
          split at h
          · cases h
          · rename_i hne
            split at h
            · cases h
            · rename_i hseller
              split at h
              · cases h
              · rename_i hbuyer
                cases h
                refine ⟨by simp [explicits, resolvedExplicit, htypes],
                  by simp [explicits, explicitTriple, htypes], ?_⟩
                simp only [explicits, List.filterMap_cons, List.filterMap_nil,
                  List.mem_singleton, forall_eq]
                exact ⟨rfl, by simp [resolvedExplicit, resolve_explicit, htypes],
                  not_not.mp hseller, not_not.mp hbuyer, hne⟩

/-- The first pass resolves exactly the explicit relationships. -/
theorem foldRun_expandExplicit {rels : List IcRelationshipConfig} {st st' : RelationshipExpansion}
    (h : foldRun (expandExplicitRelationship blake3 entities group_seed) st rels = .ok st') :
    st'.out = st.out ++ (explicits rels).map (resolvedExplicit blake3 group_seed) ∧
      st'.seen = st.seen ++ (explicits rels).map explicitTriple ∧
      ∀ e ∈ explicits rels, WellResolved blake3 entities group_seed
        (resolvedExplicit blake3 group_seed e) := by
  induction rels generalizing st with
  | nil =>
      cases h
      simp [explicits]
  | cons rel rels ih =>
      obtain ⟨mid, hmid, hrest⟩ := bind_eq_ok_iff.mp h
      obtain ⟨hout, hseen, hwell⟩ :=
        expandExplicitRelationship_eq_ok blake3 entities group_seed hmid
      obtain ⟨hout', hseen', hwell'⟩ := ih hrest
      have hsplit : explicits (rel :: rels) = explicits [rel] ++ explicits rels := by
        rw [explicits, ← List.singleton_append, List.filterMap_append]
        rfl
      rw [hsplit]
      refine ⟨by rw [hout', hout, List.map_append, List.append_assoc],
        by rw [hseen', hseen, List.map_append, List.append_assoc], ?_⟩
      intro e he
      rcases List.mem_append.mp he with he | he
      · exact hwell e he
      · exact hwell' e he

/-- The relationships a pass over patterns adds to what had been seen before it. -/
structure Adds (seen : List Triple) (added : List ResolvedIcRelationship)
    (after : RelationshipExpansion) (before : RelationshipExpansion) : Prop where
  out_eq : after.out = before.out ++ added
  seen_eq : after.seen = before.seen ++ added.map relTriple
  fresh : ∀ rel ∈ added, relTriple rel ∉ seen
  nodup : (added.map relTriple).Nodup
  well_resolved : ∀ rel ∈ added, WellResolved blake3 entities group_seed rel

variable {blake3 entities group_seed}

theorem Adds.refl (st : RelationshipExpansion) :
    Adds blake3 entities group_seed st.seen [] st st :=
  ⟨by simp, by simp, by simp, by simp, by simp⟩

theorem Adds.single {st : RelationshipExpansion} {rel : ResolvedIcRelationship}
    (hnew : relTriple rel ∉ st.seen) (hwell : WellResolved blake3 entities group_seed rel) :
    Adds blake3 entities group_seed st.seen [rel]
      ⟨st.out ++ [rel], st.seen ++ [relTriple rel]⟩ st where
  out_eq := rfl
  seen_eq := rfl
  fresh := by
    intro rel' hrel'
    rw [List.mem_singleton.mp hrel']
    exact hnew
  nodup := List.nodup_singleton _
  well_resolved := by
    intro rel' hrel'
    rw [List.mem_singleton.mp hrel']
    exact hwell

theorem Adds.mem_seen_iff {before after : RelationshipExpansion}
    {added : List ResolvedIcRelationship}
    (h : Adds blake3 entities group_seed before.seen added after before) {t : Triple} :
    t ∈ after.seen ↔ t ∈ before.seen ∨ t ∈ added.map relTriple := by
  rw [h.seen_eq, List.mem_append]

theorem Adds.trans {before mid after : RelationshipExpansion}
    {added added' : List ResolvedIcRelationship}
    (h : Adds blake3 entities group_seed before.seen added mid before)
    (h' : Adds blake3 entities group_seed mid.seen added' after mid) :
    Adds blake3 entities group_seed before.seen (added ++ added') after before := by
  refine ⟨?_, ?_, ?_, ?_, ?_⟩
  · rw [h'.out_eq, h.out_eq, List.append_assoc]
  · rw [h'.seen_eq, h.seen_eq, List.append_assoc, List.map_append]
  · intro rel hrel
    rcases List.mem_append.mp hrel with hrel | hrel
    · exact h.fresh rel hrel
    · intro hmem
      exact h'.fresh rel hrel (h.mem_seen_iff.mpr (.inl hmem))
  · rw [List.map_append]
    refine List.nodup_append.mpr ⟨h.nodup, h'.nodup, ?_⟩
    rintro t ht _ ht' rfl
    obtain ⟨rel, hrel, rfl⟩ := List.mem_map.mp ht'
    exact h'.fresh rel hrel (h.mem_seen_iff.mpr (.inr ht))
  · intro rel hrel
    rcases List.mem_append.mp hrel with hrel | hrel
    · exact h.well_resolved rel hrel
    · exact h'.well_resolved rel hrel

theorem pairStandsFor_iff {t : Triple} {pair : ExpandedEntity × ExpandedEntity} :
    pairStandsFor t pair = true ↔ pair.1.code = t.1 ∧ pair.2.code = t.2.1 ∧
      pair.1.code ≠ pair.2.code ∧ pair.2.consolidation_method ≠ .fairValue := by
  simp only [pairStandsFor, Bool.and_eq_true, decide_eq_true_eq, and_assoc]

theorem eq_of_pairStandsFor {t t' : Triple} {pair : ExpandedEntity × ExpandedEntity}
    (h : pairStandsFor t pair = true) (h' : pairStandsFor t' pair = true)
    (htype : t.2.2 = t'.2.2) : t = t' := by
  obtain ⟨hseller, hbuyer, -⟩ := pairStandsFor_iff.mp h
  obtain ⟨hseller', hbuyer', -⟩ := pairStandsFor_iff.mp h'
  exact Prod.ext (hseller.symm.trans hseller') (Prod.ext (hbuyer.symm.trans hbuyer') htype)

variable (blake3 group_seed) in
/-- One combination adds its triple when it is admissible and new, and nothing else. -/
theorem expandPatternPair_cases (p : IcRelationshipPattern) (idx : ℕ)
    {first_type : IcTransactionType} {rest : List IcTransactionType}
    (htypes : p.types = first_type :: rest) (st : RelationshipExpansion)
    (pair : ExpandedEntity × ExpandedEntity) :
    (∃ rel, expandPatternPair blake3 group_seed p idx first_type st pair =
          ⟨st.out ++ [rel], st.seen ++ [relTriple rel]⟩ ∧
        relTriple rel ∉ st.seen ∧ firstType rel = first_type ∧
        pairStandsFor (relTriple rel) pair = true ∧ rel.annual_volume = p.per_pair_volume ∧
        rel.types ≠ [] ∧ rel.id = digestId (blake3 (hashInput group_seed (relTriple rel)))) ∨
      (expandPatternPair blake3 group_seed p idx first_type st pair = st ∧
        ∀ t : Triple, t.2.2 = first_type → pairStandsFor t pair = true → t ∈ st.seen) := by
  obtain ⟨seller, buyer⟩ := pair
  simp only [expandPatternPair]
  split
  · rename_i hself
    refine .inr ⟨rfl, ?_⟩
    intro t _ hstands
    simp [pairStandsFor, hself] at hstands
  · rename_i hne
    split
    · rename_i hfair
      refine .inr ⟨rfl, ?_⟩
      intro t _ hstands
      simp [pairStandsFor, hfair] at hstands
    · rename_i hfair
      split
      · rename_i hseen
        refine .inr ⟨rfl, ?_⟩
        rintro ⟨s, b, t⟩ rfl hstands
        simp only [pairStandsFor, Bool.and_eq_true, decide_eq_true_eq] at hstands
        obtain ⟨⟨⟨rfl, rfl⟩, -⟩, -⟩ := hstands
        exact hseen
      · rename_i hnew
        have hfirst : firstType (resolve_pattern blake3 group_seed p seller buyer idx first_type) =
            first_type := by simp [firstType, resolve_pattern, htypes]
        have htriple : relTriple (resolve_pattern blake3 group_seed p seller buyer idx first_type) =
            (seller.code, buyer.code, first_type) := by rw [relTriple, hfirst]; rfl
        refine .inl ⟨_, by rw [htriple], htriple ▸ hnew, hfirst, ?_, rfl, ?_, ?_⟩
        · rw [htriple]
          simp [pairStandsFor, hne, hfair]
        · simp [resolve_pattern, htypes]
        · rw [htriple]
          rfl

theorem mem_of_mem_filter_by_pattern_side {fixed profile : Option String} {e : ExpandedEntity}
    (h : e ∈ filter_by_pattern_side entities fixed profile) : e ∈ entities :=
  List.mem_of_mem_filter h

theorem mem_patternPairs {p : IcPattern} {pair : ExpandedEntity × ExpandedEntity}
    (h : pair ∈ patternPairs entities p) : pair.1 ∈ entities ∧ pair.2 ∈ entities := by
  obtain ⟨seller, hseller, h⟩ := List.mem_flatMap.mp h
  obtain ⟨buyer, hbuyer, rfl⟩ := List.mem_map.mp h
  exact ⟨mem_of_mem_filter_by_pattern_side hseller, mem_of_mem_filter_by_pattern_side hbuyer⟩

variable (blake3 group_seed) in
theorem adds_expandPatternPair (p : IcRelationshipPattern) (idx : ℕ)
    {first_type : IcTransactionType} {rest : List IcTransactionType}
    (htypes : p.types = first_type :: rest) {pair : ExpandedEntity × ExpandedEntity}
    (hpair : pair.1 ∈ entities ∧ pair.2 ∈ entities) (st : RelationshipExpansion) :
    ∃ added, Adds blake3 entities group_seed st.seen added
        (expandPatternPair blake3 group_seed p idx first_type st pair) st ∧
      (∀ rel ∈ added, rel.annual_volume = p.per_pair_volume ∧ firstType rel = first_type ∧
        pairStandsFor (relTriple rel) pair = true) ∧
      ∀ t : Triple, t.2.2 = first_type → pairStandsFor t pair = true →
        t ∈ st.seen ∨ t ∈ added.map relTriple := by
  rcases expandPatternPair_cases blake3 group_seed p idx htypes st pair with
    ⟨rel, hstep, hnew, hfirst, hstands, hvolume, htypes', hid⟩ | ⟨hstep, hseen⟩
  · have hwell : WellResolved blake3 entities group_seed rel := by
      obtain ⟨hseller, hbuyer, hne, -⟩ := pairStandsFor_iff.mp hstands
      refine ⟨hid, htypes', List.mem_map.mpr ⟨_, hpair.1, hseller⟩,
        List.mem_map.mpr ⟨_, hpair.2, hbuyer⟩, fun heq => ?_⟩
      exact hne (hseller.trans (heq.trans hbuyer.symm))
    rw [hstep]
    refine ⟨[rel], .single hnew hwell, ?_, ?_⟩
    · intro rel' hrel'
      rw [List.mem_singleton.mp hrel']
      exact ⟨hvolume, hfirst, hstands⟩
    · intro t ht ht'
      rw [eq_of_pairStandsFor ht' hstands (ht.trans hfirst.symm)]
      exact .inr (List.mem_singleton_self _)
  · rw [hstep]
    exact ⟨[], .refl st, by simp, fun t ht ht' => .inl (hseen t ht ht')⟩

variable (blake3 group_seed) in
/-- A pattern adds the triples it covers that have not been seen, with its volume. -/
theorem foldl_expandPatternPair (p : IcRelationshipPattern) (idx : ℕ)
    {first_type : IcTransactionType} {rest : List IcTransactionType}
    (htypes : p.types = first_type :: rest) {pairs : List (ExpandedEntity × ExpandedEntity)}
    (hpairs : ∀ pair ∈ pairs, pair.1 ∈ entities ∧ pair.2 ∈ entities) (st : RelationshipExpansion) :
    ∃ added, Adds blake3 entities group_seed st.seen added
        (pairs.foldl (expandPatternPair blake3 group_seed p idx first_type) st) st ∧
      (∀ rel ∈ added, rel.annual_volume = p.per_pair_volume ∧ firstType rel = first_type ∧
        pairs.any (pairStandsFor (relTriple rel)) = true) ∧
      ∀ t : Triple, t.2.2 = first_type → pairs.any (pairStandsFor t) = true →
        t ∈ st.seen ∨ t ∈ added.map relTriple := by
  induction pairs generalizing st with
  | nil => exact ⟨[], .refl st, by simp, by simp⟩
  | cons pair pairs ih =>
      rw [List.forall_mem_cons] at hpairs
      obtain ⟨added, hadds, hvolumes, hcovered⟩ :=
        adds_expandPatternPair blake3 group_seed p idx htypes hpairs.1 st
      obtain ⟨added', hadds', hvolumes', hcovered'⟩ :=
        ih hpairs.2 (expandPatternPair blake3 group_seed p idx first_type st pair)
      refine ⟨added ++ added', hadds.trans hadds', ?_, ?_⟩
      · intro rel hrel
        rw [List.any_cons, Bool.or_eq_true]
        rcases List.mem_append.mp hrel with hrel | hrel
        · obtain ⟨hvolume, hfirst, hstands⟩ := hvolumes rel hrel
          exact ⟨hvolume, hfirst, .inl hstands⟩
        · obtain ⟨hvolume, hfirst, hany⟩ := hvolumes' rel hrel
          exact ⟨hvolume, hfirst, .inr hany⟩
      · intro t ht hany
        rw [List.any_cons, Bool.or_eq_true] at hany
        rw [List.map_append, List.mem_append, ← or_assoc, ← hadds.mem_seen_iff]
        rcases hany with hstands | hany
        · exact .inl (hadds.mem_seen_iff.mpr (hcovered t ht hstands))
        · exact hcovered' t ht hany

theorem firstPatternVolume_cons_pattern (p : IcRelationshipPattern)
    (rels : List IcRelationshipConfig) (t : Triple) :
    firstPatternVolume entities (.pattern p :: rels) t =
      if coversTriple entities p t then some p.per_pair_volume
      else firstPatternVolume entities rels t := by
  by_cases hcover : coversTriple entities p t = true
  · simp [firstPatternVolume, hcover]
  · simp [firstPatternVolume, hcover]

/-- The second pass resolves what patterns cover beyond what has been seen. -/
theorem foldRun_expandPattern {rels : List IcRelationshipConfig} {k : ℕ}
    {st st' : RelationshipExpansion}
    (h : foldRun (expandPatternRelationship blake3 entities group_seed) st (rels.zipIdx k) =
      .ok st') :
    ∃ added, Adds blake3 entities group_seed st.seen added st' st ∧
      (∀ rel ∈ added,
        firstPatternVolume entities rels (relTriple rel) = some rel.annual_volume) ∧
      ∀ t v, firstPatternVolume entities rels t = some v →
        t ∈ st.seen ∨ t ∈ added.map relTriple := by
  induction rels generalizing st k with
  | nil =>
      cases h
      exact ⟨[], .refl _, by simp, by simp [firstPatternVolume]⟩
  | cons rel rels ih =>
      rw [List.zipIdx_cons] at h
      obtain ⟨mid, hmid, hrest⟩ := bind_eq_ok_iff.mp h
      obtain ⟨added', hadds', hvolumes', hcovered'⟩ := ih hrest
      cases rel with
      | explicit e =>
          cases hmid
          exact ⟨added', hadds', hvolumes', hcovered'⟩
      | pattern p =>
          cases htypes : p.types with
          | nil => simp [expandPatternRelationship, htypes] at hmid
          | cons first_type rest =>
              simp only [expandPatternRelationship, htypes] at hmid
              obtain ⟨added, hadds, hvolumes, hcovered⟩ := foldl_expandPatternPair
                blake3 group_seed p k htypes (fun pair hpair => mem_patternPairs hpair) st
              rw [Except.ok.inj hmid] at hadds
              have hcovers : ∀ t, coversTriple entities p t = true → t ∈ mid.seen := by
                intro t ht
                simp only [coversTriple, htypes, List.head?_cons, Bool.and_eq_true,
                  decide_eq_true_eq, Option.some.injEq] at ht
                exact hadds.mem_seen_iff.mpr (hcovered t ht.1.symm ht.2)
              refine ⟨added ++ added', hadds.trans hadds', ?_, ?_⟩
              · intro rel hrel
                rw [firstPatternVolume_cons_pattern]
                rcases List.mem_append.mp hrel with hrel | hrel
                · obtain ⟨hvolume, hfirst, hany⟩ := hvolumes rel hrel
                  have hcover : coversTriple entities p (relTriple rel) = true := by
                    rw [coversTriple, hany, Bool.and_true, decide_eq_true_eq, htypes]
                    exact congrArg some hfirst.symm
                  rw [if_pos hcover, hvolume]
                · have hcover : ¬ coversTriple entities p (relTriple rel) = true := by
                    intro hcover
                    exact hadds'.fresh rel hrel (hcovers _ hcover)
                  rw [if_neg hcover, hvolumes' rel hrel]
              · intro t v ht
                rw [firstPatternVolume_cons_pattern] at ht
                rw [List.map_append, List.mem_append, ← or_assoc, ← hadds.mem_seen_iff]
                by_cases hcover : coversTriple entities p t = true
                · exact .inl (hcovers t hcover)
                · rw [if_neg hcover] at ht
                  exact hcovered' t v ht

variable (blake3 entities group_seed)

/-- The outcome of the expansion of a configuration. -/
structure Resolved (rels : List IcRelationshipConfig) (out added : List ResolvedIcRelationship) :
    Prop where
  out_eq : out = (explicits rels).map (resolvedExplicit blake3 group_seed) ++ added
  well_resolved : ∀ rel ∈ out, WellResolved blake3 entities group_seed rel
  added_nodup : (added.map relTriple).Nodup
  added_fresh : ∀ rel ∈ added, relTriple rel ∉ (explicits rels).map explicitTriple
  added_volume : ∀ rel ∈ added,
    firstPatternVolume entities rels (relTriple rel) = some rel.annual_volume
  covered : ∀ t v, firstPatternVolume entities rels t = some v →
    t ∈ (explicits rels).map explicitTriple ∨ t ∈ added.map relTriple

theorem exists_resolved {ic : IntercompanyConfig} {out : List ResolvedIcRelationship}
    (h : expand_ic_relationships blake3 ic entities group_seed = .ok out) :
    ∃ added, Resolved blake3 entities group_seed ic.relationships out added := by
  obtain ⟨explicit, hexplicit, h⟩ := bind_eq_ok_iff.mp h
  obtain ⟨expansion, hpattern, heq⟩ := bind_eq_ok_iff.mp h
  cases heq
  obtain ⟨hout, hseen, hwell⟩ := foldRun_expandExplicit blake3 entities group_seed hexplicit
  obtain ⟨added, hadds, hvolumes, hcovered⟩ := foldRun_expandPattern hpattern
  rw [RelationshipExpansion.empty, List.nil_append] at hout hseen
  rw [hseen] at hadds hcovered
  refine ⟨added, by rw [hadds.out_eq, hout], ?_, hadds.nodup, hadds.fresh, hvolumes, hcovered⟩
  intro rel hrel
  rw [hadds.out_eq, hout] at hrel
  rcases List.mem_append.mp hrel with hrel | hrel
  · obtain ⟨e, he, rfl⟩ := List.mem_map.mp hrel
    exact hwell e he
  · exact hadds.well_resolved rel hrel

end Resolution

end Datasynth.Group.IcResolution
