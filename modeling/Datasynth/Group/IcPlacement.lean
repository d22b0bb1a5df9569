import Datasynth.Group.IcReconciliation

/-!
What the matcher does with the entries it is given: each tagged one is placed once,
whatever the order of the shards.
-/

namespace Datasynth.Group.IcPlacement

open Datasynth.Core.JournalEntries
open Datasynth.Group.Config
open Datasynth.Group.IcMatching
open Datasynth.Group.IcPlanning
open Datasynth.Group.IcReconciliation
open Datasynth.Group.ManifestBuilder
open Datasynth.Lib.ByteEncoding
open Datasynth.Lib.ExceptRuns
open Datasynth.Lib.Grouping
open Datasynth.Lib.ListRearrangement
open Datasynth.Lib.SortedEntries

/-- The entries with a pair identifier, each with the entity that posted it. -/
def taggedEntries (entity_jes : List (String × List JournalEntry)) : List ObservedSide :=
  entity_jes.flatMap fun (entity_code, jes) =>
    (jes.filter (·.header.ic_pair_id.isSome)).map fun je => ⟨entity_code, je⟩

def matchedSides (p : IcMatchedPair) : List ObservedSide :=
  [⟨p.seller_entity, p.seller_je⟩, ⟨p.buyer_entity, p.buyer_je⟩]

def unmatchedSide (u : UnmatchedSide) : ObservedSide := ⟨u.present_entity, u.present_je⟩

/-- The entries a result holds. -/
def placedEntries (matched : List IcMatchedPair) (unmatched : List UnmatchedSide) :
    List ObservedSide :=
  matched.flatMap matchedSides ++ unmatched.map unmatchedSide

/-- The same lists of entries, with entities and their entries in another order. -/
def Reordered (entity_jes entity_jes' : List (String × List JournalEntry)) : Prop :=
  ∃ shuffled, entity_jes.Perm shuffled ∧
    List.Forall₂ (fun e e' => e.1 = e'.1 ∧ e.2.Perm e'.2) shuffled entity_jes'

section Placement

variable (blake3 : List Byte → Digest) (manifest : GroupManifest)

/-- The plan of the entity for the pair has the given role. -/
def PlaysRole (pair_id : IcPairId) (role : IcRole) (side : ObservedSide) : Prop :=
  ∃ plan, lookup_plan blake3 manifest side.entity_code pair_id = .ok plan ∧ plan.role = role

/-- A pair of the two roles, under the identifier both its entries carry. -/
structure JoinsRoles (p : IcMatchedPair) : Prop where
  seller_tag : p.seller_je.header.ic_pair_id = some p.pair_id
  buyer_tag : p.buyer_je.header.ic_pair_id = some p.pair_id
  seller_role : PlaysRole blake3 manifest p.pair_id .seller ⟨p.seller_entity, p.seller_je⟩
  buyer_role : PlaysRole blake3 manifest p.pair_id .buyer ⟨p.buyer_entity, p.buyer_je⟩

/-- The two entries of a pair, and no others, were observed. -/
structure ObservedPair (entity_jes : List (String × List JournalEntry)) (pair_id : IcPairId)
    (seller buyer : ObservedSide) : Prop where
  sides : ((taggedEntries entity_jes).filter (·.je.header.ic_pair_id = some pair_id)).Perm
    [seller, buyer]
  seller_role : PlaysRole blake3 manifest pair_id .seller seller
  buyer_role : PlaysRole blake3 manifest pair_id .buyer buyer

/-- The amounts of two sides differ by more than the tolerated share of the larger. -/
def DriftsBeyondTolerance (seller buyer : ObservedSide) : Prop :=
  manifest.matching.tolerance_percent * max |seller.je.total_debit| |buyer.je.total_debit| <
    |(|seller.je.total_debit| - |buyer.je.total_debit|)|

/-- What a result says of the entries it was computed from. -/
structure Accounts (entity_jes : List (String × List JournalEntry)) (result : IcMatchResult) :
    Prop where
  placed : (placedEntries result.matched result.unmatched).Perm (taggedEntries entity_jes)
  tagged : ∀ side ∈ placedEntries result.matched result.unmatched,
    side.je.header.ic_pair_id.isSome
  joined : ∀ p ∈ result.matched, JoinsRoles blake3 manifest p
  drifted : manifest.matching.strategy = .emergentFuzzy → ∀ pair_id seller buyer,
    ObservedPair blake3 manifest entity_jes pair_id seller buyer →
    DriftsBeyondTolerance manifest seller buyer →
    (⟨pair_id, .seller, seller.entity_code, seller.je, .amountDriftAboveTolerance⟩ :
        UnmatchedSide) ∈ result.unmatched ∧
      ⟨pair_id, .buyer, buyer.entity_code, buyer.je, .amountDriftAboveTolerance⟩ ∈
        result.unmatched

theorem driftViolation_iff (hfuzzy : manifest.matching.strategy = .emergentFuzzy)
    (seller buyer : ObservedSide) :
    driftViolation manifest seller buyer = true ↔ DriftsBeyondTolerance manifest seller buyer := by
  have hnonneg : 0 ≤ max |seller.je.total_debit| |buyer.je.total_debit| :=
    (abs_nonneg _).trans (le_max_left _ _)
  simp only [driftViolation, hfuzzy, DriftsBeyondTolerance, Bool.and_eq_true, decide_eq_true_eq]
  constructor
  · rintro ⟨hpos, hratio⟩
    exact (lt_div_iff₀ hpos).mp hratio
  · intro hdrift
    rcases hnonneg.lt_or_eq with hpos | hzero
    · exact ⟨hpos, (lt_div_iff₀ hpos).mpr hdrift⟩
    · have hseller : |seller.je.total_debit| = 0 :=
        le_antisymm (hzero ▸ le_max_left _ _) (abs_nonneg _)
      have hbuyer : |buyer.je.total_debit| = 0 :=
        le_antisymm (hzero ▸ le_max_right _ _) (abs_nonneg _)
      simp [hseller, hbuyer] at hdrift

section Observed

variable (entity_jes : List (String × List JournalEntry))

theorem map_snd_observedSides :
    (observedSides entity_jes).map Prod.snd = taggedEntries entity_jes := by
  rw [observedSides, taggedEntries, List.map_flatMap]
  congr 1
  funext entity
  dsimp only
  rw [List.map_filterMap, ← List.filterMap_eq_map, List.filterMap_filter]
  congr 1
  funext je
  cases hid : je.header.ic_pair_id <;> simp

theorem tag_of_mem_observedSides {s : IcPairId × ObservedSide}
    (hs : s ∈ observedSides entity_jes) : s.2.je.header.ic_pair_id = some s.1 := by
  obtain ⟨e, -, hs⟩ := List.mem_flatMap.mp hs
  obtain ⟨je, -, hs⟩ := List.mem_filterMap.mp hs
  obtain ⟨pair_id, hid, rfl⟩ := Option.map_eq_some_iff.mp hs
  exact hid

theorem map_snd_filter_observedSides (pair_id : IcPairId) :
    ((observedSides entity_jes).filter (·.1 = pair_id)).map Prod.snd =
      (taggedEntries entity_jes).filter (·.je.header.ic_pair_id = some pair_id) := by
  rw [← map_snd_observedSides, List.filter_map]
  congr 1
  apply List.filter_congr
  intro s hs
  have htag := tag_of_mem_observedSides entity_jes hs
  simp [htag]

theorem observedSides_perm_of_reordered {entity_jes entity_jes' : List (String × List JournalEntry)}
    (h : Reordered entity_jes entity_jes') :
    (observedSides entity_jes).Perm (observedSides entity_jes') := by
  obtain ⟨shuffled, hperm, hforall⟩ := h
  apply (hperm.flatMap_right _).trans
  clear hperm
  induction hforall with
  | nil => exact .refl _
  | @cons e e' rest rest' he _ ih =>
      obtain ⟨code, jes⟩ := e
      obtain ⟨code', jes'⟩ := e'
      obtain ⟨rfl, hjes⟩ := he
      exact (hjes.filterMap _).append ih

end Observed

section Groups

variable {st st' : MatchState} {pair_id : IcPairId} {sides sides' : List (IcPairId × ObservedSide)}

theorem matchGroup_orphan {side : ObservedSide} {plan : IcPairPlan}
    (hsides : sides.map Prod.snd = [side])
    (hplan : lookup_plan blake3 manifest side.entity_code pair_id = .ok plan) :
    matchGroup blake3 manifest st (pair_id, sides) = .ok (st.orphan pair_id side plan) := by
  simp only [matchGroup, hsides, hplan]
  rfl

theorem matchGroup_join {seller buyer : ObservedSide}
    (hsides : (sides.map Prod.snd).Perm [seller, buyer])
    (hseller : PlaysRole blake3 manifest pair_id .seller seller)
    (hbuyer : PlaysRole blake3 manifest pair_id .buyer buyer) :
    matchGroup blake3 manifest st (pair_id, sides) =
      .ok (st.join manifest pair_id seller buyer) := by
  obtain ⟨plan_s, hs, hsrole⟩ := hseller
  obtain ⟨plan_b, hb, hbrole⟩ := hbuyer
  rcases perm_pair hsides with heq | heq
  · simp only [matchGroup, heq, hs, hb, Except.bind, hsrole, hbrole]
  · simp only [matchGroup, heq, hs, hb, Except.bind, hsrole, hbrole]

/-- What a group that is matched without error consists of. -/
theorem matchGroup_cases (h : matchGroup blake3 manifest st (pair_id, sides) = .ok st') :
    (∃ side plan, sides.map Prod.snd = [side] ∧
      lookup_plan blake3 manifest side.entity_code pair_id = .ok plan ∧
      st' = st.orphan pair_id side plan) ∨
    ∃ seller buyer, (sides.map Prod.snd).Perm [seller, buyer] ∧
      PlaysRole blake3 manifest pair_id .seller seller ∧
      PlaysRole blake3 manifest pair_id .buyer buyer ∧
      st' = st.join manifest pair_id seller buyer := by
  unfold matchGroup at h
  dsimp only at h
  split at h
  · rename_i side hsides
    obtain ⟨plan, hplan, heq⟩ := bind_eq_ok_iff.mp h
    cases heq
    exact .inl ⟨side, plan, hsides, hplan, rfl⟩
  · rename_i a b hsides
    obtain ⟨plan_a, ha, h⟩ := bind_eq_ok_iff.mp h
    obtain ⟨plan_b, hb, h⟩ := bind_eq_ok_iff.mp h
    split at h
    · rename_i hroleA hroleB
      cases h
      exact .inr ⟨a, b, .of_eq hsides, ⟨plan_a, ha, hroleA⟩, ⟨plan_b, hb, hroleB⟩, rfl⟩
    · rename_i hroleA hroleB
      cases h
      exact .inr ⟨b, a, hsides ▸ .swap b a [], ⟨plan_b, hb, hroleB⟩, ⟨plan_a, ha, hroleA⟩, rfl⟩
    · cases h
    · cases h
  · cases h

/-- The order of the sides of a group does not matter. -/
theorem matchGroup_perm (h : matchGroup blake3 manifest st (pair_id, sides) = .ok st')
    (hperm : sides.Perm sides') :
    matchGroup blake3 manifest st (pair_id, sides') = .ok st' := by
  have hmap := hperm.map Prod.snd
  rcases matchGroup_cases blake3 manifest h with ⟨side, plan, hsides, hplan, rfl⟩ |
    ⟨seller, buyer, hsides, hseller, hbuyer, rfl⟩
  · rw [hsides] at hmap
    exact matchGroup_orphan blake3 manifest (List.singleton_perm.mp hmap).symm hplan
  · exact matchGroup_join blake3 manifest (hmap.symm.trans hsides) hseller hbuyer

end Groups

section Runs

variable {st st' : MatchState} {pair_id : IcPairId} {sides : List (IcPairId × ObservedSide)}

theorem placedEntries_orphan (side : ObservedSide) (plan : IcPairPlan) :
    placedEntries (st.orphan pair_id side plan).matched
        (st.orphan pair_id side plan).unmatched =
      placedEntries st.matched st.unmatched ++ [side] := by
  simp [placedEntries, MatchState.orphan, unmatchedSide]

theorem placedEntries_join (seller buyer : ObservedSide) :
    (placedEntries (st.join manifest pair_id seller buyer).matched
        (st.join manifest pair_id seller buyer).unmatched).Perm
      (placedEntries st.matched st.unmatched ++ [seller, buyer]) := by
  rw [MatchState.join]
  split
  · apply List.Perm.of_eq
    simp [placedEntries, unmatchedSide]
  · simp only [placedEntries, List.flatMap_append, List.append_assoc]
    exact List.Perm.append_left _ List.perm_append_comm

theorem placedEntries_matchGroup
    (h : matchGroup blake3 manifest st (pair_id, sides) = .ok st') :
    (placedEntries st'.matched st'.unmatched).Perm
      (placedEntries st.matched st.unmatched ++ sides.map Prod.snd) := by
  rcases matchGroup_cases blake3 manifest h with ⟨side, plan, hsides, -, rfl⟩ |
    ⟨seller, buyer, hsides, -, -, rfl⟩
  · rw [placedEntries_orphan, hsides]
  · exact (placedEntries_join manifest seller buyer).trans (hsides.symm.append_left _)

theorem joinsRoles_matchGroup (hst : ∀ p ∈ st.matched, JoinsRoles blake3 manifest p)
    (htags : ∀ s ∈ sides, s.2.je.header.ic_pair_id = some pair_id)
    (h : matchGroup blake3 manifest st (pair_id, sides) = .ok st') :
    ∀ p ∈ st'.matched, JoinsRoles blake3 manifest p := by
  rcases matchGroup_cases blake3 manifest h with ⟨side, plan, -, -, rfl⟩ |
    ⟨seller, buyer, hsides, hseller, hbuyer, rfl⟩
  · exact hst
  · have htag : ∀ side ∈ [seller, buyer], side.je.header.ic_pair_id = some pair_id := by
      intro side hside
      obtain ⟨s, hs, rfl⟩ := List.mem_map.mp (hsides.mem_iff.mpr hside)
      exact htags s hs
    rw [MatchState.join]
    split
    · exact hst
    · rw [List.forall_mem_append, List.forall_mem_singleton]
      exact ⟨hst, htag seller (by simp), htag buyer (by simp), hseller, hbuyer⟩

theorem unmatched_subset_matchGroup {group : IcPairId × List (IcPairId × ObservedSide)}
    (h : matchGroup blake3 manifest st group = .ok st') : st.unmatched ⊆ st'.unmatched := by
  rcases matchGroup_cases blake3 manifest h with ⟨side, plan, -, -, rfl⟩ |
    ⟨seller, buyer, -, -, -, rfl⟩
  · exact List.subset_append_left _ _
  · rw [MatchState.join]
    split
    · exact List.subset_append_left _ _
    · exact List.Subset.refl _

variable (entity_jes : List (String × List JournalEntry))

/-- What holds between two groups, of the state and the groups still to come. -/
structure Progress (st : MatchState) (rest : List (IcPairId × List (IcPairId × ObservedSide))) :
    Prop where
  placed : (placedEntries st.matched st.unmatched ++
    rest.flatMap fun group => group.2.map Prod.snd).Perm (taggedEntries entity_jes)
  joined : ∀ p ∈ st.matched, JoinsRoles blake3 manifest p
  tags : ∀ group ∈ rest, ∀ s ∈ group.2, s.2.je.header.ic_pair_id = some group.1

theorem progress_start : Progress blake3 manifest entity_jes MatchState.empty
    (groupBy Prod.fst (observedSides entity_jes)).entries where
  placed := by
    have hgroups := (flatten_values_groupBy Prod.fst (observedSides entity_jes)).map Prod.snd
    rw [map_snd_observedSides, OrderedMap.values, List.map_flatten, List.map_map] at hgroups
    rw [List.flatMap_def]
    exact hgroups
  joined := List.forall_mem_nil _
  tags := by
    rintro ⟨pair_id, sides⟩ hgroup s hs
    obtain ⟨rfl, -⟩ := (mem_entries_groupBy _ _ _ _).mp hgroup
    obtain ⟨hs, hid⟩ := List.mem_filter.mp hs
    rw [← of_decide_eq_true hid]
    exact tag_of_mem_observedSides entity_jes hs

theorem progress_step {group : IcPairId × List (IcPairId × ObservedSide)}
    {rest : List (IcPairId × List (IcPairId × ObservedSide))}
    (hprogress : Progress blake3 manifest entity_jes st (group :: rest))
    (h : matchGroup blake3 manifest st group = .ok st') :
    Progress blake3 manifest entity_jes st' rest where
  placed := by
    apply ((placedEntries_matchGroup blake3 manifest h).append_right _).trans
    rw [List.append_assoc]
    exact hprogress.placed
  joined := joinsRoles_matchGroup blake3 manifest hprogress.joined
    (hprogress.tags group List.mem_cons_self) h
  tags := fun group' hgroup' => hprogress.tags group' (List.mem_cons_of_mem _ hgroup')

end Runs

section Results

variable {entity_jes entity_jes' : List (String × List JournalEntry)} {result : IcMatchResult}

theorem exists_run (h : match_ic_pairs blake3 manifest entity_jes = .ok result) :
    ∃ st, foldRun (matchGroup blake3 manifest) MatchState.empty
        (groupBy Prod.fst (observedSides entity_jes)).entries = .ok st ∧
      result.matched.Perm st.matched ∧ result.unmatched.Perm st.unmatched := by
  obtain ⟨st, hrun, heq⟩ := bind_eq_ok_iff.mp h
  cases heq
  exact ⟨st, hrun, List.perm_insertionSort _ _, List.perm_insertionSort _ _⟩

theorem match_ic_pairs_reordered (h : match_ic_pairs blake3 manifest entity_jes = .ok result)
    (hreordered : Reordered entity_jes entity_jes') :
    match_ic_pairs blake3 manifest entity_jes' = .ok result := by
  obtain ⟨st, hrun, heq⟩ := bind_eq_ok_iff.mp h
  have hgroups := forall₂_entries_groupBy Prod.fst (observedSides_perm_of_reordered hreordered)
  apply bind_eq_ok_iff.mpr
  refine ⟨st, foldRun_of_forall₂ ?_ hgroups hrun, heq⟩
  rintro st₁ ⟨pair_id, sides⟩ ⟨pair_id', sides'⟩ st₂ ⟨rfl, hsides⟩ hstep
  exact matchGroup_perm blake3 manifest hstep hsides

theorem drifted_unmatched (hfuzzy : manifest.matching.strategy = .emergentFuzzy)
    {pair_id : IcPairId} {seller buyer : ObservedSide}
    (hpair : ObservedPair blake3 manifest entity_jes pair_id seller buyer)
    (hdrift : DriftsBeyondTolerance manifest seller buyer) {st : MatchState}
    (hrun : foldRun (matchGroup blake3 manifest) MatchState.empty
      (groupBy Prod.fst (observedSides entity_jes)).entries = .ok st) :
    [⟨pair_id, .seller, seller.entity_code, seller.je, .amountDriftAboveTolerance⟩,
      ⟨pair_id, .buyer, buyer.entity_code, buyer.je, .amountDriftAboveTolerance⟩] ⊆
        st.unmatched := by
  have hsides := hpair.sides
  rw [← map_snd_filter_observedSides] at hsides
  have hgroup : (pair_id, (observedSides entity_jes).filter (·.1 = pair_id)) ∈
      (groupBy Prod.fst (observedSides entity_jes)).entries := by
    refine (mem_entries_groupBy _ _ _ _).mpr ⟨rfl, ?_⟩
    intro hnil
    rw [hnil] at hsides
    exact absurd hsides.length_eq (by simp)
  obtain ⟨-, hsteps⟩ := exists_step_of_foldRun (fun st st' => st.unmatched ⊆ st'.unmatched)
    (fun _ => List.Subset.refl _) (fun _ _ _ => List.Subset.trans)
    (fun _ _ _ => unmatched_subset_matchGroup blake3 manifest) hrun
  obtain ⟨st₁, st₂, hstep, hsubset⟩ := hsteps _ hgroup
  rw [matchGroup_join blake3 manifest hsides hpair.seller_role hpair.buyer_role] at hstep
  cases hstep
  rw [MatchState.join, if_pos ((driftViolation_iff manifest hfuzzy seller buyer).mpr hdrift)]
    at hsubset
  exact List.Subset.trans (List.subset_append_right _ _) hsubset

/-- Every tagged entry is placed once, pairs join a seller to a buyer, drifting pairs
stay apart, and the order of the entries does not change the result. -/
theorem match_ic_pairs_accounts (h : match_ic_pairs blake3 manifest entity_jes = .ok result) :
    Accounts blake3 manifest entity_jes result ∧
      ∀ entity_jes', Reordered entity_jes entity_jes' →
        match_ic_pairs blake3 manifest entity_jes' = .ok result := by
  obtain ⟨st, hrun, hmatched, hunmatched⟩ := exists_run blake3 manifest h
  have hdone := foldRun_invariant (Progress blake3 manifest entity_jes)
    (fun _ _ _ _ => progress_step blake3 manifest entity_jes)
    (progress_start blake3 manifest entity_jes) hrun
  have hplaced : (placedEntries result.matched result.unmatched).Perm
      (taggedEntries entity_jes) := by
    apply ((hmatched.flatMap_right _).append (hunmatched.map _)).trans
    simpa [placedEntries] using hdone.placed
  refine ⟨⟨hplaced, ?_, ?_, ?_⟩, fun _ => match_ic_pairs_reordered blake3 manifest h⟩
  · intro side hside
    obtain ⟨e, -, he⟩ := List.mem_flatMap.mp (hplaced.mem_iff.mp hside)
    obtain ⟨je, hje, rfl⟩ := List.mem_map.mp he
    exact (List.mem_filter.mp hje).2
  · exact fun p hp => hdone.joined p (hmatched.mem_iff.mp hp)
  · intro hfuzzy pair_id seller buyer hpair hdrift
    have hsubset := drifted_unmatched blake3 manifest hfuzzy hpair hdrift hrun
    exact ⟨hunmatched.mem_iff.mpr (hsubset (by simp)), hunmatched.mem_iff.mpr (hsubset (by simp))⟩

end Results

end Placement

/-- The goods the parent sells to its subsidiary are all placed. -/
theorem goods_from_parent_accounted :
    ∃ result, match_ic_pairs sampleHash (tradingManifest [.explicit goodsFromParent])
        (injectedOnly sampleHash (tradingManifest [.explicit goodsFromParent])) = .ok result ∧
      Accounts sampleHash (tradingManifest [.explicit goodsFromParent])
        (injectedOnly sampleHash (tradingManifest [.explicit goodsFromParent])) result := by
  have hok : (match_ic_pairs sampleHash (tradingManifest [.explicit goodsFromParent])
      (injectedOnly sampleHash (tradingManifest [.explicit goodsFromParent]))).isOk = true := by
    decide +kernel
  obtain ⟨result, hresult⟩ := exists_ok_of_isOk hok
  exact ⟨result, hresult, (match_ic_pairs_accounts sampleHash _ hresult).1⟩

end Datasynth.Group.IcPlacement
