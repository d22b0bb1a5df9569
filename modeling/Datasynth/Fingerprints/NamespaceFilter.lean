import Mathlib
import Datasynth.Fingerprints.AggregationOrder
import Datasynth.Lib.Grouping

/-!
When the GL accounts of an aggregated bundle are of the dominant format.
-/

namespace Datasynth.Fingerprints.NamespaceFilter

open Datasynth.Fingerprints.AggregationOrder
open Datasynth.Fingerprints.IndustryAggregator
open Datasynth.Lib.CountedValues
open Datasynth.Lib.HashIteration
open Datasynth.Lib.HashedMaximum
open Datasynth.Lib.SortedEntries

section Pooling

/-- The values of a group of a prior with the observations behind them. -/
def valuesAt (conditionals : Conditionals) (source key : String) : List (String × ℕ) :=
  (conditional conditionals source key).elim [] fun dist =>
    dist.probabilities.entries.map fun e => (e.1, dist.count e.2)

variable {ι : Type*} (keeps : ι → String → String → Bool) (groups : ι → Conditionals)

/-- What is pooled for a group. -/
def pooledAt (inputs : List ι) (source key : String) : List (String × ℕ) :=
  inputs.flatMap fun input =>
    (valuesAt (groups input) source key).filter fun e => keeps input key e.1

def countsAt (pooled : PooledCounts) (source key : String) : OrderedMap String ℕ :=
  (((pooled.find? source).getD .empty).find? key).getD .empty

theorem pool_values_eq (keeps : String → Bool) (dist : CategoricalDistribution)
    (counts : OrderedMap String ℕ) :
    pool_values keeps dist counts =
      ((dist.probabilities.entries.map fun e => (e.1, dist.count e.2)).filter
        fun e => keeps e.1).foldl addCount counts := by
  rw [List.filter_map, List.foldl_map, List.foldl_filter]
  rfl

theorem countsAt_pool_sources (keeps : String → String → Bool) (conditionals : Conditionals)
    (pooled : PooledCounts) (source key : String) :
    countsAt (pool_sources keeps conditionals pooled) source key =
      ((valuesAt conditionals source key).filter fun e => keeps key e.1).foldl addCount
        (countsAt pooled source key) := by
  rw [countsAt, pool_sources, getD_foldl_upsert conditionals (fun _ => pool_groups keeps), valuesAt,
    conditional, countsAt]
  cases conditionals.find? source with
  | none => rfl
  | some dists =>
      rw [Option.elim_some, pool_groups,
        getD_foldl_upsert dists (fun key => pool_values (keeps key)), Option.bind_some]
      cases dists.find? key with
      | none => rfl
      | some dist => exact pool_values_eq (keeps key) dist _

theorem countsAt_pool (inputs : List ι) (source key : String) :
    countsAt (pool keeps groups inputs) source key =
      countAll (pooledAt keeps groups inputs source key) := by
  induction inputs using List.reverseRecOn with
  | nil => rfl
  | append_singleton inputs input ih =>
      rw [pool] at ih
      rw [pool, List.foldl_append, List.foldl_cons, List.foldl_nil, countsAt_pool_sources, ih,
        countAll, countAll, pooledAt, pooledAt, List.flatMap_append, List.foldl_append,
        List.flatMap_singleton]

/-- A group keeps its values if it holds any observation. -/
theorem conditional_renormalise (pooled : PooledCounts) (source key : String) :
    conditional (renormalise pooled) source key =
      if (countsAt pooled source key).values.sum = 0 then none
      else some (from_counts (countsAt pooled source key)) := by
  apply Option.ext
  intro dist
  rw [conditional, Option.bind_eq_some_iff]
  constructor
  · rintro ⟨dists, hdists, hdist⟩
    obtain ⟨attrs, hattrs, h⟩ := (OrderedMap.find?_filterMap_eq_some_iff ..).mp hdists
    dsimp only at h
    split at h
    · cases h
    · cases h
      obtain ⟨counts, hcounts, h⟩ := (OrderedMap.find?_filterMap_eq_some_iff ..).mp hdist
      have hat : countsAt pooled source key = counts := by
        rw [countsAt, hattrs, Option.getD_some, hcounts, Option.getD_some]
      rw [hat]
      exact h
  · intro h
    split at h
    · cases h
    · rename_i hsum
      cases hattrs : pooled.find? source with
      | none =>
          rw [countsAt, hattrs] at hsum
          exact absurd rfl hsum
      | some attrs =>
          cases hcounts : attrs.find? key with
          | none =>
              rw [countsAt, hattrs, Option.getD_some, hcounts] at hsum
              exact absurd rfl hsum
          | some counts =>
              have hat : countsAt pooled source key = counts := by
                rw [countsAt, hattrs, Option.getD_some, hcounts, Option.getD_some]
              rw [hat] at h hsum
              have hdist : (attrs.filterMap fun _ counts =>
                  if counts.values.sum = 0 then none else some (from_counts counts)).find? key =
                  some dist := by
                rw [OrderedMap.find?_filterMap_eq_some_iff]
                exact ⟨counts, hcounts, by rw [if_neg hsum, h]⟩
              refine ⟨_, ?_, hdist⟩
              rw [renormalise, OrderedMap.find?_filterMap_eq_some_iff]
              refine ⟨attrs, hattrs, if_neg ?_⟩
              intro hnil
              rw [← OrderedMap.mem_entries_iff, hnil] at hdist
              cases hdist

theorem keys_from_counts {counts : OrderedMap String ℕ} (h : counts.values.sum ≠ 0) :
    (from_counts counts).probabilities.keys = counts.keys := by
  rw [from_counts, if_neg h]
  show (counts.entries.filterMap fun e => some (e.1, _)).map Prod.fst = _
  rw [List.filterMap_eq_map', List.map_map]
  rfl

/-- The values of an aggregated group. -/
theorem mem_renormalise_pool_iff (inputs : List ι) (source key value : String) :
    (∃ dist, conditional (renormalise (pool keeps groups inputs)) source key = some dist ∧
        value ∈ dist.probabilities.keys) ↔
      (∃ e ∈ pooledAt keeps groups inputs source key, e.2 ≠ 0) ∧
        ∃ e ∈ pooledAt keeps groups inputs source key, e.1 = value := by
  rw [conditional_renormalise, countsAt_pool, ← sum_values_countAll_ne_zero_iff,
    ← mem_keys_countAll]
  constructor
  · rintro ⟨dist, hdist, hvalue⟩
    split at hdist
    · cases hdist
    · rename_i hsum
      cases hdist
      rw [keys_from_counts hsum] at hvalue
      exact ⟨hsum, hvalue⟩
  · rintro ⟨hsum, hvalue⟩
    refine ⟨_, if_neg hsum, ?_⟩
    rwa [keys_from_counts hsum]

end Pooling

section Bundles

/-- The GL accounts of a client's source, with the observations behind them. -/
def glValues (client : BehavioralPriors) (source : String) : List (String × ℕ) :=
  client.per_source_attribute.elim [] fun psa => valuesAt psa.by_source source "gl_account"

def roleValues (client : BehavioralPriors) (source role : String) : List (String × ℕ) :=
  client.source_role_gl_conditionals.elim [] fun roles =>
    valuesAt roles.by_source_and_role source role

/-- A value passes a filter if it is neutral, of the dominant format, or if there is none. -/
def passes (dominant : Option AccountFormat) (value : String) : Bool :=
  dominant.elim true fun target =>
    (classify_account_format value).neutral || classify_account_format value = target

def attributeInputs (inputs : List ClientInput) :
    List (PerSourceAttributePrior × (String → HashOrder)) :=
  inputs.filterMap fun input => input.priors.per_source_attribute.map fun psa =>
    (psa, input.pooling)

def roleInputs (inputs : List ClientInput) : List PerSourceRolePrior :=
  inputs.filterMap fun input => input.priors.source_role_gl_conditionals

/-- An observation of a GL account that the filters of the inputs let through. -/
def PooledAccount (inputs : List ClientInput) (source : String) (e : String × ℕ) : Prop :=
  ∃ input ∈ inputs, e ∈ glValues input.priors source ∧
    passes (leader (input.pooling "gl_account") (gl_tally input.priors)) e.1 = true

def PooledRoleAccount (inputs : List ClientInput) (source role : String) (e : String × ℕ) : Prop :=
  ∃ input ∈ inputs, e ∈ roleValues input.priors source role

variable {inputs : List ClientInput} {source role value : String} {e : String × ℕ}

theorem mem_pooledAt_attributeInputs :
    e ∈ pooledAt keeps_value (PerSourceAttributePrior.by_source ∘ Prod.fst)
        (attributeInputs inputs) source "gl_account" ↔
      PooledAccount inputs source e := by
  rw [pooledAt, List.mem_flatMap]
  constructor
  · rintro ⟨pair, hpair, he⟩
    obtain ⟨input, hinput, hsome⟩ := List.mem_filterMap.mp hpair
    obtain ⟨psa, hpsa, rfl⟩ := Option.map_eq_some_iff.mp hsome
    obtain ⟨he, hkeeps⟩ := List.mem_filter.mp he
    refine ⟨input, hinput, ?_, ?_⟩
    · rw [glValues, hpsa]
      exact he
    · rw [gl_tally, hpsa]
      exact hkeeps
  · rintro ⟨input, hinput, he, hkeeps⟩
    cases hpsa : input.priors.per_source_attribute with
    | none =>
        rw [glValues, hpsa] at he
        cases he
    | some psa =>
        rw [glValues, hpsa] at he
        rw [gl_tally, hpsa] at hkeeps
        refine ⟨(psa, input.pooling), List.mem_filterMap.mpr ⟨input, hinput, ?_⟩, ?_⟩
        · rw [hpsa, Option.map_some]
        · exact List.mem_filter.mpr ⟨he, hkeeps⟩

theorem mem_pooledAt_roleInputs :
    e ∈ pooledAt (fun _ _ _ => true) PerSourceRolePrior.by_source_and_role (roleInputs inputs)
        source role ↔ PooledRoleAccount inputs source role e := by
  rw [pooledAt, List.mem_flatMap]
  constructor
  · rintro ⟨roles, hroles, he⟩
    obtain ⟨input, hinput, hsome⟩ := List.mem_filterMap.mp hroles
    refine ⟨input, hinput, ?_⟩
    rw [roleValues, hsome]
    exact (List.mem_filter.mp he).1
  · rintro ⟨input, hinput, he⟩
    cases hroles : input.priors.source_role_gl_conditionals with
    | none =>
        rw [roleValues, hroles] at he
        cases he
    | some roles =>
        rw [roleValues, hroles] at he
        exact ⟨roles, List.mem_filterMap.mpr ⟨input, hinput, hroles⟩, List.mem_filter.mpr ⟨he, rfl⟩⟩

/-- A GL account of a source in the attribute prior of a bundle. -/
def HoldsAccount (bundle : BehavioralPriors) (source value : String) : Prop :=
  ∃ psa, bundle.per_source_attribute = some psa ∧
    ∃ dist, conditional psa.by_source source "gl_account" = some dist ∧
      value ∈ dist.probabilities.keys

/-- A GL account of a source and a role in the role prior of a bundle. -/
def HoldsRoleAccount (bundle : BehavioralPriors) (source role value : String) : Prop :=
  ∃ roles, bundle.source_role_gl_conditionals = some roles ∧
    ∃ dist, conditional roles.by_source_and_role source role = some dist ∧
      value ∈ dist.probabilities.keys

variable {across : HashOrder} {industry : String} {bundle : BehavioralPriors}

theorem holdsAccount_iff
    (h : aggregate_industry_priors across inputs industry = .ok bundle) :
    HoldsAccount bundle source value ↔
      (∃ e, PooledAccount (inputs_filtered across inputs) source e ∧ e.2 ≠ 0) ∧
        ∃ e, PooledAccount (inputs_filtered across inputs) source e ∧ e.1 = value := by
  have hpooled := mem_renormalise_pool_iff keeps_value
    (PerSourceAttributePrior.by_source ∘ Prod.fst)
    (attributeInputs (inputs_filtered across inputs)) source "gl_account" value
  simp only [mem_pooledAt_attributeInputs] at hpooled
  rw [← hpooled]
  have hbundle : bundle.per_source_attribute =
      if attributeInputs (inputs_filtered across inputs) = [] then none
      else some (aggregate_per_source_attribute
        (attributeInputs (inputs_filtered across inputs))) := by
    rw [aggregate_industry_priors] at h
    split at h
    · cases h
    · cases h
      rfl
  rw [HoldsAccount, hbundle]
  by_cases hnil : attributeInputs (inputs_filtered across inputs) = []
  · rw [if_pos hnil, hnil]
    constructor
    · rintro ⟨psa, hpsa, -⟩
      cases hpsa
    · rintro ⟨dist, hdist, -⟩
      cases hdist
  · rw [if_neg hnil]
    constructor
    · rintro ⟨psa, hpsa, h⟩
      cases hpsa
      rwa [aggregate_per_source_attribute, if_neg hnil] at h
    · intro h
      refine ⟨_, rfl, ?_⟩
      rwa [aggregate_per_source_attribute, if_neg hnil]

theorem holdsRoleAccount_iff
    (h : aggregate_industry_priors across inputs industry = .ok bundle) :
    HoldsRoleAccount bundle source role value ↔
      (∃ e, PooledRoleAccount (inputs_filtered across inputs) source role e ∧ e.2 ≠ 0) ∧
        ∃ e, PooledRoleAccount (inputs_filtered across inputs) source role e ∧ e.1 = value := by
  have hpooled := mem_renormalise_pool_iff (fun _ _ _ => true)
    PerSourceRolePrior.by_source_and_role (roleInputs (inputs_filtered across inputs)) source role
    value
  simp only [mem_pooledAt_roleInputs] at hpooled
  rw [← hpooled]
  let roles := aggregate_source_role_gl (roleInputs (inputs_filtered across inputs))
  have hbundle : bundle.source_role_gl_conditionals =
      if roleInputs (inputs_filtered across inputs) = [] then none
      else if roles.by_source_and_role.entries = [] then none else some roles := by
    rw [aggregate_industry_priors] at h
    split at h
    · cases h
    · cases h
      rfl
  rw [HoldsRoleAccount, hbundle]
  by_cases hnil : roleInputs (inputs_filtered across inputs) = []
  · rw [if_pos hnil, hnil]
    constructor
    · rintro ⟨roles, hroles, -⟩
      cases hroles
    · rintro ⟨dist, hdist, -⟩
      cases hdist
  · have hroles : roles.by_source_and_role = renormalise (pool (fun _ _ _ => true)
        PerSourceRolePrior.by_source_and_role (roleInputs (inputs_filtered across inputs))) := by
      show (aggregate_source_role_gl _).by_source_and_role = _
      rw [aggregate_source_role_gl, if_neg hnil]
    rw [if_neg hnil, ← hroles]
    constructor
    · rintro ⟨roles', hroles', hholds⟩
      split at hroles'
      · cases hroles'
      · cases hroles'
        exact hholds
    · rintro ⟨dist, hdist, hvalue⟩
      have hne : roles.by_source_and_role.entries ≠ [] := by
        intro hentries
        rw [conditional, OrderedMap.find?, hentries] at hdist
        cases hdist
      exact ⟨roles, if_neg hne, dist, hdist, hvalue⟩

end Bundles

section Tallies

variable {client : BehavioralPriors} {source : String} {e : String × ℕ} {format : AccountFormat}

theorem mem_observations_iff {psa : PerSourceAttributePrior} {attr : String} :
    e ∈ observations psa attr ↔ ∃ source, e ∈ valuesAt psa.by_source source attr := by
  rw [observations, List.mem_flatMap]
  constructor
  · rintro ⟨attrs, hattrs, he⟩
    obtain ⟨source, hsource⟩ := (OrderedMap.mem_values_iff _).mp hattrs
    refine ⟨source, ?_⟩
    rw [valuesAt, conditional, hsource]
    exact he
  · rintro ⟨source, he⟩
    cases hsource : psa.by_source.find? source with
    | none =>
        rw [valuesAt, conditional, hsource] at he
        cases he
    | some attrs =>
        rw [valuesAt, conditional, hsource] at he
        exact ⟨attrs, (OrderedMap.mem_values_iff _).mpr ⟨source, hsource⟩, he⟩

/-- Every GL account with a namespace counts for its format. -/
theorem exists_mem_gl_tally (he : e ∈ glValues client source)
    (hneutral : (classify_account_format e.1).neutral = false) :
    ∃ n, (classify_account_format e.1, n) ∈ gl_tally client ∧ e.2 ≤ n := by
  rw [glValues] at he
  rw [gl_tally]
  cases hpsa : client.per_source_attribute with
  | none =>
      rw [hpsa] at he
      cases he
  | some psa =>
      rw [hpsa] at he
      have hobserved : e ∈ (observations psa "gl_account").filter
          fun e => !(classify_account_format e.1).neutral :=
        List.mem_filter.mpr ⟨mem_observations_iff.mpr ⟨source, he⟩, by rw [hneutral]; rfl⟩
      refine ⟨_, mem_totalsBy_iff.mpr ⟨⟨e, hobserved, rfl⟩, rfl⟩, ?_⟩
      apply List.single_le_sum (by simp)
      exact List.mem_map_of_mem (List.mem_filter.mpr ⟨hobserved, decide_eq_true rfl⟩)

/-- A format that counts has an account that does. -/
theorem exists_glValues_of_mem_gl_tally {n : ℕ} (h : (format, n) ∈ gl_tally client) (hn : n ≠ 0) :
    ∃ source, ∃ e ∈ glValues client source, classify_account_format e.1 = format ∧ e.2 ≠ 0 := by
  rw [gl_tally] at h
  cases hpsa : client.per_source_attribute with
  | none =>
      rw [hpsa] at h
      cases h
  | some psa =>
      rw [hpsa] at h
      obtain ⟨-, rfl⟩ := mem_totalsBy_iff.mp h
      rw [Ne, List.sum_eq_zero_iff] at hn
      push Not at hn
      obtain ⟨x, hx, hne⟩ := hn
      obtain ⟨e, he, rfl⟩ := List.mem_map.mp hx
      obtain ⟨he, hformat⟩ := List.mem_filter.mp he
      obtain ⟨source, hsource⟩ := mem_observations_iff.mp (List.mem_filter.mp he).1
      refine ⟨source, e, ?_, of_decide_eq_true hformat, hne⟩
      rw [glValues, hpsa]
      exact hsource

/-- A value that the filter of a client can let through. -/
def MayPass (client : BehavioralPriors) (value : String) : Prop :=
  (classify_account_format value).neutral = true ∨ MayVote client (classify_account_format value)

theorem mayPass_of_passes {order : HashOrder} (he : e ∈ glValues client source)
    (hpasses : passes (leader order (gl_tally client)) e.1 = true) : MayPass client e.1 := by
  cases hneutral : (classify_account_format e.1).neutral with
  | true => exact .inl hneutral
  | false =>
      right
      obtain ⟨n, hn, -⟩ := exists_mem_gl_tally he hneutral
      cases hleader : leader order (gl_tally client) with
      | none =>
          rw [leader_eq_none_iff.mp hleader] at hn
          cases hn
      | some target =>
          rw [hleader, passes, Option.elim_some, hneutral, Bool.false_or,
            decide_eq_true_eq] at hpasses
          rw [hpasses]
          exact leads_of_leader hleader

/-- If any account with a namespace counts, a leading format has one that does. -/
theorem exists_counting_account (h : MayVote client format) (he : e ∈ glValues client source)
    (hneutral : (classify_account_format e.1).neutral = false) (hcount : e.2 ≠ 0) :
    ∃ source, ∃ e ∈ glValues client source, classify_account_format e.1 = format ∧ e.2 ≠ 0 := by
  obtain ⟨n, hn, hle⟩ := exists_mem_gl_tally he hneutral
  obtain ⟨⟨format, most⟩, hmost, rfl, hmax⟩ := h
  apply exists_glValues_of_mem_gl_tally hmost
  have hmost := hmax _ hn
  dsimp only at hmost
  omega

end Tallies

section Namespaces

def Fits (target : AccountFormat) (value : String) : Prop :=
  (classify_account_format value).neutral = true ∨ classify_account_format value = target

/-- In every run in which a dominant format is detected, all GL accounts of the bundle fit it. -/
def KeepsNamespace (clients : List BehavioralPriors) : Prop :=
  ∀ across inputs industry target bundle, inputs.map ClientInput.priors = clients →
    dominant_gl_format across inputs = some target →
    aggregate_industry_priors across inputs industry = .ok bundle →
      (∀ source value, HoldsAccount bundle source value → Fits target value) ∧
        ∀ source role value, HoldsRoleAccount bundle source role value → Fits target value

/-- The format is detected for some orders of iteration. -/
def Detectable (clients : List BehavioralPriors) (target : AccountFormat) : Prop :=
  ∃ across inputs, inputs.map ClientInput.priors = clients ∧
    dominant_gl_format across inputs = some target

/-- In every source with an observation, the GL accounts that can pass the filters of the clients
that belong to the format fit it. -/
def AccountsFit (clients : List BehavioralPriors) (target : AccountFormat) : Prop :=
  ∀ source,
    (∃ client ∈ clients, Belongs target client = true ∧
      ∃ e ∈ glValues client source, MayPass client e.1 ∧ e.2 ≠ 0) →
    ∀ client ∈ clients, Belongs target client = true →
      ∀ e ∈ glValues client source, MayPass client e.1 → Fits target e.1

/-- In every source and role with an observation, the GL accounts of the clients that belong to
the format fit it. -/
def RolesFit (clients : List BehavioralPriors) (target : AccountFormat) : Prop :=
  ∀ source role,
    (∃ client ∈ clients, Belongs target client = true ∧
      ∃ e ∈ roleValues client source role, e.2 ≠ 0) →
    ∀ client ∈ clients, Belongs target client = true →
      ∀ e ∈ roleValues client source role, Fits target e.1

variable {across : HashOrder} {inputs : List ClientInput} {clients : List BehavioralPriors}
  {target : AccountFormat} {input : ClientInput}

theorem mem_inputs_filtered_iff (hdominant : dominant_gl_format across inputs = some target) :
    input ∈ inputs_filtered across inputs ↔ input ∈ inputs ∧
      (input.priors.per_source_attribute.isNone = true ∨
        leader input.checking (gl_tally input.priors) = some target) := by
  rw [inputs_filtered, hdominant, List.mem_filter, client_in_dominant_iff]

theorem belongs_of_mem_inputs_filtered
    (hdominant : dominant_gl_format across inputs = some target)
    (h : input ∈ inputs_filtered across inputs) : Belongs target input.priors = true := by
  rw [Belongs, Bool.or_eq_true, decide_eq_true_eq]
  exact ((mem_inputs_filtered_iff hdominant).mp h).2.imp_right leads_of_leader

/-- A detectable format is detected in a run that keeps all clients that belong to it, with
whatever the pooling may find. -/
theorem exists_run_of_detectable (h : Detectable clients target)
    {pools : BehavioralPriors → Option AccountFormat}
    (hpools : ∀ client, Valid MayVote (client, pools client)) :
    ∃ across inputs, inputs.map ClientInput.priors = clients ∧
      dominant_gl_format across inputs = some target ∧
      ∀ client ∈ clients, Belongs target client = true →
        ∃ input ∈ inputs_filtered across inputs, input.priors = client ∧
          leader (input.pooling "gl_account") (gl_tally client) = pools client := by
  obtain ⟨across₀, inputs₀, rfl, hdominant⟩ := h
  rw [dominant_gl_format_eq] at hdominant
  obtain ⟨vote, hvote⟩ := exists_vote_preferring MayVote target
  obtain ⟨across, inputs, hinputs, hwinner, htallies⟩ := exists_inputs (valid_ballots inputs₀)
    (leads_of_leader hdominant) (fun client => (hvote client).1) hpools
  rw [map_ballot_fst] at hinputs
  refine ⟨across, inputs, hinputs, hwinner, ?_⟩
  intro client hclient hbelongs
  rw [← hinputs] at hclient
  obtain ⟨input, hinput, rfl⟩ := List.mem_map.mp hclient
  obtain ⟨hcheck, hpool⟩ := htallies input hinput
  refine ⟨input, (mem_inputs_filtered_iff hwinner).mpr ⟨hinput, ?_⟩, rfl, hpool⟩
  rw [Belongs, Bool.or_eq_true, decide_eq_true_eq] at hbelongs
  rw [hcheck]
  exact hbelongs.imp_right (hvote input.priors).2

theorem exists_bundle (hne : inputs ≠ []) (across : HashOrder) (industry : String) :
    ∃ bundle, aggregate_industry_priors across inputs industry = .ok bundle := by
  rw [aggregate_industry_priors, if_neg hne]
  exact ⟨_, rfl⟩

theorem keepsNamespace_of_fit
    (h : ∀ target, Detectable clients target →
      AccountsFit clients target ∧ RolesFit clients target) : KeepsNamespace clients := by
  rintro across inputs industry target bundle rfl hdominant hbundle
  obtain ⟨haccounts, hroles⟩ := h target ⟨across, inputs, rfl, hdominant⟩
  have hclient : ∀ input ∈ inputs_filtered across inputs,
      input.priors ∈ inputs.map ClientInput.priors ∧ Belongs target input.priors = true := by
    intro input hinput
    exact ⟨List.mem_map_of_mem ((mem_inputs_filtered_iff hdominant).mp hinput).1,
      belongs_of_mem_inputs_filtered hdominant hinput⟩
  constructor
  · intro source value hholds
    obtain ⟨⟨e, ⟨input, hinput, he, hpasses⟩, hcount⟩, e', ⟨input', hinput', he', hpasses'⟩, rfl⟩ :=
      (holdsAccount_iff hbundle).mp hholds
    obtain ⟨hmem, hbelongs⟩ := hclient input hinput
    obtain ⟨hmem', hbelongs'⟩ := hclient input' hinput'
    exact haccounts source ⟨_, hmem, hbelongs, e, he, mayPass_of_passes he hpasses, hcount⟩ _ hmem'
      hbelongs' e' he' (mayPass_of_passes he' hpasses')
  · intro source role value hholds
    obtain ⟨⟨e, ⟨input, hinput, he⟩, hcount⟩, e', ⟨input', hinput', he'⟩, rfl⟩ :=
      (holdsRoleAccount_iff hbundle).mp hholds
    obtain ⟨hmem, hbelongs⟩ := hclient input hinput
    obtain ⟨hmem', hbelongs'⟩ := hclient input' hinput'
    exact hroles source role ⟨_, hmem, hbelongs, e, he, hcount⟩ _ hmem' hbelongs' e' he'

theorem rolesFit_of_keepsNamespace (h : KeepsNamespace clients)
    (hdetectable : Detectable clients target) : RolesFit clients target := by
  rintro source role ⟨client, hclient, hbelongs, e, he, hcount⟩ client' hclient' hbelongs' e' he'
  obtain ⟨pools, hpools⟩ := exists_vote_preferring MayVote target
  obtain ⟨across, inputs, hinputs, hdominant, hkept⟩ :=
    exists_run_of_detectable hdetectable fun client => (hpools client).1
  obtain ⟨input, hinput, rfl, -⟩ := hkept client hclient hbelongs
  obtain ⟨input', hinput', rfl, -⟩ := hkept client' hclient' hbelongs'
  obtain ⟨bundle, hbundle⟩ := exists_bundle
    (List.ne_nil_of_mem ((mem_inputs_filtered_iff hdominant).mp hinput).1) across ""
  apply (h across inputs "" target bundle hinputs hdominant hbundle).2 source role e'.1
  exact (holdsRoleAccount_iff hbundle).mpr
    ⟨⟨e, ⟨input, hinput, he⟩, hcount⟩, e', ⟨input', hinput', he'⟩, rfl⟩

/-- In a run in which the pooling finds the account's format for its client, the account stays if
anything in its source counts. -/
theorem fits_of_pools (h : KeepsNamespace clients) (hdetectable : Detectable clients target)
    {pools : BehavioralPriors → Option AccountFormat}
    (hpools : ∀ client, Valid MayVote (client, pools client)) {source : String}
    {client client' : BehavioralPriors} {e e' : String × ℕ} (hclient : client ∈ clients)
    (hclient' : client' ∈ clients) (hbelongs : Belongs target client = true)
    (hbelongs' : Belongs target client' = true) (he : e ∈ glValues client source)
    (he' : e' ∈ glValues client' source) (hpasses : passes (pools client) e.1 = true)
    (hpasses' : passes (pools client') e'.1 = true) (hcount : e'.2 ≠ 0) : Fits target e.1 := by
  obtain ⟨across, inputs, hinputs, hdominant, hkept⟩ := exists_run_of_detectable hdetectable hpools
  obtain ⟨input, hinput, rfl, hpool⟩ := hkept client hclient hbelongs
  obtain ⟨input', hinput', rfl, hpool'⟩ := hkept client' hclient' hbelongs'
  obtain ⟨bundle, hbundle⟩ := exists_bundle
    (List.ne_nil_of_mem ((mem_inputs_filtered_iff hdominant).mp hinput).1) across ""
  apply (h across inputs "" target bundle hinputs hdominant hbundle).1 source e.1
  rw [← hpool] at hpasses
  rw [← hpool'] at hpasses'
  exact (holdsAccount_iff hbundle).mpr
    ⟨⟨e', ⟨input', hinput', he', hpasses'⟩, hcount⟩, e, ⟨input, hinput, he, hpasses⟩, rfl⟩

theorem passes_of_eq {format : AccountFormat} {value : String}
    (h : classify_account_format value = format) : passes (some format) value = true := by
  rw [passes, Option.elim_some, decide_eq_true h, Bool.or_true]

theorem passes_of_neutral {dominant : Option AccountFormat} {value : String}
    (h : (classify_account_format value).neutral = true) : passes dominant value = true := by
  cases dominant with
  | none => rfl
  | some target => rw [passes, Option.elim_some, h, Bool.true_or]

theorem accountsFit_of_keepsNamespace (h : KeepsNamespace clients)
    (hdetectable : Detectable clients target) : AccountsFit clients target := by
  rintro source ⟨client', hclient', hbelongs', e', he', hpass', hcount⟩ client hclient hbelongs e
    he hpass
  by_contra hfits
  have hmay : MayVote client (classify_account_format e.1) :=
    hpass.resolve_left fun hneutral => hfits (.inl hneutral)
  obtain ⟨vote, hvote⟩ := exists_vote_preferring MayVote (classify_account_format e.1)
  have hpasses : passes (vote client) e.1 = true := by
    rw [(hvote client).2 hmay]
    exact passes_of_eq rfl
  apply hfits
  by_cases hneutral' : (classify_account_format e'.1).neutral = true
  · exact fits_of_pools h hdetectable (fun client => (hvote client).1) hclient hclient' hbelongs
      hbelongs' he he' hpasses (passes_of_neutral hneutral') hcount
  by_cases hsame : client' = client
  · -- The account's own format counts somewhere, and stays there.
    subst hsame
    rw [Bool.not_eq_true] at hneutral'
    obtain ⟨source', e'', he'', hformat, hcount'⟩ :=
      exists_counting_account hmay he' hneutral' hcount
    have hpasses'' : passes (vote client') e''.1 = true := by
      rw [(hvote client').2 hmay]
      exact passes_of_eq hformat
    have hfits'' := fits_of_pools h hdetectable (fun client => (hvote client).1) hclient hclient
      hbelongs hbelongs he'' he'' hpasses'' hpasses'' hcount'
    rwa [Fits, hformat] at hfits''
  · obtain ⟨vote', hvote'⟩ := exists_vote_preferring MayVote (classify_account_format e'.1)
    have hmay' := hpass'.resolve_left hneutral'
    classical
    let pools (a : BehavioralPriors) : Option AccountFormat :=
      if a = client then vote a else vote' a
    have hpools : ∀ a, Valid MayVote (a, pools a) := by
      intro a
      by_cases ha : a = client
      · rw [show pools a = vote a from if_pos ha]
        exact (hvote a).1
      · rw [show pools a = vote' a from if_neg ha]
        exact (hvote' a).1
    have hpool : pools client = vote client := if_pos rfl
    have hpool' : pools client' = some (classify_account_format e'.1) :=
      (if_neg hsame).trans ((hvote' client').2 hmay')
    rw [← hpool] at hpasses
    exact fits_of_pools h hdetectable hpools hclient hclient' hbelongs hbelongs' he he' hpasses
      (by rw [hpool']; exact passes_of_eq rfl) hcount

theorem keepsNamespace_iff (clients : List BehavioralPriors) :
    KeepsNamespace clients ↔
      ∀ target, Detectable clients target →
        AccountsFit clients target ∧ RolesFit clients target := by
  constructor
  · intro h target hdetectable
    exact ⟨accountsFit_of_keepsNamespace h hdetectable, rolesFit_of_keepsNamespace h hdetectable⟩
  · exact keepsNamespace_of_fit

/-- A client with short numeric accounts by source and one padded account by role. -/
def mixedClient : BehavioralPriors where
  schema_version := SCHEMA_VERSION
  industry := "retail"
  n_client_inputs := 1
  n_rows_aggregated := 2
  source_mix := ⟨.empty, 1, 0⟩
  per_source_attribute := some
    ⟨.ofList [("KR", .ofList [("gl_account", ⟨.ofList [("100", 1)], 1⟩)])], 1⟩
  source_role_gl_conditionals := some
    ⟨.ofList [("KR", .ofList [("DR", ⟨.ofList [("0000000100", 1)], 1⟩)])]⟩

theorem not_keepsNamespace_mixed : ¬ KeepsNamespace [mixedClient] := by
  intro h
  let inputs : List ClientInput :=
    [⟨mixedClient, .insertion, .insertion, fun _ => .insertion⟩]
  have hdominant : dominant_gl_format .insertion inputs = some .shortNumeric := by decide
  obtain ⟨bundle, hbundle⟩ := exists_bundle (List.cons_ne_nil _ _ : inputs ≠ []) .insertion ""
  have hholds : HoldsRoleAccount bundle "KR" "DR" "0000000100" := by
    have hmem : ("0000000100", 1) ∈ roleValues mixedClient "KR" "DR" := by decide_cbv
    have hinput : inputs.head (List.cons_ne_nil _ _) ∈ inputs_filtered .insertion inputs :=
      (mem_inputs_filtered_iff hdominant).mpr
        ⟨List.mem_cons_self, .inr (by decide)⟩
    have hpooled : PooledRoleAccount (inputs_filtered .insertion inputs) "KR" "DR"
        ("0000000100", 1) := ⟨_, hinput, hmem⟩
    exact (holdsRoleAccount_iff hbundle).mpr
      ⟨⟨_, hpooled, one_ne_zero⟩, _, hpooled, rfl⟩
  have hfits := (h .insertion inputs "" _ bundle rfl hdominant hbundle).2 "KR" "DR" _ hholds
  have hpadded : classify_account_format "0000000100" = .zeroPadded10 := by decide
  rw [Fits, hpadded] at hfits
  revert hfits
  decide

end Namespaces

end Datasynth.Fingerprints.NamespaceFilter
