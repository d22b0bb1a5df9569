import Mathlib.Data.Rat.Floor
import Datasynth.Core.CountryPacks
import Datasynth.Lib.HashedMaximum
import Datasynth.Lib.SortedEntries

/-!
Industry-level aggregation of the behavioural priors of several clients, with 64-bit floats as
exact rationals.
-/

namespace Datasynth.Fingerprints.IndustryAggregator

open Datasynth.Core.CountryPacks
open Datasynth.Lib.HashIteration
open Datasynth.Lib.HashedMaximum
open Datasynth.Lib.SortedEntries

section Priors

structure CategoricalDistribution where
  probabilities : OrderedMap String ℚ
  n : ℕ

/-- Distributions by source and, within a source, by attribute or role. -/
abbrev Conditionals := OrderedMap String (OrderedMap String CategoricalDistribution)

def conditional (conditionals : Conditionals) (source key : String) :
    Option CategoricalDistribution :=
  (conditionals.find? source).bind fun groups => groups.find? key

structure SourceMixPrior where
  probabilities : OrderedMap String ℚ
  other_fraction : ℚ
  min_threshold : ℚ

structure PerSourceAttributePrior where
  by_source : Conditionals
  min_observations : ℕ

structure PerSourceRolePrior where
  by_source_and_role : Conditionals

structure BehavioralPriors where
  schema_version : ℕ
  industry : String
  n_client_inputs : ℕ
  n_rows_aggregated : ℕ
  source_mix : SourceMixPrior
  per_source_attribute : Option PerSourceAttributePrior
  source_role_gl_conditionals : Option PerSourceRolePrior

def SCHEMA_VERSION : ℕ := 1

/-- A client's priors, with the orders in which the tallies made of them are iterated: for the
vote on the dominant format, for the check of the client, and for the pooling of an attribute. -/
structure ClientInput where
  priors : BehavioralPriors
  voting : HashOrder
  checking : HashOrder
  pooling : String → HashOrder

end Priors

section SourceMix

def aggregate_source_mix (inputs : List SourceMixPrior) : SourceMixPrior :=
  match inputs with
  | [] => ⟨.empty, 0, 0⟩
  | first :: _ =>
      let n : ℚ := inputs.length
      let probabilities : OrderedMap String ℚ := inputs.foldl (fun probabilities client =>
        client.probabilities.entries.foldl (fun probabilities e =>
          probabilities.upsert e.1 fun p => p.getD 0 + e.2 / n) probabilities) .empty
      let other := inputs.foldl (fun other client => other + client.other_fraction / n) 0
      let kept : OrderedMap String ℚ × ℚ := probabilities.entries.foldl (fun kept e =>
        if first.min_threshold ≤ e.2 then (kept.1.insert e.1 e.2, kept.2)
        else (kept.1, kept.2 + e.2)) (.empty, other)
      ⟨kept.1, kept.2, first.min_threshold⟩

end SourceMix

section Formats

inductive AccountFormat where
  | empty
  | zeroPadded10
  | dotted
  | shortNumeric
  | syntheticDefault
  | other
deriving DecidableEq, Repr

def classify_account_format (value : String) : AccountFormat :=
  let trimmed := trim value
  let chars := trimmed.toList
  if chars = [] then .empty
  else if trimmed.utf8ByteSize = 10 ∧ "0000".toList.isPrefixOf chars ∧ chars.all Char.isDigit then
    .zeroPadded10
  else if '.' ∈ chars ∧ (chars.splitOn '.').all (fun p => p ≠ [] ∧ p.all Char.isDigit) then .dotted
  else if trimmed.utf8ByteSize ≤ 6 ∧ chars ≠ [] ∧ chars.all Char.isDigit then .shortNumeric
  else if "GLAccount-".toList.isPrefixOf chars ∨ "CostCenter-".toList.isPrefixOf chars ∨
      "ProfitCenter-".toList.isPrefixOf chars then .syntheticDefault
  else .other

/-- Empty values and synthetic defaults have no namespace. -/
def AccountFormat.neutral : AccountFormat → Bool
  | empty | syntheticDefault => true
  | _ => false

/-- The number of observations behind a probability; rounded, and none if it is negative. -/
def CategoricalDistribution.count (dist : CategoricalDistribution) (prob : ℚ) : ℕ :=
  ⌊prob * dist.n + 1 / 2⌋.toNat

/-- The values of an attribute and how often each was observed, source by source. -/
def observations (prior : PerSourceAttributePrior) (attr : String) : List (String × ℕ) :=
  prior.by_source.values.flatMap fun attrs =>
    (attrs.find? attr).elim [] fun dist =>
      dist.probabilities.entries.map fun e => (e.1, dist.count e.2)

def format_tally (prior : PerSourceAttributePrior) (attr : String) :
    List (AccountFormat × ℕ) :=
  totalsBy (fun e => classify_account_format e.1) Prod.snd
    ((observations prior attr).filter fun e => !(classify_account_format e.1).neutral)

def detect_dominant_format (order : HashOrder) (prior : PerSourceAttributePrior)
    (attr : String) : Option AccountFormat :=
  leader order (format_tally prior attr)

def client_obs (prior : PerSourceAttributePrior) : ℕ :=
  (prior.by_source.values.filterMap fun attrs =>
    (attrs.find? "gl_account").map CategoricalDistribution.n).sum

def detect_cross_client_dominant_gl_format (across : HashOrder)
    (inputs : List (PerSourceAttributePrior × HashOrder)) : Option AccountFormat :=
  leader across (totalsBy Prod.fst Prod.snd (inputs.filterMap fun input =>
    (detect_dominant_format input.2 input.1 "gl_account").map fun client_dominant =>
      (client_dominant, client_obs input.1)))

def is_client_in_dominant_namespace (order : HashOrder) (input : PerSourceAttributePrior)
    (target : AccountFormat) : Bool :=
  detect_dominant_format order input "gl_account" = some target

end Formats

section Pooling

abbrev PooledCounts := OrderedMap String (OrderedMap String (OrderedMap String ℕ))

/-- The loop over the values of a distribution. -/
def pool_values (keeps : String → Bool) (dist : CategoricalDistribution)
    (counts : OrderedMap String ℕ) : OrderedMap String ℕ :=
  dist.probabilities.entries.foldl (fun counts e =>
    if keeps e.1 then counts.upsert e.1 fun count => count.getD 0 + dist.count e.2
    else counts) counts

/-- The loop over the attributes or roles of a source. -/
def pool_groups (keeps : String → String → Bool)
    (dists : OrderedMap String CategoricalDistribution)
    (pooled : OrderedMap String (OrderedMap String ℕ)) :
    OrderedMap String (OrderedMap String ℕ) :=
  dists.entries.foldl (fun pooled e =>
    pooled.upsert e.1 fun counts => pool_values (keeps e.1) e.2 (counts.getD .empty)) pooled

/-- The loop over the sources of an input. -/
def pool_sources (keeps : String → String → Bool) (conditionals : Conditionals)
    (pooled : PooledCounts) : PooledCounts :=
  conditionals.entries.foldl (fun pooled e =>
    pooled.upsert e.1 fun groups => pool_groups keeps e.2 (groups.getD .empty)) pooled

/-- The observations of all inputs by source, by attribute or role, and by value. -/
def pool {ι : Type*} (keeps : ι → String → String → Bool) (groups : ι → Conditionals)
    (inputs : List ι) : PooledCounts :=
  inputs.foldl (fun pooled input => pool_sources (keeps input) (groups input) pooled) .empty

def from_counts (counts : OrderedMap String ℕ) : CategoricalDistribution :=
  let n := counts.values.sum
  if n = 0 then ⟨.empty, 0⟩ else ⟨counts.filterMap fun _ v => some ((v : ℚ) / n), n⟩

/-- The distributions of the pooled counts, without groups that hold no observation. -/
def renormalise (pooled : PooledCounts) : Conditionals :=
  pooled.filterMap fun _ groups =>
    let dists := groups.filterMap fun _ counts =>
      if counts.values.sum = 0 then none else some (from_counts counts)
    if dists.entries = [] then none else some dists

def FORMAT_FILTERED_ATTRS : List String :=
  ["gl_account", "cost_center", "profit_center", "trading_partner"]

/-- Whether a value is of its client's dominant format for the attribute, or of none. -/
def keeps_value (input : PerSourceAttributePrior × (String → HashOrder)) (attr value : String) :
    Bool :=
  let dominant := if attr ∈ FORMAT_FILTERED_ATTRS then
    detect_dominant_format (input.2 attr) input.1 attr else none
  dominant.elim true fun target =>
    (classify_account_format value).neutral || classify_account_format value = target

def aggregate_per_source_attribute
    (inputs : List (PerSourceAttributePrior × (String → HashOrder))) : PerSourceAttributePrior :=
  if inputs = [] then ⟨.empty, 0⟩
  else
    ⟨renormalise (pool keeps_value (PerSourceAttributePrior.by_source ∘ Prod.fst) inputs),
      (inputs.map fun input => input.1.min_observations).foldl max 0⟩

def aggregate_source_role_gl (inputs : List PerSourceRolePrior) : PerSourceRolePrior :=
  if inputs = [] then ⟨.empty⟩
  else ⟨renormalise (pool (fun _ _ _ => true) PerSourceRolePrior.by_source_and_role inputs)⟩

end Pooling

section Industry

structure ExtractionError where
  extractor : String
  message : String

def dominant_gl_format (across : HashOrder) (inputs : List ClientInput) : Option AccountFormat :=
  detect_cross_client_dominant_gl_format across (inputs.filterMap fun input =>
    input.priors.per_source_attribute.map fun psa => (psa, input.voting))

def client_in_dominant (dominant : Option AccountFormat) (input : ClientInput) : Bool :=
  match input.priors.per_source_attribute, dominant with
  | some psa, some target => is_client_in_dominant_namespace input.checking psa target
  | _, _ => true

def inputs_filtered (across : HashOrder) (inputs : List ClientInput) : List ClientInput :=
  inputs.filter (client_in_dominant (dominant_gl_format across inputs))

def aggregate_industry_priors (across : HashOrder) (inputs : List ClientInput)
    (industry : String) : Except ExtractionError BehavioralPriors :=
  if inputs = [] then
    .error ⟨"industry_aggregator", "aggregate_industry_priors: no inputs"⟩
  else
    let filtered := inputs_filtered across inputs
    let psa_filtered := filtered.filterMap fun input =>
      input.priors.per_source_attribute.map fun psa => (psa, input.pooling)
    let srg_inputs := filtered.filterMap fun input => input.priors.source_role_gl_conditionals
    let roles := aggregate_source_role_gl srg_inputs
    .ok
      { schema_version := SCHEMA_VERSION
        industry := industry
        n_client_inputs := filtered.length
        n_rows_aggregated := (filtered.map fun input => input.priors.n_rows_aggregated).sum
        source_mix := aggregate_source_mix (filtered.map fun input => input.priors.source_mix)
        per_source_attribute :=
          if psa_filtered = [] then none else some (aggregate_per_source_attribute psa_filtered)
        source_role_gl_conditionals :=
          if srg_inputs = [] then none
          else if roles.by_source_and_role.entries = [] then none
          else some roles }

end Industry

end Datasynth.Fingerprints.IndustryAggregator
