import Datasynth.Group.CguImpairment
import Datasynth.Group.OwnershipExpansion
import Datasynth.Group.ShardPlanning

/-!
Expansion of the intercompany configuration into resolved relationship edges.
Explicit relationships come first and win over patterns of the same seller,
buyer and first transaction type.
-/

namespace Datasynth.Group.IcExpansion

open Datasynth.Core.JournalEntries
open Datasynth.Group.Config
open Datasynth.Group.OwnershipExpansion
open Datasynth.Lib.ByteEncoding
open Datasynth.Lib.ExceptRuns

inductive IcSource where
  | explicit
  | pattern
deriving DecidableEq, Repr

structure ResolvedIcRelationship where
  id : String
  seller : String
  buyer : String
  types : List IcTransactionType
  annual_volume : ℚ
  transfer_pricing : Option TransferPricingMethod
  markup_percent : Option ℚ
  source : IcSource
  pattern_index : Option ℕ
deriving DecidableEq

/-- The key of the explicit-wins deduplication. -/
abbrev Triple := String × String × IcTransactionType

def type_str : IcTransactionType → String
  | .goodsSale => "goods_sale"
  | .serviceProvided => "service_provided"
  | .managementFee => "management_fee"
  | .royalty => "royalty"
  | .costSharing => "cost_sharing"
  | .loanInterest => "loan_interest"
  | .dividend => "dividend"
  | .expenseRecharge => "expense_recharge"

/-- The bytes hashed into the identifier of a relationship. -/
def hashInput (group_seed : ℕ) (t : Triple) : List Byte :=
  utf8Bytes "icr" ++ leBytes 8 group_seed ++ utf8Bytes t.1 ++ utf8Bytes "|" ++
    utf8Bytes t.2.1 ++ utf8Bytes "|" ++ utf8Bytes (type_str t.2.2)

/-- The identifier text made of the first eight bytes of a digest. -/
def digestId (digest : Digest) : String :=
  String.ofList ("ICR_".toList ++ hexEncode (digest.bytes.take 8))

def hash_id (blake3 : List Byte → Digest) (group_seed : ℕ) (seller buyer : String)
    (type_ : IcTransactionType) : String :=
  digestId (blake3 (hashInput group_seed (seller, buyer, type_)))

def eqIgnoreAsciiCase (s t : String) : Bool :=
  s.toList.map Char.toLower = t.toList.map Char.toLower

/-- Whether an entity is on one side of a pattern; a fixed code overrides the profile. -/
def matchesPatternSide (fixed profile : Option String) (e : ExpandedEntity) : Bool :=
  match fixed with
  | some code => e.code = code
  | none =>
      match profile with
      | none => true
      | some p => eqIgnoreAsciiCase p "any" || p = e.scoping_profile

def filter_by_pattern_side (entities : List ExpandedEntity) (fixed profile : Option String) :
    List ExpandedEntity :=
  entities.filter (matchesPatternSide fixed profile)

section Expansion

variable (blake3 : List Byte → Digest)

def resolve_explicit (group_seed : ℕ) (e : IcRelationshipExplicit)
    (first_type : IcTransactionType) : ResolvedIcRelationship where
  id := hash_id blake3 group_seed e.seller e.buyer first_type
  seller := e.seller
  buyer := e.buyer
  types := e.types
  annual_volume := e.annual_volume
  transfer_pricing := e.transfer_pricing
  markup_percent := e.markup_percent
  source := .explicit
  pattern_index := none

def resolve_pattern (group_seed : ℕ) (p : IcRelationshipPattern) (seller buyer : ExpandedEntity)
    (pattern_idx : ℕ) (first_type : IcTransactionType) : ResolvedIcRelationship where
  id := hash_id blake3 group_seed seller.code buyer.code first_type
  seller := seller.code
  buyer := buyer.code
  types := p.types
  annual_volume := p.per_pair_volume
  transfer_pricing := p.transfer_pricing
  markup_percent := none
  source := .pattern
  pattern_index := some pattern_idx

structure RelationshipExpansion where
  out : List ResolvedIcRelationship
  seen : List Triple

def RelationshipExpansion.empty : RelationshipExpansion := ⟨[], []⟩

/-- Pass 1 on one configured relationship; patterns are left to the second pass. -/
def expandExplicitRelationship (entities : List ExpandedEntity) (group_seed : ℕ)
    (st : RelationshipExpansion) (rel : IcRelationshipConfig) : GroupResult RelationshipExpansion :=
  match rel with
  | .pattern _ => .ok st
  | .explicit e =>
      match e.types with
      | [] => .error (.config "IC relationship has empty types")
      | first_type :: _ =>
          if e.seller = e.buyer then
            .error (.config s!"IC relationship has seller == buyer ({e.seller})")
          else if e.seller ∉ entities.map (·.code) then
            .error (.config s!"IC relationship references unknown seller entity {e.seller}")
          else if e.buyer ∉ entities.map (·.code) then
            .error (.config s!"IC relationship references unknown buyer entity {e.buyer}")
          else
            .ok ⟨st.out ++ [resolve_explicit blake3 group_seed e first_type],
              st.seen ++ [(e.seller, e.buyer, first_type)]⟩

def expandPatternPair (group_seed : ℕ) (p : IcRelationshipPattern) (idx : ℕ)
    (first_type : IcTransactionType) (st : RelationshipExpansion)
    (pair : ExpandedEntity × ExpandedEntity) : RelationshipExpansion :=
  let (seller, buyer) := pair
  if seller.code = buyer.code then st
  else if buyer.consolidation_method = .fairValue then st
  else if (seller.code, buyer.code, first_type) ∈ st.seen then st
  else
    ⟨st.out ++ [resolve_pattern blake3 group_seed p seller buyer idx first_type],
      st.seen ++ [(seller.code, buyer.code, first_type)]⟩

/-- The seller-buyer combinations a pattern ranges over, sellers outermost. -/
def patternPairs (entities : List ExpandedEntity) (p : IcPattern) :
    List (ExpandedEntity × ExpandedEntity) :=
  (filter_by_pattern_side entities p.seller p.seller_scoping_profile).flatMap fun seller =>
    (filter_by_pattern_side entities p.buyer p.buyer_scoping_profile).map fun buyer =>
      (seller, buyer)

/-- Pass 2 on one configured relationship; explicit ones are already resolved. -/
def expandPatternRelationship (entities : List ExpandedEntity) (group_seed : ℕ)
    (st : RelationshipExpansion) (rel : IcRelationshipConfig × ℕ) : GroupResult RelationshipExpansion :=
  match rel with
  | (.explicit _, _) => .ok st
  | (.pattern p, idx) =>
      match p.types with
      | [] => .error (.config "IC pattern has empty types")
      | first_type :: _ =>
          .ok <| (patternPairs entities p.pattern).foldl
            (expandPatternPair blake3 group_seed p idx first_type) st

def expand_ic_relationships (ic : IntercompanyConfig) (entities : List ExpandedEntity)
    (group_seed : ℕ) : GroupResult (List ResolvedIcRelationship) :=
  (foldRun (expandExplicitRelationship blake3 entities group_seed) RelationshipExpansion.empty
    ic.relationships).bind fun explicit =>
      (foldRun (expandPatternRelationship blake3 entities group_seed) explicit
        ic.relationships.zipIdx).bind fun expansion => .ok expansion.out

end Expansion

end Datasynth.Group.IcExpansion

/-!
Assembly of the group manifest: the sub-builders run in dependency order, and the
ownership-change events are validated against the engagement period.
-/

namespace Datasynth.Group.ManifestBuilder

open Datasynth.Core.JournalEntries
open Datasynth.Core.OwnershipChanges
open Datasynth.Group.CguPlanning
open Datasynth.Group.Config
open Datasynth.Group.IcExpansion
open Datasynth.Group.OwnershipExpansion
open Datasynth.Group.ShardPlanning
open Datasynth.Lib.ByteEncoding
open Datasynth.Lib.CivilCalendar
open Datasynth.Lib.DecimalText
open Datasynth.Lib.ExceptRuns
open Datasynth.Lib.SortedEntries

structure ManifestPeriod where
  start : Date
  «end» : Date
  length : PeriodLength
deriving DecidableEq

structure ManifestEntity where
  code : String
  name : Option String
  country : String
  functional_currency : String
  scoping_profile : String
  consolidation_method : ConsolidationMethod
  ownership_percent : Option ℚ
  parent_code : Option String
  accounting_framework : Option String
  industry : Option String
  hyperinflation_status : HyperinflationStatus
  ownership_changes : List OwnershipChangeEvent
  entity_seed : String
  shard_id : String
deriving DecidableEq

structure OwnershipGraphSection where
  parent_entity_code : String
  entities : List ManifestEntity
deriving DecidableEq

structure GroupManifest where
  schema_version : String
  group_id : String
  group_seed : ℕ
  presentation_currency : String
  period : ManifestPeriod
  manifest_seed : String
  aggregate_seed : String
  ownership_graph : OwnershipGraphSection
  ic_relationships : List ResolvedIcRelationship
  cgu_plan : CguPlan
  shard_plan : ShardPlan
  matching : IcMatchingConfig

/-- A manifest of a period and nothing else. -/
def GroupManifest.bare (period : ManifestPeriod) : GroupManifest where
  schema_version := "1.0"
  group_id := "GROUP"
  group_seed := 42
  presentation_currency := "EUR"
  period := period
  manifest_seed := ""
  aggregate_seed := ""
  ownership_graph := ⟨"P", []⟩
  ic_relationships := []
  cgu_plan := CguPlan.default
  shard_plan := ⟨[]⟩
  matching := ⟨.manifestDriven, 0⟩

/-- A German entity with nothing but its method to tell it apart. -/
def ManifestEntity.bare (code : String) (method : ConsolidationMethod) : ManifestEntity where
  code := code
  name := none
  country := "DE"
  functional_currency := "EUR"
  scoping_profile := "significant"
  consolidation_method := method
  ownership_percent := none
  parent_code := none
  accounting_framework := none
  industry := none
  hyperinflation_status := .notHyperinflationary
  ownership_changes := []
  entity_seed := ""
  shard_id := ""

def year2024 : ManifestPeriod := ⟨Date.ofYmd 2024 1 1, Date.ofYmd 2024 12 31, .annual⟩

def MANIFEST_SCHEMA_VERSION : String := "1.0"

/-- What the builder takes from outside: the hash function, the random stream of
generated blocks, and the checks of the chart-of-accounts, FX, audit and tax
builders, whose outputs no modelled function reads. -/
structure Platform (σ ρ : Type) where
  blake3 : List Byte → Digest
  rng : BlockRng σ
  build_coa_master : ρ → List ExpandedEntity → GroupResult Unit
  build_fx_master : ρ → List ExpandedEntity → GroupResult Unit
  build_audit_engagement_plan : ρ → List ExpandedEntity → GroupResult Unit
  build_tax_group_plan : ρ → List ExpandedEntity → GroupResult Unit

def periodMonths : PeriodLength → ℕ
  | .monthly => 1
  | .quarterly => 3
  | .semiAnnual => 6
  | .annual => 12

def compute_period (cfg : PeriodConfig) : GroupResult ManifestPeriod :=
  let start := cfg.start_date
  match (start.checkedAddMonths (periodMonths cfg.length)).bind Date.pred? with
  | none => .error <| .config <|
      "invalid period start_date '" ++ dateText start ++ "' — cannot compute period end"
  | some last => .ok ⟨start, last, cfg.length⟩

/-- A period begins where the configuration says and ends before the day so many months later. -/
theorem compute_period_spec {cfg : PeriodConfig} {period : ManifestPeriod}
    (h : compute_period cfg = .ok period) : period.start = cfg.start_date ∧
      ∃ next, cfg.start_date.checkedAddMonths (periodMonths cfg.length) = some next ∧
        next.pred? = some period.end := by
  delta compute_period at h
  cases hlast : (cfg.start_date.checkedAddMonths (periodMonths cfg.length)).bind Date.pred? with
  | none =>
      simp only [hlast] at h
      cases h
  | some last =>
      simp only [hlast] at h
      cases h
      exact ⟨rfl, Option.bind_eq_some_iff.mp hlast⟩

/-- The bounds an ownership-change event has to meet. -/
def checkOwnershipChange (period : ManifestPeriod) (code : String) (_ : Unit)
    (ev : OwnershipChangeEvent) : GroupResult Unit :=
  if ev.effective_date < period.start ∨ period.end < ev.effective_date then
    .error <| .config <|
      s!"entity {code}: ownership_change effective_date " ++ dateText ev.effective_date ++
        " is outside the engagement period [" ++ dateText period.start ++ ", " ++
        dateText period.end ++ "]"
  else if ev.ownership_percent_before < 0 ∨ 1 < ev.ownership_percent_before then
    .error <| .config <|
      s!"entity {code}: ownership_percent_before " ++ decimalText ev.ownership_percent_before ++
        " is not in [0, 1]"
  else if ev.ownership_percent_after < 0 ∨ 1 < ev.ownership_percent_after then
    .error <| .config <|
      s!"entity {code}: ownership_percent_after " ++ decimalText ev.ownership_percent_after ++
        " is not in [0, 1]"
  else .ok ()

def hexDigest (digest : Digest) : String := String.ofList (hexEncode digest.bytes)

def manifestEntity (blake3 : List Byte → Digest) (seed : ℕ) (period : ManifestPeriod)
    (shard_by_code : OrderedMap String String) (e : ExpandedEntity) :
    GroupResult ManifestEntity :=
  (foldRun (checkOwnershipChange period e.code) () e.ownership_changes).bind fun _ =>
    .ok
      { code := e.code
        name := e.name
        country := e.country
        functional_currency := e.functional_currency
        scoping_profile := e.scoping_profile
        consolidation_method := e.consolidation_method
        ownership_percent := e.ownership_percent
        parent_code := e.parent_code
        accounting_framework := e.accounting_framework
        industry := e.industry
        hyperinflation_status := e.hyperinflation_status
        ownership_changes := e.ownership_changes
        entity_seed := hexDigest (derive_entity_seed blake3 seed e.code)
        shard_id := (shard_by_code.find? e.code).getD "" }

theorem manifestEntity_code {blake3 : List Byte → Digest} {seed : ℕ} {period : ManifestPeriod}
    {shard_by_code : OrderedMap String String} {e : ExpandedEntity} {entity : ManifestEntity}
    (h : manifestEntity blake3 seed period shard_by_code e = .ok entity) :
    entity.code = e.code := by
  obtain ⟨-, -, heq⟩ := bind_eq_ok_iff.mp h
  cases heq
  rfl

theorem map_manifestEntity_code {blake3 : List Byte → Digest} {seed : ℕ}
    {period : ManifestPeriod} {shard_by_code : OrderedMap String String}
    {expanded : List ExpandedEntity} {entities : List ManifestEntity}
    (h : List.Forall₂ (fun e entity => manifestEntity blake3 seed period shard_by_code e =
      .ok entity) expanded entities) :
    entities.map (·.code) = expanded.map (·.code) := by
  induction h with
  | nil => rfl
  | cons hentity _ ih => rw [List.map_cons, List.map_cons, manifestEntity_code hentity, ih]

section Build

variable {σ ρ : Type} (platform : Platform σ ρ)

def build_manifest (cfg : GroupConfig ρ) : GroupResult GroupManifest := do
  let period ← compute_period cfg.period
  let manifest_seed := derive_manifest_seed platform.blake3 cfg.seed period.start
  let aggregate_seed := derive_aggregate_seed platform.blake3 cfg.seed period.start
  let expanded ← expand_ownership platform.blake3 platform.rng cfg.ownership cfg.seed period.start
  let shard_plan ← build_shard_plan expanded cfg.scoping_profiles
  platform.build_coa_master cfg.rest expanded
  platform.build_fx_master cfg.rest expanded
  let ic_relationships ← expand_ic_relationships platform.blake3 cfg.intercompany expanded cfg.seed
  platform.build_audit_engagement_plan cfg.rest expanded
  platform.build_tax_group_plan cfg.rest expanded
  let cgu_plan ← build_cgu_plan cfg.cgu expanded
  let entities ← traverseRun
    (manifestEntity platform.blake3 cfg.seed period shard_plan.shard_by_code) expanded
  return {
    schema_version := MANIFEST_SCHEMA_VERSION
    group_id := cfg.id
    group_seed := cfg.seed
    presentation_currency := cfg.presentation_currency
    period
    manifest_seed := hexDigest manifest_seed
    aggregate_seed := hexDigest aggregate_seed
    ownership_graph := ⟨cfg.ownership.parent_entity_code, entities⟩
    ic_relationships
    cgu_plan
    shard_plan
    matching := cfg.intercompany.matching }

/-- The intermediate results of a build that succeeded. -/
structure Built (cfg : GroupConfig ρ) (manifest : GroupManifest) : Prop where
  period_eq : compute_period cfg.period = .ok manifest.period
  group_id_eq : manifest.group_id = cfg.id
  group_seed_eq : manifest.group_seed = cfg.seed
  matching_eq : manifest.matching = cfg.intercompany.matching
  presentation_currency_eq : manifest.presentation_currency = cfg.presentation_currency
  expansion : ∃ expanded,
    expand_ownership platform.blake3 platform.rng cfg.ownership cfg.seed manifest.period.start =
        .ok expanded ∧
      expand_ic_relationships platform.blake3 cfg.intercompany expanded cfg.seed =
        .ok manifest.ic_relationships ∧
      build_cgu_plan cfg.cgu expanded = .ok manifest.cgu_plan ∧
      build_shard_plan expanded cfg.scoping_profiles = .ok manifest.shard_plan ∧
      List.Forall₂ (fun e entity =>
        manifestEntity platform.blake3 cfg.seed manifest.period manifest.shard_plan.shard_by_code e =
          .ok entity) expanded manifest.ownership_graph.entities

theorem built_of_build_manifest {cfg : GroupConfig ρ} {manifest : GroupManifest}
    (h : build_manifest platform cfg = .ok manifest) : Built platform cfg manifest := by
  obtain ⟨period, hperiod, h⟩ := bind_eq_ok_iff.mp h
  obtain ⟨expanded, hexpanded, h⟩ := bind_eq_ok_iff.mp h
  obtain ⟨shard_plan, hshards, h⟩ := bind_eq_ok_iff.mp h
  obtain ⟨-, -, h⟩ := bind_eq_ok_iff.mp h
  obtain ⟨-, -, h⟩ := bind_eq_ok_iff.mp h
  obtain ⟨ic_relationships, hrelationships, h⟩ := bind_eq_ok_iff.mp h
  obtain ⟨-, -, h⟩ := bind_eq_ok_iff.mp h
  obtain ⟨-, -, h⟩ := bind_eq_ok_iff.mp h
  obtain ⟨cgu_plan, hcgu, h⟩ := bind_eq_ok_iff.mp h
  obtain ⟨entities, hentities, heq⟩ := bind_eq_ok_iff.mp h
  cases heq
  exact ⟨hperiod, rfl, rfl, rfl, rfl, expanded, hexpanded, hrelationships, hcgu, hshards,
    traverseRun_eq_ok_iff.mp hentities⟩

theorem entity_codes_nodup_of_build_manifest {cfg : GroupConfig ρ} {manifest : GroupManifest}
    (h : build_manifest platform cfg = .ok manifest) :
    (manifest.ownership_graph.entities.map (·.code)).Nodup := by
  obtain ⟨expanded, hexpanded, -, -, -, hentities⟩ :=
    (built_of_build_manifest platform h).expansion
  rw [map_manifestEntity_code hentities]
  exact expand_ownership_codes_nodup platform.blake3 platform.rng hexpanded

end Build

/-- The hash that a table lists, for the inputs it lists. -/
def hashOfTable (table : List (List Byte × Digest)) (input : List Byte) : Digest :=
  ((table.find? (·.1 = input)).map Prod.snd).getD (digestOfNat 0)

def seedDigests : List (List Byte × Digest) :=
  [(utf8Bytes "manifest" ++ leBytes 8 42 ++ utf8Bytes "2024-01-01",
      digestOfNat 0xe0d23d329f8b93457972f26869dc8a612ea6f8c14180bb3940c0dd7d90eee57c),
    (utf8Bytes "aggregate" ++ leBytes 8 42 ++ utf8Bytes "2024-01-01",
      digestOfNat 0xf80f79ca01a73ba865f3c5f4d54e379c59b1c26338bc5472ba9a9ebc5e62ac9b),
    (utf8Bytes "entity" ++ leBytes 8 42 ++ utf8Bytes "P",
      digestOfNat 0x72003db9a98e77834a54c19b6891114a2ec12f46968145249b3f2195dbdf840a),
    (utf8Bytes "entity" ++ leBytes 8 42 ++ utf8Bytes "S",
      digestOfNat 0xda99e639de4dd6143004566a04512929f526cb9f24d7add15c89d6955e7fc302)]

def platformOf (blake3 : List Byte → Digest) : Platform Unit Unit where
  blake3 := blake3
  rng := ⟨fun _ => (), fun _ _ _ => (0, ()), fun _ lo _ => (lo, ())⟩
  build_coa_master := fun _ _ => .ok ()
  build_fx_master := fun _ _ => .ok ()
  build_audit_engagement_plan := fun _ _ => .ok ()
  build_tax_group_plan := fun _ _ => .ok ()

def sampleEntity (code : String) (method : ConsolidationMethod) (parent_code : Option String) :
    EntityConfig where
  code := code
  name := none
  country := "DE"
  functional_currency := "EUR"
  scoping_profile := "significant"
  consolidation_method := method
  ownership_percent := none
  parent_code := parent_code
  accounting_framework := none
  industry := none
  rows := none
  ownership_changes := []
  hyperinflation_status := .notHyperinflationary

def sampleConfig (entities : List EntityConfig) (relationships : List IcRelationshipConfig) :
    GroupConfig Unit where
  id := "GROUP"
  presentation_currency := "EUR"
  period := ⟨Date.ofYmd 2024 1 1, .annual⟩
  seed := 42
  seed_lt := by norm_num
  scoping_profiles := OrderedMap.empty
  ownership := ⟨"P", entities, []⟩
  intercompany := ⟨relationships, ⟨.manifestDriven, 0⟩⟩
  cgu := ⟨[], []⟩
  rest := ()

def manifestOf {σ ρ : Type} (platform : Platform σ ρ) (cfg : GroupConfig ρ) : GroupManifest :=
  match build_manifest platform cfg with
  | .ok manifest => manifest
  | .error _ => GroupManifest.bare year2024

theorem manifestOf_eq {σ ρ : Type} {platform : Platform σ ρ} {cfg : GroupConfig ρ}
    (h : (build_manifest platform cfg).isOk = true) :
    build_manifest platform cfg = .ok (manifestOf platform cfg) := by
  delta manifestOf
  cases hbuild : build_manifest platform cfg with
  | error e => simp [hbuild, Except.isOk, Except.toBool] at h
  | ok manifest => rfl

end Datasynth.Group.ManifestBuilder
