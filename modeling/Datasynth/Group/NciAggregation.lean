import Datasynth.Core.TrialBalances
import Datasynth.Group.NciMeasurement
import Datasynth.Lib.ListRearrangement

/-! The classification of accounts that drives translation and profit attribution. -/

namespace Datasynth.Group.AccountClassification

open Datasynth.Core.TrialBalances

inductive TranslationAccountType where
  | bsMonetary
  | bsNonMonetary
  | plRevenue
  | plExpense
  | equity
  | plOci
deriving DecidableEq, Repr

/-- Cash, receivables and other monetary assets. -/
def monetaryAssets : List String :=
  ["1000", "1010", "1020", "1030", "1100", "1150", "2900", "1160", "1460", "1600", "1450", "1155"]

/-- Inventory, fixed assets, intangibles and goodwill. -/
def nonMonetaryAssets : List String :=
  ["1200", "1420", "1410", "1500", "1510", "1900", "1910", "1920", "1930", "1950"]

/-- Payables, accruals, debt, provisions and tax liabilities. -/
def liabilities : List String :=
  ["2000", "2050", "2200", "2210", "2220", "2300", "2400", "2600", "2700", "2100", "2110", "2120",
    "2130", "2500", "2150", "2410", "2450", "2160", "2610", "2620", "2460", "2055"]

def equities : List String :=
  ["3000", "3100", "3200", "3300", "3400", "3500", "3600", "3700", "3510"]

def revenues : List String :=
  ["4000", "4100", "4500", "4800", "4900", "4010", "4020", "4850"]

def expenses : List String :=
  ["5000", "5100", "5200", "5300", "6000", "6100", "6200", "6300", "6400", "6500", "6600", "6700",
    "6800", "6900", "7100", "7400", "7500", "6010", "6850", "7510"]

def classify_named (code : String) : Option TranslationAccountType :=
  if code ∈ monetaryAssets then some .bsMonetary
  else if code ∈ nonMonetaryAssets then some .bsNonMonetary
  else if code ∈ liabilities then some .bsMonetary
  else if code ∈ equities then some .equity
  else if code ∈ revenues then some .plRevenue
  else if code ∈ expenses then some .plExpense
  else none

def classify_asset_range (code : String) : TranslationAccountType :=
  match parse_u32 (String.ofList (code.toList.take 4)) with
  | none => .bsMonetary
  | some n =>
      if 1200 ≤ n ∧ n ≤ 1399 then .bsNonMonetary
      else if 1500 ≤ n ∧ n ≤ 1999 then .bsNonMonetary
      else .bsMonetary

def classify_by_range (code : String) : TranslationAccountType :=
  match code.toList.head? with
  | some '1' => classify_asset_range code
  | some '3' => .equity
  | some '4' => .plRevenue
  | some '5' | some '6' | some '7' => .plExpense
  | some '8' => .plOci
  | _ => .bsMonetary

/-- The accounting framework plays no part in the classification. -/
def classify_account (account_code : String) : TranslationAccountType :=
  (classify_named account_code).getD (classify_by_range account_code)

end Datasynth.Group.AccountClassification

/-!
The aggregate driver's measurement of non-controlling interests: which entities are
measured, where profit and other comprehensive income come from, and which period
the rollforward is told about.
-/

namespace Datasynth.Group.NciAggregation

open Datasynth.Core.OwnershipChanges
open Datasynth.Group.AccountClassification
open Datasynth.Group.Config
open Datasynth.Group.ManifestBuilder
open Datasynth.Group.NciMeasurement
open Datasynth.Lib.CivilCalendar
open Datasynth.Lib.ExceptRuns
open Datasynth.Lib.HalfEvenRounding
open Datasynth.Lib.ListRearrangement
open Datasynth.Lib.SortedEntries

inductive DrCr where
  | debit
  | credit
deriving DecidableEq, Repr

structure TranslatedLine where
  local_dr_cr : DrCr
  translated_amount : ℚ
  account_type : TranslationAccountType
deriving DecidableEq

structure TranslatedTb where
  entity_code : String
  lines : List TranslatedLine
deriving DecidableEq

def signedAmount (line : TranslatedLine) : ℚ :=
  match line.local_dr_cr with
  | .debit => line.translated_amount
  | .credit => -line.translated_amount

def netIncomeContribution (line : TranslatedLine) : ℚ :=
  match line.account_type with
  | .plRevenue | .plExpense => -signedAmount line
  | _ => 0

def net_income_from_translated (translated : TranslatedTb) : ℚ :=
  (translated.lines.map netIncomeContribution).sum

def oci_from_translated (translated : TranslatedTb) : ℚ :=
  ((translated.lines.filter (·.account_type = .plOci)).map fun line => -signedAmount line).sum

section Driver

variable (manifest : GroupManifest) (translated_tbs : List TranslatedTb)
  (opening_map acquisition_fv_map : OrderedMap String ℚ)
  (ownership_changes_map : OrderedMap String (List OwnershipChangeEvent))

def translated_lookup : OrderedMap String TranslatedTb :=
  OrderedMap.ofList (translated_tbs.map fun t => (t.entity_code, t))

def isMeasured (entity : ManifestEntity) : Bool :=
  entity.consolidation_method = .full && entity.ownership_percent.any (· < 1)

def nciInputs (entity : ManifestEntity) (translated : TranslatedTb) : NciInputs where
  entity := entity
  period_net_income := net_income_from_translated translated
  period_oci := oci_from_translated translated
  total_dividends_paid := 0
  opening_nci := (opening_map.find? entity.code).getD 0
  acquisition_date_nci_fair_value := acquisition_fv_map.find? entity.code
  ownership_changes := (ownership_changes_map.find? entity.code).getD []
  period_start := manifest.period.end
  period_end := manifest.period.end
  currency := manifest.presentation_currency

def measureEntity (entity : ManifestEntity) : GroupResult NciRollforward :=
  match (translated_lookup translated_tbs).find? entity.code with
  | none => .error <| .aggregate <|
      s!"run_aggregate: NCI computation needs translated TB for `{entity.code}` but none was " ++
        "produced"
  | some translated => compute_nci_rollforward
      (nciInputs manifest opening_map acquisition_fv_map ownership_changes_map entity translated)

def build_nci_rollforwards : GroupResult (List NciRollforward) :=
  traverseRun (measureEntity manifest translated_tbs opening_map acquisition_fv_map
    ownership_changes_map) (manifest.ownership_graph.entities.filter (isMeasured ·))

end Driver

/-- The events the shards write out and the driver reads back. -/
def ingest_ownership_change_events (manifest : GroupManifest) :
    OrderedMap String (List OwnershipChangeEvent) :=
  OrderedMap.ofList ((manifest.ownership_graph.entities.filter
    (!·.ownership_changes.isEmpty)).map fun entity => (entity.code, entity.ownership_changes))

/-- For distinct codes an entity's events are the ones of its manifest entry. -/
theorem find?_ingest_ownership_change_events {manifest : GroupManifest}
    (hcodes : (manifest.ownership_graph.entities.map (·.code)).Nodup) {entity : ManifestEntity}
    (hentity : entity ∈ manifest.ownership_graph.entities) :
    ((ingest_ownership_change_events manifest).find? entity.code).getD [] =
      entity.ownership_changes := by
  have hkeys : (((manifest.ownership_graph.entities.filter
      (!·.ownership_changes.isEmpty)).map fun entity =>
        (entity.code, entity.ownership_changes)).map Prod.fst).Nodup := by
    rw [List.map_map]
    exact hcodes.sublist (List.filter_sublist.map _)
  by_cases hempty : entity.ownership_changes = []
  · rw [hempty]
    cases hfind : (ingest_ownership_change_events manifest).find? entity.code with
    | none => rfl
    | some events =>
        obtain ⟨entity', hentity', heq⟩ := List.mem_map.mp (OrderedMap.mem_of_find?_ofList hfind)
        obtain ⟨hmem, hevents⟩ := List.mem_filter.mp hentity'
        obtain ⟨hcode, -⟩ := Prod.mk.inj heq
        rw [List.inj_on_of_nodup_map hcodes hmem hentity hcode, hempty] at hevents
        cases hevents
  · have hmem : (entity.code, entity.ownership_changes) ∈
        (manifest.ownership_graph.entities.filter (!·.ownership_changes.isEmpty)).map fun entity =>
          (entity.code, entity.ownership_changes) :=
      List.mem_map.mpr ⟨entity, List.mem_filter.mpr ⟨hentity, by simpa using hempty⟩, rfl⟩
    rw [ingest_ownership_change_events, OrderedMap.find?_ofList_eq_some_of_nodup hkeys hmem]
    rfl

theorem isMeasured_iff {entity : ManifestEntity} :
    isMeasured entity = true ↔
      entity.consolidation_method = .full ∧
        ∃ ownership_percent, entity.ownership_percent = some ownership_percent ∧
          ownership_percent < 1 := by
  simp [isMeasured, Option.any_eq_true]

/-- A measured entity passes validation when it declares its parent. -/
theorem validateNciEntity_measured {entity : ManifestEntity} {ownership_percent : ℚ}
    (hmethod : entity.consolidation_method = .full)
    (hownership : entity.ownership_percent = some ownership_percent)
    (hlt : ownership_percent < 1) (checked : ℚ × String) :
    validateNciEntity entity = .ok checked ↔
      checked.1 = ownership_percent ∧ entity.parent_code = some checked.2 := by
  obtain ⟨checkedOwnership, parent⟩ := checked
  cases hparent : entity.parent_code with
  | none => simp [validateNciEntity, hmethod, hownership, hlt.not_ge, hparent]
  | some parent_code =>
      simp [validateNciEntity, hmethod, hownership, hlt.not_ge, hparent, eq_comm]

section OneDay

variable {inputs : NciInputs} (hday : inputs.period_start = inputs.period_end)

include hday

/-- Told that the period starts where it ends, the rollforward accepts an acquisition
on that day alone. -/
theorem exists_gainedEffect_iff (gained : Option OwnershipChangeEvent) :
    (∃ effect, gainedEffect inputs gained = .ok effect) ↔
      ∀ ev, gained = some ev → ev.effective_date = inputs.period_end := by
  cases gained with
  | none => simp [gainedEffect]
  | some ev =>
      have hwithin : (ev.effective_date < inputs.period_end ∨
          inputs.period_end < ev.effective_date) ↔ ev.effective_date ≠ inputs.period_end :=
        lt_or_lt_iff_ne
      simp only [gainedEffect, hday, hwithin, Option.some.injEq, forall_eq']
      by_cases hdate : ev.effective_date = inputs.period_end
      · simp [hdate]
      · simp [hdate]

/-- And it gives every period its full weight. -/
theorem gainedEffect_time_weight {gained : Option OwnershipChangeEvent} {effect : GainedEffect}
    (h : gainedEffect inputs gained = .ok effect) : effect.time_weight = 1 := by
  cases gained with
  | none =>
      cases h
      rfl
  | some ev =>
      have hdate := (exists_gainedEffect_iff hday (some ev)).mp ⟨effect, h⟩ ev rfl
      rw [gainedEffect] at h
      split at h
      · cases h
      · cases h
        simp [timeWeight, hdate, hday, Date.daysUntil]

theorem exists_compute_nci_rollforward_iff (hmeasured : isMeasured inputs.entity = true) :
    (∃ roll, compute_nci_rollforward inputs = .ok roll) ↔
      inputs.entity.parent_code.isSome ∧
        (∀ ev ∈ inputs.ownership_changes, ev.event_type ≠ .controlLost) ∧
        ∀ ev, controlGained inputs.ownership_changes = some ev →
          ev.effective_date = inputs.period_end := by
  obtain ⟨hmethod, ownership_percent, hownership, hlt⟩ := isMeasured_iff.mp hmeasured
  rw [← foldRun_walkEvent inputs.entity.code _ EventWalk.start, ← exists_gainedEffect_iff hday]
  simp only [compute_nci_rollforward, bind_eq_ok_iff]
  constructor
  · rintro ⟨roll, checked, hchecked, walk, hwalk, effect, heffect, -⟩
    have hgained := foldRun_walkEvent_gained hwalk
    rw [EventWalk.start, Option.or_none] at hgained
    refine ⟨?_, ⟨walk, hwalk⟩, ⟨effect, hgained ▸ heffect⟩⟩
    rw [((validateNciEntity_measured hmethod hownership hlt checked).mp hchecked).2]
    rfl
  · rintro ⟨hparent, ⟨walk, hwalk⟩, ⟨effect, heffect⟩⟩
    obtain ⟨parent, hparent⟩ := Option.isSome_iff_exists.mp hparent
    have hgained := foldRun_walkEvent_gained hwalk
    rw [EventWalk.start, Option.or_none] at hgained
    exact ⟨_, (ownership_percent, parent),
      (validateNciEntity_measured hmethod hownership hlt _).mpr ⟨rfl, hparent⟩, walk, hwalk,
      effect, hgained ▸ heffect, rfl⟩

/-- The shares a one-day period attributes are those of the whole profit. -/
theorem compute_nci_rollforward_shares (hmeasured : isMeasured inputs.entity = true)
    {ownership_percent : ℚ} (hownership : inputs.entity.ownership_percent = some ownership_percent)
    {roll : NciRollforward} (h : compute_nci_rollforward inputs = .ok roll) :
    roll.entity_code = inputs.entity.code ∧
      roll.nci_share_of_profit = roundDp 2 ((1 - ownership_percent) * inputs.period_net_income) ∧
      roll.nci_share_of_oci = roundDp 2 ((1 - ownership_percent) * inputs.period_oci) := by
  obtain ⟨hmethod, ownership_percent', hownership', hlt⟩ := isMeasured_iff.mp hmeasured
  cases hownership.symm.trans hownership'
  obtain ⟨checked, hchecked, h⟩ := bind_eq_ok_iff.mp h
  obtain ⟨walk, -, h⟩ := bind_eq_ok_iff.mp h
  obtain ⟨effect, heffect, heq⟩ := bind_eq_ok_iff.mp h
  cases heq
  have hchecked := ((validateNciEntity_measured hmethod hownership hlt checked).mp hchecked).1
  have hweight := gainedEffect_time_weight hday heffect
  refine ⟨rfl, ?_, ?_⟩
  · simp only [assembleRollforward, hweight, hchecked, mul_one]
  · simp only [assembleRollforward, hweight, hchecked, mul_one]

end OneDay

/-- What the driver needs of an entity to measure its interest. -/
structure Measurable (manifest : GroupManifest) (translated_tbs : List TranslatedTb)
    (entity : ManifestEntity) : Prop where
  has_parent : entity.parent_code.isSome
  has_translated_tb : ((translated_lookup translated_tbs).find? entity.code).isSome
  retains_control : ∀ ev ∈ entity.ownership_changes, ev.event_type ≠ .controlLost
  gained_at_period_end : ∀ ev, controlGained entity.ownership_changes = some ev →
    ev.effective_date = manifest.period.end

/-- A measured entity, its share held, its translated figures and the acquisition of
control that applies to it. -/
structure Acquired (manifest : GroupManifest) (translated_tbs : List TranslatedTb)
    (entity : ManifestEntity) (ownership_percent : ℚ) (translated : TranslatedTb)
    (ev : OwnershipChangeEvent) : Prop where
  entity_mem : entity ∈ manifest.ownership_graph.entities
  measured : isMeasured entity = true
  ownership_eq : entity.ownership_percent = some ownership_percent
  translated_eq : (translated_lookup translated_tbs).find? entity.code = some translated
  gained : controlGained entity.ownership_changes = some ev

section Attribution

variable (manifest : GroupManifest) (translated_tbs : List TranslatedTb)
  (opening_map acquisition_fv_map : OrderedMap String ℚ)

/-- The driver measures every interest, and it weights the profit and the other
comprehensive income of an acquired entity by the days from the acquisition to the
period's end, both included, over the days of the period. -/
def AttributesByTime : Prop :=
  ∃ rolls, build_nci_rollforwards manifest translated_tbs opening_map acquisition_fv_map
      (ingest_ownership_change_events manifest) = .ok rolls ∧
    ∀ entity ownership_percent translated ev,
      Acquired manifest translated_tbs entity ownership_percent translated ev →
        ∃ roll ∈ rolls, roll.entity_code = entity.code ∧
          roll.nci_share_of_profit = roundDp 2 ((1 - ownership_percent) *
            net_income_from_translated translated *
              timeWeight manifest.period.start manifest.period.end ev.effective_date) ∧
          roll.nci_share_of_oci = roundDp 2 ((1 - ownership_percent) *
            oci_from_translated translated *
              timeWeight manifest.period.start manifest.period.end ev.effective_date)

/-- Every measured entity that gained control did so on the last day of the period,
and the weight of that day makes no difference to its shares. -/
structure Attributable : Prop where
  measurable : ∀ entity ∈ manifest.ownership_graph.entities, isMeasured entity = true →
    Measurable manifest translated_tbs entity
  weight_immaterial : ∀ entity ownership_percent translated ev,
    Acquired manifest translated_tbs entity ownership_percent translated ev →
      roundDp 2 ((1 - ownership_percent) * net_income_from_translated translated) =
          roundDp 2 ((1 - ownership_percent) * net_income_from_translated translated *
            timeWeight manifest.period.start manifest.period.end ev.effective_date) ∧
        roundDp 2 ((1 - ownership_percent) * oci_from_translated translated) =
          roundDp 2 ((1 - ownership_percent) * oci_from_translated translated *
            timeWeight manifest.period.start manifest.period.end ev.effective_date)

variable {manifest translated_tbs opening_map acquisition_fv_map}

variable (opening_map acquisition_fv_map) in
theorem exists_measureEntity_iff
    (hcodes : (manifest.ownership_graph.entities.map (·.code)).Nodup) {entity : ManifestEntity}
    (hentity : entity ∈ manifest.ownership_graph.entities) (hmeasured : isMeasured entity = true) :
    (∃ roll, measureEntity manifest translated_tbs opening_map acquisition_fv_map
        (ingest_ownership_change_events manifest) entity = .ok roll) ↔
      Measurable manifest translated_tbs entity := by
  have hevents := find?_ingest_ownership_change_events hcodes hentity
  rw [measureEntity]
  cases htb : (translated_lookup translated_tbs).find? entity.code with
  | none =>
      constructor
      · rintro ⟨roll, hroll⟩
        cases hroll
      · intro h
        simpa [htb] using h.has_translated_tb
  | some translated =>
      have hday : (nciInputs manifest opening_map acquisition_fv_map
          (ingest_ownership_change_events manifest) entity translated).period_start =
        manifest.period.end := rfl
      have hiff := exists_compute_nci_rollforward_iff hday hmeasured
      rw [show (nciInputs manifest opening_map acquisition_fv_map
        (ingest_ownership_change_events manifest) entity translated).ownership_changes =
          entity.ownership_changes from hevents] at hiff
      refine hiff.trans ⟨fun ⟨hparent, hretains, hgained⟩ => ?_, fun h => ?_⟩
      · exact ⟨hparent, by simp [htb], hretains, hgained⟩
      · exact ⟨h.has_parent, h.retains_control, h.gained_at_period_end⟩

/-- What is measured of an acquired entity is not weighted. -/
theorem measureEntity_shares {entity : ManifestEntity} {ownership_percent : ℚ}
    {translated : TranslatedTb} {ev : OwnershipChangeEvent}
    (hacquired : Acquired manifest translated_tbs entity ownership_percent translated ev)
    {roll : NciRollforward}
    (h : measureEntity manifest translated_tbs opening_map acquisition_fv_map
      (ingest_ownership_change_events manifest) entity = .ok roll) :
    roll.entity_code = entity.code ∧
      roll.nci_share_of_profit =
        roundDp 2 ((1 - ownership_percent) * net_income_from_translated translated) ∧
      roll.nci_share_of_oci =
        roundDp 2 ((1 - ownership_percent) * oci_from_translated translated) := by
  rw [measureEntity, hacquired.translated_eq] at h
  exact compute_nci_rollforward_shares rfl hacquired.measured hacquired.ownership_eq h

theorem measureEntity_code {entity : ManifestEntity} {roll : NciRollforward}
    (h : measureEntity manifest translated_tbs opening_map acquisition_fv_map
      (ingest_ownership_change_events manifest) entity = .ok roll) :
    roll.entity_code = entity.code := by
  rw [measureEntity] at h
  split at h
  · cases h
  · obtain ⟨checked, -, h⟩ := bind_eq_ok_iff.mp h
    obtain ⟨walk, -, h⟩ := bind_eq_ok_iff.mp h
    obtain ⟨effect, -, heq⟩ := bind_eq_ok_iff.mp h
    cases heq
    rfl

/-- The driver hands the period's end to the rollforward as its start, so profit is
attributed by time only where the time makes no difference. -/
theorem attributesByTime_iff {σ ρ : Type} (platform : Platform σ ρ) {cfg : GroupConfig ρ}
    (hbuild : build_manifest platform cfg = .ok manifest) :
    AttributesByTime manifest translated_tbs opening_map acquisition_fv_map ↔
      Attributable manifest translated_tbs := by
  have hcodes := entity_codes_nodup_of_build_manifest platform hbuild
  constructor
  · rintro ⟨rolls, hrolls, hweights⟩
    have hruns := traverseRun_eq_ok_iff.mp hrolls
    constructor
    · intro entity hentity hmeasured
      obtain ⟨roll, -, hroll⟩ := exists_right_of_forall₂ hruns
        (List.mem_filter.mpr ⟨hentity, hmeasured⟩)
      exact (exists_measureEntity_iff _ _ hcodes hentity hmeasured).mp ⟨roll, hroll⟩
    · intro entity ownership_percent translated ev hacquired
      obtain ⟨roll, hroll, hcode, hprofit, hoci⟩ := hweights _ _ _ _ hacquired
      obtain ⟨entity', hentity', hmeasure⟩ := exists_left_of_forall₂ hruns hroll
      have hsame : entity' = entity := List.inj_on_of_nodup_map hcodes
        (List.mem_of_mem_filter hentity') hacquired.entity_mem
        ((measureEntity_code hmeasure).symm.trans hcode)
      obtain ⟨-, hprofit', hoci'⟩ := measureEntity_shares hacquired (hsame ▸ hmeasure)
      exact ⟨hprofit' ▸ hprofit, hoci' ▸ hoci⟩
  · intro hattributable
    have hmeasures : ∀ entity ∈ manifest.ownership_graph.entities.filter (isMeasured ·),
        ∃ roll, measureEntity manifest translated_tbs opening_map acquisition_fv_map
          (ingest_ownership_change_events manifest) entity = .ok roll := by
      intro entity hentity
      obtain ⟨hentity, hmeasured⟩ := List.mem_filter.mp hentity
      exact (exists_measureEntity_iff opening_map acquisition_fv_map hcodes hentity hmeasured).mpr
        (hattributable.measurable entity hentity hmeasured)
    obtain ⟨rolls, hruns⟩ := exists_forall₂ hmeasures
    refine ⟨rolls, traverseRun_eq_ok_iff.mpr hruns, ?_⟩
    intro entity ownership_percent translated ev hacquired
    obtain ⟨roll, hroll, hmeasure⟩ := exists_right_of_forall₂ hruns
      (List.mem_filter.mpr ⟨hacquired.entity_mem, hacquired.measured⟩)
    obtain ⟨hcode, hprofit, hoci⟩ := measureEntity_shares hacquired hmeasure
    obtain ⟨hsameProfit, hsameOci⟩ := hattributable.weight_immaterial _ _ _ _ hacquired
    exact ⟨roll, hroll, hcode, hprofit.trans hsameProfit, hoci.trans hsameOci⟩

end Attribution

def acquisitionConfig (effective_date : Date) : GroupConfig Unit :=
  sampleConfig
    [sampleEntity "P" .parent none,
      { sampleEntity "S" .full (some "P") with
        ownership_percent := some (4 / 5)
        ownership_changes := [⟨.controlGained, effective_date, 0, 4 / 5, none, none, 1000, none,
          .proportionate, "EUR"⟩] }] []

def acquisitionPlatform : Platform Unit Unit := platformOf (hashOfTable seedDigests)

def acquisitionManifest (effective_date : Date) : GroupManifest :=
  manifestOf acquisitionPlatform (acquisitionConfig effective_date)

def dormant : TranslatedTb := ⟨"S", []⟩

theorem dormant_acquisition_at_year_end :
    AttributesByTime (acquisitionManifest (Date.ofYmd 2024 12 31)) [dormant] OrderedMap.empty
      OrderedMap.empty := by
  refine (attributesByTime_iff acquisitionPlatform (manifestOf_eq (by decide +kernel))).mpr ?_
  constructor
  · have hentities : ∀ entity ∈
        (acquisitionManifest (Date.ofYmd 2024 12 31)).ownership_graph.entities,
        isMeasured entity = true → entity.parent_code.isSome ∧
          ((translated_lookup [dormant]).find? entity.code).isSome ∧
          (∀ ev ∈ entity.ownership_changes, ev.event_type ≠ .controlLost) ∧
          ∀ ev ∈ controlGained entity.ownership_changes, ev.effective_date =
            (acquisitionManifest (Date.ofYmd 2024 12 31)).period.end := by
      decide +kernel
    intro entity hentity hmeasured
    obtain ⟨hparent, htb, hretains, hgained⟩ := hentities entity hentity hmeasured
    exact ⟨hparent, htb, hretains, hgained⟩
  · intro entity ownership_percent translated ev hacquired
    have hmem := OrderedMap.mem_of_find?_ofList hacquired.translated_eq
    have htranslated : translated = dormant := by
      rw [List.map_singleton, List.mem_singleton] at hmem
      exact congrArg Prod.snd hmem
    simp [htranslated, dormant, net_income_from_translated, oci_from_translated]

/-- An acquisition on 1 July 2024 stops the driver. -/
theorem mid_year_acquisition_is_rejected :
    ∃ manifest, build_manifest acquisitionPlatform (acquisitionConfig (Date.ofYmd 2024 7 1)) =
        .ok manifest ∧
      ¬ AttributesByTime manifest [⟨"S", [⟨.credit, 100, .plRevenue⟩]⟩] OrderedMap.empty
        OrderedMap.empty := by
  refine ⟨acquisitionManifest (Date.ofYmd 2024 7 1), manifestOf_eq (by decide +kernel), ?_⟩
  rintro ⟨rolls, hrolls, -⟩
  have hfails : (build_nci_rollforwards (acquisitionManifest (Date.ofYmd 2024 7 1))
      [⟨"S", [⟨.credit, 100, .plRevenue⟩]⟩] OrderedMap.empty OrderedMap.empty
      (ingest_ownership_change_events (acquisitionManifest (Date.ofYmd 2024 7 1)))).isOk =
        false := by
    decide +kernel
  rw [hrolls] at hfails
  cases hfails

end Datasynth.Group.NciAggregation
