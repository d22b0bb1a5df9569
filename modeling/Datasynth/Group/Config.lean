import Mathlib.Data.String.Basic
import Datasynth.Core.ConsolidationModels
import Datasynth.Lib.SortedEntries

/-!
The engagement configuration and the errors of the group engine.
-/

namespace Datasynth.Group.Config

open Datasynth.Core.OwnershipChanges
open Datasynth.Lib.CivilCalendar
open Datasynth.Lib.SortedEntries

inductive GroupError where
  | config (message : String)
  | manifest (message : String)
  | shard (message : String)
  | aggregate (message : String)
deriving DecidableEq, Repr

abbrev GroupResult := Except GroupError

inductive PeriodLength where
  | monthly
  | quarterly
  | semiAnnual
  | annual
deriving DecidableEq, Repr

structure PeriodConfig where
  start_date : Date
  length : PeriodLength
deriving DecidableEq

inductive ConsolidationMethod where
  | parent
  | full
  | equityMethod
  | proportional
  | fairValue
deriving DecidableEq, Repr

structure OwnershipChangeEntry where
  event_type : OwnershipChangeType
  effective_date : Date
  ownership_percent_before : ℚ
  ownership_percent_after : ℚ
  previously_held_interest_carrying : Option ℚ
  previously_held_interest_fair_value : Option ℚ
  consideration_paid_or_received : ℚ
  acquisition_date_nci_fair_value : Option ℚ
  nci_measurement_method : NciMeasurementMethod
  currency : String
deriving DecidableEq

structure EntityConfig where
  code : String
  name : Option String
  country : String
  functional_currency : String
  scoping_profile : String
  consolidation_method : ConsolidationMethod
  ownership_percent : Option ℚ
  parent_code : Option String
  accounting_framework : Option String
  industry : Option String
  rows : Option ℕ
  ownership_changes : List OwnershipChangeEntry
  hyperinflation_status : HyperinflationStatus
deriving DecidableEq

structure GeneratedEntityBlock where
  count : ℕ
  code_prefix : String
  country : List String
  functional_currency : Option String
  scoping_profile : String
  consolidation_method : ConsolidationMethod
  ownership_percent_range : Option (ℚ × ℚ)
  parent_code : Option String
  accounting_framework : Option String
  industry : Option String
deriving DecidableEq

structure OwnershipConfig where
  parent_entity_code : String
  entities : List EntityConfig
  generated : List GeneratedEntityBlock
deriving DecidableEq

inductive IcTransactionType where
  | goodsSale
  | serviceProvided
  | managementFee
  | royalty
  | costSharing
  | loanInterest
  | dividend
  | expenseRecharge
deriving DecidableEq, Repr

/-- The name a debug print of the type shows. -/
def IcTransactionType.debugName : IcTransactionType → String
  | goodsSale => "GoodsSale"
  | serviceProvided => "ServiceProvided"
  | managementFee => "ManagementFee"
  | royalty => "Royalty"
  | costSharing => "CostSharing"
  | loanInterest => "LoanInterest"
  | dividend => "Dividend"
  | expenseRecharge => "ExpenseRecharge"

inductive TransferPricingMethod where
  | costPlus
  | comparableUncontrolled
  | resalePrice
  | transactionalNetMargin
  | profitSplit
deriving DecidableEq, Repr

structure IcRelationshipExplicit where
  seller : String
  buyer : String
  types : List IcTransactionType
  annual_volume : ℚ
  transfer_pricing : Option TransferPricingMethod
  markup_percent : Option ℚ
deriving DecidableEq

structure IcPattern where
  seller_scoping_profile : Option String
  buyer_scoping_profile : Option String
  seller : Option String
  buyer : Option String
deriving DecidableEq

structure IcRelationshipPattern where
  pattern : IcPattern
  types : List IcTransactionType
  per_pair_volume : ℚ
  transfer_pricing : Option TransferPricingMethod
deriving DecidableEq

inductive IcRelationshipConfig where
  | explicit (e : IcRelationshipExplicit)
  | pattern (p : IcRelationshipPattern)
deriving DecidableEq

inductive IcMatchingStrategy where
  | manifestDriven
  | emergentFuzzy
deriving DecidableEq, Repr

structure IcMatchingConfig where
  strategy : IcMatchingStrategy
  tolerance_percent : ℚ
deriving DecidableEq

structure IntercompanyConfig where
  relationships : List IcRelationshipConfig
  matching : IcMatchingConfig
deriving DecidableEq

structure CguDefinitionEntry where
  cgu_id : String
  name : String
  member_entity_codes : List String
  segment_code : Option String
deriving DecidableEq

structure CguGoodwillAllocationEntry where
  cgu_id : String
  business_combination_id : String
  goodwill_amount : ℚ
  allocation_date : Date
deriving DecidableEq

structure CguConfig where
  cgus : List CguDefinitionEntry
  goodwill_allocations : List CguGoodwillAllocationEntry
deriving DecidableEq

/-- What shard planning reads of a scoping profile: its `row_budget`, when that is
an unsigned number. -/
structure ScopingProfile where
  row_budget : Option ℕ
deriving DecidableEq

/-- The engagement configuration; `rest` stands for the blocks that only the
chart-of-accounts, FX, audit and tax builders read. -/
structure GroupConfig (ρ : Type) where
  id : String
  presentation_currency : String
  period : PeriodConfig
  seed : ℕ
  seed_lt : seed < 2 ^ 64
  scoping_profiles : OrderedMap String ScopingProfile
  ownership : OwnershipConfig
  intercompany : IntercompanyConfig
  cgu : CguConfig
  rest : ρ

end Datasynth.Group.Config
