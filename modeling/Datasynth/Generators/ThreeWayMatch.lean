import Mathlib.Algebra.Order.Field.Rat
import Datasynth.Core.FlowDocuments
import Datasynth.Lib.AmountText
import Datasynth.Lib.SignedPostings
import Datasynth.Lib.VarianceChecks

/-!
The three-way match of a purchase order, the goods receipts for it and a vendor invoice.
-/

namespace Datasynth.Generators.ThreeWayMatch

open Datasynth.Core.PurchasingDocuments
open Datasynth.Lib.DecimalText
open Datasynth.Lib.SignedPostings
open Datasynth.Lib.SortedEntries
open Datasynth.Lib.VarianceChecks

structure ThreeWayMatchConfig where
  price_tolerance : ℚ
  quantity_tolerance : ℚ
  absolute_amount_tolerance : ℚ
  allow_over_delivery : Bool
  max_over_delivery_pct : ℚ

def ThreeWayMatchConfig.default : ThreeWayMatchConfig := ⟨0.05, 0.02, 0.01, true, 0.10⟩

inductive VarianceType where
  | quantityPoGr
  | quantityGrInvoice
  | pricePoInvoice
  | totalAmount
  | missingLine
  | extraLine
deriving DecidableEq, Repr

structure MatchVariance where
  line_number : ℕ
  variance_type : VarianceType
  expected : ℚ
  actual : ℚ
  variance : ℚ
  variance_pct : ℚ
  description : String
deriving DecidableEq

/-- A variance between two values that are there. -/
def MatchVariance.between (line_number : ℕ) (variance_type : VarianceType) (expected actual : ℚ)
    (description : String) : MatchVariance where
  line_number := line_number
  variance_type := variance_type
  expected := expected
  actual := actual
  variance := actual - expected
  variance_pct := variancePercent expected (actual - expected)
  description := description

structure ThreeWayMatchResult where
  passed : Bool
  quantity_matched : Bool
  price_matched : Bool
  amount_matched : Bool
  variances : List MatchVariance
  message : String
deriving DecidableEq

namespace ThreeWayMatchResult

def success : ThreeWayMatchResult where
  passed := true
  quantity_matched := true
  price_matched := true
  amount_matched := true
  variances := []
  message := "Three-way match passed"

def with_variance (result : ThreeWayMatchResult) (variance : MatchVariance) :
    ThreeWayMatchResult :=
  { result with variances := result.variances ++ [variance] }

end ThreeWayMatchResult

/-- The quantities of the receipts by the line of the order that they refer to. -/
def gr_quantities (grs : List GoodsReceipt) : OrderedMap ℕ ℚ :=
  tally <| grs.flatMap fun gr =>
    gr.items.filterMap fun item => item.po_item.map fun po_line => (po_line, item.base.quantity)

namespace ThreeWayMatchConfig

variable (config : ThreeWayMatchConfig)

section Limits

def UnderDelivered (po_qty gr_qty : ℚ) : Prop :=
  gr_qty - po_qty < 0 ∧ config.quantity_tolerance * 100 < variancePercent po_qty (gr_qty - po_qty)

def OverDelivered (po_qty gr_qty : ℚ) : Prop :=
  0 < gr_qty - po_qty ∧ (config.allow_over_delivery = false ∨
    config.max_over_delivery_pct * 100 < variancePercent po_qty (gr_qty - po_qty))

/-- Beyond a tolerance in percent and the absolute one. -/
def Deviates (tolerance expected actual : ℚ) : Prop :=
  tolerance * 100 < variancePercent expected (actual - expected) ∧
    config.absolute_amount_tolerance < |actual - expected|

instance (po_qty gr_qty : ℚ) : Decidable (config.UnderDelivered po_qty gr_qty) :=
  inferInstanceAs (Decidable (_ ∧ _))

instance (po_qty gr_qty : ℚ) : Decidable (config.OverDelivered po_qty gr_qty) :=
  inferInstanceAs (Decidable (_ ∧ (_ ∨ _)))

instance (tolerance expected actual : ℚ) : Decidable (config.Deviates tolerance expected actual) :=
  inferInstanceAs (Decidable (_ ∧ _))

end Limits

section Lines

variable (po_item : PurchaseOrderItem) (gr_qty : ℚ) (inv_item : VendorInvoiceItem)
  (result : ThreeWayMatchResult)

def checkUnderDelivery : ThreeWayMatchResult :=
  let po_qty := po_item.base.quantity
  if config.UnderDelivered po_qty gr_qty then
    { result.with_variance (.between po_item.base.line_number .quantityPoGr po_qty gr_qty
        ("Under-delivery: received " ++ decimalText gr_qty ++ " vs ordered " ++
          decimalText po_qty)) with
      quantity_matched := false }
  else result

def checkOverDelivery : ThreeWayMatchResult :=
  let po_qty := po_item.base.quantity
  if config.OverDelivered po_qty gr_qty then
    { result.with_variance (.between po_item.base.line_number .quantityPoGr po_qty gr_qty
        ("Over-delivery: received " ++ decimalText gr_qty ++ " vs ordered " ++
          decimalText po_qty)) with
      quantity_matched := false }
  else result

def checkPrice : ThreeWayMatchResult :=
  let po_price := po_item.base.unit_price
  let inv_price := inv_item.base.unit_price
  if config.Deviates config.price_tolerance po_price inv_price then
    { result.with_variance (.between po_item.base.line_number .pricePoInvoice po_price inv_price
        ("Price variance: invoiced " ++ decimalText inv_price ++ " vs PO price " ++
          decimalText po_price)) with
      price_matched := false }
  else result

def checkInvoicedQuantity : ThreeWayMatchResult :=
  let inv_qty := inv_item.invoiced_quantity
  if config.Deviates config.quantity_tolerance gr_qty inv_qty then
    { result.with_variance (.between po_item.base.line_number .quantityGrInvoice gr_qty inv_qty
        ("Invoice qty " ++ decimalText inv_qty ++ " doesn't match GR qty " ++
          decimalText gr_qty)) with
      quantity_matched := false }
  else result

def missingLine : ThreeWayMatchResult :=
  let variance : MatchVariance :=
    { line_number := po_item.base.line_number
      variance_type := .missingLine
      expected := po_item.base.quantity
      actual := 0
      variance := po_item.base.quantity
      variance_pct := 100
      description := "PO line " ++ toString po_item.base.line_number ++ " not found on invoice" }
  { result.with_variance variance with amount_matched := false }

end Lines

def checkItem (received : OrderedMap ℕ ℚ) (invoice : VendorInvoice) (result : ThreeWayMatchResult)
    (po_item : PurchaseOrderItem) : ThreeWayMatchResult :=
  let po_line := po_item.base.line_number
  let gr_qty := (received.find? po_line).getD 0
  let result := config.checkUnderDelivery po_item gr_qty result
  let result := config.checkOverDelivery po_item gr_qty result
  match invoice.items.find? fun i => i.po_item = some po_line with
  | some inv_item =>
      let result := config.checkPrice po_item inv_item result
      config.checkInvoicedQuantity po_item gr_qty inv_item result
  | none => missingLine po_item result

def checkTotal (po : PurchaseOrder) (invoice : VendorInvoice) (result : ThreeWayMatchResult) :
    ThreeWayMatchResult :=
  let po_total := po.total_net_amount
  let invoice_total := invoice.net_amount
  if config.Deviates config.price_tolerance po_total invoice_total then
    { result.with_variance (.between 0 .totalAmount po_total invoice_total
        ("Total amount variance: invoice " ++ decimalText invoice_total ++ " vs PO " ++
          decimalText po_total)) with
      amount_matched := false }
  else result

def validate (po : PurchaseOrder) (grs : List GoodsReceipt) (invoice : VendorInvoice) :
    ThreeWayMatchResult :=
  let result := config.checkTotal po invoice
    (po.items.foldl (config.checkItem (gr_quantities grs) invoice) .success)
  let passed := result.quantity_matched && result.price_matched && result.amount_matched
  if passed then { result with passed := passed }
  else
    { result with
      passed := passed
      message :=
        "Three-way match failed with " ++ toString result.variances.length ++ " variance(s)" }

/-- Beyond the quantity tolerance, whether too little or too much is delivered. -/
def QuantityVaries (po_qty gr_qty : ℚ) : Prop :=
  config.quantity_tolerance * 100 < variancePercent po_qty (gr_qty - po_qty)

instance (po_qty gr_qty : ℚ) : Decidable (config.QuantityVaries po_qty gr_qty) :=
  inferInstanceAs (Decidable (_ < _))

def check_quantities (po : PurchaseOrder) (grs : List GoodsReceipt) : Bool :=
  po.items.all fun po_item =>
    !config.QuantityVaries po_item.base.quantity
      (((gr_quantities grs).find? po_item.base.line_number).getD 0)

end ThreeWayMatchConfig

end Datasynth.Generators.ThreeWayMatch
