import Datasynth.Core.JournalEntries
import Datasynth.Lib.CivilCalendar
import Mathlib.Algebra.BigOperators.Group.List.Basic
import Mathlib.Algebra.Field.Rat

/-!
Journal entries as a document flow posts them: with the identifier drawn for the entry, the
document they come from and the assignments of their lines.
-/

namespace Datasynth.Core.FlowEntries

open Datasynth.Core.JournalEntries
open Datasynth.Lib.ByteEncoding
open Datasynth.Lib.CivilCalendar

section Uuids

structure Uuid where
  bytes : List Byte
  length_bytes : bytes.length = 16
deriving DecidableEq

theorem Uuid.length_zeros : (List.replicate 16 (0 : Byte)).length = 16 := rfl

/-- The generator type is given by its discriminant. -/
structure DeterministicUuidFactory where
  seed : UInt64
  generator_type : UInt8
  sub_discriminator : UInt8
  counter : UInt64
deriving DecidableEq

namespace DeterministicUuidFactory

def documentFlow : UInt8 := 0x02

def new (seed : UInt64) (generator_type : UInt8) : DeterministicUuidFactory :=
  ⟨seed, generator_type, 0, 0⟩

def fnvPrime : UInt64 := 1099511628211

def mix (hash value : UInt64) : UInt64 := (hash ^^^ value) * fnvPrime

def mixBytes (hash : UInt64) (bytes : List Byte) : UInt64 :=
  bytes.foldl (fun hash byte => mix hash (UInt64.ofNat byte.val)) hash

def rotateHalf (n : UInt64) : UInt64 := (n <<< 32) ||| (n >>> 32)

def generate_uuid (factory : DeterministicUuidFactory) (counter : UInt64) : Uuid :=
  let hash := mixBytes 14695981039346656037 (leBytes 8 factory.seed.toNat)
  let hash := mix hash factory.generator_type.toUInt64
  let hash := mix hash factory.sub_discriminator.toUInt64
  let hash := mixBytes hash (leBytes 8 counter.toNat)
  let hash2 := mix (mix hash (rotateHalf factory.seed)) (rotateHalf counter)
  let bytes := leBytes 8 hash.toNat ++ leBytes 8 hash2.toNat
  -- version 4 and the variant of RFC 4122
  let versioned (byte : Byte) : Byte := (byte &&& 0x0f) ||| 0x40
  let variant (byte : Byte) : Byte := (byte &&& 0x3f) ||| 0x80
  ⟨(bytes.modify 6 versioned).modify 8 variant, by simp [bytes, leBytes_length]⟩

def next (factory : DeterministicUuidFactory) : Uuid × DeterministicUuidFactory :=
  (factory.generate_uuid factory.counter, { factory with counter := factory.counter + 1 })

end DeterministicUuidFactory

end Uuids

section Entries

inductive BusinessProcess where
  | o2c
  | p2p
  | r2r
  | h2r
  | a2r
  | s2c
  | mfg
  | bank
  | audit
  | treasury
  | tax
  | intercompany
  | projectAccounting
  | esg
deriving DecidableEq, Repr

inductive DocumentRef where
  | purchaseOrder (id : String)
  | vendorInvoice (id : String)
  | customerInvoice (id : String)
  | goodsReceipt (id : String)
  | delivery (id : String)
  | payment (id : String)
  | receipt (id : String)
  | manual
deriving DecidableEq, Repr

structure FlowHeader extends JournalEntryHeader where
  document_id : Uuid
  reference : Option String
  sap_source_code : Option String
  business_process : Option BusinessProcess
  source_document : Option DocumentRef
deriving DecidableEq

def FlowHeader.with_deterministic_id (company_code : String) (posting_date : Date)
    (document_id : Uuid) : FlowHeader where
  toJournalEntryHeader := .new company_code posting_date
  document_id := document_id
  reference := none
  sap_source_code := none
  business_process := some .r2r
  source_document := none

structure FlowLine extends JournalEntryLine where
  document_id : Uuid
  account_description : Option String
  cost_center : Option String
  profit_center : Option String
  line_text : Option String
  value_date : Option Date
  assignment : Option String
  trading_partner : Option String
  auxiliary_account_number : Option String
  auxiliary_account_label : Option String
  lettrage : Option String
  lettrage_date : Option Date
deriving DecidableEq

namespace FlowLine

def of (document_id : Uuid) (line : JournalEntryLine) : FlowLine where
  toJournalEntryLine := line
  document_id := document_id
  account_description := none
  cost_center := none
  profit_center := none
  line_text := none
  value_date := none
  assignment := none
  trading_partner := none
  auxiliary_account_number := none
  auxiliary_account_label := none
  lettrage := none
  lettrage_date := none

def debit (document_id : Uuid) (line_number : ℕ) (gl_account : String) (amount : ℚ) : FlowLine :=
  .of document_id (.debit line_number gl_account amount)

def credit (document_id : Uuid) (line_number : ℕ) (gl_account : String) (amount : ℚ) : FlowLine :=
  .of document_id (.credit line_number gl_account amount)

end FlowLine

structure FlowEntry where
  header : FlowHeader
  lines : List FlowLine
deriving DecidableEq

namespace FlowEntry

def new (header : FlowHeader) : FlowEntry := ⟨header, []⟩

def add_line (entry : FlowEntry) (line : FlowLine) : FlowEntry :=
  { entry with lines := entry.lines ++ [{ line with document_id := entry.header.document_id }] }

/-- The signed amounts an entry posts, debits minus credits. -/
def postings (entry : FlowEntry) : List (String × ℚ) :=
  entry.lines.map fun line => (line.gl_account, line.debit_amount - line.credit_amount)

def total_debit (entry : FlowEntry) : ℚ := (entry.lines.map (·.debit_amount)).sum

def total_credit (entry : FlowEntry) : ℚ := (entry.lines.map (·.credit_amount)).sum

end FlowEntry

end Entries

end Datasynth.Core.FlowEntries

/-! Purchase orders, goods receipts and vendor invoices. -/

namespace Datasynth.Core.PurchasingDocuments

structure DocumentLineItem where
  line_number : ℕ
  quantity : ℚ
  unit_price : ℚ
  net_amount : ℚ
deriving DecidableEq

def DocumentLineItem.new (line_number : ℕ) (quantity unit_price : ℚ) : DocumentLineItem :=
  ⟨line_number, quantity, unit_price, quantity * unit_price⟩

structure PurchaseOrderItem where
  base : DocumentLineItem
deriving DecidableEq

def PurchaseOrderItem.new (line_number : ℕ) (quantity unit_price : ℚ) : PurchaseOrderItem :=
  ⟨.new line_number quantity unit_price⟩

structure PurchaseOrder where
  items : List PurchaseOrderItem
  total_net_amount : ℚ
deriving DecidableEq

namespace PurchaseOrder

def new : PurchaseOrder := ⟨[], 0⟩

def recalculate_totals (po : PurchaseOrder) : PurchaseOrder :=
  { po with total_net_amount := (po.items.map (·.base.net_amount)).sum }

def add_item (po : PurchaseOrder) (item : PurchaseOrderItem) : PurchaseOrder :=
  { po with items := po.items ++ [item] }.recalculate_totals

end PurchaseOrder

structure GoodsReceiptItem where
  base : DocumentLineItem
  po_item : Option ℕ
deriving DecidableEq

def GoodsReceiptItem.from_po (line_number : ℕ) (quantity unit_price : ℚ) (po_item : ℕ) :
    GoodsReceiptItem :=
  ⟨.new line_number quantity unit_price, some po_item⟩

structure GoodsReceipt where
  items : List GoodsReceiptItem
deriving DecidableEq

namespace GoodsReceipt

def new : GoodsReceipt := ⟨[]⟩

def add_item (gr : GoodsReceipt) (item : GoodsReceiptItem) : GoodsReceipt :=
  { gr with items := gr.items ++ [item] }

end GoodsReceipt

structure VendorInvoiceItem where
  base : DocumentLineItem
  po_item : Option ℕ
  invoiced_quantity : ℚ
deriving DecidableEq

def VendorInvoiceItem.new (line_number : ℕ) (quantity unit_price : ℚ) : VendorInvoiceItem :=
  ⟨.new line_number quantity unit_price, none, quantity⟩

def VendorInvoiceItem.from_po_gr (line_number : ℕ) (quantity unit_price : ℚ) (po_item : ℕ) :
    VendorInvoiceItem :=
  { VendorInvoiceItem.new line_number quantity unit_price with po_item := some po_item }

structure VendorInvoice where
  items : List VendorInvoiceItem
  net_amount : ℚ
deriving DecidableEq

namespace VendorInvoice

def new : VendorInvoice := ⟨[], 0⟩

def recalculate_totals (invoice : VendorInvoice) : VendorInvoice :=
  { invoice with net_amount := (invoice.items.map (·.base.net_amount)).sum }

def add_item (invoice : VendorInvoice) (item : VendorInvoiceItem) : VendorInvoice :=
  { invoice with items := invoice.items ++ [item] }.recalculate_totals

end VendorInvoice

end Datasynth.Core.PurchasingDocuments

/-!
The documents of a document flow as they are posted: goods receipts, vendor invoices, payments,
deliveries and customer invoices, with the totals that are recomputed from their items.  A
document is built by the operations on it.
-/

namespace Datasynth.Core.FlowDocuments

open Datasynth.Lib.CivilCalendar

section Lines

structure DocumentHeader where
  document_id : String
  company_code : String
  document_date : Date
  posting_date : Option Date
deriving DecidableEq

def DocumentHeader.new (document_id company_code : String) (document_date : Date) :
    DocumentHeader :=
  ⟨document_id, company_code, document_date, none⟩

/-- A line with its tax. -/
structure DocumentLineItem extends PurchasingDocuments.DocumentLineItem where
  tax_amount : ℚ
  gross_amount : ℚ
deriving DecidableEq

namespace DocumentLineItem

def new (line_number : ℕ) (quantity unit_price : ℚ) : DocumentLineItem where
  toDocumentLineItem := .new line_number quantity unit_price
  tax_amount := 0
  gross_amount := quantity * unit_price

def with_tax (item : DocumentLineItem) (tax_amount : ℚ) : DocumentLineItem :=
  { item with tax_amount := tax_amount, gross_amount := item.net_amount + tax_amount }

end DocumentLineItem

end Lines

section VendorInvoices

inductive VendorInvoiceType where
  | standard
  | creditMemo
  | subsequentAdjustment
  | downPaymentRequest
  | invoicePlan
  | recurring
deriving DecidableEq, Repr

structure VendorInvoiceItem where
  base : DocumentLineItem
  withholding_tax : Bool
  withholding_tax_amount : ℚ
deriving DecidableEq

namespace VendorInvoiceItem

def new (line_number : ℕ) (quantity unit_price : ℚ) : VendorInvoiceItem :=
  ⟨.new line_number quantity unit_price, false, 0⟩

def with_tax (item : VendorInvoiceItem) (tax_amount : ℚ) : VendorInvoiceItem :=
  { item with base := item.base.with_tax tax_amount }

def with_withholding_tax (item : VendorInvoiceItem) (amount : ℚ) : VendorInvoiceItem :=
  { item with withholding_tax := true, withholding_tax_amount := amount }

end VendorInvoiceItem

structure VendorInvoice where
  header : DocumentHeader
  invoice_type : VendorInvoiceType
  vendor_id : String
  vendor_invoice_number : String
  items : List VendorInvoiceItem
  net_amount : ℚ
  tax_amount : ℚ
  gross_amount : ℚ
  withholding_tax_amount : ℚ
  payable_amount : ℚ
  cash_discount_percent : ℚ
  cash_discount_amount : ℚ
  is_paid : Bool
  amount_paid : ℚ
  balance : ℚ
  payment_references : List String
deriving DecidableEq

namespace VendorInvoice

def new (invoice_id company_code vendor_id vendor_invoice_number : String)
    (invoice_date : Date) : VendorInvoice where
  header := .new invoice_id company_code invoice_date
  invoice_type := .standard
  vendor_id := vendor_id
  vendor_invoice_number := vendor_invoice_number
  items := []
  net_amount := 0
  tax_amount := 0
  gross_amount := 0
  withholding_tax_amount := 0
  payable_amount := 0
  cash_discount_percent := 0
  cash_discount_amount := 0
  is_paid := false
  amount_paid := 0
  balance := 0
  payment_references := []

def with_invoice_type (invoice : VendorInvoice) (invoice_type : VendorInvoiceType) :
    VendorInvoice :=
  { invoice with invoice_type := invoice_type }

def with_cash_discount (invoice : VendorInvoice) (percent : ℚ) : VendorInvoice :=
  { invoice with cash_discount_percent := percent }

def recalculate_totals (invoice : VendorInvoice) : VendorInvoice :=
  let net_amount := (invoice.items.map (·.base.net_amount)).sum
  let tax_amount := (invoice.items.map (·.base.tax_amount)).sum
  let withholding_tax_amount := (invoice.items.map (·.withholding_tax_amount)).sum
  let gross_amount := net_amount + tax_amount
  let payable_amount := gross_amount - withholding_tax_amount
  { invoice with
    net_amount := net_amount
    tax_amount := tax_amount
    withholding_tax_amount := withholding_tax_amount
    gross_amount := gross_amount
    payable_amount := payable_amount
    cash_discount_amount := net_amount * invoice.cash_discount_percent / 100
    balance := payable_amount - invoice.amount_paid }

def add_item (invoice : VendorInvoice) (item : VendorInvoiceItem) : VendorInvoice :=
  { invoice with items := invoice.items ++ [item] }.recalculate_totals

def record_payment (invoice : VendorInvoice) (amount : ℚ) (payment_doc_id : String) :
    VendorInvoice :=
  let amount_paid := invoice.amount_paid + amount
  let balance := invoice.payable_amount - amount_paid
  { invoice with
    amount_paid := amount_paid
    balance := balance
    payment_references := invoice.payment_references ++ [payment_doc_id]
    is_paid := if balance ≤ 0 then true else invoice.is_paid }

def post (invoice : VendorInvoice) (posting_date : Date) : VendorInvoice :=
  { invoice with header := { invoice.header with posting_date := some posting_date } }

inductive Built : VendorInvoice → Prop
  | new (invoice_id company_code vendor_id vendor_invoice_number : String) (date : Date) :
      Built (.new invoice_id company_code vendor_id vendor_invoice_number date)
  | with_invoice_type {invoice : VendorInvoice} (invoice_type : VendorInvoiceType) :
      invoice.Built → Built (invoice.with_invoice_type invoice_type)
  | with_cash_discount {invoice : VendorInvoice} (percent : ℚ) :
      invoice.Built → Built (invoice.with_cash_discount percent)
  | add_item {invoice : VendorInvoice} (item : VendorInvoiceItem) :
      invoice.Built → Built (invoice.add_item item)
  | recalculate_totals {invoice : VendorInvoice} :
      invoice.Built → Built invoice.recalculate_totals
  | record_payment {invoice : VendorInvoice} (amount : ℚ) (payment_doc_id : String) :
      invoice.Built → Built (invoice.record_payment amount payment_doc_id)
  | post {invoice : VendorInvoice} (posting_date : Date) :
      invoice.Built → Built (invoice.post posting_date)

end VendorInvoice

end VendorInvoices

section CustomerInvoices

inductive CustomerInvoiceType where
  | standard
  | creditMemo
  | debitMemo
  | proForma
  | downPaymentRequest
  | finalInvoice
  | intercompany
deriving DecidableEq, Repr

inductive InvoicePaymentStatus where
  | open
  | partiallyPaid
  | paid
  | cleared
  | writtenOff
  | inDispute
  | inCollection
deriving DecidableEq, Repr

structure CustomerInvoiceItem where
  base : DocumentLineItem
  cogs_amount : ℚ
  discount_amount : ℚ
deriving DecidableEq

namespace CustomerInvoiceItem

def new (line_number : ℕ) (quantity unit_price : ℚ) : CustomerInvoiceItem :=
  ⟨.new line_number quantity unit_price, 0, 0⟩

def with_cogs (item : CustomerInvoiceItem) (cogs : ℚ) : CustomerInvoiceItem :=
  { item with cogs_amount := cogs }

def with_discount (item : CustomerInvoiceItem) (discount : ℚ) : CustomerInvoiceItem :=
  { item with discount_amount := discount }

end CustomerInvoiceItem

structure CustomerInvoice where
  header : DocumentHeader
  invoice_type : CustomerInvoiceType
  items : List CustomerInvoiceItem
  customer_id : String
  total_net_amount : ℚ
  total_tax_amount : ℚ
  total_gross_amount : ℚ
  total_discount : ℚ
  total_cogs : ℚ
  amount_paid : ℚ
  amount_open : ℚ
  payment_status : InvoicePaymentStatus
  write_off_amount : ℚ
  dunning_level : ℕ
deriving DecidableEq

namespace CustomerInvoice

def new (invoice_id company_code customer_id : String) (document_date : Date) :
    CustomerInvoice where
  header := .new invoice_id company_code document_date
  invoice_type := .standard
  items := []
  customer_id := customer_id
  total_net_amount := 0
  total_tax_amount := 0
  total_gross_amount := 0
  total_discount := 0
  total_cogs := 0
  amount_paid := 0
  amount_open := 0
  payment_status := .open
  write_off_amount := 0
  dunning_level := 0

def credit_memo (invoice_id company_code customer_id : String) (document_date : Date) :
    CustomerInvoice :=
  { CustomerInvoice.new invoice_id company_code customer_id document_date with
    invoice_type := .creditMemo }

def with_invoice_type (invoice : CustomerInvoice) (invoice_type : CustomerInvoiceType) :
    CustomerInvoice :=
  { invoice with invoice_type := invoice_type }

def recalculate_totals (invoice : CustomerInvoice) : CustomerInvoice :=
  let total_net_amount := (invoice.items.map (·.base.net_amount)).sum
  let total_tax_amount := (invoice.items.map (·.base.tax_amount)).sum
  let total_gross_amount := total_net_amount + total_tax_amount
  { invoice with
    total_net_amount := total_net_amount
    total_tax_amount := total_tax_amount
    total_gross_amount := total_gross_amount
    total_discount := (invoice.items.map (·.discount_amount)).sum
    total_cogs := (invoice.items.map (·.cogs_amount)).sum
    amount_open := total_gross_amount - invoice.amount_paid - invoice.write_off_amount }

def add_item (invoice : CustomerInvoice) (item : CustomerInvoiceItem) : CustomerInvoice :=
  { invoice with items := invoice.items ++ [item] }.recalculate_totals

def post (invoice : CustomerInvoice) (posting_date : Date) : CustomerInvoice :=
  { invoice with
    header := { invoice.header with posting_date := some posting_date } }.recalculate_totals

def record_payment (invoice : CustomerInvoice) (amount discount_taken : ℚ) : CustomerInvoice :=
  let amount_paid := invoice.amount_paid + (amount + discount_taken)
  let amount_open := invoice.total_gross_amount - amount_paid - invoice.write_off_amount
  { invoice with
    amount_paid := amount_paid
    amount_open := amount_open
    payment_status := if amount_open ≤ 0 then .paid
      else if 0 < amount_paid then .partiallyPaid else invoice.payment_status }

def clear (invoice : CustomerInvoice) : CustomerInvoice :=
  { invoice with payment_status := .cleared, amount_open := 0 }

def dispute (invoice : CustomerInvoice) : CustomerInvoice :=
  { invoice with payment_status := .inDispute }

def resolve_dispute (invoice : CustomerInvoice) : CustomerInvoice :=
  { invoice with
    payment_status := if 0 < invoice.amount_open then
        if 0 < invoice.amount_paid then .partiallyPaid else .open
      else .paid }

def write_off (invoice : CustomerInvoice) (amount : ℚ) : CustomerInvoice :=
  let amount_open := invoice.total_gross_amount - invoice.amount_paid - amount
  { invoice with
    write_off_amount := amount
    amount_open := amount_open
    payment_status := if amount_open ≤ 0 then .writtenOff else invoice.payment_status }

/-- The level is an 8-bit number. -/
def record_dunning (invoice : CustomerInvoice) : CustomerInvoice :=
  let dunning_level := (invoice.dunning_level + 1) % 256
  { invoice with
    dunning_level := dunning_level
    payment_status := if 4 ≤ dunning_level then .inCollection else invoice.payment_status }

inductive Built : CustomerInvoice → Prop
  | new (invoice_id company_code customer_id : String) (date : Date) :
      Built (.new invoice_id company_code customer_id date)
  | credit_memo (invoice_id company_code customer_id : String) (date : Date) :
      Built (.credit_memo invoice_id company_code customer_id date)
  | with_invoice_type {invoice : CustomerInvoice} (invoice_type : CustomerInvoiceType) :
      invoice.Built → Built (invoice.with_invoice_type invoice_type)
  | add_item {invoice : CustomerInvoice} (item : CustomerInvoiceItem) :
      invoice.Built → Built (invoice.add_item item)
  | recalculate_totals {invoice : CustomerInvoice} :
      invoice.Built → Built invoice.recalculate_totals
  | post {invoice : CustomerInvoice} (posting_date : Date) :
      invoice.Built → Built (invoice.post posting_date)
  | record_payment {invoice : CustomerInvoice} (amount discount_taken : ℚ) :
      invoice.Built → Built (invoice.record_payment amount discount_taken)
  | clear {invoice : CustomerInvoice} : invoice.Built → Built invoice.clear
  | dispute {invoice : CustomerInvoice} : invoice.Built → Built invoice.dispute
  | resolve_dispute {invoice : CustomerInvoice} : invoice.Built → Built invoice.resolve_dispute
  | write_off {invoice : CustomerInvoice} (amount : ℚ) :
      invoice.Built → Built (invoice.write_off amount)
  | record_dunning {invoice : CustomerInvoice} : invoice.Built → Built invoice.record_dunning

end CustomerInvoice

end CustomerInvoices

section Movements

structure GoodsReceiptItem where
  base : DocumentLineItem
deriving DecidableEq

def GoodsReceiptItem.new (line_number : ℕ) (quantity unit_price : ℚ) : GoodsReceiptItem :=
  ⟨.new line_number quantity unit_price⟩

structure GoodsReceipt where
  header : DocumentHeader
  items : List GoodsReceiptItem
  total_quantity : ℚ
  total_value : ℚ
  vendor_id : Option String
deriving DecidableEq

namespace GoodsReceipt

def new (gr_id company_code : String) (document_date : Date) : GoodsReceipt :=
  ⟨.new gr_id company_code document_date, [], 0, 0, none⟩

def from_purchase_order (gr_id company_code vendor_id : String) (document_date : Date) :
    GoodsReceipt :=
  { GoodsReceipt.new gr_id company_code document_date with vendor_id := some vendor_id }

def recalculate_totals (gr : GoodsReceipt) : GoodsReceipt :=
  { gr with
    total_quantity := (gr.items.map (·.base.quantity)).sum
    total_value := (gr.items.map (·.base.net_amount)).sum }

def add_item (gr : GoodsReceipt) (item : GoodsReceiptItem) : GoodsReceipt :=
  { gr with items := gr.items ++ [item] }.recalculate_totals

def post (gr : GoodsReceipt) (posting_date : Date) : GoodsReceipt :=
  { gr with header := { gr.header with posting_date := some posting_date } }

inductive Built : GoodsReceipt → Prop
  | new (gr_id company_code : String) (date : Date) : Built (.new gr_id company_code date)
  | from_purchase_order (gr_id company_code vendor_id : String) (date : Date) :
      Built (.from_purchase_order gr_id company_code vendor_id date)
  | recalculate_totals {gr : GoodsReceipt} : gr.Built → Built gr.recalculate_totals
  | add_item {gr : GoodsReceipt} (item : GoodsReceiptItem) : gr.Built → Built (gr.add_item item)
  | post {gr : GoodsReceipt} (posting_date : Date) : gr.Built → Built (gr.post posting_date)

end GoodsReceipt

structure DeliveryItem where
  base : DocumentLineItem
deriving DecidableEq

def DeliveryItem.new (line_number : ℕ) (quantity unit_price : ℚ) : DeliveryItem :=
  ⟨.new line_number quantity unit_price⟩

structure Delivery where
  header : DocumentHeader
  items : List DeliveryItem
  customer_id : String
deriving DecidableEq

namespace Delivery

def new (delivery_id company_code customer_id : String) (document_date : Date) : Delivery :=
  ⟨.new delivery_id company_code document_date, [], customer_id⟩

def add_item (delivery : Delivery) (item : DeliveryItem) : Delivery :=
  { delivery with items := delivery.items ++ [item] }

def post_goods_issue (delivery : Delivery) (gi_date : Date) : Delivery :=
  { delivery with header := { delivery.header with posting_date := some gi_date } }

inductive Built : Delivery → Prop
  | new (delivery_id company_code customer_id : String) (date : Date) :
      Built (.new delivery_id company_code customer_id date)
  | add_item {delivery : Delivery} (item : DeliveryItem) :
      delivery.Built → Built (delivery.add_item item)
  | post_goods_issue {delivery : Delivery} (gi_date : Date) :
      delivery.Built → Built (delivery.post_goods_issue gi_date)

end Delivery

structure Payment where
  header : DocumentHeader
  business_partner_id : String
  is_vendor : Bool
  amount : ℚ
deriving DecidableEq

namespace Payment

def new_ap_payment (payment_id company_code vendor_id : String) (amount : ℚ)
    (payment_date : Date) : Payment :=
  ⟨.new payment_id company_code payment_date, vendor_id, true, amount⟩

def new_ar_receipt (payment_id company_code customer_id : String) (amount : ℚ)
    (payment_date : Date) : Payment :=
  ⟨.new payment_id company_code payment_date, customer_id, false, amount⟩

def post (payment : Payment) (posting_date : Date) : Payment :=
  { payment with header := { payment.header with posting_date := some posting_date } }

inductive Built : Payment → Prop
  | new_ap_payment (payment_id company_code vendor_id : String) (amount : ℚ) (date : Date) :
      Built (.new_ap_payment payment_id company_code vendor_id amount date)
  | new_ar_receipt (payment_id company_code customer_id : String) (amount : ℚ) (date : Date) :
      Built (.new_ar_receipt payment_id company_code customer_id amount date)
  | post {payment : Payment} (posting_date : Date) :
      payment.Built → Built (payment.post posting_date)

end Payment

end Movements

section Totals

/-- The totals are those of the items. -/
structure VendorInvoice.Totalled (invoice : VendorInvoice) : Prop where
  net : invoice.net_amount = (invoice.items.map (·.base.net_amount)).sum
  tax : invoice.tax_amount = (invoice.items.map (·.base.tax_amount)).sum
  payable : invoice.payable_amount = invoice.net_amount + invoice.tax_amount -
    (invoice.items.map (·.withholding_tax_amount)).sum

theorem VendorInvoice.Built.totalled {invoice : VendorInvoice} (h : invoice.Built) :
    invoice.Totalled := by
  induction h with
  | new => exact ⟨rfl, rfl, by simp [VendorInvoice.new]⟩
  | add_item item _ _ => exact ⟨rfl, rfl, rfl⟩
  | recalculate_totals _ _ => exact ⟨rfl, rfl, rfl⟩
  | with_invoice_type _ _ ih => exact ⟨ih.net, ih.tax, ih.payable⟩
  | with_cash_discount _ _ ih => exact ⟨ih.net, ih.tax, ih.payable⟩
  | record_payment _ _ _ ih => exact ⟨ih.net, ih.tax, ih.payable⟩
  | post _ _ ih => exact ⟨ih.net, ih.tax, ih.payable⟩

theorem CustomerInvoice.Built.gross {invoice : CustomerInvoice} (h : invoice.Built) :
    invoice.total_gross_amount = invoice.total_net_amount + invoice.total_tax_amount := by
  induction h with
  | new => exact (add_zero (0 : ℚ)).symm
  | credit_memo => exact (add_zero (0 : ℚ)).symm
  | add_item _ _ _ => rfl
  | recalculate_totals _ _ => rfl
  | post _ _ _ => rfl
  | with_invoice_type _ _ ih => exact ih
  | record_payment _ _ _ ih => exact ih
  | clear _ ih => exact ih
  | dispute _ ih => exact ih
  | resolve_dispute _ ih => exact ih
  | write_off _ _ ih => exact ih
  | record_dunning _ ih => exact ih

end Totals

end Datasynth.Core.FlowDocuments
