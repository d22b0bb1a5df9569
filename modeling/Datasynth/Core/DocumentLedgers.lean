import Mathlib.Algebra.Order.Ring.Rat
import Mathlib.Tactic.Linarith
import Mathlib.Tactic.Ring
import Datasynth.Core.FlowDocuments

/-!
The general-ledger entries that a vendor invoice and a payment make of themselves, for every run
of the operations on the document.
-/

namespace Datasynth.Core.DocumentLedgers

open Datasynth.Core

section Entries

structure GlEntry where
  account : String
  debit : ℚ
  credit : ℚ
  cost_center : Option String
deriving DecidableEq

def Balanced (entries : List GlEntry) : Prop :=
  (entries.map (·.debit)).sum = (entries.map (·.credit)).sum

instance (entries : List GlEntry) : Decidable (Balanced entries) :=
  inferInstanceAs (Decidable (_ = _))

end Entries

section VendorInvoices

/-- An item with the documents it refers to and where it is posted. -/
structure VendorInvoiceItem extends FlowDocuments.VendorInvoiceItem where
  po_number : Option String
  gr_number : Option String
  gl_account : Option String
  cost_center : Option String

namespace VendorInvoiceItem

def new (line_number : ℕ) (quantity unit_price : ℚ) : VendorInvoiceItem :=
  ⟨.new line_number quantity unit_price, none, none, none, none⟩

def with_tax (item : VendorInvoiceItem) (tax_amount : ℚ) : VendorInvoiceItem :=
  { item with toVendorInvoiceItem := item.toVendorInvoiceItem.with_tax tax_amount }

end VendorInvoiceItem

structure VendorInvoice where
  items : List VendorInvoiceItem
  net_amount : ℚ
  tax_amount : ℚ
  gross_amount : ℚ
  withholding_tax_amount : ℚ
  payable_amount : ℚ
  cash_discount_percent : ℚ
  cash_discount_amount : ℚ
  is_paid : Bool
  amount_paid : ℚ
  balance : ℚ
  payment_references : List String

namespace VendorInvoice

def new : VendorInvoice := ⟨[], 0, 0, 0, 0, 0, 0, 0, false, 0, 0, []⟩

def with_cash_discount (invoice : VendorInvoice) (percent : ℚ) : VendorInvoice :=
  { invoice with cash_discount_percent := percent }

def recalculate_totals (invoice : VendorInvoice) : VendorInvoice :=
  let net_amount := (invoice.items.map (·.base.net_amount)).sum
  let tax_amount := (invoice.items.map (·.base.tax_amount)).sum
  let withholding_tax_amount := (invoice.items.map (·.withholding_tax_amount)).sum
  let gross_amount := net_amount + tax_amount
  let payable_amount := gross_amount - withholding_tax_amount
  { invoice with
    net_amount := net_amount
    tax_amount := tax_amount
    withholding_tax_amount := withholding_tax_amount
    gross_amount := gross_amount
    payable_amount := payable_amount
    cash_discount_amount := net_amount * invoice.cash_discount_percent / 100
    balance := payable_amount - invoice.amount_paid }

def add_item (invoice : VendorInvoice) (item : VendorInvoiceItem) : VendorInvoice :=
  { invoice with items := invoice.items ++ [item] }.recalculate_totals

def record_payment (invoice : VendorInvoice) (amount : ℚ) (payment_doc_id : String) :
    VendorInvoice :=
  let amount_paid := invoice.amount_paid + amount
  let balance := invoice.payable_amount - amount_paid
  { invoice with
    amount_paid := amount_paid
    balance := balance
    payment_references := invoice.payment_references ++ [payment_doc_id]
    is_paid := if balance ≤ 0 then true else invoice.is_paid }

def itemEntry (item : VendorInvoiceItem) : GlEntry where
  account := if item.po_number.isSome ∧ item.gr_number.isSome then "290000"
    else item.gl_account.getD "600000"
  debit := item.base.net_amount
  credit := 0
  cost_center := item.cost_center

def generate_gl_entries (invoice : VendorInvoice) : List GlEntry :=
  invoice.items.map itemEntry ++
    (if 0 < invoice.tax_amount then [⟨"154000", invoice.tax_amount, 0, none⟩] else []) ++
    [⟨"210000", 0, invoice.gross_amount, none⟩]

/-- The operations that change the items or the totals. -/
inductive Op where
  | with_cash_discount (percent : ℚ)
  | add_item (item : VendorInvoiceItem)
  | recalculate_totals
  | record_payment (amount : ℚ) (payment_doc_id : String)

def apply (invoice : VendorInvoice) : Op → VendorInvoice
  | .with_cash_discount percent => invoice.with_cash_discount percent
  | .add_item item => invoice.add_item item
  | .recalculate_totals => invoice.recalculate_totals
  | .record_payment amount payment_doc_id => invoice.record_payment amount payment_doc_id

def Op.added : Op → List VendorInvoiceItem
  | .add_item item => [item]
  | _ => []

/-- What the operations keep when these items were added. -/
structure Totalled (added : List VendorInvoiceItem) (invoice : VendorInvoice) : Prop where
  items : invoice.items = added
  net_amount : invoice.net_amount = (added.map (·.base.net_amount)).sum
  tax_amount : invoice.tax_amount = (added.map (·.base.tax_amount)).sum
  gross_amount : invoice.gross_amount = invoice.net_amount + invoice.tax_amount

theorem totalled_new : Totalled [] .new := ⟨rfl, rfl, rfl, (add_zero 0).symm⟩

theorem totalled_recalculate {added : List VendorInvoiceItem} {invoice : VendorInvoice}
    (h : invoice.items = added) : Totalled added invoice.recalculate_totals := by
  subst h
  exact ⟨rfl, rfl, rfl, rfl⟩

theorem totalled_apply {added : List VendorInvoiceItem} {invoice : VendorInvoice}
    (h : Totalled added invoice) (op : Op) : Totalled (added ++ op.added) (invoice.apply op) := by
  cases op with
  | with_cash_discount percent =>
      exact (List.append_nil added).symm ▸ ⟨h.items, h.net_amount, h.tax_amount, h.gross_amount⟩
  | add_item item => exact totalled_recalculate (congrArg (· ++ [item]) h.items)
  | recalculate_totals => exact totalled_recalculate (h.items.trans (List.append_nil added).symm)
  | record_payment amount payment_doc_id =>
      exact (List.append_nil added).symm ▸ ⟨h.items, h.net_amount, h.tax_amount, h.gross_amount⟩

theorem totalled_run {added : List VendorInvoiceItem} {invoice : VendorInvoice}
    (h : Totalled added invoice) (ops : List Op) :
    Totalled (added ++ ops.flatMap Op.added) (ops.foldl apply invoice) := by
  induction ops generalizing added invoice with
  | nil => rwa [List.flatMap_nil, List.append_nil]
  | cons op ops ih =>
      rw [List.flatMap_cons, ← List.append_assoc]
      exact ih (totalled_apply h op)

/-- The tax is debited if it is positive, and credited in any case. -/
theorem balanced_iff_of_totalled {added : List VendorInvoiceItem} {invoice : VendorInvoice}
    (h : Totalled added invoice) :
    Balanced invoice.generate_gl_entries ↔ 0 ≤ (added.map (·.base.tax_amount)).sum := by
  have hdebits : ((added.map itemEntry).map (·.debit)).sum = invoice.net_amount := by
    rw [h.net_amount, List.map_map]
    rfl
  have hcredits : ((added.map itemEntry).map (·.credit)).sum = 0 := by
    rw [List.map_map]
    exact List.sum_eq_zero (List.forall_mem_map.mpr fun _ _ => rfl)
  rw [← h.tax_amount, Balanced, generate_gl_entries, h.items]
  simp only [List.map_append, List.sum_append, hdebits, hcredits, List.map_singleton,
    List.sum_singleton, h.gross_amount]
  split
  · rename_i htax
    refine iff_of_true ?_ htax.le
    rw [List.map_singleton, List.map_singleton, List.sum_singleton, List.sum_singleton]
    ring
  · rename_i htax
    rw [List.map_nil, List.map_nil, List.sum_nil]
    constructor
    · intro hequal
      linarith
    · intro hnonneg
      linarith

end VendorInvoice

end VendorInvoices

section Payments

structure PaymentAllocation where
  invoice_id : String
  amount : ℚ
  discount_taken : ℚ
  write_off : ℚ
  withholding_tax : ℚ
  is_cleared : Bool

namespace PaymentAllocation

def new (invoice_id : String) (amount : ℚ) : PaymentAllocation :=
  ⟨invoice_id, amount, 0, 0, 0, false⟩

def with_discount (allocation : PaymentAllocation) (discount : ℚ) : PaymentAllocation :=
  { allocation with discount_taken := discount }

end PaymentAllocation

structure Payment where
  is_vendor : Bool
  amount : ℚ
  allocations : List PaymentAllocation
  total_discount : ℚ
  total_write_off : ℚ
  is_bank_cleared : Bool

namespace Payment

def new_ap_payment (amount : ℚ) : Payment := ⟨true, amount, [], 0, 0, false⟩

def new_ar_receipt (amount : ℚ) : Payment := ⟨false, amount, [], 0, 0, false⟩

def recalculate_totals (payment : Payment) : Payment :=
  { payment with
    total_discount := (payment.allocations.map (·.discount_taken)).sum
    total_write_off := (payment.allocations.map (·.write_off)).sum }

def add_allocation (payment : Payment) (allocation : PaymentAllocation) : Payment :=
  { payment with allocations := payment.allocations ++ [allocation] }.recalculate_totals

def allocate_to_invoice (payment : Payment) (invoice_id : String) (amount discount : ℚ) : Payment :=
  payment.add_allocation ((PaymentAllocation.new invoice_id amount).with_discount discount)

def clear (payment : Payment) : Payment :=
  { payment with
    is_bank_cleared := true
    allocations := payment.allocations.map fun allocation =>
      { allocation with is_cleared := true } }

def generate_gl_entries (payment : Payment) : List GlEntry :=
  if payment.is_vendor then
    [⟨"210000", payment.amount, 0, none⟩, ⟨"110000", 0, payment.amount, none⟩] ++
      (if 0 < payment.total_discount then [⟨"740000", 0, payment.total_discount, none⟩] else [])
  else
    [⟨"110000", payment.amount, 0, none⟩, ⟨"120000", 0, payment.amount, none⟩] ++
      (if 0 < payment.total_discount then [⟨"440000", payment.total_discount, 0, none⟩] else [])

/-- The operations that change the allocations or the totals. -/
inductive Op where
  | add_allocation (allocation : PaymentAllocation)
  | allocate_to_invoice (invoice_id : String) (amount discount : ℚ)
  | recalculate_totals
  | clear

def apply (payment : Payment) : Op → Payment
  | .add_allocation allocation => payment.add_allocation allocation
  | .allocate_to_invoice invoice_id amount discount =>
      payment.allocate_to_invoice invoice_id amount discount
  | .recalculate_totals => payment.recalculate_totals
  | .clear => payment.clear

def Op.discounts : Op → List ℚ
  | .add_allocation allocation => [allocation.discount_taken]
  | .allocate_to_invoice _ _ discount => [discount]
  | _ => []

/-- What the operations keep when these discounts were taken. -/
structure Discounted (discounts : List ℚ) (payment : Payment) : Prop where
  allocations : payment.allocations.map (·.discount_taken) = discounts
  total_discount : payment.total_discount = discounts.sum

theorem discounted_new_ap_payment (amount : ℚ) : Discounted [] (.new_ap_payment amount) :=
  ⟨rfl, rfl⟩

theorem discounted_new_ar_receipt (amount : ℚ) : Discounted [] (.new_ar_receipt amount) :=
  ⟨rfl, rfl⟩

theorem discounted_recalculate {discounts : List ℚ} {payment : Payment}
    (h : payment.allocations.map (·.discount_taken) = discounts) :
    Discounted discounts payment.recalculate_totals := by
  subst h
  exact ⟨rfl, rfl⟩

theorem discounted_add_allocation {discounts : List ℚ} {payment : Payment}
    (h : Discounted discounts payment) (allocation : PaymentAllocation) :
    Discounted (discounts ++ [allocation.discount_taken]) (payment.add_allocation allocation) := by
  refine discounted_recalculate ?_
  rw [List.map_append, h.allocations, List.map_singleton]

theorem discounted_apply {discounts : List ℚ} {payment : Payment}
    (h : Discounted discounts payment) (op : Op) :
    Discounted (discounts ++ op.discounts) (payment.apply op) := by
  cases op with
  | add_allocation allocation => exact discounted_add_allocation h allocation
  | allocate_to_invoice invoice_id amount discount =>
      exact discounted_add_allocation h ((PaymentAllocation.new invoice_id amount).with_discount _)
  | recalculate_totals =>
      exact discounted_recalculate (h.allocations.trans (List.append_nil discounts).symm)
  | clear =>
      refine (List.append_nil discounts).symm ▸ ⟨?_, h.total_discount⟩
      rw [← h.allocations, apply, clear, List.map_map]
      rfl

theorem discounted_run {discounts : List ℚ} {payment : Payment}
    (h : Discounted discounts payment) (ops : List Op) :
    Discounted (discounts ++ ops.flatMap Op.discounts) (ops.foldl apply payment) := by
  induction ops generalizing discounts payment with
  | nil => rwa [List.flatMap_nil, List.append_nil]
  | cons op ops ih =>
      rw [List.flatMap_cons, ← List.append_assoc]
      exact ih (discounted_apply h op)

/-- A discount is added on one side only. -/
theorem balanced_iff_of_discounted {discounts : List ℚ} {payment : Payment}
    (h : Discounted discounts payment) :
    Balanced payment.generate_gl_entries ↔ discounts.sum ≤ 0 := by
  rw [← h.total_discount, Balanced, generate_gl_entries]
  by_cases hdiscount : 0 < payment.total_discount
  · rw [if_pos hdiscount, if_pos hdiscount, iff_false_right hdiscount.not_ge]
    split
    · simp only [List.map_append, List.map_cons, List.map_nil, List.sum_append, List.sum_cons,
        List.sum_nil]
      intro h
      linarith
    · simp only [List.map_append, List.map_cons, List.map_nil, List.sum_append, List.sum_cons,
        List.sum_nil]
      intro h
      linarith
  · rw [if_neg hdiscount, if_neg hdiscount, iff_true_right (not_lt.mp hdiscount)]
    split
    · simp
    · simp

end Payment

end Payments

section Result

/-- A vendor invoice, or a payment of an amount to a vendor or from a customer, after a run of
operations. -/
inductive DocumentRun where
  | vendorInvoice (ops : List VendorInvoice.Op)
  | apPayment (amount : ℚ) (ops : List Payment.Op)
  | arReceipt (amount : ℚ) (ops : List Payment.Op)

def DocumentRun.gl_entries : DocumentRun → List GlEntry
  | .vendorInvoice ops => (ops.foldl VendorInvoice.apply .new).generate_gl_entries
  | .apPayment amount ops => (ops.foldl Payment.apply (.new_ap_payment amount)).generate_gl_entries
  | .arReceipt amount ops => (ops.foldl Payment.apply (.new_ar_receipt amount)).generate_gl_entries

/-- No tax is left negative, and no discount is left to take. -/
def DocumentRun.TwoSided : DocumentRun → Prop
  | .vendorInvoice ops => 0 ≤ ((ops.flatMap VendorInvoice.Op.added).map (·.base.tax_amount)).sum
  | .apPayment _ ops | .arReceipt _ ops => (ops.flatMap Payment.Op.discounts).sum ≤ 0

theorem balanced_gl_entries_iff (run : DocumentRun) : Balanced run.gl_entries ↔ run.TwoSided := by
  cases run with
  | vendorInvoice ops =>
      exact VendorInvoice.balanced_iff_of_totalled
        (VendorInvoice.totalled_run VendorInvoice.totalled_new ops)
  | apPayment amount ops =>
      exact Payment.balanced_iff_of_discounted
        (Payment.discounted_run (Payment.discounted_new_ap_payment amount) ops)
  | arReceipt amount ops =>
      exact Payment.balanced_iff_of_discounted
        (Payment.discounted_run (Payment.discounted_new_ar_receipt amount) ops)

/-- A payment of 98 takes a discount of 2, and an invoice of 100 has a tax of -19. -/
theorem discount_and_negative_tax_unbalanced :
    ¬Balanced (DocumentRun.apPayment 98 [.allocate_to_invoice "VI-1" 98 2]).gl_entries ∧
      ¬Balanced (DocumentRun.vendorInvoice
        [.add_item ((VendorInvoiceItem.new 1 1 100).with_tax (-19))]).gl_entries := by
  decide +kernel

end Result

end Datasynth.Core.DocumentLedgers
