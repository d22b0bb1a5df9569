import Datasynth.Lib.CivilCalendar
import Datasynth.Lib.AmountText
import Datasynth.Lib.HalfEvenRounding
import Datasynth.Lib.StepRuns
import Mathlib.Algebra.Order.Field.Rat
import Mathlib.Data.Rat.Floor
import Mathlib.Tactic.Linarith

/-!
The documents of the subledgers: their status, their amounts and their clearings, and the
invoices of customers and of vendors, with their lines, payments and reversal.
-/

namespace Datasynth.Subledger.Documents

open Datasynth.Lib.CivilCalendar Datasynth.Lib.DecimalText Datasynth.Lib.HalfEvenRounding

inductive SubledgerDocumentStatus where
  | open
  | partiallyCleared
  | cleared
  | reversed
  | onHold
  | inDispute
deriving DecidableEq, Repr

inductive ClearingType where
  | payment
  | memo
  | writeOff
  | netting
  | manual
  | reversal
deriving DecidableEq, Repr

structure ClearingInfo where
  clearing_document : String
  clearing_date : Date
  clearing_amount : ℚ
  clearing_type : ClearingType
deriving DecidableEq

structure CurrencyAmount where
  document_amount : ℚ
  document_currency : String
  local_amount : ℚ
  local_currency : String
  exchange_rate : ℚ
deriving DecidableEq

def CurrencyAmount.single_currency (amount : ℚ) (currency : String) : CurrencyAmount where
  document_amount := amount
  document_currency := currency
  local_amount := amount
  local_currency := currency
  exchange_rate := 1

@[simp]
theorem CurrencyAmount.single_currency_document_amount (amount : ℚ) (currency : String) :
    (single_currency amount currency).document_amount = amount := rfl

structure InvoiceLine where
  quantity : ℚ
  unit_price : ℚ
  net_amount : ℚ
  tax_rate : ℚ
  tax_amount : ℚ
  gross_amount : ℚ
deriving DecidableEq

def InvoiceLine.new (quantity unit_price : ℚ) : InvoiceLine where
  quantity := quantity
  unit_price := unit_price
  net_amount := roundDp 2 (quantity * unit_price)
  tax_rate := 0
  tax_amount := 0
  gross_amount := roundDp 2 (quantity * unit_price)

def InvoiceLine.with_tax (line : InvoiceLine) (tax_rate : ℚ) : InvoiceLine :=
  let tax_amount := roundDp 2 (line.net_amount * tax_rate / 100)
  { line with
    tax_rate := tax_rate
    tax_amount := tax_amount
    gross_amount := line.net_amount + tax_amount }

/-- What an invoice has in common on either side. -/
structure SubledgerInvoice where
  company_code : String
  invoice_date : Date
  due_date : Date
  status : SubledgerDocumentStatus
  lines : List InvoiceLine
  net_amount : CurrencyAmount
  tax_amount : CurrencyAmount
  gross_amount : CurrencyAmount
  amount_paid : ℚ
  amount_remaining : ℚ
  clearing_info : List ClearingInfo
  notes : Option String
deriving DecidableEq

namespace SubledgerInvoice

def new (company_code : String) (invoice_date : Date) (net_due_days : UInt32)
    (currency : String) : SubledgerInvoice where
  company_code := company_code
  invoice_date := invoice_date
  due_date := invoice_date.addDays net_due_days.toNat
  status := .open
  lines := []
  net_amount := .single_currency 0 currency
  tax_amount := .single_currency 0 currency
  gross_amount := .single_currency 0 currency
  amount_paid := 0
  amount_remaining := 0
  clearing_info := []
  notes := none

variable (invoice : SubledgerInvoice)

def recalculate_totals : SubledgerInvoice :=
  let net_total := (invoice.lines.map InvoiceLine.net_amount).sum
  let tax_total := (invoice.lines.map InvoiceLine.tax_amount).sum
  let gross_total := net_total + tax_total
  { invoice with
    net_amount :=
      { invoice.net_amount with
        document_amount := net_total
        local_amount := net_total * invoice.net_amount.exchange_rate }
    tax_amount :=
      { invoice.tax_amount with
        document_amount := tax_total
        local_amount := tax_total * invoice.tax_amount.exchange_rate }
    gross_amount :=
      { invoice.gross_amount with
        document_amount := gross_total
        local_amount := gross_total * invoice.gross_amount.exchange_rate }
    amount_remaining := gross_total - invoice.amount_paid }

/-- The status is left as it is. -/
def add_line (line : InvoiceLine) : SubledgerInvoice :=
  { invoice with lines := invoice.lines ++ [line] }.recalculate_totals

def apply_payment (amount : ℚ) (clearing : ClearingInfo) : SubledgerInvoice :=
  let amount_paid := invoice.amount_paid + amount
  let amount_remaining := invoice.gross_amount.document_amount - amount_paid
  { invoice with
    amount_paid := amount_paid
    amount_remaining := amount_remaining
    clearing_info := invoice.clearing_info ++ [clearing]
    status := if amount_remaining ≤ 0 then .cleared else .partiallyCleared }

def reverse (reversal_date : Date) (reason : String) : SubledgerInvoice :=
  { invoice with
    status := .reversed
    notes := some ((invoice.notes.elim "" fun notes => notes ++ ". ") ++ "Reversed on " ++
      dateText reversal_date ++ ": " ++ reason) }

def is_overdue (as_of_date : Date) : Bool :=
  invoice.status = .open && invoice.due_date < as_of_date

def days_overdue (as_of_date : Date) : ℤ :=
  if invoice.is_overdue as_of_date then invoice.due_date.daysUntil as_of_date else 0

end SubledgerInvoice

structure ARInvoice extends SubledgerInvoice where
  invoice_number : String
  customer_id : String
  customer_name : String
deriving DecidableEq

namespace ARInvoice

def new (invoice_number company_code customer_id customer_name : String) (invoice_date : Date)
    (net_due_days : UInt32) (currency : String) : ARInvoice where
  toSubledgerInvoice := .new company_code invoice_date net_due_days currency
  invoice_number := invoice_number
  customer_id := customer_id
  customer_name := customer_name

variable (invoice : ARInvoice)

def add_line (line : InvoiceLine) : ARInvoice :=
  { invoice with toSubledgerInvoice := invoice.toSubledgerInvoice.add_line line }

def apply_payment (amount : ℚ) (clearing : ClearingInfo) : ARInvoice :=
  { invoice with toSubledgerInvoice := invoice.toSubledgerInvoice.apply_payment amount clearing }

def reverse (reversal_date : Date) (reason : String) : ARInvoice :=
  { invoice with toSubledgerInvoice := invoice.toSubledgerInvoice.reverse reversal_date reason }

end ARInvoice

structure APInvoice extends SubledgerInvoice where
  invoice_number : String
  vendor_invoice_number : String
  vendor_id : String
  vendor_name : String
deriving DecidableEq

namespace APInvoice

def new (invoice_number vendor_invoice_number company_code vendor_id vendor_name : String)
    (invoice_date : Date) (net_due_days : UInt32) (currency : String) : APInvoice where
  toSubledgerInvoice := .new company_code invoice_date net_due_days currency
  invoice_number := invoice_number
  vendor_invoice_number := vendor_invoice_number
  vendor_id := vendor_id
  vendor_name := vendor_name

variable (invoice : APInvoice)

def add_line (line : InvoiceLine) : APInvoice :=
  { invoice with toSubledgerInvoice := invoice.toSubledgerInvoice.add_line line }

def apply_payment (amount : ℚ) (clearing : ClearingInfo) : APInvoice :=
  { invoice with toSubledgerInvoice := invoice.toSubledgerInvoice.apply_payment amount clearing }

def reverse (reversal_date : Date) (reason : String) : APInvoice :=
  { invoice with toSubledgerInvoice := invoice.toSubledgerInvoice.reverse reversal_date reason }

end APInvoice

end Datasynth.Subledger.Documents

/-!
Customer receipts: what is left of a payment once bank charges are deducted and invoices settled.
-/

namespace Datasynth.Subledger.Receipts

open Datasynth.Lib.CivilCalendar Datasynth.Lib.StepRuns Datasynth.Subledger.Documents

inductive ARReceiptType where
  | standard
  | onAccount
  | downPayment
  | refund
  | writeOff
  | netting
deriving DecidableEq, Repr

structure ReceiptApplication where
  invoice_number : String
  amount_applied : ℚ
  discount_taken : ℚ
  write_off : ℚ
  application_date : Date
deriving DecidableEq

/-- The amounts applied to invoices so far. -/
def appliedTotal (applied_invoices : List ReceiptApplication) : ℚ :=
  (applied_invoices.map ReceiptApplication.amount_applied).sum

theorem appliedTotal_nil : appliedTotal [] = 0 := rfl

/-- A receipt, whose net amount applied is that of its applications. -/
structure ARReceipt where
  receipt_date : Date
  receipt_type : ARReceiptType
  status : SubledgerDocumentStatus
  amount : CurrencyAmount
  bank_charges : ℚ
  discount_taken : ℚ
  net_applied : ℚ
  unapplied_amount : ℚ
  applied_invoices : List ReceiptApplication
  net_applied_eq : net_applied = appliedTotal applied_invoices
deriving DecidableEq

def ARReceipt.new (receipt_date : Date) (amount : ℚ) (currency : String) : ARReceipt where
  receipt_date := receipt_date
  receipt_type := .standard
  status := .open
  amount := CurrencyAmount.single_currency amount currency
  bank_charges := 0
  discount_taken := 0
  net_applied := 0
  unapplied_amount := amount
  applied_invoices := []
  net_applied_eq := appliedTotal_nil.symm

def ARReceipt.on_account (receipt_date : Date) (amount : ℚ) (currency : String) : ARReceipt :=
  { ARReceipt.new receipt_date amount currency with receipt_type := .onAccount }

theorem appliedTotal_append_singleton (applied_invoices : List ReceiptApplication)
    (application : ReceiptApplication) :
    appliedTotal (applied_invoices ++ [application]) =
      appliedTotal applied_invoices + application.amount_applied := by
  simp [appliedTotal]

def ARReceipt.apply_to_invoice (r : ARReceipt) (invoice_number : String)
    (amount_applied discount : ℚ) : ARReceipt :=
  let application : ReceiptApplication :=
    { invoice_number := invoice_number
      amount_applied := amount_applied
      discount_taken := discount
      write_off := 0
      application_date := r.receipt_date }
  let net_applied := r.net_applied + amount_applied
  -- the bank charges are not deducted again
  let unapplied_amount := r.amount.document_amount - net_applied
  { r with
    applied_invoices := r.applied_invoices ++ [application]
    net_applied := net_applied
    discount_taken := r.discount_taken + discount
    unapplied_amount := unapplied_amount
    status := if unapplied_amount ≤ 0 then .cleared else r.status
    net_applied_eq := by rw [appliedTotal_append_singleton, ← r.net_applied_eq] }

def ARReceipt.with_bank_charges (r : ARReceipt) (charges : ℚ) : ARReceipt :=
  { r with bank_charges := charges, unapplied_amount := r.unapplied_amount - charges }

inductive ReceiptOperation where
  | applyToInvoice (invoice_number : String) (amount_applied discount : ℚ)
  | withBankCharges (charges : ℚ)
deriving DecidableEq

def ARReceipt.step (r : ARReceipt) : ReceiptOperation → ARReceipt
  | .applyToInvoice invoice_number amount_applied discount =>
      r.apply_to_invoice invoice_number amount_applied discount
  | .withBankCharges charges => r.with_bank_charges charges

/-- What is unapplied is the amount, less the bank charges and the amounts applied to invoices. -/
def UnappliedBalances (r : ARReceipt) : Prop :=
  r.unapplied_amount =
    r.amount.document_amount - r.bank_charges - appliedTotal r.applied_invoices

instance unappliedBalances_decidable : DecidablePred UnappliedBalances :=
  fun _ => inferInstanceAs (Decidable (_ = _))

/-- Bank charges other than zero come last. -/
def ChargesLast (operations : List ReceiptOperation) : Prop :=
  ∀ before charges after, operations = before ++ .withBankCharges charges :: after →
    charges = 0 ∨ after = []

theorem unappliedBalances_new (receipt_date : Date) (amount : ℚ) (currency : String) :
    UnappliedBalances (ARReceipt.new receipt_date amount currency) := by
  simp [UnappliedBalances, ARReceipt.new, appliedTotal]

theorem unappliedBalances_apply_to_invoice (r : ARReceipt) (invoice_number : String)
    (amount_applied discount : ℚ) :
    UnappliedBalances (r.apply_to_invoice invoice_number amount_applied discount) ↔
      r.bank_charges = 0 := by
  have htotal := appliedTotal_append_singleton r.applied_invoices
    ⟨invoice_number, amount_applied, discount, 0, r.receipt_date⟩
  have hnet := r.net_applied_eq
  simp only [UnappliedBalances, ARReceipt.apply_to_invoice, htotal, hnet]
  constructor <;> intro h <;> linarith

theorem unappliedBalances_with_bank_charges {r : ARReceipt} (h : UnappliedBalances r)
    (charges : ℚ) : UnappliedBalances (r.with_bank_charges charges) ↔ r.bank_charges = 0 := by
  simp only [UnappliedBalances, ARReceipt.with_bank_charges] at h ⊢
  constructor <;> intro h' <;> linarith

/-- Both operations lose the bank charges deducted before. -/
theorem unappliedBalances_step {r : ARReceipt} (h : UnappliedBalances r)
    (operation : ReceiptOperation) :
    UnappliedBalances (r.step operation) ↔ r.bank_charges = 0 := by
  cases operation with
  | applyToInvoice invoice_number amount_applied discount =>
      exact unappliedBalances_apply_to_invoice r invoice_number amount_applied discount
  | withBankCharges charges => exact unappliedBalances_with_bank_charges h charges

theorem chargesLast_nil : ChargesLast [] := by
  intro before charges after hsplit
  exact absurd hsplit.symm (List.append_ne_nil_of_right_ne_nil _ (List.cons_ne_nil _ _))

theorem chargesLast_cons {operation : ReceiptOperation} {operations : List ReceiptOperation} :
    ChargesLast (operation :: operations) ↔
      (∀ charges, operation = .withBankCharges charges → charges = 0 ∨ operations = []) ∧
        ChargesLast operations := by
  constructor
  · intro h
    refine ⟨fun charges hfirst => h [] charges operations (by rw [hfirst, List.nil_append]), ?_⟩
    intro before charges after hrest
    exact h (operation :: before) charges after (by rw [hrest, List.cons_append])
  · rintro ⟨hfirst, hrest⟩ before charges after hsplit
    rcases List.cons_eq_append_iff.mp hsplit with ⟨rfl, htail⟩ | ⟨before, rfl, htail⟩
    · obtain ⟨rfl, rfl⟩ := List.cons.inj htail
      exact hfirst charges rfl
    · exact hrest before charges after htail

/-- Charges come last exactly if they are zero before every operation. -/
theorem everyStep_bank_charges_iff {r : ARReceipt} (h : r.bank_charges = 0)
    (operations : List ReceiptOperation) :
    EveryStep ARReceipt.step (fun r _ => r.bank_charges = 0) r operations ↔
      ChargesLast operations := by
  induction operations generalizing r with
  | nil => exact iff_of_true everyStep_nil chargesLast_nil
  | cons operation operations ih =>
      rw [everyStep_cons, chargesLast_cons, and_iff_right h]
      cases operation with
      | applyToInvoice invoice_number amount_applied discount =>
          have hsame :
              (r.step (.applyToInvoice invoice_number amount_applied discount)).bank_charges = 0 :=
            h
          rw [ih hsame]
          simp
      | withBankCharges charges =>
          simp only [ReceiptOperation.withBankCharges.injEq, forall_eq']
          have hset : (r.step (.withBankCharges charges)).bank_charges = charges := rfl
          rcases eq_or_ne charges 0 with hzero | hcharged
          · rw [ih (hset.trans hzero), and_iff_right (Or.inl hzero)]
          · rw [everyStep_iff_nil (fun _ hzero => hcharged (hset.symm.trans hzero))]
            constructor
            · rintro rfl
              exact ⟨Or.inr rfl, chargesLast_nil⟩
            · rintro ⟨hlast, -⟩
              exact hlast.resolve_left hcharged

/-- From a receipt without charges that balances, it balances in every state exactly if charges
come last. -/
theorem alongRun_unappliedBalances_iff {r : ARReceipt} (hr : UnappliedBalances r)
    (hcharges : r.bank_charges = 0) (operations : List ReceiptOperation) :
    AlongRun ARReceipt.step UnappliedBalances r operations ↔ ChargesLast operations := by
  rw [← everyStep_bank_charges_iff hcharges,
    alongRun_iff fun r operation h => unappliedBalances_step h operation, and_iff_right hr]

/-- What a receipt has unapplied is right in every state exactly if nothing follows charges. -/
theorem unapplied_amount_iff (receipt_date : Date) (amount : ℚ) (currency : String)
    (operations : List ReceiptOperation) :
    (AlongRun ARReceipt.step UnappliedBalances (ARReceipt.new receipt_date amount currency)
        operations ↔ ChargesLast operations) ∧
      (AlongRun ARReceipt.step UnappliedBalances (ARReceipt.on_account receipt_date amount currency)
        operations ↔ ChargesLast operations) := by
  have hnew := unappliedBalances_new receipt_date amount currency
  have hon_account : UnappliedBalances (ARReceipt.on_account receipt_date amount currency) := hnew
  constructor
  · exact alongRun_unappliedBalances_iff hnew rfl operations
  · exact alongRun_unappliedBalances_iff hon_account rfl operations

/-- Charges of 15 on a receipt of 1000 are lost when 900 of it are applied to an invoice. -/
theorem charges_lost_on_application :
    ¬ ∀ (receipt_date : Date) (amount : ℚ) (currency : String)
        (operations : List ReceiptOperation),
      UnappliedBalances
        (operations.foldl ARReceipt.step (ARReceipt.new receipt_date amount currency)) := by
  intro h
  have hlost := h ⟨0⟩ 1000 "USD" [.withBankCharges 15, .applyToInvoice "INV001" 900 0]
  exact absurd hlost (by decide_cbv)

end Datasynth.Subledger.Receipts
