import Mathlib
import Datasynth.Lib.StepRuns
import Datasynth.Subledger.Documents

/-!
The amount that remains of an invoice and the status that goes with it, over lines, payments and
reversals in any order.
-/

namespace Datasynth.Subledger.InvoiceBalances

open Datasynth.Lib.CivilCalendar Datasynth.Lib.DecimalText Datasynth.Lib.StepRuns
open Datasynth.Subledger.Documents

inductive InvoiceOperation where
  | addLine (line : InvoiceLine)
  | applyPayment (amount : ℚ) (clearing : ClearingInfo)
  | reverse (reversal_date : Date) (reason : String)
deriving DecidableEq

def step (invoice : SubledgerInvoice) : InvoiceOperation → SubledgerInvoice
  | .addLine line => invoice.add_line line
  | .applyPayment amount clearing => invoice.apply_payment amount clearing
  | .reverse reversal_date reason => invoice.reverse reversal_date reason

def stepAR (invoice : ARInvoice) : InvoiceOperation → ARInvoice
  | .addLine line => invoice.add_line line
  | .applyPayment amount clearing => invoice.apply_payment amount clearing
  | .reverse reversal_date reason => invoice.reverse reversal_date reason

def stepAP (invoice : APInvoice) : InvoiceOperation → APInvoice
  | .addLine line => invoice.add_line line
  | .applyPayment amount clearing => invoice.apply_payment amount clearing
  | .reverse reversal_date reason => invoice.reverse reversal_date reason

/-- The payments, with the discounts that they include. -/
def paymentsTotal (operations : List InvoiceOperation) : ℚ :=
  (operations.map fun operation =>
    match operation with
    | .applyPayment amount _ => amount
    | .addLine _ | .reverse _ _ => 0).sum

/-- What remains is the gross amount less what has been paid, and the status of an invoice that is
not reversed shows what remains. -/
structure Balances (invoice : SubledgerInvoice) : Prop where
  amount_remaining :
    invoice.amount_remaining = invoice.gross_amount.document_amount - invoice.amount_paid
  cleared : invoice.status ≠ .reversed →
    (invoice.status = .cleared ↔ invoice.amount_remaining ≤ 0)
  partiallyCleared : invoice.status ≠ .reversed →
    (invoice.status = .partiallyCleared ↔
      0 < invoice.amount_paid ∧ 0 < invoice.amount_remaining)

/-- A reversed invoice accepts no operation. -/
def RejectsReversed (invoice : SubledgerInvoice) (operation : InvoiceOperation) : Prop :=
  invoice.status = .reversed → step invoice operation = invoice

/-- What would remain of an invoice with one more line. -/
def remainingWith (invoice : SubledgerInvoice) (line : InvoiceLine) : ℚ :=
  ((invoice.lines ++ [line]).map InvoiceLine.net_amount).sum +
    ((invoice.lines ++ [line]).map InvoiceLine.tax_amount).sum - invoice.amount_paid

/-- A line does not make the invoice remain or be settled where it did not before, and a payment
clears it or leaves something paid. -/
def KeepsStatus (invoice : SubledgerInvoice) : InvoiceOperation → Prop
  | .addLine line => remainingWith invoice line ≤ 0 ↔ invoice.amount_remaining ≤ 0
  | .applyPayment amount _ =>
      invoice.gross_amount.document_amount ≤ invoice.amount_paid + amount ∨
        0 < invoice.amount_paid + amount
  | .reverse _ _ => True

/-- The operation comes before a reversal, and keeps the status right. -/
def Admitted (invoice : SubledgerInvoice) (operation : InvoiceOperation) : Prop :=
  invoice.status ≠ .reversed ∧ KeepsStatus invoice operation

variable {invoice : SubledgerInvoice}

/-- A reversal writes a note behind those that there are. -/
theorem notes_reverse_ne (invoice : SubledgerInvoice) (reversal_date : Date) (reason : String) :
    (invoice.reverse reversal_date reason).notes ≠ invoice.notes := by
  rw [SubledgerInvoice.reverse]
  cases invoice.notes with
  | none => exact Option.some_ne_none _
  | some notes =>
      intro hsame
      have hlength := congrArg String.length (Option.some.inj hsame)
      have hword : "Reversed on ".length = 12 := rfl
      simp only [Option.elim_some, String.length_append, hword] at hlength
      omega

/-- Every operation leaves a trace, so that a reversed invoice rejects none of them. -/
theorem step_ne (invoice : SubledgerInvoice) (operation : InvoiceOperation) :
    step invoice operation ≠ invoice := by
  intro hsame
  cases operation with
  | addLine line =>
      have hlines : invoice.lines ++ [line] = invoice.lines :=
        congrArg SubledgerInvoice.lines hsame
      exact List.cons_ne_nil _ _ (List.append_right_eq_self.mp hlines)
  | applyPayment amount clearing =>
      have hclearing : invoice.clearing_info ++ [clearing] = invoice.clearing_info :=
        congrArg SubledgerInvoice.clearing_info hsame
      exact List.cons_ne_nil _ _ (List.append_right_eq_self.mp hclearing)
  | reverse reversal_date reason =>
      exact notes_reverse_ne invoice reversal_date reason (congrArg SubledgerInvoice.notes hsame)

theorem rejectsReversed_iff (operation : InvoiceOperation) :
    RejectsReversed invoice operation ↔ invoice.status ≠ .reversed := by
  constructor
  · intro hrejects hreversed
    exact step_ne invoice operation (hrejects hreversed)
  · intro hopen hreversed
    exact absurd hreversed hopen

theorem Balances.add_line_iff (h : Balances invoice) (hopen : invoice.status ≠ .reversed)
    (line : InvoiceLine) :
    Balances (invoice.add_line line) ↔
      (remainingWith invoice line ≤ 0 ↔ invoice.amount_remaining ≤ 0) := by
  have hremaining : (invoice.add_line line).amount_remaining = remainingWith invoice line := rfl
  constructor
  · intro hafter
    rw [← h.cleared hopen, ← hremaining]
    exact (hafter.cleared hopen).symm
  · intro hsign
    refine ⟨rfl, fun _ => ?_, fun _ => ?_⟩
    · rw [hremaining, hsign]
      exact h.cleared hopen
    · rw [hremaining, ← not_le, ← not_le, hsign, not_le, not_le]
      exact h.partiallyCleared hopen

theorem balances_apply_payment_iff (invoice : SubledgerInvoice) (amount : ℚ)
    (clearing : ClearingInfo) :
    Balances (invoice.apply_payment amount clearing) ↔
      (invoice.gross_amount.document_amount ≤ invoice.amount_paid + amount ∨
        0 < invoice.amount_paid + amount) := by
  have hremaining : (invoice.apply_payment amount clearing).amount_remaining =
      invoice.gross_amount.document_amount - (invoice.amount_paid + amount) := rfl
  have hpaid : (invoice.apply_payment amount clearing).amount_paid =
      invoice.amount_paid + amount := rfl
  by_cases hsettled : invoice.gross_amount.document_amount ≤ invoice.amount_paid + amount
  · have hle := sub_nonpos.mpr hsettled
    have hstatus : (invoice.apply_payment amount clearing).status = .cleared := if_pos hle
    refine iff_of_true ⟨rfl, fun _ => ?_, fun _ => ?_⟩ (Or.inl hsettled)
    · rw [hremaining]
      exact iff_of_true hstatus hle
    · rw [hstatus, hremaining]
      exact iff_of_false (by decide) fun hboth => not_lt.mpr hle hboth.2
  · have hlt := sub_pos.mpr (not_le.mp hsettled)
    have hstatus : (invoice.apply_payment amount clearing).status = .partiallyCleared :=
      if_neg (not_le.mpr hlt)
    rw [or_iff_right hsettled]
    constructor
    · intro hafter
      have hnot : (invoice.apply_payment amount clearing).status ≠ .reversed := by
        rw [hstatus]
        decide
      exact ((hafter.partiallyCleared hnot).mp hstatus).1
    · intro hpositive
      refine ⟨rfl, fun _ => ?_, fun _ => ?_⟩
      · rw [hstatus, hremaining]
        exact iff_of_false (by decide) (not_le.mpr hlt)
      · exact iff_of_true hstatus ⟨hpositive, hlt⟩

/-- Where the status shows what remains, an operation keeps it so exactly if it is admitted. -/
theorem Balances.step_iff (h : Balances invoice) (operation : InvoiceOperation) :
    Balances (step invoice operation) ∧ RejectsReversed invoice operation ↔
      Admitted invoice operation := by
  rw [rejectsReversed_iff, Admitted, and_comm]
  apply and_congr_right
  intro hopen
  cases operation with
  | addLine line => exact h.add_line_iff hopen line
  | applyPayment amount clearing => exact balances_apply_payment_iff invoice amount clearing
  | reverse reversal_date reason =>
      refine iff_of_true ⟨h.amount_remaining, ?_, ?_⟩ trivial
      · exact fun hnot => absurd rfl hnot
      · exact fun hnot => absurd rfl hnot

/-- What has been paid is what was paid before, and the payments of the run. -/
theorem amount_paid_run (invoice : SubledgerInvoice) (operations : List InvoiceOperation) :
    (operations.foldl step invoice).amount_paid =
      invoice.amount_paid + paymentsTotal operations := by
  induction operations generalizing invoice with
  | nil => exact (add_zero _).symm
  | cons operation operations ih =>
      rw [List.foldl_cons, ih, paymentsTotal, paymentsTotal, List.map_cons, List.sum_cons,
        ← add_assoc]
      congr 1
      cases operation with
      | addLine line => exact (add_zero _).symm
      | applyPayment amount clearing => rfl
      | reverse reversal_date reason => exact (add_zero _).symm

theorem stepAR_eq (invoice : ARInvoice) (operation : InvoiceOperation) :
    stepAR invoice operation =
      { invoice with toSubledgerInvoice := step invoice.toSubledgerInvoice operation } := by
  cases operation with
  | addLine line => rfl
  | applyPayment amount clearing => rfl
  | reverse reversal_date reason => rfl

theorem stepAP_eq (invoice : APInvoice) (operation : InvoiceOperation) :
    stepAP invoice operation =
      { invoice with toSubledgerInvoice := step invoice.toSubledgerInvoice operation } := by
  cases operation with
  | addLine line => rfl
  | applyPayment amount clearing => rfl
  | reverse reversal_date reason => rfl

section Sides

variable {I : Type} (body : I → SubledgerInvoice) (stepOf : I → InvoiceOperation → I)

/-- On one side: over the operations, remaining amount and status are right in every state, and
nothing happens to a reversed invoice, exactly if this holds at first and every operation is
admitted. -/
def StatusKeptIff (invoice : I) (operations : List InvoiceOperation) : Prop :=
  (AlongRun stepOf (fun invoice => Balances (body invoice)) invoice operations ∧
      EveryStep stepOf (fun invoice operation =>
        (body invoice).status = .reversed → stepOf invoice operation = invoice) invoice
        operations ↔
    Balances (body invoice) ∧
      EveryStep stepOf (fun invoice => Admitted (body invoice)) invoice operations) ∧
  (body (operations.foldl stepOf invoice)).amount_paid =
    (body invoice).amount_paid + paymentsTotal operations

variable {body stepOf}

theorem statusKeptIff_of_body (hstep : ∀ invoice operation,
      body (stepOf invoice operation) = step (body invoice) operation)
    (hsame : ∀ invoice operation,
      body (stepOf invoice operation) = body invoice → stepOf invoice operation = invoice)
    (invoice : I) (operations : List InvoiceOperation) :
    StatusKeptIff body stepOf invoice operations := by
  refine ⟨run_keeps_iff fun invoice operation h => ?_, ?_⟩
  · rw [← h.step_iff operation, hstep, RejectsReversed, ← hstep]
    apply and_congr_right
    intro _
    apply imp_congr_right
    intro _
    exact ⟨congrArg body, hsame invoice operation⟩
  · have hrun : operations.foldl step (body invoice) = body (operations.foldl stepOf invoice) :=
      List.foldl_hom body fun invoice operation => (hstep invoice operation).symm
    rw [← hrun, amount_paid_run]

end Sides

theorem invoice_status_iff (receivable : ARInvoice) (payable : APInvoice)
    (operations : List InvoiceOperation) :
    StatusKeptIff ARInvoice.toSubledgerInvoice stepAR receivable operations ∧
      StatusKeptIff APInvoice.toSubledgerInvoice stepAP payable operations := by
  constructor
  · apply statusKeptIff_of_body
    · intro invoice operation
      rw [stepAR_eq]
    · intro invoice operation hsame
      rw [stepAR_eq] at hsame ⊢
      have hbody : step invoice.toSubledgerInvoice operation = invoice.toSubledgerInvoice := hsame
      exact congrArg (fun body => { invoice with toSubledgerInvoice := body }) hbody
  · apply statusKeptIff_of_body
    · intro invoice operation
      rw [stepAP_eq]
    · intro invoice operation hsame
      rw [stepAP_eq] at hsame ⊢
      have hbody : step invoice.toSubledgerInvoice operation = invoice.toSubledgerInvoice := hsame
      exact congrArg (fun body => { invoice with toSubledgerInvoice := body }) hbody

/-- An invoice with one line over 1000. -/
def invoiceOver1000 : ARInvoice :=
  (ARInvoice.new "INV001" "1000" "CUST001" "Customer" ⟨0⟩ 30 "USD").add_line
    ⟨10, 100, 1000, 0, 0, 1000⟩

/-- The invoice is paid, and then gets another line, which remains while it is cleared. -/
theorem line_after_clearing :
    ¬ ∀ (invoice : ARInvoice) (operations : List InvoiceOperation),
      Balances invoice.toSubledgerInvoice →
        Balances (operations.foldl stepAR invoice).toSubledgerInvoice := by
  intro h
  have hstart : Balances invoiceOver1000.toSubledgerInvoice :=
    ⟨by decide_cbv, fun _ => by decide_cbv, fun _ => by decide_cbv⟩
  have hcleared := (h invoiceOver1000 [.applyPayment 1000 ⟨"PAY001", ⟨0⟩, 1000, .payment⟩,
    .addLine ⟨5, 100, 500, 0, 0, 500⟩] hstart).cleared (by decide_cbv)
  exact absurd hcleared (by decide_cbv)

end Datasynth.Subledger.InvoiceBalances
