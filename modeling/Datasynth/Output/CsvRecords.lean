import Datasynth.Lib.AmountText
import Datasynth.Lib.ByteEncoding

/-!
The records the sinks of comma-separated values take, with the fields they write, and the
derived debug labels of their enumerations.
-/

namespace Datasynth.Output.CsvRecords

open Datasynth.Lib.BareTexts
open Datasynth.Lib.ByteEncoding
open Datasynth.Lib.CivilCalendar
open Datasynth.Lib.CsvFormat
open Datasynth.Lib.LiteralTexts

/-- An enumeration with a derived debug format: the bare name of each variant. -/
class Debug (α : Type) where
  debug : α → String
  bare : ∀ a, ∀ c ∈ (debug a).toList, isBare c = true

def debugText {α : Type} [Debug α] (a : α) : BareText := ⟨(Debug.debug a).toList, Debug.bare a⟩

def openText : BareText := ⟨"Some(".toList, List.all_eq_true.mp (by decide)⟩

def closeText : BareText := ⟨[')'], List.all_eq_true.mp (by decide)⟩

def noneText : BareText := ⟨"None".toList, List.all_eq_true.mp (by decide)⟩

/-- The derived debug format of an optional variant. -/
def debugOptionText {α : Type} [Debug α] : Option α → BareText
  | none => noneText
  | some a => openText ++ debugText a ++ closeText

section JournalEntries

inductive TransactionSource where
  | manual
  | automated
  | recurring
  | reversal
  | adjustment
  | statistical

def TransactionSource.name : TransactionSource → String
  | .manual => "Manual"
  | .automated => "Automated"
  | .recurring => "Recurring"
  | .reversal => "Reversal"
  | .adjustment => "Adjustment"
  | .statistical => "Statistical"

instance : Debug TransactionSource where
  debug := TransactionSource.name
  bare := by
    intro a
    cases a <;> exact all_toList String.toList_ofList rfl

inductive FraudType where
  | fictitiousEntry
  | fictitiousTransaction
  | roundDollarManipulation
  | justBelowThreshold
  | revenueManipulation
  | improperCapitalization
  | expenseCapitalization
  | reserveManipulation
  | suspenseAccountAbuse
  | splitTransaction
  | timingAnomaly
  | unauthorizedAccess
  | selfApproval
  | exceededApprovalLimit
  | segregationOfDutiesViolation
  | unauthorizedApproval
  | collusiveApproval
  | fictitiousVendor
  | duplicatePayment
  | shellCompanyPayment
  | kickback
  | kickbackScheme
  | unauthorizedDiscount
  | roundTripping
  | invoiceManipulation
  | assetMisappropriation
  | inventoryTheft
  | ghostEmployee
  | prematureRevenue
  | understatedLiabilities
  | overstatedAssets
  | channelStuffing
  | improperRevenueRecognition
  | improperPoAllocation
  | variableConsiderationManipulation
  | contractModificationMisstatement
  | leaseClassificationManipulation
  | offBalanceSheetLease
  | leaseLiabilityUnderstatement
  | rouAssetMisstatement
  | fairValueHierarchyManipulation
  | level3InputManipulation
  | valuationTechniqueManipulation
  | delayedImpairment
  | impairmentTestAvoidance
  | cashFlowProjectionManipulation
  | improperImpairmentReversal
  | bidRigging
  | phantomVendorContract
  | splitContractThreshold
  | conflictOfInterestSourcing
  | ghostEmployeePayroll
  | payrollInflation
  | duplicateExpenseReport
  | fictitiousExpense
  | splitExpenseToAvoidApproval
  | revenueTimingManipulation
  | quotePriceOverride

def FraudType.name : FraudType → String
  | .fictitiousEntry => "FictitiousEntry"
  | .fictitiousTransaction => "FictitiousTransaction"
  | .roundDollarManipulation => "RoundDollarManipulation"
  | .justBelowThreshold => "JustBelowThreshold"
  | .revenueManipulation => "RevenueManipulation"
  | .improperCapitalization => "ImproperCapitalization"
  | .expenseCapitalization => "ExpenseCapitalization"
  | .reserveManipulation => "ReserveManipulation"
  | .suspenseAccountAbuse => "SuspenseAccountAbuse"
  | .splitTransaction => "SplitTransaction"
  | .timingAnomaly => "TimingAnomaly"
  | .unauthorizedAccess => "UnauthorizedAccess"
  | .selfApproval => "SelfApproval"
  | .exceededApprovalLimit => "ExceededApprovalLimit"
  | .segregationOfDutiesViolation => "SegregationOfDutiesViolation"
  | .unauthorizedApproval => "UnauthorizedApproval"
  | .collusiveApproval => "CollusiveApproval"
  | .fictitiousVendor => "FictitiousVendor"
  | .duplicatePayment => "DuplicatePayment"
  | .shellCompanyPayment => "ShellCompanyPayment"
  | .kickback => "Kickback"
  | .kickbackScheme => "KickbackScheme"
  | .unauthorizedDiscount => "UnauthorizedDiscount"
  | .roundTripping => "RoundTripping"
  | .invoiceManipulation => "InvoiceManipulation"
  | .assetMisappropriation => "AssetMisappropriation"
  | .inventoryTheft => "InventoryTheft"
  | .ghostEmployee => "GhostEmployee"
  | .prematureRevenue => "PrematureRevenue"
  | .understatedLiabilities => "UnderstatedLiabilities"
  | .overstatedAssets => "OverstatedAssets"
  | .channelStuffing => "ChannelStuffing"
  | .improperRevenueRecognition => "ImproperRevenueRecognition"
  | .improperPoAllocation => "ImproperPoAllocation"
  | .variableConsiderationManipulation => "VariableConsiderationManipulation"
  | .contractModificationMisstatement => "ContractModificationMisstatement"
  | .leaseClassificationManipulation => "LeaseClassificationManipulation"
  | .offBalanceSheetLease => "OffBalanceSheetLease"
  | .leaseLiabilityUnderstatement => "LeaseLiabilityUnderstatement"
  | .rouAssetMisstatement => "RouAssetMisstatement"
  | .fairValueHierarchyManipulation => "FairValueHierarchyManipulation"
  | .level3InputManipulation => "Level3InputManipulation"
  | .valuationTechniqueManipulation => "ValuationTechniqueManipulation"
  | .delayedImpairment => "DelayedImpairment"
  | .impairmentTestAvoidance => "ImpairmentTestAvoidance"
  | .cashFlowProjectionManipulation => "CashFlowProjectionManipulation"
  | .improperImpairmentReversal => "ImproperImpairmentReversal"
  | .bidRigging => "BidRigging"
  | .phantomVendorContract => "PhantomVendorContract"
  | .splitContractThreshold => "SplitContractThreshold"
  | .conflictOfInterestSourcing => "ConflictOfInterestSourcing"
  | .ghostEmployeePayroll => "GhostEmployeePayroll"
  | .payrollInflation => "PayrollInflation"
  | .duplicateExpenseReport => "DuplicateExpenseReport"
  | .fictitiousExpense => "FictitiousExpense"
  | .splitExpenseToAvoidApproval => "SplitExpenseToAvoidApproval"
  | .revenueTimingManipulation => "RevenueTimingManipulation"
  | .quotePriceOverride => "QuotePriceOverride"

instance : Debug FraudType where
  debug := FraudType.name
  bare := by
    intro a
    cases a <;> exact all_toList String.toList_ofList rfl

structure JournalEntryHeader where
  document_id : List Byte
  company_code : String
  fiscal_year : ℕ
  fiscal_period : ℕ
  posting_date : Date
  document_type : String
  currency : String
  source : TransactionSource
  sap_source_code : Option String
  fraud_type : Option FraudType
  anomaly_type : Option String

structure JournalEntryLine where
  line_number : ℕ
  gl_account : String
  debit_amount : ScaledDecimal
  credit_amount : ScaledDecimal
  trading_partner : Option String

structure JournalEntry where
  header : JournalEntryHeader
  lines : List JournalEntryLine

end JournalEntries

section Dunning

inductive DunningRunStatus where
  | pending
  | inProgress
  | completed
  | failed
  | cancelled

def DunningRunStatus.name : DunningRunStatus → String
  | .pending => "Pending"
  | .inProgress => "InProgress"
  | .completed => "Completed"
  | .failed => "Failed"
  | .cancelled => "Cancelled"

instance : Debug DunningRunStatus where
  debug := DunningRunStatus.name
  bare := by
    intro a
    cases a <;> exact all_toList String.toList_ofList rfl

inductive DunningLetterStatus where
  | created
  | sent
  | disputed
  | resolved
  | escalatedToCollection
  | writtenOff
  | cancelled

def DunningLetterStatus.name : DunningLetterStatus → String
  | .created => "Created"
  | .sent => "Sent"
  | .disputed => "Disputed"
  | .resolved => "Resolved"
  | .escalatedToCollection => "EscalatedToCollection"
  | .writtenOff => "WrittenOff"
  | .cancelled => "Cancelled"

instance : Debug DunningLetterStatus where
  debug := DunningLetterStatus.name
  bare := by
    intro a
    cases a <;> exact all_toList String.toList_ofList rfl

inductive DunningResponseType where
  | noResponse
  | paymentPromise
  | paid
  | dispute
  | partialDispute
  | paymentPlan
  | bankruptcy

def DunningResponseType.name : DunningResponseType → String
  | .noResponse => "NoResponse"
  | .paymentPromise => "PaymentPromise"
  | .paid => "Paid"
  | .dispute => "Dispute"
  | .partialDispute => "PartialDispute"
  | .paymentPlan => "PaymentPlan"
  | .bankruptcy => "Bankruptcy"

instance : Debug DunningResponseType where
  debug := DunningResponseType.name
  bare := by
    intro a
    cases a <;> exact all_toList String.toList_ofList rfl

structure DunningItem where
  invoice_number : String
  invoice_date : Date
  due_date : Date
  original_amount : ScaledDecimal
  open_amount : ScaledDecimal
  days_overdue : ℕ
  interest_amount : ScaledDecimal
  previous_dunning_level : ℕ
  new_dunning_level : ℕ
  is_blocked : Bool
  block_reason : Option String

structure DunningLetter where
  letter_id : String
  dunning_run_id : String
  company_code : String
  customer_id : String
  customer_name : String
  dunning_level : ℕ
  dunning_date : Date
  total_dunned_amount : ScaledDecimal
  dunning_charges : ScaledDecimal
  interest_amount : ScaledDecimal
  total_amount_due : ScaledDecimal
  currency : String
  payment_deadline : Date
  is_sent : Bool
  sent_date : Option Date
  response_type : Option DunningResponseType
  status : DunningLetterStatus

structure DunningRun where
  run_id : String
  company_code : String
  run_date : Date
  dunning_date : Date
  customers_evaluated : ℕ
  customers_with_letters : ℕ
  letters_generated : ℕ
  total_amount_dunned : ScaledDecimal
  total_dunning_charges : ScaledDecimal
  total_interest_amount : ScaledDecimal
  status : DunningRunStatus
  started_at : UtcTime
  completed_at : Option UtcTime

end Dunning

section Payments

inductive PaymentCorrectionType where
  | nsf
  | chargeback
  | wrongAmount
  | wrongCustomer
  | duplicatePayment
  | customerReversal
  | bankError
  | systemError

def PaymentCorrectionType.name : PaymentCorrectionType → String
  | .nsf => "NSF"
  | .chargeback => "Chargeback"
  | .wrongAmount => "WrongAmount"
  | .wrongCustomer => "WrongCustomer"
  | .duplicatePayment => "DuplicatePayment"
  | .customerReversal => "CustomerReversal"
  | .bankError => "BankError"
  | .systemError => "SystemError"

instance : Debug PaymentCorrectionType where
  debug := PaymentCorrectionType.name
  bare := by
    intro a
    cases a <;> exact all_toList String.toList_ofList rfl

inductive CorrectionStatus where
  | pending
  | processed
  | resolved
  | writtenOff
  | cancelled

def CorrectionStatus.name : CorrectionStatus → String
  | .pending => "Pending"
  | .processed => "Processed"
  | .resolved => "Resolved"
  | .writtenOff => "WrittenOff"
  | .cancelled => "Cancelled"

instance : Debug CorrectionStatus where
  debug := CorrectionStatus.name
  bare := by
    intro a
    cases a <;> exact all_toList String.toList_ofList rfl

inductive ShortPaymentReasonCode where
  | pricingDispute
  | qualityIssue
  | quantityDiscrepancy
  | unauthorizedDeduction
  | incorrectDiscount
  | freightDispute
  | taxDispute
  | returnAllowance
  | coopDeduction
  | other

def ShortPaymentReasonCode.name : ShortPaymentReasonCode → String
  | .pricingDispute => "PricingDispute"
  | .qualityIssue => "QualityIssue"
  | .quantityDiscrepancy => "QuantityDiscrepancy"
  | .unauthorizedDeduction => "UnauthorizedDeduction"
  | .incorrectDiscount => "IncorrectDiscount"
  | .freightDispute => "FreightDispute"
  | .taxDispute => "TaxDispute"
  | .returnAllowance => "ReturnAllowance"
  | .coopDeduction => "CoopDeduction"
  | .other => "Other"

instance : Debug ShortPaymentReasonCode where
  debug := ShortPaymentReasonCode.name
  bare := by
    intro a
    cases a <;> exact all_toList String.toList_ofList rfl

inductive ShortPaymentDisposition where
  | pending
  | underInvestigation
  | creditMemoIssued
  | writtenOff
  | rebilled
  | accepted
  | disputeRejected

def ShortPaymentDisposition.name : ShortPaymentDisposition → String
  | .pending => "Pending"
  | .underInvestigation => "UnderInvestigation"
  | .creditMemoIssued => "CreditMemoIssued"
  | .writtenOff => "WrittenOff"
  | .rebilled => "Rebilled"
  | .accepted => "Accepted"
  | .disputeRejected => "DisputeRejected"

instance : Debug ShortPaymentDisposition where
  debug := ShortPaymentDisposition.name
  bare := by
    intro a
    cases a <;> exact all_toList String.toList_ofList rfl

inductive OnAccountStatus where
  | unapplied
  | partiallyApplied
  | fullyApplied
  | refunded
  | writtenOff

def OnAccountStatus.name : OnAccountStatus → String
  | .unapplied => "Unapplied"
  | .partiallyApplied => "PartiallyApplied"
  | .fullyApplied => "FullyApplied"
  | .refunded => "Refunded"
  | .writtenOff => "WrittenOff"

instance : Debug OnAccountStatus where
  debug := OnAccountStatus.name
  bare := by
    intro a
    cases a <;> exact all_toList String.toList_ofList rfl

inductive OnAccountReason where
  | noInvoiceReference
  | overpayment
  | prepayment
  | invoicePending
  | unclearRemittance
  | other

def OnAccountReason.name : OnAccountReason → String
  | .noInvoiceReference => "NoInvoiceReference"
  | .overpayment => "Overpayment"
  | .prepayment => "Prepayment"
  | .invoicePending => "InvoicePending"
  | .unclearRemittance => "UnclearRemittance"
  | .other => "Other"

instance : Debug OnAccountReason where
  debug := OnAccountReason.name
  bare := by
    intro a
    cases a <;> exact all_toList String.toList_ofList rfl

structure PaymentCorrection where
  correction_id : String
  company_code : String
  customer_id : String
  original_payment_id : String
  correction_type : PaymentCorrectionType
  original_amount : ScaledDecimal
  correction_amount : ScaledDecimal
  currency : String
  correction_date : Date
  reversal_je_id : Option String
  correcting_payment_id : Option String
  status : CorrectionStatus
  reason : Option String
  bank_reference : Option String
  chargeback_code : Option String
  fee_amount : ScaledDecimal

structure ShortPayment where
  short_payment_id : String
  company_code : String
  customer_id : String
  payment_id : String
  invoice_id : String
  expected_amount : ScaledDecimal
  paid_amount : ScaledDecimal
  short_amount : ScaledDecimal
  currency : String
  payment_date : Date
  reason_code : ShortPaymentReasonCode
  reason_description : Option String
  disposition : ShortPaymentDisposition
  credit_memo_id : Option String
  write_off_je_id : Option String
  rebill_invoice_id : Option String

structure OnAccountApplication where
  invoice_id : String
  amount : ScaledDecimal
  application_date : Date

structure OnAccountPayment where
  on_account_id : String
  company_code : String
  customer_id : String
  payment_id : String
  amount : ScaledDecimal
  remaining_amount : ScaledDecimal
  currency : String
  received_date : Date
  status : OnAccountStatus
  reason : Option OnAccountReason
  applications : List OnAccountApplication
  notes : Option String

end Payments

end Datasynth.Output.CsvRecords
