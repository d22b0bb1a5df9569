import Datasynth.Output.CsvRecords

/-!
The sinks of comma-separated values: what each writes for a record, the header before the first
record, and the file after any number of records.
-/

namespace Datasynth.Output.CsvSinks

open Datasynth.Lib.BareTexts
open Datasynth.Lib.CsvFormat
open Datasynth.Lib.LiteralTexts
open Datasynth.Output.CsvRecords

section Fields

/-- A field of a row: a string as it stands, a string between quotes of which the quotes are
doubled, or the text of a number, a date, a flag or an enumeration. -/
inductive Field where
  | free (text : String)
  | quoted (text : String)
  | value (text : BareText)

namespace Field

def cell : Field → Cell
  | free text => .bare text.toList
  | quoted text => .quoted text.toList
  | value text => .bare text.chars

def free? : Field → Option String
  | free text => some text
  | _ => none

/-- An absent string is written as an empty one. -/
def freeOption (text? : Option String) : Field := free (text?.getD "")

def quotedOption (text? : Option String) : Field := quoted (text?.getD "")

def nat (n : ℕ) : Field := value (natText n)

def decimal (d : ScaledDecimal) : Field := value d.toText

def date (d : Lib.CivilCalendar.Date) : Field := value (isoDateText d)

def debug {α : Type} [Debug α] (a : α) : Field := value (debugText a)

def debugOption {α : Type} [Debug α] (a : Option α) : Field := value (debugOptionText a)

def bool (b : Bool) : Field :=
  value (if b then ⟨"true".toList, List.all_eq_true.mp (by decide)⟩
    else ⟨"false".toList, List.all_eq_true.mp (by decide)⟩)

end Field

end Fields

section Formats

theorem header_eq_of_chars {header : String} {columns : List String} {texts : List (List Char)}
    (hcolumns : columns.map String.toList = texts)
    (hheader : header.toList = renderRow (texts.map .bare)) :
    header.toList = renderRow (columns.map fun column => .bare column.toList) := by
  rw [hheader, ← hcolumns, List.map_map]
  rfl

theorem columns_bare_of_chars {columns : List String} {texts : List (List Char)}
    (hcolumns : columns.map String.toList = texts) (htexts : texts.all (·.all isBare) = true) :
    ∀ column ∈ columns, ∀ c ∈ column.toList, isBare c = true := by
  intro column hcolumn
  exact List.all_eq_true.mp (forall_mem_toList (·.all isBare) hcolumns htexts column hcolumn)

/-- A header and the rows of each record. -/
structure RowFormat (α : Type) where
  header : String
  columns : List String
  header_eq : header.toList = renderRow (columns.map fun column => .bare column.toList)
  columns_ne : columns ≠ []
  columns_bare : ∀ column ∈ columns, ∀ c ∈ column.toList, isBare c = true
  rows : α → List (List Field)

def source_label (header : JournalEntryHeader) : Field :=
  match header.sap_source_code with
  | some code => .free code
  | none => .debug header.source

def fraud_type_str (header : JournalEntryHeader) : Field :=
  .value (.ofOption (header.fraud_type.map debugText))

/-- A row for each line of an entry. -/
def csvSink : RowFormat JournalEntry where
  header := "document_id,company_code,fiscal_year,fiscal_period,posting_date,"
    ++ "document_type,currency,source,line_number,gl_account,debit_amount,credit_amount,"
    ++ "trading_partner,fraud_type,anomaly_type\n"
  columns := ["document_id", "company_code", "fiscal_year", "fiscal_period", "posting_date",
    "document_type", "currency", "source", "line_number", "gl_account", "debit_amount",
    "credit_amount", "trading_partner", "fraud_type", "anomaly_type"]
  header_eq := by
    apply header_eq_of_chars
    · repeat apply map_toList_cons String.toList_ofList
      rfl
    · refine .trans (toList_append_eq (toList_append_eq
        String.toList_ofList String.toList_ofList) String.toList_ofList) ?_
      rfl
  columns_ne := List.cons_ne_nil _ _
  columns_bare := by
    apply columns_bare_of_chars
    · repeat apply map_toList_cons String.toList_ofList
      rfl
    · rfl
  rows item := item.lines.map fun line =>
    [.value (uuidText item.header.document_id), .free item.header.company_code,
      .nat item.header.fiscal_year, .nat item.header.fiscal_period,
      .date item.header.posting_date, .free item.header.document_type,
      .free item.header.currency, source_label item.header, .nat line.line_number,
      .free line.gl_account, .decimal line.debit_amount, .decimal line.credit_amount,
      .freeOption line.trading_partner, fraud_type_str item.header,
      .freeOption item.header.anomaly_type]

def dunningRunCsvSink : RowFormat DunningRun where
  header := "run_id,company_code,run_date,dunning_date,customers_evaluated,"
    ++ "customers_with_letters,letters_generated,total_amount_dunned,"
    ++ "total_dunning_charges,total_interest_amount,status,started_at,completed_at\n"
  columns := ["run_id", "company_code", "run_date", "dunning_date", "customers_evaluated",
    "customers_with_letters", "letters_generated", "total_amount_dunned",
    "total_dunning_charges", "total_interest_amount", "status", "started_at", "completed_at"]
  header_eq := by
    apply header_eq_of_chars
    · repeat apply map_toList_cons String.toList_ofList
      rfl
    · refine .trans (toList_append_eq (toList_append_eq
        String.toList_ofList String.toList_ofList) String.toList_ofList) ?_
      rfl
  columns_ne := List.cons_ne_nil _ _
  columns_bare := by
    apply columns_bare_of_chars
    · repeat apply map_toList_cons String.toList_ofList
      rfl
    · rfl
  rows item :=
    [[.free item.run_id, .free item.company_code, .date item.run_date, .date item.dunning_date,
      .nat item.customers_evaluated, .nat item.customers_with_letters,
      .nat item.letters_generated, .decimal item.total_amount_dunned,
      .decimal item.total_dunning_charges, .decimal item.total_interest_amount,
      .debug item.status, .value item.started_at.toText,
      .value (.ofOption (item.completed_at.map UtcTime.toText))]]

def dunningLetterCsvSink : RowFormat DunningLetter where
  header := "letter_id,dunning_run_id,company_code,customer_id,customer_name,"
    ++ "dunning_level,dunning_date,total_dunned_amount,dunning_charges,"
    ++ "interest_amount,total_amount_due,currency,payment_deadline,"
    ++ "is_sent,sent_date,response_type,status\n"
  columns := ["letter_id", "dunning_run_id", "company_code", "customer_id", "customer_name",
    "dunning_level", "dunning_date", "total_dunned_amount", "dunning_charges",
    "interest_amount", "total_amount_due", "currency", "payment_deadline", "is_sent",
    "sent_date", "response_type", "status"]
  header_eq := by
    apply header_eq_of_chars
    · repeat apply map_toList_cons String.toList_ofList
      rfl
    · refine .trans (toList_append_eq (toList_append_eq (toList_append_eq
        String.toList_ofList String.toList_ofList) String.toList_ofList) String.toList_ofList) ?_
      rfl
  columns_ne := List.cons_ne_nil _ _
  columns_bare := by
    apply columns_bare_of_chars
    · repeat apply map_toList_cons String.toList_ofList
      rfl
    · rfl
  rows item :=
    [[.free item.letter_id, .free item.dunning_run_id, .free item.company_code,
      .free item.customer_id, .quoted item.customer_name, .nat item.dunning_level,
      .date item.dunning_date, .decimal item.total_dunned_amount, .decimal item.dunning_charges,
      .decimal item.interest_amount, .decimal item.total_amount_due, .free item.currency,
      .date item.payment_deadline, .bool item.is_sent,
      .value (.ofOption (item.sent_date.map isoDateText)), .debugOption item.response_type,
      .debug item.status]]

/-- A dunning item is written with the letter it belongs to. -/
def dunningItemCsvSink : RowFormat (String × DunningItem) where
  header := "letter_id,invoice_number,invoice_date,due_date,original_amount,"
    ++ "open_amount,days_overdue,interest_amount,previous_dunning_level,"
    ++ "new_dunning_level,is_blocked,block_reason\n"
  columns := ["letter_id", "invoice_number", "invoice_date", "due_date", "original_amount",
    "open_amount", "days_overdue", "interest_amount", "previous_dunning_level",
    "new_dunning_level", "is_blocked", "block_reason"]
  header_eq := by
    apply header_eq_of_chars
    · repeat apply map_toList_cons String.toList_ofList
      rfl
    · refine .trans (toList_append_eq (toList_append_eq
        String.toList_ofList String.toList_ofList) String.toList_ofList) ?_
      rfl
  columns_ne := List.cons_ne_nil _ _
  columns_bare := by
    apply columns_bare_of_chars
    · repeat apply map_toList_cons String.toList_ofList
      rfl
    · rfl
  rows
    | (letter_id, item) =>
      [[.free letter_id, .free item.invoice_number, .date item.invoice_date, .date item.due_date,
        .decimal item.original_amount, .decimal item.open_amount, .nat item.days_overdue,
        .decimal item.interest_amount, .nat item.previous_dunning_level,
        .nat item.new_dunning_level, .bool item.is_blocked, .freeOption item.block_reason]]

def paymentCorrectionCsvSink : RowFormat PaymentCorrection where
  header := "correction_id,company_code,customer_id,original_payment_id,"
    ++ "correction_type,original_amount,correction_amount,currency,"
    ++ "correction_date,reversal_je_id,correcting_payment_id,status,"
    ++ "reason,bank_reference,chargeback_code,fee_amount\n"
  columns := ["correction_id", "company_code", "customer_id", "original_payment_id",
    "correction_type", "original_amount", "correction_amount", "currency", "correction_date",
    "reversal_je_id", "correcting_payment_id", "status", "reason", "bank_reference",
    "chargeback_code", "fee_amount"]
  header_eq := by
    apply header_eq_of_chars
    · repeat apply map_toList_cons String.toList_ofList
      rfl
    · refine .trans (toList_append_eq (toList_append_eq (toList_append_eq
        String.toList_ofList String.toList_ofList) String.toList_ofList) String.toList_ofList) ?_
      rfl
  columns_ne := List.cons_ne_nil _ _
  columns_bare := by
    apply columns_bare_of_chars
    · repeat apply map_toList_cons String.toList_ofList
      rfl
    · rfl
  rows item :=
    [[.free item.correction_id, .free item.company_code, .free item.customer_id,
      .free item.original_payment_id, .debug item.correction_type, .decimal item.original_amount,
      .decimal item.correction_amount, .free item.currency, .date item.correction_date,
      .freeOption item.reversal_je_id, .freeOption item.correcting_payment_id,
      .debug item.status, .quotedOption item.reason, .freeOption item.bank_reference,
      .freeOption item.chargeback_code, .decimal item.fee_amount]]

def shortPaymentCsvSink : RowFormat ShortPayment where
  header := "short_payment_id,company_code,customer_id,payment_id,invoice_id,"
    ++ "expected_amount,paid_amount,short_amount,currency,payment_date,"
    ++ "reason_code,reason_description,disposition,credit_memo_id,"
    ++ "write_off_je_id,rebill_invoice_id\n"
  columns := ["short_payment_id", "company_code", "customer_id", "payment_id", "invoice_id",
    "expected_amount", "paid_amount", "short_amount", "currency", "payment_date", "reason_code",
    "reason_description", "disposition", "credit_memo_id", "write_off_je_id",
    "rebill_invoice_id"]
  header_eq := by
    apply header_eq_of_chars
    · repeat apply map_toList_cons String.toList_ofList
      rfl
    · refine .trans (toList_append_eq (toList_append_eq (toList_append_eq
        String.toList_ofList String.toList_ofList) String.toList_ofList) String.toList_ofList) ?_
      rfl
  columns_ne := List.cons_ne_nil _ _
  columns_bare := by
    apply columns_bare_of_chars
    · repeat apply map_toList_cons String.toList_ofList
      rfl
    · rfl
  rows item :=
    [[.free item.short_payment_id, .free item.company_code, .free item.customer_id,
      .free item.payment_id, .free item.invoice_id, .decimal item.expected_amount,
      .decimal item.paid_amount, .decimal item.short_amount, .free item.currency,
      .date item.payment_date, .debug item.reason_code, .quotedOption item.reason_description,
      .debug item.disposition, .freeOption item.credit_memo_id,
      .freeOption item.write_off_je_id, .freeOption item.rebill_invoice_id]]

def onAccountPaymentCsvSink : RowFormat OnAccountPayment where
  header := "on_account_id,company_code,customer_id,payment_id,amount,"
    ++ "remaining_amount,currency,received_date,status,reason,"
    ++ "applications_count,notes\n"
  columns := ["on_account_id", "company_code", "customer_id", "payment_id", "amount",
    "remaining_amount", "currency", "received_date", "status", "reason", "applications_count",
    "notes"]
  header_eq := by
    apply header_eq_of_chars
    · repeat apply map_toList_cons String.toList_ofList
      rfl
    · refine .trans (toList_append_eq (toList_append_eq
        String.toList_ofList String.toList_ofList) String.toList_ofList) ?_
      rfl
  columns_ne := List.cons_ne_nil _ _
  columns_bare := by
    apply columns_bare_of_chars
    · repeat apply map_toList_cons String.toList_ofList
      rfl
    · rfl
  rows item :=
    [[.free item.on_account_id, .free item.company_code, .free item.customer_id,
      .free item.payment_id, .decimal item.amount, .decimal item.remaining_amount,
      .free item.currency, .date item.received_date, .debug item.status,
      .debugOption item.reason, .nat item.applications.length, .quotedOption item.notes]]

end Formats

section Writing

variable {α : Type} (format : RowFormat α)

/-- What a sink has put into its file. -/
structure Sink where
  file : List Char
  items_written : ℕ
  header_written : Bool

def Sink.new : Sink := ⟨[], 0, false⟩

def write_header (sink : Sink) : Sink :=
  if sink.header_written then sink
  else { sink with file := sink.file ++ format.header.toList, header_written := true }

def write (sink : Sink) (item : α) : Sink :=
  let sink := write_header format sink
  { sink with
    file := sink.file ++ renderRows ((format.rows item).map (·.map Field.cell))
    items_written := sink.items_written + 1 }

def writeAll (items : List α) : Sink := items.foldl (write format) Sink.new

end Writing

end Datasynth.Output.CsvSinks
