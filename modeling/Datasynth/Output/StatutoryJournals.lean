import Datasynth.Lib.AmountText
import Datasynth.Lib.DelimitedRecords
import Datasynth.Lib.SortedEntries
import Mathlib.Data.String.Basic

/-!
The journal entries and the chart of accounts as the statutory exports take them.  An
amount is a decimal with its scale; an identifier is its bytes.
-/

namespace Datasynth.Output.LedgerRecords

open Datasynth.Lib.AmountText
open Datasynth.Lib.BareTexts
open Datasynth.Lib.ByteEncoding
open Datasynth.Lib.CivilCalendar
open Datasynth.Lib.SortedEntries

inductive AccountType where
  | asset
  | liability
  | equity
  | revenue
  | expense
  | statistical
deriving DecidableEq

structure GLAccount where
  account_number : String
  short_description : String
  account_type : AccountType

structure ChartOfAccounts where
  accounts : List GLAccount
  account_index : OrderedMap String ℕ

def ChartOfAccounts.get_account (coa : ChartOfAccounts) (account_number : String) :
    Option GLAccount :=
  (coa.account_index.find? account_number).bind fun idx => coa.accounts[idx]?

structure JournalEntryHeader where
  document_id : List Byte
  fiscal_period : ℕ
  posting_date : Date
  document_date : Date
  document_type : String
  currency : String
  reference : Option String
  header_text : Option String
  created_by : String

structure JournalEntryLine where
  line_number : ℕ
  gl_account : String
  account_code : String
  debit_amount : ScaledDecimal
  credit_amount : ScaledDecimal
  cost_center : Option String
  line_text : Option String
  tax_code : Option String
  tax_amount : Option ScaledDecimal
  auxiliary_account_number : Option String
  auxiliary_account_label : Option String
  lettrage : Option String
  lettrage_date : Option Date

structure JournalEntry where
  header : JournalEntryHeader
  lines : List JournalEntryLine

/-- `amount > Decimal::ZERO` -/
def isPositive (amount : ScaledDecimal) : Bool := 0 < value amount

def JournalEntry.total_debit (je : JournalEntry) : ℚ :=
  (je.lines.map fun line => value line.debit_amount).sum

def JournalEntry.total_credit (je : JournalEntry) : ℚ :=
  (je.lines.map fun line => value line.credit_amount).sum

end Datasynth.Output.LedgerRecords

/-!
The French and the German journal file: a line of fields with semicolons between them for
each line of the journal entries.
-/

namespace Datasynth.Output.StatutoryJournals

open Datasynth.Lib.AmountText
open Datasynth.Lib.BareTexts
open Datasynth.Lib.CivilCalendar
open Datasynth.Lib.CsvFormat
open Datasynth.Lib.DelimitedRecords
open Datasynth.Lib.DecimalText
open Datasynth.Output.LedgerRecords

section Fields

/-- `s.replace(';', ",").replace(['\n', '\r'], " ")` -/
def replaceBreaks (s : String) : List Char :=
  (s.toList.map fun c => if c = ';' then ',' else c).map fun c =>
    if c = '\n' ∨ c = '\r' then ' ' else c

/-- The escape function of both exports. -/
def escapeField (s : String) : List Char :=
  let t := replaceBreaks s
  if quoteChar ∈ t then quoteChar :: (Cell.escape t ++ [quoteChar]) else t

def escape_fec_field (s : String) : List Char := escapeField s

def escape_gobd_field (s : String) : List Char := escapeField s

def format_decimal (d : ScaledDecimal) : List Char := twoPlaces d

/-- `format("%Y%m%d")` -/
def compactDate (d : Date) : List Char :=
  (yearText d.year).chars ++ paddedDigits 2 d.month ++ paddedDigits 2 d.day

/-- Fields with semicolons between them. -/
def joinFields (fields : List (List Char)) : List Char := [';'].intercalate fields

end Fields

section Fec

/-- The header of the file, at its semicolons. -/
def FEC_COLUMNS : List String :=
  [ "Code journal", "Libellé journal", "Numéro de l'écriture", "Date de comptabilisation",
    "Numéro de compte", "Libellé de compte", "Numéro de compte auxiliaire",
    "Libellé de compte auxiliaire", "Référence de la pièce justificative",
    "Date d'émission de la pièce justificative", "Libellé de l'écriture comptable",
    "Montant au débit", "Montant au crédit", "Lettrage", "Date de lettrage",
    "Date de validation de l'écriture", "Montant en devise", "Identifiant de la devise" ]

def FEC_HEADER : List Char := joinFields (FEC_COLUMNS.map String.toList)

variable (coa : ChartOfAccounts) (je : JournalEntry) (ecriture_num : ℕ) (line : JournalEntryLine)

def fecFields : List (List Char) :=
  let header := je.header
  [ escape_fec_field header.document_type,
    escape_fec_field (header.header_text.getD header.document_type),
    Nat.toDigits 10 ecriture_num,
    compactDate header.posting_date,
    escape_fec_field line.gl_account,
    escape_fec_field <|
      ((coa.get_account line.gl_account).map (·.short_description)).getD line.gl_account,
    escape_fec_field (line.auxiliary_account_number.getD ""),
    (line.auxiliary_account_label.map escape_fec_field).getD [],
    escape_fec_field (header.reference.getD ""),
    compactDate header.document_date,
    escape_fec_field ((line.line_text.or header.header_text).getD ""),
    format_decimal line.debit_amount,
    format_decimal line.credit_amount,
    -- The code is written as it is.
    (line.lettrage.getD "").toList,
    (line.lettrage_date.map compactDate).getD [],
    compactDate header.posting_date,
    if isPositive line.debit_amount then format_decimal line.debit_amount
      else format_decimal line.credit_amount,
    escape_fec_field header.currency ]

/-- The journal lines with what is written for them. -/
def fecLines (entries : List JournalEntry) : List (JournalEntryLine × List Char) :=
  (entries.zipIdx 1).flatMap fun (je, ecriture_num) =>
    je.lines.map fun line => (line, joinFields (fecFields coa je ecriture_num line))

def write_fec_csv (entries : List JournalEntry) : List Char :=
  joinLines (FEC_HEADER :: (fecLines coa entries).map Prod.snd)

end Fec

section Gobd

def GOBD_JOURNAL_COLUMNS : List String :=
  [ "Belegdatum", "Buchungsdatum", "Belegnummer", "Buchungstext", "Kontonummer",
    "Gegenkontonummer", "Sollbetrag", "Habenbetrag", "Steuerschlüssel", "Steuerbetrag", "Währung",
    "Kostenstelle", "Belegnummernkreis" ]

def GOBD_JOURNAL_HEADER : List Char := joinFields (GOBD_JOURNAL_COLUMNS.map String.toList)

variable (je : JournalEntry) (idx : ℕ) (line : JournalEntryLine)

/-- The account of the other line of two, or of the first line on the opposite side. -/
def contra_for : String :=
  if je.lines.length = 2 then
    ((je.lines[if idx = 0 then 1 else 0]?).map (·.gl_account)).getD ""
  else
    let is_debit := (je.lines[idx]?).any fun current => isPositive current.debit_amount
    let opposite := je.lines.zipIdx.find? fun (l, i) =>
      i ≠ idx && if is_debit then isPositive l.credit_amount else isPositive l.debit_amount
    (opposite.map fun e => e.1.gl_account).getD ""

def gobdFields : List (List Char) :=
  let header := je.header
  [ compactDate header.document_date,
    compactDate header.posting_date,
    escape_gobd_field (String.ofList ((uuidText header.document_id).chars.take 8)),
    escape_gobd_field (header.header_text.getD header.document_type),
    escape_gobd_field line.gl_account,
    escape_gobd_field (contra_for je idx),
    format_decimal line.debit_amount,
    format_decimal line.credit_amount,
    -- The tax code and the cost centre are written as they are.
    (line.tax_code.getD "").toList,
    (line.tax_amount.map format_decimal).getD "0.00".toList,
    escape_gobd_field header.currency,
    (line.cost_center.getD "").toList,
    escape_gobd_field header.document_type ]

def gobdLines (entries : List JournalEntry) : List (JournalEntryLine × List Char) :=
  entries.flatMap fun je =>
    je.lines.zipIdx.map fun (line, idx) => (line, joinFields (gobdFields je idx line))

def write_gobd_journal_csv (entries : List JournalEntry) : List Char :=
  joinLines (GOBD_JOURNAL_HEADER :: (gobdLines entries).map Prod.snd)

end Gobd

end Datasynth.Output.StatutoryJournals
