import Datasynth.Lib.AmountText
import Datasynth.Lib.XmlTrees
import Datasynth.Output.StatutoryJournals

/-!
The SAF-T file: a header, the master data and the journal entries as XML, written tag by
tag.
-/

namespace Datasynth.Output.Saft

open Datasynth.Lib.BareTexts
open Datasynth.Lib.CivilCalendar
open Datasynth.Lib.DecimalText
open Datasynth.Lib.ScaledSums
open Datasynth.Output.LedgerRecords

section Configuration

inductive SaftJurisdiction where
  | Portugal
  | Poland
  | Romania
  | Norway
  | Luxembourg
deriving DecidableEq

def SaftJurisdiction.country_code : SaftJurisdiction → String
  | .Portugal => "PT"
  | .Poland => "PL"
  | .Romania => "RO"
  | .Norway => "NO"
  | .Luxembourg => "LU"

def SaftJurisdiction.version_string : SaftJurisdiction → String
  | .Portugal => "1.04_01"
  | .Poland => "1.0"
  | .Romania => "3.0"
  | .Norway => "1.10"
  | .Luxembourg => "2.01"

def SaftJurisdiction.namespace_uri : SaftJurisdiction → String
  | .Portugal => "urn:OECD:StandardAuditFile-Tax:PT_1.04_01"
  | .Poland => "http://jpk.mf.gov.pl/wzor/2016/11/23/11231/"
  | .Romania => "mfp:anaf:dgti:d406:declaratie:v3"
  | .Norway => "urn:StandardAuditFile-Taxation-Financial:NO"
  | .Luxembourg => "urn:OECD:StandardAuditFile-Tax:LU_2.01"

structure SaftConfig where
  jurisdiction : SaftJurisdiction
  company_tax_id : String
  company_name : String
  fiscal_year : ℕ
  start_date : Date
  end_date : Date
  currency_code : String

/-- What the file says of a customer; a supplier has the same fields under its own names. -/
structure Customer where
  customer_id : String
  name : String
  country : String
  account_number : Option String
  tax_id : Option String

structure Vendor where
  vendor_id : String
  name : String
  country : String
  account_number : Option String
  tax_id : Option String

structure Material where
  material_id : String
  description : String

structure SaftData where
  accounts : ChartOfAccounts
  customers : List Customer
  vendors : List Vendor
  materials : List Material
  journal_entries : List JournalEntry

end Configuration

section Writing

def xml_escape (s : List Char) : List Char :=
  s.flatMap fun c =>
    if c = '&' then ['&', 'a', 'm', 'p', ';']
    else if c = '<' then ['&', 'l', 't', ';']
    else if c = '>' then ['&', 'g', 't', ';']
    else if c = '\x22' then ['&', 'q', 'u', 'o', 't', ';']
    else if c = '\x27' then ['&', 'a', 'p', 'o', 's', ';']
    else [c]

/-- `{pad}<{tag}>{value}</{tag}>` on a line, the value escaped. -/
def write_elem_indent (indent : ℕ) (tag : String) (value : List Char) : List Char :=
  List.replicate indent ' ' ++ ('<' :: (tag.toList ++ ['>']) ++
    (xml_escape value ++ '<' :: '/' :: (tag.toList ++ ['>'])) ++ ['\n'])

def write_elem (tag : String) (value : List Char) : List Char := write_elem_indent 4 tag value

/-- A line of a start tag. -/
def open_tag (indent : ℕ) (tag : String) : List Char :=
  List.replicate indent ' ' ++ '<' :: (tag.toList ++ ['>', '\n'])

/-- A line of an end tag. -/
def close_tag (indent : ℕ) (tag : String) : List Char :=
  List.replicate indent ' ' ++ '<' :: '/' :: (tag.toList ++ ['>', '\n'])

def fmt_decimal (v : ScaledDecimal) : List Char := v.toText.chars

def fmt_date (d : Date) : List Char := (isoDateText d).chars

/-- `{:?}` -/
def debugText : AccountType → String
  | .asset => "Asset"
  | .liability => "Liability"
  | .equity => "Equity"
  | .revenue => "Revenue"
  | .expense => "Expense"
  | .statistical => "Statistical"

end Writing

section Sections

variable (cfg : SaftConfig) (data : SaftData)

/-- The header names the day it is written on. -/
def write_header (today : Date) : List Char :=
  open_tag 2 "Header" ++
    write_elem "AuditFileVersion" cfg.jurisdiction.version_string.toList ++
    write_elem "CompanyID" cfg.company_tax_id.toList ++
    write_elem "TaxRegistrationNumber" cfg.company_tax_id.toList ++
    write_elem "TaxAccountingBasis" "F".toList ++
    write_elem "CompanyName" cfg.company_name.toList ++
    write_elem "FiscalYear" (Nat.toDigits 10 cfg.fiscal_year) ++
    write_elem "StartDate" (fmt_date cfg.start_date) ++
    write_elem "EndDate" (fmt_date cfg.end_date) ++
    write_elem "CurrencyCode" cfg.currency_code.toList ++
    write_elem "DateCreated" (fmt_date today) ++
    write_elem "SoftwareCompanyName" "DataSynth".toList ++
    write_elem "ProductID" "DataSynth/4.3.1".toList ++
    write_elem "ProductVersion" "4.3.1".toList ++
  close_tag 2 "Header"

def write_account (acct : GLAccount) : List Char :=
  open_tag 6 "Account" ++
    write_elem_indent 8 "AccountID" acct.account_number.toList ++
    write_elem_indent 8 "AccountDescription" acct.short_description.toList ++
    write_elem_indent 8 "AccountType" (debugText acct.account_type).toList ++
    write_elem_indent 8 "OpeningDebitBalance" "0.00".toList ++
    write_elem_indent 8 "OpeningCreditBalance" "0.00".toList ++
    write_elem_indent 8 "ClosingDebitBalance" "0.00".toList ++
    write_elem_indent 8 "ClosingCreditBalance" "0.00".toList ++
  close_tag 6 "Account"

def write_billing_address (country : String) : List Char :=
  open_tag 8 "BillingAddress" ++
    write_elem_indent 10 "AddressDetail" "N/A".toList ++
    write_elem_indent 10 "City" "N/A".toList ++
    write_elem_indent 10 "PostalCode" "0000-000".toList ++
    write_elem_indent 10 "Country" country.toList ++
  close_tag 8 "BillingAddress"

def write_customer (c : Customer) : List Char :=
  open_tag 6 "CustomerEntry" ++
    write_elem_indent 8 "CustomerID" c.customer_id.toList ++
    write_elem_indent 8 "AccountID" (c.account_number.getD "DESC").toList ++
    write_elem_indent 8 "CustomerTaxID" (c.tax_id.getD "Desconhecido").toList ++
    write_elem_indent 8 "CompanyName" c.name.toList ++
    write_billing_address c.country ++
    write_elem_indent 8 "SelfBillingIndicator" "0".toList ++
  close_tag 6 "CustomerEntry"

def write_vendor (v : Vendor) : List Char :=
  open_tag 6 "SupplierEntry" ++
    write_elem_indent 8 "SupplierID" v.vendor_id.toList ++
    write_elem_indent 8 "AccountID" (v.account_number.getD "DESC").toList ++
    write_elem_indent 8 "SupplierTaxID" (v.tax_id.getD "Desconhecido").toList ++
    write_elem_indent 8 "CompanyName" v.name.toList ++
    write_billing_address v.country ++
    write_elem_indent 8 "SelfBillingIndicator" "0".toList ++
  close_tag 6 "SupplierEntry"

def write_material (m : Material) : List Char :=
  open_tag 6 "ProductEntry" ++
    write_elem_indent 8 "ProductType" "P".toList ++
    write_elem_indent 8 "ProductCode" m.material_id.toList ++
    write_elem_indent 8 "ProductDescription" m.description.toList ++
    write_elem_indent 8 "ProductNumberCode" m.material_id.toList ++
  close_tag 6 "ProductEntry"

def write_tax_table : List Char :=
  open_tag 4 "TaxTable" ++
    open_tag 6 "TaxTableEntry" ++
      write_elem_indent 8 "TaxType" "IVA".toList ++
      write_elem_indent 8 "TaxCountryRegion" cfg.jurisdiction.country_code.toList ++
      write_elem_indent 8 "TaxCode" "NOR".toList ++
      write_elem_indent 8 "Description" "Standard rate (stub)".toList ++
      write_elem_indent 8 "TaxPercentage" "0.00".toList ++
    close_tag 6 "TaxTableEntry" ++
  close_tag 4 "TaxTable"

def write_master_files : List Char :=
  open_tag 2 "MasterFiles" ++
    open_tag 4 "GeneralLedgerAccounts" ++
      data.accounts.accounts.flatMap write_account ++
    close_tag 4 "GeneralLedgerAccounts" ++
    open_tag 4 "Customer" ++
      data.customers.flatMap write_customer ++
    close_tag 4 "Customer" ++
    open_tag 4 "Supplier" ++
      data.vendors.flatMap write_vendor ++
    close_tag 4 "Supplier" ++
    open_tag 4 "Product" ++
      data.materials.flatMap write_material ++
    close_tag 4 "Product" ++
    write_tax_table cfg ++
  close_tag 2 "MasterFiles"

/-- The sum of an amount over the lines of all entries. -/
def total (entries : List JournalEntry) (amount : JournalEntryLine → ScaledDecimal) :
    ScaledDecimal :=
  entries.foldl (fun sum je => je.lines.foldl (fun sum line => add sum (amount line)) sum) zero

def side_tag (line : JournalEntryLine) : String :=
  if isPositive line.debit_amount then "DebitLine" else "CreditLine"

def side_amount (line : JournalEntryLine) : ScaledDecimal :=
  if isPositive line.debit_amount then line.debit_amount else line.credit_amount

def write_line (je_posting_date : Date) (line : JournalEntryLine) : List Char :=
  open_tag 10 (side_tag line) ++
    write_elem_indent 12 "RecordID" (Nat.toDigits 10 line.line_number) ++
    -- The field of the line, not the account it posts to.
    write_elem_indent 12 "AccountID" line.account_code.toList ++
    write_elem_indent 12 "SystemEntryDate" (fmt_date je_posting_date) ++
    write_elem_indent 12 "Description" (line.line_text.getD "").toList ++
    write_elem_indent 12 "Amount" (fmt_decimal (side_amount line)) ++
  close_tag 10 (side_tag line)

def write_transaction (je : JournalEntry) : List Char :=
  open_tag 6 "Transaction" ++
    write_elem_indent 8 "TransactionID" (uuidText je.header.document_id).chars ++
    write_elem_indent 8 "Period" (paddedDigits 2 je.header.fiscal_period) ++
    write_elem_indent 8 "TransactionDate" (fmt_date je.header.document_date) ++
    write_elem_indent 8 "SourceID" je.header.created_by.toList ++
    write_elem_indent 8 "Description" (je.header.header_text.getD "").toList ++
    write_elem_indent 8 "DocArchivalNumber" (je.header.reference.getD "").toList ++
    write_elem_indent 8 "TransactionType" "N".toList ++
    write_elem_indent 8 "GLPostingDate" (fmt_date je.header.posting_date) ++
    open_tag 8 "Lines" ++
      je.lines.flatMap (write_line je.header.posting_date) ++
    close_tag 8 "Lines" ++
  close_tag 6 "Transaction"

def write_general_ledger_entries : List Char :=
  let total_debit := total data.journal_entries (·.debit_amount)
  let total_credit := total data.journal_entries (·.credit_amount)
  open_tag 2 "GeneralLedgerEntries" ++
    write_elem_indent 4 "NumberOfEntries" (Nat.toDigits 10 data.journal_entries.length) ++
    write_elem_indent 4 "TotalDebit" (fmt_decimal total_debit) ++
    write_elem_indent 4 "TotalCredit" (fmt_decimal total_credit) ++
    open_tag 4 "Journal" ++
      write_elem_indent 6 "JournalID" "GEN".toList ++
      write_elem_indent 6 "Description" "General journal".toList ++
      data.journal_entries.flatMap write_transaction ++
    close_tag 4 "Journal" ++
  close_tag 2 "GeneralLedgerEntries"

/-- `<?xml version="1.0" encoding="UTF-8"?>` -/
def xml_declaration : List Char :=
  "<?xml version=\"1.0\" encoding=\"UTF-8\"?>".toList ++ ['\n']

/-- `<AuditFile xmlns="{}">` -/
def open_audit_file (uri : String) : List Char :=
  "<AuditFile xmlns=\"".toList ++ uri.toList ++ "\">".toList ++ ['\n']

def write_saft (today : Date) : List Char :=
  xml_declaration ++
  open_audit_file cfg.jurisdiction.namespace_uri ++
    write_header cfg today ++
    write_master_files cfg data ++
    write_general_ledger_entries data ++
  close_tag 0 "AuditFile"

end Sections

end Datasynth.Output.Saft

/-!
The SAF-T file as the tree of its fields: the writer writes the document of this tree.
-/

namespace Datasynth.Output.SaftTree

open Datasynth.Lib.BareTexts
open Datasynth.Lib.CivilCalendar
open Datasynth.Lib.DecimalText
open Datasynth.Lib.XmlMarkup
open Datasynth.Lib.XmlReader
open Datasynth.Lib.XmlTrees
open Datasynth.Output.LedgerRecords
open Datasynth.Output.Saft

section Trees

variable (cfg : SaftConfig) (data : SaftData)

def headerTree (today : Date) : Element :=
  .group "Header"
    [ .field "AuditFileVersion" cfg.jurisdiction.version_string.toList,
      .field "CompanyID" cfg.company_tax_id.toList,
      .field "TaxRegistrationNumber" cfg.company_tax_id.toList,
      .field "TaxAccountingBasis" "F".toList,
      .field "CompanyName" cfg.company_name.toList,
      .field "FiscalYear" (Nat.toDigits 10 cfg.fiscal_year),
      .field "StartDate" (fmt_date cfg.start_date),
      .field "EndDate" (fmt_date cfg.end_date),
      .field "CurrencyCode" cfg.currency_code.toList,
      .field "DateCreated" (fmt_date today),
      .field "SoftwareCompanyName" "DataSynth".toList,
      .field "ProductID" "DataSynth/4.3.1".toList,
      .field "ProductVersion" "4.3.1".toList ]

def accountTree (acct : GLAccount) : Element :=
  .group "Account"
    [ .field "AccountID" acct.account_number.toList,
      .field "AccountDescription" acct.short_description.toList,
      .field "AccountType" (debugText acct.account_type).toList,
      .field "OpeningDebitBalance" "0.00".toList,
      .field "OpeningCreditBalance" "0.00".toList,
      .field "ClosingDebitBalance" "0.00".toList,
      .field "ClosingCreditBalance" "0.00".toList ]

def billingAddressTree (country : String) : Element :=
  .group "BillingAddress"
    [ .field "AddressDetail" "N/A".toList,
      .field "City" "N/A".toList,
      .field "PostalCode" "0000-000".toList,
      .field "Country" country.toList ]

def customerTree (c : Customer) : Element :=
  .group "CustomerEntry"
    [ .field "CustomerID" c.customer_id.toList,
      .field "AccountID" (c.account_number.getD "DESC").toList,
      .field "CustomerTaxID" (c.tax_id.getD "Desconhecido").toList,
      .field "CompanyName" c.name.toList,
      billingAddressTree c.country,
      .field "SelfBillingIndicator" "0".toList ]

def vendorTree (v : Vendor) : Element :=
  .group "SupplierEntry"
    [ .field "SupplierID" v.vendor_id.toList,
      .field "AccountID" (v.account_number.getD "DESC").toList,
      .field "SupplierTaxID" (v.tax_id.getD "Desconhecido").toList,
      .field "CompanyName" v.name.toList,
      billingAddressTree v.country,
      .field "SelfBillingIndicator" "0".toList ]

def materialTree (m : Material) : Element :=
  .group "ProductEntry"
    [ .field "ProductType" "P".toList,
      .field "ProductCode" m.material_id.toList,
      .field "ProductDescription" m.description.toList,
      .field "ProductNumberCode" m.material_id.toList ]

def taxTableTree : Element :=
  .group "TaxTable"
    [ .group "TaxTableEntry"
        [ .field "TaxType" "IVA".toList,
          .field "TaxCountryRegion" cfg.jurisdiction.country_code.toList,
          .field "TaxCode" "NOR".toList,
          .field "Description" "Standard rate (stub)".toList,
          .field "TaxPercentage" "0.00".toList ] ]

def masterFilesTree : Element :=
  .group "MasterFiles"
    [ .group "GeneralLedgerAccounts" (data.accounts.accounts.map accountTree),
      .group "Customer" (data.customers.map customerTree),
      .group "Supplier" (data.vendors.map vendorTree),
      .group "Product" (data.materials.map materialTree),
      taxTableTree cfg ]

def lineTree (posting_date : Date) (line : JournalEntryLine) : Element :=
  .group (side_tag line)
    [ .field "RecordID" (Nat.toDigits 10 line.line_number),
      .field "AccountID" line.account_code.toList,
      .field "SystemEntryDate" (fmt_date posting_date),
      .field "Description" (line.line_text.getD "").toList,
      .field "Amount" (fmt_decimal (side_amount line)) ]

def transactionTree (je : JournalEntry) : Element :=
  .group "Transaction"
    [ .field "TransactionID" (uuidText je.header.document_id).chars,
      .field "Period" (paddedDigits 2 je.header.fiscal_period),
      .field "TransactionDate" (fmt_date je.header.document_date),
      .field "SourceID" je.header.created_by.toList,
      .field "Description" (je.header.header_text.getD "").toList,
      .field "DocArchivalNumber" (je.header.reference.getD "").toList,
      .field "TransactionType" "N".toList,
      .field "GLPostingDate" (fmt_date je.header.posting_date),
      .group "Lines" (je.lines.map (lineTree je.header.posting_date)) ]

def ledgerTree : Element :=
  .group "GeneralLedgerEntries"
    [ .field "NumberOfEntries" (Nat.toDigits 10 data.journal_entries.length),
      .field "TotalDebit" (fmt_decimal (total data.journal_entries (·.debit_amount))),
      .field "TotalCredit" (fmt_decimal (total data.journal_entries (·.credit_amount))),
      .group "Journal"
        (.field "JournalID" "GEN".toList :: .field "Description" "General journal".toList ::
          data.journal_entries.map transactionTree) ]

def sections (today : Date) : List Element :=
  [headerTree cfg today, masterFilesTree cfg data, ledgerTree data]

/-- What the file says. -/
def auditFile (today : Date) : Element := .group "AuditFile" (sections cfg data today)

end Trees

section Rendering

variable {cfg : SaftConfig} {data : SaftData} {today : Date}

@[simp] theorem render_field (depth : ℕ) (tag : String) (text : List Char) :
    (Element.field tag text).render depth = write_elem_indent (2 * depth) tag text := rfl

@[simp] theorem render_group (depth : ℕ) (tag : String) (children : List Element) :
    (Element.group tag children).render depth =
      open_tag (2 * depth) tag ++ (renderAll (depth + 1) children ++
        close_tag (2 * depth) tag) := by
  simp [Element.render, open_tag, close_tag, indent, startTag, endTag]

theorem render_headerTree : (headerTree cfg today).render 1 = write_header cfg today := by
  simp [headerTree, write_header, write_elem]

theorem render_accountTree (acct : GLAccount) :
    (accountTree acct).render 3 = write_account acct := by
  simp [accountTree, write_account]

theorem render_billingAddressTree (country : String) :
    (billingAddressTree country).render 4 = write_billing_address country := by
  simp [billingAddressTree, write_billing_address]

theorem render_customerTree (c : Customer) : (customerTree c).render 3 = write_customer c := by
  simp [customerTree, write_customer, render_billingAddressTree]

theorem render_vendorTree (v : Vendor) : (vendorTree v).render 3 = write_vendor v := by
  simp [vendorTree, write_vendor, render_billingAddressTree]

theorem render_materialTree (m : Material) : (materialTree m).render 3 = write_material m := by
  simp [materialTree, write_material]

theorem render_taxTableTree : (taxTableTree cfg).render 2 = write_tax_table cfg := by
  simp [taxTableTree, write_tax_table]

theorem render_masterFilesTree :
    (masterFilesTree cfg data).render 1 = write_master_files cfg data := by
  simp [masterFilesTree, write_master_files, render_accountTree, render_customerTree,
    render_vendorTree, render_materialTree, render_taxTableTree]

theorem render_lineTree (date : Date) (line : JournalEntryLine) :
    (lineTree date line).render 5 = write_line date line := by
  simp [lineTree, write_line]

theorem render_transactionTree (je : JournalEntry) :
    (transactionTree je).render 3 = write_transaction je := by
  simp [transactionTree, write_transaction, render_lineTree]

theorem render_ledgerTree :
    (ledgerTree data).render 1 = write_general_ledger_entries data := by
  simp [ledgerTree, write_general_ledger_entries, render_transactionTree]

theorem startTagWith_newline (name key value : List Char) :
    startTagWith name key value ++ ['\n'] =
      '<' :: (name ++ ' ' :: (key ++ ['=', doubleQuote])) ++ value ++ [doubleQuote, '>'] ++
        ['\n'] := by
  simp [startTagWith]

theorem open_audit_file_eq (uri : String) :
    open_audit_file uri =
      startTagWith "AuditFile".toList "xmlns".toList uri.toList ++ ['\n'] := by
  have hstart : "<AuditFile xmlns=\"".toList =
      '<' :: ("AuditFile".toList ++ ' ' :: ("xmlns".toList ++ ['=', doubleQuote])) := by
    decide
  have hend : "\">".toList = [doubleQuote, '>'] := by decide
  exact (congrArg₂ (fun s e => s ++ uri.toList ++ e ++ ['\n']) hstart hend).trans
    (startTagWith_newline _ _ _).symm

theorem xml_declaration_eq : xml_declaration = declaration ++ ['\n'] := rfl

theorem close_tag_zero (tag : String) : close_tag 0 tag = endTag tag.toList ++ ['\n'] := by
  simp [close_tag, endTag]

/-- The writer writes the document of the tree. -/
theorem write_saft_eq : write_saft cfg data today =
    renderDocument "AuditFile" "xmlns".toList cfg.jurisdiction.namespace_uri.toList
      (sections cfg data today) := by
  rw [write_saft, xml_declaration_eq, open_audit_file_eq, close_tag_zero, renderDocument, document]
  simp only [sections, renderAll_cons, renderAll_nil, render_headerTree, render_masterFilesTree,
    render_ledgerTree, List.append_assoc, List.cons_append, List.nil_append, List.append_nil]

end Rendering

end Datasynth.Output.SaftTree
