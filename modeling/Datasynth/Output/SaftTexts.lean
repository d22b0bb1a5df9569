import Mathlib.Tactic.Tauto
import Datasynth.Lib.ByteEncoding
import Datasynth.Output.Saft

/-!
The tags and the texts of the SAF-T file.  Every tag is a name, and every text that the
writer makes itself can stand in a document; what is left are the strings it is given.
-/

namespace Datasynth.Output.SaftTexts

open Datasynth.Lib.AmountText
open Datasynth.Lib.BareTexts
open Datasynth.Lib.ByteEncoding
open Datasynth.Lib.CivilCalendar
open Datasynth.Lib.DecimalText
open Datasynth.Lib.LiteralTexts
open Datasynth.Lib.XmlMarkup
open Datasynth.Lib.XmlReader
open Datasynth.Lib.XmlTrees
open Datasynth.Output.LedgerRecords
open Datasynth.Output.Saft
open Datasynth.Output.SaftTree

variable {cfg : SaftConfig} {data : SaftData} {today : Date}

section Tags

def plainName (name : List Char) : Bool := name ≠ [] ∧ name.all Char.isAlpha = true

/-- The tags of the file. -/
def vocabulary : List String :=
  [ "Header", "AuditFileVersion", "CompanyID", "TaxRegistrationNumber", "TaxAccountingBasis",
    "CompanyName", "FiscalYear", "StartDate", "EndDate", "CurrencyCode", "DateCreated",
    "SoftwareCompanyName", "ProductID", "ProductVersion", "Account", "AccountID",
    "AccountDescription", "AccountType", "OpeningDebitBalance", "OpeningCreditBalance",
    "ClosingDebitBalance", "ClosingCreditBalance", "CustomerEntry", "CustomerID", "CustomerTaxID",
    "BillingAddress", "AddressDetail", "City", "PostalCode", "Country", "SelfBillingIndicator",
    "SupplierEntry", "SupplierID", "SupplierTaxID", "ProductEntry", "ProductType", "ProductCode",
    "ProductDescription", "ProductNumberCode", "TaxTable", "TaxTableEntry", "TaxType",
    "TaxCountryRegion", "TaxCode", "Description", "TaxPercentage", "DebitLine", "CreditLine",
    "RecordID", "SystemEntryDate", "Amount", "Transaction", "TransactionID", "Period",
    "TransactionDate", "SourceID", "DocArchivalNumber", "TransactionType", "GLPostingDate",
    "Lines", "GeneralLedgerEntries", "NumberOfEntries", "TotalDebit", "TotalCredit", "Journal",
    "JournalID", "MasterFiles", "GeneralLedgerAccounts", "Customer", "Supplier", "Product",
    "AuditFile", "xmlns" ]

theorem plain_vocabulary (tag : String) (htag : tag ∈ vocabulary) : IsPlainName tag.toList := by
  have hplain : ∀ tag ∈ vocabulary, plainName tag.toList = true := by
    apply forall_mem_toList plainName
    · repeat apply map_toList_cons String.toList_ofList
      rfl
    · rfl
  obtain ⟨hne, halpha⟩ := decide_eq_true_eq.mp (hplain tag htag)
  exact ⟨hne, List.all_eq_true.mp halpha⟩

theorem plain_tags (tags : List String) (h : ∀ tag ∈ tags, tag ∈ vocabulary) :
    ∀ tag ∈ tags, IsPlainName tag.toList :=
  fun tag htag => plain_vocabulary tag (h tag htag)

theorem plain_headerTree : ∀ tag ∈ (headerTree cfg today).tags, IsPlainName tag.toList :=
  plain_tags ["Header", "AuditFileVersion", "CompanyID", "TaxRegistrationNumber",
    "TaxAccountingBasis", "CompanyName", "FiscalYear", "StartDate", "EndDate", "CurrencyCode",
    "DateCreated", "SoftwareCompanyName", "ProductID", "ProductVersion"] (by simp [vocabulary])

theorem plain_accountTree (acct : GLAccount) :
    ∀ tag ∈ (accountTree acct).tags, IsPlainName tag.toList :=
  plain_tags ["Account", "AccountID", "AccountDescription", "AccountType", "OpeningDebitBalance",
    "OpeningCreditBalance", "ClosingDebitBalance", "ClosingCreditBalance"] (by simp [vocabulary])

theorem plain_customerTree (c : Customer) :
    ∀ tag ∈ (customerTree c).tags, IsPlainName tag.toList :=
  plain_tags ["CustomerEntry", "CustomerID", "AccountID", "CustomerTaxID", "CompanyName",
    "BillingAddress", "AddressDetail", "City", "PostalCode", "Country", "SelfBillingIndicator"]
    (by simp [vocabulary])

theorem plain_vendorTree (v : Vendor) : ∀ tag ∈ (vendorTree v).tags, IsPlainName tag.toList :=
  plain_tags ["SupplierEntry", "SupplierID", "AccountID", "SupplierTaxID", "CompanyName",
    "BillingAddress", "AddressDetail", "City", "PostalCode", "Country", "SelfBillingIndicator"]
    (by simp [vocabulary])

theorem plain_materialTree (m : Material) :
    ∀ tag ∈ (materialTree m).tags, IsPlainName tag.toList :=
  plain_tags ["ProductEntry", "ProductType", "ProductCode", "ProductDescription",
    "ProductNumberCode"] (by simp [vocabulary])

theorem plain_taxTableTree : ∀ tag ∈ (taxTableTree cfg).tags, IsPlainName tag.toList :=
  plain_tags ["TaxTable", "TaxTableEntry", "TaxType", "TaxCountryRegion", "TaxCode", "Description",
    "TaxPercentage"] (by simp [vocabulary])

theorem plain_lineTree (date : Date) (line : JournalEntryLine) :
    ∀ tag ∈ (lineTree date line).tags, IsPlainName tag.toList := by
  have hsides := plain_tags ["DebitLine", "CreditLine"] (by simp [vocabulary])
  have hside : IsPlainName (side_tag line).toList := by
    rw [side_tag]
    split
    · exact hsides _ List.mem_cons_self
    · exact hsides _ (List.mem_cons_of_mem _ List.mem_cons_self)
  rw [lineTree, Element.tags, List.forall_mem_cons]
  exact ⟨hside, plain_tags ["RecordID", "AccountID", "SystemEntryDate", "Description", "Amount"]
    (by simp [vocabulary])⟩

theorem forall_tagsOf_map {α : Type*} {P : String → Prop} {f : α → Element} {xs : List α}
    (h : ∀ x, ∀ tag ∈ (f x).tags, P tag) : ∀ tag ∈ tagsOf (xs.map f), P tag := by
  rw [tagsOf_eq, List.flatMap_map, List.forall_mem_flatMap]
  exact fun x _ => h x

theorem plain_transactionTree (je : JournalEntry) :
    ∀ tag ∈ (transactionTree je).tags, IsPlainName tag.toList := by
  have hnames := plain_tags ["Transaction", "TransactionID", "Period", "TransactionDate",
    "SourceID", "Description", "DocArchivalNumber", "TransactionType", "GLPostingDate", "Lines"]
    (by simp [vocabulary])
  have htags : (transactionTree je).tags = ["Transaction", "TransactionID", "Period",
      "TransactionDate", "SourceID", "Description", "DocArchivalNumber", "TransactionType",
      "GLPostingDate", "Lines"] ++
        (tagsOf (je.lines.map (lineTree je.header.posting_date)) ++ []) := rfl
  rw [htags, List.forall_mem_append, List.append_nil]
  exact ⟨hnames, forall_tagsOf_map (plain_lineTree _)⟩

theorem plain_ledgerTree : ∀ tag ∈ (ledgerTree data).tags, IsPlainName tag.toList := by
  have hnames := plain_tags ["GeneralLedgerEntries", "NumberOfEntries", "TotalDebit",
    "TotalCredit", "Journal", "JournalID", "Description"] (by simp [vocabulary])
  have htags : (ledgerTree data).tags = ["GeneralLedgerEntries", "NumberOfEntries", "TotalDebit",
      "TotalCredit", "Journal", "JournalID", "Description"] ++
        (tagsOf (data.journal_entries.map transactionTree) ++ []) := rfl
  rw [htags, List.forall_mem_append, List.append_nil]
  exact ⟨hnames, forall_tagsOf_map plain_transactionTree⟩

theorem plain_masterFilesTree :
    ∀ tag ∈ (masterFilesTree cfg data).tags, IsPlainName tag.toList := by
  have hnames := plain_tags ["MasterFiles", "GeneralLedgerAccounts", "Customer", "Supplier",
    "Product"] (by simp [vocabulary])
  have htags : (masterFilesTree cfg data).tags =
      "MasterFiles" ::
        (("GeneralLedgerAccounts" :: tagsOf (data.accounts.accounts.map accountTree)) ++
        (("Customer" :: tagsOf (data.customers.map customerTree)) ++
        (("Supplier" :: tagsOf (data.vendors.map vendorTree)) ++
        (("Product" :: tagsOf (data.materials.map materialTree)) ++
        ((taxTableTree cfg).tags ++ []))))) := rfl
  rw [htags]
  simp only [List.forall_mem_cons, List.forall_mem_append] at hnames ⊢
  exact ⟨hnames.1, ⟨hnames.2.1, forall_tagsOf_map plain_accountTree⟩,
    ⟨hnames.2.2.1, forall_tagsOf_map plain_customerTree⟩,
    ⟨hnames.2.2.2.1, forall_tagsOf_map plain_vendorTree⟩,
    ⟨hnames.2.2.2.2.1, forall_tagsOf_map plain_materialTree⟩, plain_taxTableTree,
    List.forall_mem_nil _⟩

theorem plain_sections :
    ∀ tag ∈ "AuditFile" :: tagsOf (sections cfg data today), IsPlainName tag.toList := by
  have hroot := plain_tags ["AuditFile"] (by simp [vocabulary])
  rw [List.forall_mem_cons, tagsOf_eq, List.forall_mem_flatMap, sections]
  simp only [List.forall_mem_cons]
  exact ⟨hroot _ List.mem_cons_self, plain_headerTree, plain_masterFilesTree, plain_ledgerTree,
    List.forall_mem_nil _⟩

theorem plain_key : IsPlainName "xmlns".toList :=
  plain_tags ["xmlns"] (by simp [vocabulary]) _ List.mem_cons_self

theorem plain_namespace_uri (j : SaftJurisdiction) :
    ∀ c ∈ j.namespace_uri.toList, isPlainValue c = true := by
  have hall : ∀ j ∈ [SaftJurisdiction.Portugal, .Poland, .Romania, .Norway, .Luxembourg],
      j.namespace_uri.toList.all isPlainValue = true := by decide
  exact List.all_eq_true.mp (hall j (by cases j <;> simp))

end Tags

section WrittenTexts

theorem isClean_of_printable {text : List Char} (h : ∀ c ∈ text, isPrintable c = true) :
    IsClean text := by
  intro c hc
  refine ⟨isXmlChar_of_isPrintable (h c hc), ?_⟩
  rintro rfl
  exact absurd (h _ hc) (by decide)

theorem isPrintable_of_isDigit {c : Char} (h : c.isDigit = true) : isPrintable c = true := by
  rw [isPrintable, decide_eq_true_eq]
  simp only [Char.isDigit, Bool.and_eq_true, decide_eq_true_eq, UInt32.le_iff_toNat_le] at h
  have hvalue : c.val.toNat = c.toNat := rfl
  have hzero : '0'.val.toNat = 48 ∧ '9'.val.toNat = 57 := ⟨rfl, rfl⟩
  omega

theorem clean_digits (n : ℕ) : IsClean (Nat.toDigits 10 n) :=
  isClean_of_printable fun _ hc => isPrintable_of_isDigit (isDigit_of_mem_toDigits hc)

theorem clean_paddedDigits (width n : ℕ) : IsClean (paddedDigits width n) :=
  isClean_of_printable fun _ hc => isPrintable_of_isDigit (isDigit_of_mem_paddedDigits hc)

theorem clean_append {a b : BareText} (ha : IsClean a.chars) (hb : IsClean b.chars) :
    IsClean (a ++ b).chars :=
  List.forall_mem_append.mpr ⟨ha, hb⟩

theorem clean_minus : IsClean minusText.chars :=
  isClean_of_printable (List.all_eq_true.mp (by decide))

theorem clean_yearText (year : ℤ) : IsClean (yearText year).chars := by
  have hplus : IsClean plusText.chars := isClean_of_printable (List.all_eq_true.mp (by decide))
  rw [yearText]
  split
  · exact clean_paddedDigits _ _
  · split
    · exact clean_append clean_minus (clean_paddedDigits _ _)
    · exact clean_append hplus (clean_paddedDigits _ _)

theorem clean_date (d : Date) : IsClean (fmt_date d) :=
  clean_append (clean_append (clean_append (clean_append (clean_yearText _) clean_minus)
    (clean_paddedDigits _ _)) clean_minus) (clean_paddedDigits _ _)

theorem clean_decimal (v : ScaledDecimal) : IsClean (fmt_decimal v) := by
  have hpoint : IsClean pointText.chars := isClean_of_printable (List.all_eq_true.mp (by decide))
  have hfraction : IsClean (if v.scale = 0 then BareText.empty
      else pointText ++ paddedText v.scale (v.coefficient % 10 ^ v.scale)).chars := by
    split
    · exact List.forall_mem_nil _
    · exact clean_append hpoint (clean_paddedDigits _ _)
  have hmagnitude : IsClean v.magnitudeText.chars := clean_append (clean_digits _) hfraction
  rw [fmt_decimal, ScaledDecimal.toText]
  split
  · exact clean_append clean_minus hmagnitude
  · exact hmagnitude

theorem clean_hexText (bytes : List Byte) : IsClean (hexText bytes).chars := by
  have hdigit : ∀ n < 16, isPrintable (hexDigit n) = true := by decide
  apply isClean_of_printable
  intro c hc
  obtain ⟨b, -, hc⟩ := List.mem_flatMap.mp hc
  have hb := b.isLt
  rw [List.mem_cons, List.mem_singleton] at hc
  rcases hc with rfl | rfl
  · exact hdigit _ (by omega)
  · exact hdigit _ (by omega)

theorem clean_uuid (bytes : List Byte) : IsClean (uuidText bytes).chars := by
  have hgroup : ∀ {text : BareText} (group : List Byte), IsClean text.chars →
      IsClean (text ++ minusText ++ hexText group).chars := fun group htext =>
    clean_append (clean_append htext clean_minus) (clean_hexText group)
  exact hgroup _ (hgroup _ (hgroup _ (hgroup _ (clean_hexText _))))

/-- The texts that the writer brings itself. -/
def constants : List String :=
  [ "1.04_01", "1.0", "3.0", "1.10", "2.01", "F", "DataSynth", "DataSynth/4.3.1", "4.3.1", "Asset",
    "Liability", "Equity", "Revenue", "Expense", "Statistical", "0.00", "N/A", "0000-000", "0",
    "P", "PT", "PL", "RO", "NO", "LU", "IVA", "NOR", "Standard rate (stub)", "N", "GEN",
    "General journal" ]

theorem clean_constants (texts : List String) (h : ∀ s ∈ texts, s ∈ constants) :
    ∀ s ∈ texts, IsClean s.toList := by
  have hall : (constants.all fun s => s.toList.all isPrintable) = true := by
    decide +kernel
  intro s hs
  exact isClean_of_printable (List.all_eq_true.mp (List.all_eq_true.mp hall s (h s hs)))

end WrittenTexts

section GivenTexts

/-- The strings of the configuration and of the data that the file has texts of. -/
def givenTexts (cfg : SaftConfig) (data : SaftData) : List String :=
  [cfg.company_tax_id, cfg.company_name, cfg.currency_code] ++
  data.accounts.accounts.flatMap (fun acct => [acct.account_number, acct.short_description]) ++
  data.customers.flatMap (fun c => [c.customer_id, c.account_number.getD "DESC",
    c.tax_id.getD "Desconhecido", c.name, c.country]) ++
  data.vendors.flatMap (fun v => [v.vendor_id, v.account_number.getD "DESC",
    v.tax_id.getD "Desconhecido", v.name, v.country]) ++
  data.materials.flatMap (fun m => [m.material_id, m.description]) ++
  data.journal_entries.flatMap fun je =>
    [je.header.created_by, je.header.header_text.getD "", je.header.reference.getD ""] ++
    je.lines.flatMap fun line => [line.account_code, line.line_text.getD ""]

/-- The texts of an element are clean exactly if the strings are. -/
def CleanAs (e : Element) (strings : List String) : Prop :=
  (∀ text ∈ e.fields, IsClean text) ↔ ∀ s ∈ strings, IsClean s.toList

theorem cleanAs_headerTree : CleanAs (headerTree cfg today)
    [cfg.company_tax_id, cfg.company_name, cfg.currency_code] := by
  have hversion : IsClean cfg.jurisdiction.version_string.toList := by
    apply clean_constants ["1.04_01", "1.0", "3.0", "1.10", "2.01"] (by simp [constants])
    cases cfg.jurisdiction <;> simp [SaftJurisdiction.version_string]
  have hconstants := clean_constants ["F", "DataSynth", "DataSynth/4.3.1", "4.3.1"]
    (by simp [constants])
  have hfields : (headerTree cfg today).fields = [
      cfg.jurisdiction.version_string.toList, cfg.company_tax_id.toList, cfg.company_tax_id.toList,
      "F".toList, cfg.company_name.toList, Nat.toDigits 10 cfg.fiscal_year,
      fmt_date cfg.start_date, fmt_date cfg.end_date, cfg.currency_code.toList, fmt_date today,
      "DataSynth".toList, "DataSynth/4.3.1".toList, "4.3.1".toList] := rfl
  rw [CleanAs, hfields]
  simp only [List.forall_mem_cons, clean_digits, clean_date, hversion] at hconstants ⊢
  tauto

theorem cleanAs_accountTree (acct : GLAccount) :
    CleanAs (accountTree acct) [acct.account_number, acct.short_description] := by
  have htype : IsClean (debugText acct.account_type).toList := by
    apply clean_constants ["Asset", "Liability", "Equity", "Revenue", "Expense", "Statistical"]
      (by simp [constants])
    cases acct.account_type <;> simp [debugText]
  have hconstants := clean_constants ["0.00"] (by simp [constants])
  have hfields : (accountTree acct).fields = [acct.account_number.toList,
      acct.short_description.toList, (debugText acct.account_type).toList, "0.00".toList,
      "0.00".toList, "0.00".toList, "0.00".toList] := rfl
  rw [CleanAs, hfields]
  simp only [List.forall_mem_cons, htype] at hconstants ⊢
  tauto

/-- A customer and a vendor have texts of the same strings. -/
theorem cleanAs_party {e : Element} {id account_number tax_id name country : String}
    (hfields : e.fields = [id.toList, account_number.toList, tax_id.toList, name.toList,
      "N/A".toList, "N/A".toList, "0000-000".toList, country.toList, "0".toList]) :
    CleanAs e [id, account_number, tax_id, name, country] := by
  have hconstants := clean_constants ["N/A", "0000-000", "0"] (by simp [constants])
  rw [CleanAs, hfields]
  simp only [List.forall_mem_cons] at hconstants ⊢
  tauto

theorem cleanAs_customerTree (c : Customer) : CleanAs (customerTree c) [c.customer_id,
    c.account_number.getD "DESC", c.tax_id.getD "Desconhecido", c.name, c.country] :=
  cleanAs_party rfl

theorem cleanAs_vendorTree (v : Vendor) : CleanAs (vendorTree v) [v.vendor_id,
    v.account_number.getD "DESC", v.tax_id.getD "Desconhecido", v.name, v.country] :=
  cleanAs_party rfl

theorem cleanAs_materialTree (m : Material) :
    CleanAs (materialTree m) [m.material_id, m.description] := by
  have hconstants := clean_constants ["P"] (by simp [constants])
  have hfields : (materialTree m).fields = ["P".toList, m.material_id.toList,
      m.description.toList, m.material_id.toList] := rfl
  rw [CleanAs, hfields]
  simp only [List.forall_mem_cons] at hconstants ⊢
  tauto

theorem clean_taxTableTree : ∀ text ∈ (taxTableTree cfg).fields, IsClean text := by
  have hcountry : IsClean cfg.jurisdiction.country_code.toList := by
    apply clean_constants ["PT", "PL", "RO", "NO", "LU"] (by simp [constants])
    cases cfg.jurisdiction <;> simp [SaftJurisdiction.country_code]
  have hconstants := clean_constants ["IVA", "NOR", "Standard rate (stub)", "0.00"]
    (by simp [constants])
  have hfields : (taxTableTree cfg).fields = ["IVA".toList,
      cfg.jurisdiction.country_code.toList, "NOR".toList, "Standard rate (stub)".toList,
      "0.00".toList] := rfl
  rw [hfields]
  simp only [List.forall_mem_cons, hcountry] at hconstants ⊢
  tauto

theorem cleanAs_lineTree (date : Date) (line : JournalEntryLine) :
    CleanAs (lineTree date line) [line.account_code, line.line_text.getD ""] := by
  have hfields : (lineTree date line).fields = [Nat.toDigits 10 line.line_number,
      line.account_code.toList, fmt_date date, (line.line_text.getD "").toList,
      fmt_decimal (side_amount line)] := rfl
  rw [CleanAs, hfields]
  simp only [List.forall_mem_cons, clean_digits, clean_date, clean_decimal, true_and,
    List.not_mem_nil, false_imp_iff, implies_true]

theorem clean_map_iff {α : Type*} {tree : α → Element} {strings : α → List String} {xs : List α}
    (h : ∀ x, CleanAs (tree x) (strings x)) :
    (∀ text ∈ fieldsOf (xs.map tree), IsClean text) ↔
      ∀ s ∈ xs.flatMap strings, IsClean s.toList := by
  rw [fieldsOf_eq, List.flatMap_map, List.forall_mem_flatMap, List.forall_mem_flatMap]
  exact forall₂_congr fun x _ => h x

theorem cleanAs_transactionTree (je : JournalEntry) : CleanAs (transactionTree je)
    ([je.header.created_by, je.header.header_text.getD "", je.header.reference.getD ""] ++
      je.lines.flatMap fun line => [line.account_code, line.line_text.getD ""]) := by
  have hconstants := clean_constants ["N"] (by simp [constants])
  have hfields : (transactionTree je).fields = [(uuidText je.header.document_id).chars,
      paddedDigits 2 je.header.fiscal_period, fmt_date je.header.document_date,
      je.header.created_by.toList, (je.header.header_text.getD "").toList,
      (je.header.reference.getD "").toList, "N".toList, fmt_date je.header.posting_date] ++
        (fieldsOf (je.lines.map (lineTree je.header.posting_date)) ++ []) := rfl
  rw [CleanAs, hfields, List.append_nil, List.forall_mem_append,
    clean_map_iff (cleanAs_lineTree je.header.posting_date), List.forall_mem_append]
  simp only [List.forall_mem_cons, clean_uuid, clean_paddedDigits, clean_date] at hconstants ⊢
  tauto

theorem cleanAs_ledgerTree : CleanAs (ledgerTree data) (data.journal_entries.flatMap fun je =>
    [je.header.created_by, je.header.header_text.getD "", je.header.reference.getD ""] ++
      je.lines.flatMap fun line => [line.account_code, line.line_text.getD ""]) := by
  have hconstants := clean_constants ["GEN", "General journal"] (by simp [constants])
  have hfields : (ledgerTree data).fields = [Nat.toDigits 10 data.journal_entries.length,
      fmt_decimal (total data.journal_entries (·.debit_amount)),
      fmt_decimal (total data.journal_entries (·.credit_amount)), "GEN".toList,
      "General journal".toList] ++
        (fieldsOf (data.journal_entries.map transactionTree) ++ []) := rfl
  rw [CleanAs, hfields, List.append_nil, List.forall_mem_append,
    clean_map_iff cleanAs_transactionTree]
  simp only [List.forall_mem_cons, clean_digits, clean_decimal, true_and, List.not_mem_nil,
    false_imp_iff, implies_true] at hconstants ⊢
  exact and_iff_right hconstants

/-- The texts of the file are clean exactly if the strings are that it is given. -/
theorem clean_sections_iff : (∀ text ∈ fieldsOf (sections cfg data today), IsClean text) ↔
    ∀ s ∈ givenTexts cfg data, IsClean s.toList := by
  have hmaster : (masterFilesTree cfg data).fields =
      fieldsOf (data.accounts.accounts.map accountTree) ++
      (fieldsOf (data.customers.map customerTree) ++
      (fieldsOf (data.vendors.map vendorTree) ++
      (fieldsOf (data.materials.map materialTree) ++ ((taxTableTree cfg).fields ++ [])))) := rfl
  have hheader : CleanAs (headerTree cfg today) _ := cleanAs_headerTree
  have hledger : CleanAs (ledgerTree data) _ := cleanAs_ledgerTree
  have htax : ∀ text ∈ (taxTableTree cfg).fields, IsClean text := clean_taxTableTree
  rw [CleanAs] at hheader hledger
  simp only [sections, fieldsOf, hmaster, List.append_nil, List.forall_mem_append, givenTexts,
    hheader, hledger, clean_map_iff cleanAs_accountTree, clean_map_iff cleanAs_customerTree,
    clean_map_iff cleanAs_vendorTree, clean_map_iff cleanAs_materialTree]
  tauto

end GivenTexts

end Datasynth.Output.SaftTexts
