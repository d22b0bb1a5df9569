import Mathlib
import Datasynth.Output.SaftTexts

/-!
What the SAF-T file is held to: it is a document of the texts it is given, every line names
the account it posts to, and the control totals are the sums of the lines on their side.
-/

namespace Datasynth.Output.SaftContract

open Datasynth.Lib.AmountText
open Datasynth.Lib.BareTexts
open Datasynth.Lib.CivilCalendar
open Datasynth.Lib.ScaledSums
open Datasynth.Lib.XmlTrees
open Datasynth.Output.LedgerRecords
open Datasynth.Output.Saft
open Datasynth.Output.SaftTexts
open Datasynth.Output.SaftTree

variable {cfg : SaftConfig} {data : SaftData} {today : Date}

section Queries

/-- The lines of the ledger on the sides, and one of their fields. -/
def linePath (sides : List String) (field : String) : List (List String) :=
  [["GeneralLedgerEntries"], ["Journal"], ["Transaction"], ["Lines"], sides, [field]]

def totalPath (tag : String) : List (List String) := [["GeneralLedgerEntries"], [tag]]

def allLines (data : SaftData) : List JournalEntryLine := data.journal_entries.flatMap (·.lines)

theorem texts_ledger (path : List (List String)) :
    (auditFile cfg data today).texts (["GeneralLedgerEntries"] :: path) =
      (ledgerTree data).texts path := by
  simp [auditFile, sections, Element.texts, Element.tag, headerTree, masterFilesTree, ledgerTree]

/-- The texts behind a step of a path into elements that are made of values. -/
theorem flatMap_texts_map {α : Type*} (tags : List String) (path : List (List String))
    (tree : α → Element) (xs : List α) :
    ((xs.map tree).filter fun e => e.tag ∈ tags).flatMap (Element.texts path) =
      (xs.filter fun x => (tree x).tag ∈ tags).flatMap fun x => (tree x).texts path := by
  rw [List.filter_map, List.flatMap_map]
  rfl

theorem texts_transactions (path : List (List String)) :
    (ledgerTree data).texts (["Journal"] :: ["Transaction"] :: path) =
      data.journal_entries.flatMap fun je => (transactionTree je).texts path := by
  have hall := flatMap_texts_map ["Transaction"] path transactionTree data.journal_entries
  have htag : ∀ je, decide ((transactionTree je).tag ∈ ["Transaction"]) = true := by
    intro je
    simp [transactionTree, Element.tag]
  simp only [htag, List.filter_true] at hall
  rw [← hall]
  simp [ledgerTree, Element.texts, Element.tag]

theorem texts_lines {field : String} {text : JournalEntryLine → List Char}
    (h : ∀ date line, (lineTree date line).texts [[field]] = [text line]) (sides : List String)
    (je : JournalEntry) :
    (transactionTree je).texts [["Lines"], sides, [field]] =
      (je.lines.filter fun line => side_tag line ∈ sides).map text := by
  have hlines := flatMap_texts_map sides [[field]] (lineTree je.header.posting_date) je.lines
  simp only [h, ← List.map_eq_flatMap] at hlines
  rw [← show (je.lines.filter fun line => (lineTree je.header.posting_date line).tag ∈ sides) =
    je.lines.filter fun line => side_tag line ∈ sides from rfl, ← hlines]
  simp [transactionTree, Element.texts, Element.tag]

/-- A field of the lines on some sides, in the order of the entries. -/
theorem texts_linePath {field : String} {text : JournalEntryLine → List Char}
    (h : ∀ date line, (lineTree date line).texts [[field]] = [text line]) (sides : List String) :
    (auditFile cfg data today).texts (linePath sides field) =
      ((allLines data).filter fun line => side_tag line ∈ sides).map text := by
  rw [linePath, texts_ledger, texts_transactions, allLines, List.filter_flatMap, List.map_flatMap]
  congr 1
  funext je
  exact texts_lines h sides je

theorem texts_accountID (date : Date) (line : JournalEntryLine) :
    (lineTree date line).texts [["AccountID"]] = [line.account_code.toList] := by
  simp [lineTree, Element.texts, Element.tag]

theorem texts_amount (date : Date) (line : JournalEntryLine) :
    (lineTree date line).texts [["Amount"]] = [fmt_decimal (side_amount line)] := by
  simp [lineTree, Element.texts, Element.tag]

theorem texts_totalDebit : (auditFile cfg data today).texts (totalPath "TotalDebit") =
    [fmt_decimal (total data.journal_entries (·.debit_amount))] := by
  rw [totalPath, texts_ledger]
  simp [ledgerTree, Element.texts, Element.tag]

theorem texts_totalCredit : (auditFile cfg data today).texts (totalPath "TotalCredit") =
    [fmt_decimal (total data.journal_entries (·.credit_amount))] := by
  rw [totalPath, texts_ledger]
  simp [ledgerTree, Element.texts, Element.tag]

end Queries

section Totals

theorem value_total (entries : List JournalEntry) (amount : JournalEntryLine → ScaledDecimal) :
    value (total entries amount) =
      ((entries.flatMap (·.lines)).map fun line => value (amount line)).sum := by
  have hrun : total entries amount =
      (entries.flatMap (·.lines)).foldl (fun sum line => add sum (amount line)) zero := by
    rw [total, List.foldl_flatMap]
  rw [hrun, value_foldl_add]
  simp [zero, value]

theorem sum_filter_add_sum_filter {α : Type*} (p : α → Bool) (f : α → ℚ) (xs : List α) :
    (xs.map f).sum = ((xs.filter p).map f).sum + ((xs.filter fun x => !p x).map f).sum := by
  induction xs with
  | nil => simp
  | cons x xs ih => cases hp : p x <;> simp [hp, ih] <;> ring

end Totals

section Contract

/-- The text of a total stands for the sum of what the texts of the amounts on its side
stand for. -/
def IsControlTotal (root : Element) (tag side : String) : Prop :=
  ∃ (x : ℚ) (amounts : List ℚ), (root.texts (totalPath tag)).map readAmount = [some x] ∧
    (root.texts (linePath [side] "Amount")).map readAmount = amounts.map some ∧ x = amounts.sum

/-- What a file is held to that is written on some day.  A reader finds the tree of the
texts in it; and in this tree the lines name the accounts of the ledger, and the control
totals are right. -/
structure IsAuditFile (cfg : SaftConfig) (data : SaftData) (today : Date) : Prop where
  document : DocumentHolds (write_saft cfg data today) (auditFile cfg data today)
  accounts : (auditFile cfg data today).texts (linePath ["DebitLine", "CreditLine"] "AccountID") =
    (allLines data).map fun line => line.gl_account.toList
  debit : IsControlTotal (auditFile cfg data today) "TotalDebit" "DebitLine"
  credit : IsControlTotal (auditFile cfg data today) "TotalCredit" "CreditLine"

theorem document_iff : DocumentHolds (write_saft cfg data today) (auditFile cfg data today) ↔
    ∀ s ∈ givenTexts cfg data, IsClean s.toList := by
  rw [write_saft_eq, auditFile, documentHolds_iff plain_sections plain_key
    (plain_namespace_uri cfg.jurisdiction), clean_sections_iff]

theorem accounts_iff :
    (auditFile cfg data today).texts (linePath ["DebitLine", "CreditLine"] "AccountID") =
        (allLines data).map (fun line => line.gl_account.toList) ↔
      ∀ line ∈ allLines data, line.account_code = line.gl_account := by
  have hsides : ∀ line, decide (side_tag line ∈ ["DebitLine", "CreditLine"]) = true := by
    intro line
    rw [side_tag]
    split <;> simp
  rw [texts_linePath texts_accountID]
  simp only [hsides, List.filter_true]
  rw [List.map_inj_left]
  exact forall₂_congr fun line _ => String.toList_inj

/-- Totals and amounts are written with all their places, so that only the numbers count. -/
theorem isControlTotal_iff {root : Element} {tag side : String} {sum : ScaledDecimal}
    {lines : List JournalEntryLine} {amount : JournalEntryLine → ScaledDecimal}
    (hsum : root.texts (totalPath tag) = [fmt_decimal sum])
    (hlines : root.texts (linePath [side] "Amount") =
      lines.map fun line => fmt_decimal (amount line)) :
    IsControlTotal root tag side ↔
      value sum = (lines.map fun line => value (amount line)).sum := by
  have hamounts : (lines.map fun line => fmt_decimal (amount line)).map readAmount =
      (lines.map fun line => value (amount line)).map some := by
    rw [List.map_map, List.map_map]
    exact List.map_congr_left fun line _ => readAmount_toText _
  rw [IsControlTotal, hsum, hlines, hamounts, List.map_singleton, fmt_decimal, readAmount_toText]
  constructor
  · rintro ⟨x, amounts, hx, hread, heq⟩
    rw [List.map_injective_iff.mpr (Option.some_injective ℚ) hread]
    rw [← heq]
    exact Option.some.inj (List.cons.inj hx).1
  · intro heq
    exact ⟨_, _, rfl, rfl, heq⟩

/-- The debits of the lines that are written on the credit side. -/
def debitsOffSide (data : SaftData) : ℚ :=
  (((allLines data).filter fun line => !isPositive line.debit_amount).map
    fun line => value line.debit_amount).sum

/-- The credits of the lines that are written on the debit side. -/
def creditsOffSide (data : SaftData) : ℚ :=
  (((allLines data).filter fun line => isPositive line.debit_amount).map
    fun line => value line.credit_amount).sum

theorem side_tag_mem_debit (line : JournalEntryLine) :
    decide (side_tag line ∈ ["DebitLine"]) = isPositive line.debit_amount := by
  rw [side_tag]
  cases isPositive line.debit_amount <;> simp

theorem side_tag_mem_credit (line : JournalEntryLine) :
    decide (side_tag line ∈ ["CreditLine"]) = !isPositive line.debit_amount := by
  rw [side_tag]
  cases isPositive line.debit_amount <;> simp

theorem debit_iff : IsControlTotal (auditFile cfg data today) "TotalDebit" "DebitLine" ↔
    debitsOffSide data = 0 := by
  have hlines : (auditFile cfg data today).texts (linePath ["DebitLine"] "Amount") =
      ((allLines data).filter fun line => isPositive line.debit_amount).map
        fun line => fmt_decimal line.debit_amount := by
    rw [texts_linePath texts_amount]
    simp only [side_tag_mem_debit]
    apply List.map_congr_left
    intro line hline
    rw [side_amount, if_pos (List.mem_filter.mp hline).2]
  rw [isControlTotal_iff texts_totalDebit hlines, value_total, ← allLines,
    sum_filter_add_sum_filter (fun line => isPositive line.debit_amount), debitsOffSide]
  exact add_eq_left

theorem credit_iff : IsControlTotal (auditFile cfg data today) "TotalCredit" "CreditLine" ↔
    creditsOffSide data = 0 := by
  have hlines : (auditFile cfg data today).texts (linePath ["CreditLine"] "Amount") =
      ((allLines data).filter fun line => !isPositive line.debit_amount).map
        fun line => fmt_decimal line.credit_amount := by
    rw [texts_linePath texts_amount]
    simp only [side_tag_mem_credit]
    apply List.map_congr_left
    intro line hline
    have hside := (List.mem_filter.mp hline).2
    rw [Bool.not_eq_true'] at hside
    rw [side_amount, hside, if_neg Bool.false_ne_true]
  rw [isControlTotal_iff texts_totalCredit hlines, value_total, ← allLines,
    sum_filter_add_sum_filter (fun line => isPositive line.debit_amount), creditsOffSide]
  exact add_eq_right

/-- The file is right on every day exactly if the strings can stand in a document, the lines
carry the code of their account, and no amounts are left on the other side of their line. -/
theorem isAuditFile_iff : IsAuditFile cfg data today ↔
    (∀ s ∈ givenTexts cfg data, IsClean s.toList) ∧
      (∀ line ∈ allLines data, line.account_code = line.gl_account) ∧
      debitsOffSide data = 0 ∧ creditsOffSide data = 0 := by
  rw [← document_iff, ← debit_iff, ← credit_iff, ← accounts_iff]
  exact ⟨fun h => ⟨h.document, h.accounts, h.debit, h.credit⟩,
    fun h => ⟨h.1, h.2.1, h.2.2.1, h.2.2.2⟩⟩

def plainConfig : SaftConfig where
  jurisdiction := .Norway
  company_tax_id := "987654325"
  company_name := "Fjord AS"
  fiscal_year := 2024
  start_date := ⟨19723⟩
  end_date := ⟨20088⟩
  currency_code := "NOK"

def salaryLine : JournalEntryLine where
  line_number := 1
  gl_account := "6000"
  account_code := "6000"
  debit_amount := ⟨false, 10000, 2⟩
  credit_amount := ⟨false, 0, 0⟩
  cost_center := none
  line_text := none
  tax_code := none
  tax_amount := none
  auxiliary_account_number := none
  auxiliary_account_label := none
  lettrage := none
  lettrage_date := none

def dataOf (line : JournalEntryLine) : SaftData where
  accounts := ⟨[], .empty⟩
  customers := []
  vendors := []
  materials := []
  journal_entries :=
    [ { header :=
          { document_id := []
            fiscal_period := 1
            posting_date := ⟨19750⟩
            document_date := ⟨19750⟩
            document_type := "SA"
            currency := "NOK"
            reference := none
            header_text := none
            created_by := "payroll" }
        lines := [line] } ]

/-- A line without its account code, a line with amounts on both sides, and a name with a
control character: each leaves a file that is not right. -/
theorem three_files_not_right :
    ¬ IsAuditFile plainConfig (dataOf { salaryLine with account_code := "" }) ⟨20100⟩ ∧
    ¬ IsAuditFile plainConfig (dataOf { salaryLine with credit_amount := ⟨false, 4000, 2⟩ })
        ⟨20100⟩ ∧
    ¬ IsAuditFile { plainConfig with company_name := "Fjord\x01AS" } (dataOf salaryLine)
        ⟨20100⟩ := by
  refine ⟨fun h => ?_, fun h => ?_, fun h => ?_⟩
  · exact absurd (accounts_iff.mp h.accounts) (by decide)
  · exact absurd (credit_iff.mp h.credit) (by decide_cbv)
  · have hname := document_iff.mp h.document "Fjord\x01AS" (by simp [givenTexts])
    exact absurd (hname '\x01' (by decide)).1 (by decide)

end Contract

end Datasynth.Output.SaftContract
