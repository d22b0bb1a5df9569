import Mathlib.Data.String.Basic
import Datasynth.Lib.DelimitedLines
import Datasynth.Lib.ListRearrangement
import Datasynth.Lib.ByteEncoding
import Datasynth.Output.StatutoryJournals

/-!
Reading the French and the German journal file: a line is a record of its columns as long
as what is written unescaped is read as the fields it stands for.
-/

namespace Datasynth.Output.StatutoryReading

open Datasynth.Lib.AmountText
open Datasynth.Lib.BareTexts
open Datasynth.Lib.CivilCalendar
open Datasynth.Lib.CsvFormat
open Datasynth.Lib.DecimalText
open Datasynth.Lib.DelimitedLines
open Datasynth.Lib.DelimitedRecords
open Datasynth.Lib.ListRearrangement
open Datasynth.Lib.LiteralTexts
open Datasynth.Output.LedgerRecords
open Datasynth.Output.StatutoryJournals

theorem semicolon : Separator ';' := ⟨by decide, by decide⟩

section Fields

/-- An escaped field, as the reader takes it. -/
def escapedCell (s : String) : Cell :=
  if quoteChar ∈ replaceBreaks s then .quoted (replaceBreaks s) else .bare (replaceBreaks s)

theorem escapedCell_encode (s : String) : (escapedCell s).encode = escapeField s := by
  rw [escapedCell, escapeField]
  split <;> rfl

theorem encode_bare (text : List Char) : (Cell.bare text).encode = text := rfl

theorem escapedCell_text (s : String) : (escapedCell s).text = replaceBreaks s := by
  rw [escapedCell]
  split <;> rfl

theorem inner_of_mem_replaceBreaks {s : String} {c : Char} (h : c ∈ replaceBreaks s) :
    Inner ';' c := by
  obtain ⟨c₁, hc₁, rfl⟩ := List.mem_map.mp h
  obtain ⟨c₀, -, rfl⟩ := List.mem_map.mp hc₁
  have hcomma : (if c₀ = ';' then ',' else c₀) ≠ ';' := by
    split
    · decide
    · assumption
  generalize (if c₀ = ';' then ',' else c₀) = c₁ at hcomma ⊢
  split
  · exact ⟨by decide, by decide, by decide⟩
  · rename_i hbreak
    rw [not_or] at hbreak
    exact ⟨hcomma, hbreak.1, hbreak.2⟩

theorem tame_escapedCell (s : String) : Tame ';' (escapedCell s) where
  inner := by
    rw [escapedCell_text]
    exact fun c => inner_of_mem_replaceBreaks
  unquoted := by
    intro text htext
    rw [escapedCell] at htext
    split at htext
    · cases htext
    · rename_i hquote
      cases htext
      exact hquote

theorem tame_bare {text : List Char} (h : ∀ c ∈ text, isPlain ';' c = true) :
    Tame ';' (.bare text) where
  inner c hc := (isPlain_iff.mp (h c hc)).1
  unquoted := by
    rintro _ heq hquote
    cases heq
    exact (isPlain_iff.mp (h quoteChar hquote)).2 rfl

theorem isPlain_of_isDigit {c : Char} (h : c.isDigit = true) : isPlain ';' c = true := by
  rw [isPlain_iff, Lib.DelimitedLines.Inner]
  refine ⟨⟨?_, ?_, ?_⟩, ?_⟩ <;>
    · rintro rfl
      exact absurd h (by decide)

theorem tame_digits (n : ℕ) : Tame ';' (.bare (Nat.toDigits 10 n)) :=
  tame_bare fun _ hc => isPlain_of_isDigit (isDigit_of_mem_toDigits hc)

theorem isPlain_of_mem_twoPlaces {d : ScaledDecimal} {c : Char} (h : c ∈ twoPlaces d) :
    isPlain ';' c = true := by
  rw [twoPlaces, List.mem_append, List.mem_append, List.mem_cons] at h
  rcases h with hsign | hwhole | rfl | hfraction
  · split at hsign
    · rw [List.mem_singleton.mp hsign]
      decide
    · cases hsign
  · exact isPlain_of_isDigit (isDigit_of_mem_toDigits hwhole)
  · decide
  · exact isPlain_of_isDigit (isDigit_of_mem_paddedDigits hfraction)

theorem tame_amount (d : ScaledDecimal) : Tame ';' (.bare (format_decimal d)) :=
  tame_bare fun _ hc => isPlain_of_mem_twoPlaces hc

theorem isPlain_of_mem_yearText {year : ℤ} {c : Char} (h : c ∈ (yearText year).chars) :
    isPlain ';' c = true := by
  have hpadded : ∀ n, ∀ d ∈ (paddedText 4 n).chars, isPlain ';' d = true :=
    fun n d hd => isPlain_of_isDigit (isDigit_of_mem_paddedDigits hd)
  rw [yearText] at h
  split at h
  · exact hpadded _ c h
  · rcases List.mem_append.mp h with hsign | hdigits
    · split at hsign <;>
        · rw [List.mem_singleton.mp hsign]
          decide
    · exact hpadded _ c hdigits

theorem tame_date (d : Date) : Tame ';' (.bare (compactDate d)) := by
  apply tame_bare
  intro c hc
  rw [compactDate, List.mem_append, List.mem_append] at hc
  rcases hc with (hyear | hmonth) | hday
  · exact isPlain_of_mem_yearText hyear
  · exact isPlain_of_isDigit (isDigit_of_mem_paddedDigits hmonth)
  · exact isPlain_of_isDigit (isDigit_of_mem_paddedDigits hday)

theorem tame_empty : Tame ';' (.bare []) := tame_bare fun _ hc => absurd hc List.not_mem_nil

end Fields

section Lines

variable {coa : ChartOfAccounts} {je : JournalEntry} {ecriture_num idx : ℕ}
variable {line : JournalEntryLine}

theorem joinFields_concat (fields : List (List Char)) (last : List Char) :
    joinFields (fields ++ [last]) = (fields.flatMap (· ++ [';'])) ++ last := by
  induction fields with
  | nil => simp [joinFields, List.intercalate]
  | cons field fields ih =>
      obtain ⟨next, rest, hnext⟩ : ∃ next rest, fields ++ [last] = next :: rest :=
        List.exists_cons_of_ne_nil
          (List.append_ne_nil_of_right_ne_nil fields (List.cons_ne_nil _ _))
      rw [List.cons_append, hnext, joinFields, List.intercalate_cons_cons, ← joinFields, ← hnext,
        ih, List.flatMap_cons, List.append_assoc, List.append_assoc, List.append_assoc]

/-- The columns before the lettering code. -/
def fecBefore (coa : ChartOfAccounts) (je : JournalEntry) (ecriture_num : ℕ)
    (line : JournalEntryLine) : List Cell :=
  let header := je.header
  [ escapedCell header.document_type,
    escapedCell (header.header_text.getD header.document_type),
    .bare (Nat.toDigits 10 ecriture_num),
    .bare (compactDate header.posting_date),
    escapedCell line.gl_account,
    escapedCell <|
      ((coa.get_account line.gl_account).map (·.short_description)).getD line.gl_account,
    escapedCell (line.auxiliary_account_number.getD ""),
    (line.auxiliary_account_label.map escapedCell).getD (.bare []),
    escapedCell (header.reference.getD ""),
    .bare (compactDate header.document_date),
    escapedCell ((line.line_text.or header.header_text).getD ""),
    .bare (format_decimal line.debit_amount),
    .bare (format_decimal line.credit_amount) ]

/-- The columns behind it, but for the last one. -/
def fecBehind (je : JournalEntry) (line : JournalEntryLine) : List Cell :=
  [ .bare ((line.lettrage_date.map compactDate).getD []),
    .bare (compactDate je.header.posting_date),
    .bare (if isPositive line.debit_amount then format_decimal line.debit_amount
      else format_decimal line.credit_amount) ]

/-- What a line writes unescaped, with the separator behind it. -/
def rawLettrage (line : JournalEntryLine) : List Char := (line.lettrage.getD "").toList ++ [';']

theorem encode_auxiliary_label :
    ((line.auxiliary_account_label.map escapedCell).getD (.bare [])).encode =
      (line.auxiliary_account_label.map escape_fec_field).getD [] := by
  cases line.auxiliary_account_label with
  | none => rfl
  | some label => exact escapedCell_encode label

theorem fecLine_eq : joinFields (fecFields coa je ecriture_num line) ++ ['\n'] =
    lineWith ';' (fecBefore coa je ecriture_num line) (rawLettrage line) (fecBehind je line)
      (escapedCell je.header.currency) := by
  have hfields : fecFields coa je ecriture_num line =
      ((fecBefore coa je ecriture_num line).map Cell.encode ++ [(line.lettrage.getD "").toList] ++
        (fecBehind je line).map Cell.encode) ++ [(escapedCell je.header.currency).encode] := by
    simp only [fecFields, fecBefore, fecBehind, List.map_cons, List.map_nil, List.cons_append,
      List.nil_append, escapedCell_encode, encode_auxiliary_label, escape_fec_field, encode_bare]
  rw [hfields, joinFields_concat]
  simp only [List.flatMap_append, List.flatMap_map, List.flatMap_singleton, lineWith, lineEnd,
    rawLettrage, separated, List.append_assoc]

theorem tame_fecBefore : ∀ cell ∈ fecBefore coa je ecriture_num line, Tame ';' cell := by
  have hlabel : Tame ';' ((line.auxiliary_account_label.map escapedCell).getD (.bare [])) := by
    cases line.auxiliary_account_label with
    | none => exact tame_empty
    | some label => exact tame_escapedCell label
  simp only [fecBefore, List.forall_mem_cons]
  exact ⟨tame_escapedCell _, tame_escapedCell _, tame_digits _, tame_date _, tame_escapedCell _,
    tame_escapedCell _, tame_escapedCell _, hlabel, tame_escapedCell _, tame_date _,
    tame_escapedCell _, tame_amount _, tame_amount _, List.forall_mem_nil _⟩

theorem tame_fecBehind : ∀ cell ∈ fecBehind je line, Tame ';' cell := by
  have hdate : Tame ';' (.bare ((line.lettrage_date.map compactDate).getD [])) := by
    cases line.lettrage_date with
    | none => exact tame_empty
    | some date => exact tame_date date
  simp only [fecBehind, List.forall_mem_cons]
  refine ⟨hdate, tame_date _, ?_, List.forall_mem_nil _⟩
  split
  · exact tame_amount _
  · exact tame_amount _

/-- The columns before the tax code. -/
def gobdBefore (je : JournalEntry) (idx : ℕ) (line : JournalEntryLine) : List Cell :=
  let header := je.header
  [ .bare (compactDate header.document_date),
    .bare (compactDate header.posting_date),
    escapedCell (String.ofList ((uuidText header.document_id).chars.take 8)),
    escapedCell (header.header_text.getD header.document_type),
    escapedCell line.gl_account,
    escapedCell (contra_for je idx),
    .bare (format_decimal line.debit_amount),
    .bare (format_decimal line.credit_amount) ]

/-- What a line writes from the tax code to the cost centre. -/
def taxToCostCentre (je : JournalEntry) (line : JournalEntryLine) : List Char :=
  joinFields [(line.tax_code.getD "").toList,
    (line.tax_amount.map format_decimal).getD "0.00".toList,
    escape_gobd_field je.header.currency, (line.cost_center.getD "").toList] ++ [';']

theorem taxToCostCentre_eq : taxToCostCentre je line =
    ([(line.tax_code.getD "").toList, (line.tax_amount.map format_decimal).getD "0.00".toList,
      escape_gobd_field je.header.currency] ++ [(line.cost_center.getD "").toList]).flatMap
        (· ++ [';']) := by
  rw [List.flatMap_append, List.flatMap_singleton, ← List.append_assoc, ← joinFields_concat]
  rfl

theorem separated_taxToCostCentre :
    separated ';' [.bare (line.tax_code.getD "").toList,
      .bare ((line.tax_amount.map format_decimal).getD "0.00".toList),
      escapedCell je.header.currency, .bare (line.cost_center.getD "").toList] =
        taxToCostCentre je line := by
  rw [taxToCostCentre_eq, escape_gobd_field, ← escapedCell_encode]
  rfl

theorem gobdLine_eq : joinFields (gobdFields je idx line) ++ ['\n'] =
    lineWith ';' (gobdBefore je idx line) (taxToCostCentre je line) []
      (escapedCell je.header.document_type) := by
  have hfields : gobdFields je idx line = ((gobdBefore je idx line).map Cell.encode ++
      ([(line.tax_code.getD "").toList, (line.tax_amount.map format_decimal).getD "0.00".toList,
        escape_gobd_field je.header.currency] ++ [(line.cost_center.getD "").toList])) ++
      [(escapedCell je.header.document_type).encode] := by
    simp only [gobdFields, gobdBefore, List.map_cons, List.map_nil, List.cons_append,
      List.nil_append, escapedCell_encode, escape_gobd_field, encode_bare]
  rw [hfields, joinFields_concat, taxToCostCentre_eq]
  simp only [List.flatMap_append, List.flatMap_map, lineWith, lineEnd, separated,
    List.flatMap_nil, List.append_assoc, List.nil_append]

theorem tame_gobdBefore : ∀ cell ∈ gobdBefore je idx line, Tame ';' cell := by
  simp only [gobdBefore, List.forall_mem_cons]
  exact ⟨tame_date _, tame_date _, tame_escapedCell _, tame_escapedCell _, tame_escapedCell _,
    tame_escapedCell _, tame_amount _, tame_amount _, List.forall_mem_nil _⟩

end Lines

section Tables

/-- The amount in a column of a record. -/
def column (k : ℕ) (record : Record) : Option ℚ := (record.fields[k]?).bind readAmount

/-- The record of a journal line: what was written for it, with the declared number of
columns and the amounts in theirs. -/
structure IsRecordOfLine (columns debit credit : ℕ) (entry : JournalEntryLine × List Char)
    (record : Record) : Prop where
  text : record.text = entry.2 ++ ['\n']
  width : record.fields.length = columns
  debit_amount : column debit record = some (value entry.1.debit_amount)
  credit_amount : column credit record = some (value entry.1.credit_amount)

def columnSum (k : ℕ) (records : List Record) : ℚ :=
  (records.map fun record => (column k record).getD 0).sum

/-- The reader finds the header and then a record for each journal line, in order, and the
columns of the amounts add up to the totals of the entries. -/
def TableReads (columns debit credit : ℕ) (header : List Char)
    (lines : List (JournalEntryLine × List Char)) (entries : List JournalEntry)
    (file : List Char) : Prop :=
  ∃ head records, readRecords ';' file = some (head :: records) ∧ head.text = header ++ ['\n'] ∧
    head.fields.length = columns ∧
    List.Forall₂ (IsRecordOfLine columns debit credit) lines records ∧
    columnSum debit records = (entries.map (·.total_debit)).sum ∧
    columnSum credit records = (entries.map (·.total_credit)).sum

variable {columns debit credit : ℕ} {header : List Char}
variable {lines : List (JournalEntryLine × List Char)} {entries : List JournalEntry}

theorem columnSum_eq {k : ℕ} (amount : JournalEntryLine → ScaledDecimal) {records : List Record}
    (h : List.Forall₂ (fun entry record => column k record = some (value (amount entry.1)))
      lines records) :
    columnSum k records = ((lines.map Prod.fst).map fun line => value (amount line)).sum := by
  induction h with
  | nil => rfl
  | cons hfirst _ ih =>
      rw [columnSum] at ih ⊢
      rw [List.map_cons, List.sum_cons, ih, hfirst]
      rfl

theorem sum_lines (amount : JournalEntryLine → ScaledDecimal) (entries : List JournalEntry) :
    ((entries.flatMap (·.lines)).map fun line => value (amount line)).sum =
      (entries.map fun je => (je.lines.map fun line => value (amount line)).sum).sum := by
  rw [List.map_flatMap, List.flatMap_def, List.sum_flatten, List.map_map]
  rfl

/-- A table is read when each of its lines is a record by itself. -/
theorem tableReads_iff (hheader : ∃ fields,
      readText ';' .start (header ++ ['\n']) = .record fields ∧ fields.length = columns)
    (hlines : lines.map Prod.fst = entries.flatMap (·.lines)) :
    TableReads columns debit credit header lines entries
        (joinLines (header :: lines.map Prod.snd)) ↔
      ∀ entry ∈ lines, ∃ record, IsRecordOf ';' entry.2 record ∧
        IsRecordOfLine columns debit credit entry record := by
  constructor
  · rintro ⟨head, records, hread, hhead, -, hrecords, -, -⟩ entry hentry
    have htext : List.Forall₂ Eq ((lines.map Prod.snd).map (· ++ ['\n']))
        (records.map (·.text)) := by
      rw [List.map_map, List.forall₂_map_left_iff, List.forall₂_map_right_iff]
      exact hrecords.imp fun _ _ h => h.text.symm
    rw [List.forall₂_eq_eq_eq] at htext
    have htexts : (head :: records).map (·.text) =
        (header :: lines.map Prod.snd).map (· ++ ['\n']) := by
      rw [List.map_cons, List.map_cons, hhead, htext]
    have hreads := (readRecords_joinLines_iff semicolon.ne_newline).mp ⟨hread, htexts⟩
    obtain ⟨-, hreads⟩ := List.forall₂_cons.mp hreads
    rw [List.forall₂_map_left_iff] at hreads
    obtain ⟨record, -, hboth⟩ := exists_right_of_forall₂
      (hreads.mp (fun _ _ h h' => And.intro h h') hrecords) hentry
    exact ⟨record, hboth⟩
  · intro hrecords
    obtain ⟨fields, hhead, hwidth⟩ := hheader
    obtain ⟨records, hboth⟩ := exists_forall₂ hrecords
    have hreads : List.Forall₂ (IsRecordOf ';') (header :: lines.map Prod.snd)
        (⟨header ++ ['\n'], fields⟩ :: records) := by
      refine .cons ⟨rfl, hhead⟩ ?_
      rw [List.forall₂_map_left_iff]
      exact hboth.imp fun _ _ h => h.1
    have hdebit := columnSum_eq (fun line => line.debit_amount)
      (hboth.imp fun _ _ h => h.2.debit_amount)
    have hcredit := columnSum_eq (fun line => line.credit_amount)
      (hboth.imp fun _ _ h => h.2.credit_amount)
    rw [hlines, sum_lines] at hdebit hcredit
    exact ⟨_, records, ((readRecords_joinLines_iff semicolon.ne_newline).mpr hreads).1, rfl, hwidth,
      hboth.imp fun _ _ h => h.2, hdebit, hcredit⟩

/-- A line with unescaped fields is the record of its journal line when they are read as
fields by themselves. -/
theorem exists_recordOfLine_iff {line : JournalEntryLine} {text : List Char}
    {before cells : List Cell} {last : Cell} {raw : List Char} {k : ℕ}
    (hline : text ++ ['\n'] = lineWith ';' before (raw ++ [';']) cells last)
    (hbefore : ∀ cell ∈ before, Tame ';' cell) (hcells : ∀ cell ∈ cells, Tame ';' cell)
    (hlast : Tame ';' last) (hcolumns : before.length + k + cells.length + 1 = columns)
    (hdebit : ((before.map Cell.text)[debit]?).bind readAmount =
      some (value line.debit_amount))
    (hcredit : ((before.map Cell.text)[credit]?).bind readAmount =
      some (value line.credit_amount)) :
    (∃ record, IsRecordOf ';' text record ∧
        IsRecordOfLine columns debit credit (line, text) record) ↔
      ReadsAs ';' k (raw ++ [';']) := by
  have hiff := readText_lineWith_iff (k := k) semicolon hbefore hcells hlast raw
  rw [hcolumns] at hiff
  constructor
  · rintro ⟨record, hreads, hrecord⟩
    have hread := hreads.reads
    rw [hline] at hread
    exact hiff.mp ⟨_, hread, hrecord.width⟩
  · intro hraw
    obtain ⟨fields, hread, hwidth⟩ := hiff.mpr hraw
    obtain ⟨mids, -, hmids⟩ := hraw
    have hfields := readText_lineWith semicolon hbefore hcells hlast hmids
    obtain rfl := Outcome.record.inj (hread.symm.trans hfields)
    have hcolumn : ∀ n x, ((before.map Cell.text)[n]?).bind readAmount = some x →
        column n ⟨text ++ ['\n'], before.map Cell.text ++ mids ++ cells.map Cell.text ++
          [last.text]⟩ = some x := by
      intro n x hx
      obtain ⟨field, hfield, hamount⟩ := Option.bind_eq_some_iff.mp hx
      have hlt := (List.getElem?_eq_some_iff.mp hfield).1
      rw [column, List.append_assoc, List.append_assoc, List.getElem?_append_left hlt, hfield]
      exact hamount
    refine ⟨⟨text ++ ['\n'], _⟩, ⟨rfl, ?_⟩, ⟨rfl, hwidth, hcolumn _ _ hdebit,
      hcolumn _ _ hcredit⟩⟩
    rw [hline]
    exact hread

end Tables

section Exports

variable {coa : ChartOfAccounts} {entries : List JournalEntry}

/-- Both files are read as tables of the journal lines. -/
structure ExportsRead (coa : ChartOfAccounts) (entries : List JournalEntry) : Prop where
  fec : TableReads 18 11 12 FEC_HEADER (fecLines coa entries) entries
    (write_fec_csv coa entries)
  gobd : TableReads 13 6 7 GOBD_JOURNAL_HEADER (gobdLines entries) entries
    (write_gobd_journal_csv entries)

/-- What a line writes unescaped is read as the fields it is written for. -/
structure ReadsAlone (je : JournalEntry) (line : JournalEntryLine) : Prop where
  lettrage : ReadsAs ';' 1 (rawLettrage line)
  tax_to_cost_centre : ReadsAs ';' 4 (taxToCostCentre je line)

def AmountsOfTwoDecimals (entries : List JournalEntry) : Prop :=
  ∀ je ∈ entries, ∀ line ∈ je.lines,
    AtMostTwoDecimals line.debit_amount ∧ AtMostTwoDecimals line.credit_amount

theorem readText_titles (titles : List String) {last : String}
    (h : ∀ title ∈ titles ++ [last], ∀ c ∈ title.toList, isPlain ';' c = true) :
    readText ';' .start (joinFields ((titles ++ [last]).map String.toList) ++ ['\n']) =
      .record ((titles ++ [last]).map String.toList) := by
  rw [List.forall_mem_append, List.forall_mem_singleton] at h
  have htame : ∀ cell ∈ titles.map fun title => Cell.bare title.toList, Tame ';' cell :=
    List.forall_mem_map.mpr fun title htitle => tame_bare (h.1 title htitle)
  have hread := readText_lineEnd semicolon htame (tame_bare h.2) []
  rw [lineEnd, separated, List.flatMap_map, List.map_map] at hread
  rw [List.map_append, List.map_singleton, joinFields_concat, List.flatMap_map,
    List.append_assoc]
  exact hread

theorem plain_fecColumns : ∀ title ∈ FEC_COLUMNS, ∀ c ∈ title.toList, isPlain ';' c = true := by
  intro title htitle
  apply List.all_eq_true.mp
  revert title
  apply forall_mem_toList (·.all (isPlain ';'))
  · repeat apply map_toList_cons String.toList_ofList
    rfl
  · rfl

theorem plain_gobdColumns :
    ∀ title ∈ GOBD_JOURNAL_COLUMNS, ∀ c ∈ title.toList, isPlain ';' c = true := by
  intro title htitle
  apply List.all_eq_true.mp
  revert title
  apply forall_mem_toList (·.all (isPlain ';'))
  · repeat apply map_toList_cons String.toList_ofList
    rfl
  · rfl

theorem fecHeader_reads : ∃ fields, readText ';' .start (FEC_HEADER ++ ['\n']) =
    .record fields ∧ fields.length = 18 := by
  exact ⟨_, readText_titles FEC_COLUMNS.dropLast plain_fecColumns, rfl⟩

theorem gobdHeader_reads : ∃ fields,
    readText ';' .start (GOBD_JOURNAL_HEADER ++ ['\n']) = .record fields ∧ fields.length = 13 := by
  exact ⟨_, readText_titles GOBD_JOURNAL_COLUMNS.dropLast plain_gobdColumns, rfl⟩

theorem mem_iff_exists_zipIdx {α : Type*} {xs : List α} {x : α} (n : ℕ) :
    x ∈ xs ↔ ∃ i, (x, i) ∈ xs.zipIdx n := by
  have hmem := List.mem_map (f := Prod.fst) (l := xs.zipIdx n) (b := x)
  rw [List.zipIdx_map_fst] at hmem
  simpa using hmem

theorem map_fst_fecLines (coa : ChartOfAccounts) :
    (fecLines coa entries).map Prod.fst = entries.flatMap (·.lines) := by
  conv_rhs => rw [← List.zipIdx_map_fst 1 entries]
  rw [fecLines, List.map_flatMap, List.flatMap_map]
  simp only [List.map_map, Function.comp_def, List.map_id']

theorem map_fst_gobdLines : (gobdLines entries).map Prod.fst = entries.flatMap (·.lines) := by
  rw [gobdLines, List.map_flatMap]
  simp only [List.map_map, Function.comp_def, List.zipIdx_map_fst]

variable {P : JournalEntry → JournalEntryLine → Prop}
variable {Q : JournalEntryLine × List Char → Prop}

theorem forall_fecLines_iff (h : ∀ je ∈ entries, ∀ n, ∀ line ∈ je.lines,
      (Q (line, joinFields (fecFields coa je n line)) ↔ P je line)) :
    (∀ entry ∈ fecLines coa entries, Q entry) ↔ ∀ je ∈ entries, ∀ line ∈ je.lines, P je line := by
  simp only [fecLines, List.forall_mem_flatMap, List.forall_mem_map]
  constructor
  · intro hall je hje line hline
    obtain ⟨n, hn⟩ := (mem_iff_exists_zipIdx 1).mp hje
    exact (h je hje n line hline).mp (hall _ hn line hline)
  · rintro hall ⟨je, n⟩ hn line hline
    have hje := (mem_iff_exists_zipIdx 1).mpr ⟨n, hn⟩
    exact (h je hje n line hline).mpr (hall je hje line hline)

theorem forall_gobdLines_iff (h : ∀ je ∈ entries, ∀ idx, ∀ line ∈ je.lines,
      (Q (line, joinFields (gobdFields je idx line)) ↔ P je line)) :
    (∀ entry ∈ gobdLines entries, Q entry) ↔ ∀ je ∈ entries, ∀ line ∈ je.lines, P je line := by
  simp only [gobdLines, List.forall_mem_flatMap, List.forall_mem_map]
  constructor
  · intro hall je hje line hline
    obtain ⟨idx, hidx⟩ := (mem_iff_exists_zipIdx 0).mp hline
    exact (h je hje idx line hline).mp (hall je hje _ hidx)
  · rintro hall je hje ⟨line, idx⟩ hidx
    have hline := (mem_iff_exists_zipIdx 0).mpr ⟨idx, hidx⟩
    exact (h je hje idx line hline).mpr (hall je hje line hline)

theorem fecRecord_iff {je : JournalEntry} {line : JournalEntryLine} (ecriture_num : ℕ)
    (hdebit : AtMostTwoDecimals line.debit_amount)
    (hcredit : AtMostTwoDecimals line.credit_amount) :
    (∃ record, IsRecordOf ';' (joinFields (fecFields coa je ecriture_num line)) record ∧
        IsRecordOfLine 18 11 12 (line, joinFields (fecFields coa je ecriture_num line)) record) ↔
      ReadsAs ';' 1 (rawLettrage line) := by
  rw [rawLettrage]
  apply exists_recordOfLine_iff fecLine_eq tame_fecBefore tame_fecBehind (tame_escapedCell _)
  · rfl
  · exact readAmount_twoPlaces hdebit
  · exact readAmount_twoPlaces hcredit

theorem gobdRecord_iff {je : JournalEntry} {line : JournalEntryLine} (idx : ℕ)
    (hdebit : AtMostTwoDecimals line.debit_amount)
    (hcredit : AtMostTwoDecimals line.credit_amount) :
    (∃ record, IsRecordOf ';' (joinFields (gobdFields je idx line)) record ∧
        IsRecordOfLine 13 6 7 (line, joinFields (gobdFields je idx line)) record) ↔
      ReadsAs ';' 4 (taxToCostCentre je line) := by
  rw [taxToCostCentre]
  apply exists_recordOfLine_iff gobdLine_eq tame_gobdBefore (List.forall_mem_nil _)
    (tame_escapedCell _)
  · rfl
  · exact readAmount_twoPlaces hdebit
  · exact readAmount_twoPlaces hcredit

/-- Both files are tables of the journal lines exactly if no line has an unescaped text
that is read as anything but the fields it is written for. -/
theorem exportsRead_iff (hamounts : AmountsOfTwoDecimals entries) :
    ExportsRead coa entries ↔ ∀ je ∈ entries, ∀ line ∈ je.lines, ReadsAlone je line := by
  have hfec := (tableReads_iff fecHeader_reads (map_fst_fecLines coa)).trans <|
    forall_fecLines_iff fun je hje n line hline =>
      fecRecord_iff n (hamounts je hje line hline).1 (hamounts je hje line hline).2
  have hgobd := (tableReads_iff gobdHeader_reads map_fst_gobdLines).trans <|
    forall_gobdLines_iff fun je hje idx line hline =>
      gobdRecord_iff idx (hamounts je hje line hline).1 (hamounts je hje line hline).2
  constructor
  · intro h je hje line hline
    exact ⟨hfec.mp h.fec je hje line hline, hgobd.mp h.gobd je hje line hline⟩
  · intro h
    exact ⟨hfec.mpr fun je hje line hline => (h je hje line hline).lettrage,
      hgobd.mpr fun je hje line hline => (h je hje line hline).tax_to_cost_centre⟩

/-- Texts without separators, quotes and line breaks are read as they are. -/
theorem readsAlone_of_plain {je : JournalEntry} {line : JournalEntryLine}
    (hlettrage : ∀ c ∈ (line.lettrage.getD "").toList, isPlain ';' c = true)
    (htax : ∀ c ∈ (line.tax_code.getD "").toList, isPlain ';' c = true)
    (hcost : ∀ c ∈ (line.cost_center.getD "").toList, isPlain ';' c = true) :
    ReadsAlone je line where
  lettrage := by
    have hcells : ∀ cell ∈ [Cell.bare (line.lettrage.getD "").toList], Tame ';' cell := by
      rw [List.forall_mem_singleton]
      exact tame_bare hlettrage
    have hreads := readsAs_separated semicolon hcells
    rwa [separated, List.flatMap_singleton] at hreads
  tax_to_cost_centre := by
    have hamount : Tame ';' (.bare ((line.tax_amount.map format_decimal).getD "0.00".toList)) := by
      cases line.tax_amount with
      | none => exact tame_bare (List.all_eq_true.mp (by decide))
      | some amount => exact tame_amount amount
    have hcells : ∀ cell ∈ [Cell.bare (line.tax_code.getD "").toList,
        .bare ((line.tax_amount.map format_decimal).getD "0.00".toList),
        escapedCell je.header.currency, .bare (line.cost_center.getD "").toList],
        Tame ';' cell := by
      simp only [List.forall_mem_cons]
      exact ⟨tame_bare htax, hamount, tame_escapedCell _, tame_bare hcost, List.forall_mem_nil _⟩
    have hreads := readsAs_separated semicolon hcells
    rwa [separated_taxToCostCentre] at hreads

def plainLine : JournalEntryLine where
  line_number := 1
  gl_account := "512000"
  account_code := "512000"
  debit_amount := ⟨false, 12050, 2⟩
  credit_amount := ⟨false, 0, 0⟩
  cost_center := some "CC100"
  line_text := some "Achat; \"urgent\""
  tax_code := none
  tax_amount := none
  auxiliary_account_number := none
  auxiliary_account_label := some "Durand"
  lettrage := some "AB"
  lettrage_date := none

def entryOf (line : JournalEntryLine) : JournalEntry where
  header :=
    { document_id := []
      fiscal_period := 3
      posting_date := ⟨19800⟩
      document_date := ⟨19800⟩
      document_type := "ACH"
      currency := "EUR"
      reference := some "FA-7"
      header_text := none
      created_by := "clerk" }
  lines := [line]

def noAccounts : ChartOfAccounts := ⟨[], .empty⟩

theorem plainEntry_exportsRead : AmountsOfTwoDecimals [entryOf plainLine] ∧
    ExportsRead noAccounts [entryOf plainLine] := by
  have hamounts : AmountsOfTwoDecimals [entryOf plainLine] := by
    simp only [AmountsOfTwoDecimals, AtMostTwoDecimals, entryOf, List.forall_mem_singleton]
    decide
  refine ⟨hamounts, (exportsRead_iff hamounts).mpr ?_⟩
  simp only [entryOf, List.forall_mem_singleton]
  apply readsAlone_of_plain <;> exact List.all_eq_true.mp (by decide)

/-- The widths of the records that a reader finds in a file. -/
def recordWidths (file : List Char) : Option (List ℕ) :=
  (readRecords ';' file).map fun records => records.map (·.fields.length)

def cutLine : JournalEntryLine :=
  { plainLine with lettrage := some "A;B", tax_code := some "V;19" }

/-- A lettering code and a tax code with a semicolon shift the columns behind them. -/
theorem cutEntry_shifts_columns : AmountsOfTwoDecimals [entryOf cutLine] ∧
    recordWidths (write_fec_csv noAccounts [entryOf cutLine]) = some [18, 19] ∧
    recordWidths (write_gobd_journal_csv [entryOf cutLine]) = some [13, 14] ∧
    ¬ ExportsRead noAccounts [entryOf cutLine] := by
  have hfec : recordWidths (write_fec_csv noAccounts [entryOf cutLine]) = some [18, 19] := by
    decide +kernel
  refine ⟨?_, hfec, by decide +kernel, fun h => ?_⟩
  · simp only [AmountsOfTwoDecimals, AtMostTwoDecimals, entryOf, List.forall_mem_singleton]
    decide
  · obtain ⟨head, records, hread, -, -, hrecords, -, -⟩ := h.fec
    obtain ⟨record, _, hrecord, -, rfl⟩ := List.forall₂_cons_left_iff.mp hrecords
    rw [recordWidths, hread, Option.map_some, Option.some.injEq, List.map_cons] at hfec
    have hcut := (List.cons.inj (List.tail_eq_of_cons_eq hfec)).1
    exact absurd (hrecord.width.symm.trans hcut) (by decide)

end Exports

end Datasynth.Output.StatutoryReading
