import Datasynth.Output.CsvSinks

/-!
Reading back what a sink wrote: the fields written without quotes have to be free of commas,
quotes and line breaks, and there has to be a record.
-/

namespace Datasynth.Output.CsvRoundTrip

open Datasynth.Lib.CsvFormat
open Datasynth.Output.CsvRecords
open Datasynth.Output.CsvSinks

section Rows

variable {α : Type} (format : RowFormat α)

def headerRow : List Cell := format.columns.map fun column => .bare column.toList

def cells (item : α) : List (List Cell) := (format.rows item).map (·.map Field.cell)

def columnRow : List (List Char) := format.columns.map String.toList

/-- The values of a record's fields, row by row. -/
def values (item : α) : List (List (List Char)) :=
  (format.rows item).map (·.map fun field => field.cell.text)

theorem text_headerRow : (headerRow format).map Cell.text = columnRow format := by
  rw [headerRow, List.map_map]
  rfl

theorem fine_headerRow : ∀ cell ∈ headerRow format, cell.Fine := by
  intro cell hcell
  obtain ⟨column, hcolumn, rfl⟩ := List.mem_map.mp hcell
  exact format.columns_bare column hcolumn

theorem text_cells (item : α) : (cells format item).map (·.map Cell.text) = values format item := by
  rw [cells, values, List.map_map]
  refine List.map_congr_left fun row _ => ?_
  exact List.map_map

/-- The strings a sink writes as they stand. -/
def freeTexts (item : α) : List String := (format.rows item).flatMap (·.filterMap Field.free?)

def isBareText (text : String) : Prop := ∀ c ∈ text.toList, isBare c = true

theorem fine_cell_iff (field : Field) :
    field.cell.Fine ↔ ∀ text, field.free? = some text → isBareText text := by
  cases field with
  | free text =>
      constructor
      · rintro h text' ⟨⟩
        exact h
      · intro h
        exact h text rfl
  | quoted text =>
      constructor
      · rintro - text' ⟨⟩
      · intro _
        trivial
  | value text =>
      constructor
      · rintro - text' ⟨⟩
      · intro _
        exact text.bare

theorem fine_cells_iff (item : α) :
    (∀ row ∈ cells format item, ∀ cell ∈ row, cell.Fine) ↔
      ∀ text ∈ freeTexts format item, isBareText text := by
  simp only [cells, freeTexts, List.forall_mem_map, List.mem_flatMap, List.mem_filterMap,
    fine_cell_iff]
  constructor
  · rintro h text ⟨row, hrow, field, hfield, htext⟩
    exact h row hrow field hfield text htext
  · intro h row hrow field hfield text htext
    exact h text ⟨row, hrow, field, hfield, htext⟩

end Rows

section Files

variable {α : Type} (format : RowFormat α)

theorem write_headerless (sink : Sink) (item : α) (h : sink.header_written = false) :
    (write format sink item).file =
        sink.file ++ renderRows (headerRow format :: cells format item) ∧
      (write format sink item).header_written = true := by
  have hheader : write_header format sink =
      { sink with file := sink.file ++ format.header.toList, header_written := true } :=
    if_neg (by rw [h]; decide)
  rw [write, hheader, format.header_eq]
  refine ⟨?_, rfl⟩
  rw [List.append_assoc]
  rfl

theorem write_of_header (sink : Sink) (item : α) (h : sink.header_written = true) :
    (write format sink item).file = sink.file ++ renderRows (cells format item) ∧
      (write format sink item).header_written = true := by
  have hheader : write_header format sink = sink := if_pos h
  rw [write, hheader]
  exact ⟨rfl, h⟩

theorem foldl_write (items : List α) (sink : Sink) (h : sink.header_written = true) :
    (items.foldl (write format) sink).file =
      sink.file ++ renderRows (items.flatMap (cells format)) := by
  induction items generalizing sink with
  | nil => exact (List.append_nil _).symm
  | cons item items ih =>
      obtain ⟨hfile, hwritten⟩ := write_of_header format sink item h
      rw [List.foldl_cons, ih _ hwritten, hfile, List.append_assoc, List.flatMap_cons]
      congr 1
      exact List.flatMap_append.symm

/-- The file of a sink that was given a record: its header and the rows of all records. -/
theorem file_writeAll {items : List α} (h : items ≠ []) :
    (writeAll format items).file =
      renderRows (headerRow format :: items.flatMap (cells format)) := by
  cases items with
  | nil => exact absurd rfl h
  | cons item items =>
      obtain ⟨hfile, hwritten⟩ := write_headerless format Sink.new item rfl
      rw [writeAll, List.foldl_cons, foldl_write format items _ hwritten, hfile]
      simp only [Sink.new, List.nil_append, List.flatMap_cons, renderRows, List.flatMap_append,
        List.append_assoc]

/-- A file is read back as it was written exactly if there is a record and no string without
quotes has a character that ends a field or opens one. -/
theorem readCsv_file_iff (hrows : ∀ item, ∀ row ∈ format.rows item, row ≠ []) (items : List α) :
    readCsv (writeAll format items).file =
        some (columnRow format :: items.flatMap (values format)) ↔
      items ≠ [] ∧ ∀ item ∈ items, ∀ text ∈ freeTexts format item, isBareText text := by
  by_cases hitems : items = []
  · subst hitems
    constructor
    · intro h
      cases h
    · rintro ⟨h, -⟩
      exact absurd rfl h
  · have hwritten :
        ∀ row ∈ headerRow format :: items.flatMap (cells format), row ≠ [] := by
      rw [List.forall_mem_cons]
      refine ⟨fun h => format.columns_ne (List.map_eq_nil_iff.mp h), ?_⟩
      intro row hrow
      obtain ⟨item, -, hrow⟩ := List.mem_flatMap.mp hrow
      obtain ⟨fields, hfields, rfl⟩ := List.mem_map.mp hrow
      exact fun h => hrows item fields hfields (List.map_eq_nil_iff.mp h)
    have hvalues : (headerRow format :: items.flatMap (cells format)).map (·.map Cell.text) =
        columnRow format :: items.flatMap (values format) := by
      rw [List.map_cons, text_headerRow, List.map_flatMap]
      simp only [text_cells]
    rw [file_writeAll format hitems, ← hvalues, readCsv_renderRows_iff hwritten,
      List.forall_mem_cons]
    constructor
    · rintro ⟨-, h⟩
      refine ⟨hitems, fun item hitem => (fine_cells_iff format item).mp ?_⟩
      intro row hrow
      exact h row (List.mem_flatMap.mpr ⟨item, hitem, hrow⟩)
    · rintro ⟨-, h⟩
      refine ⟨fine_headerRow format, fun row hrow => ?_⟩
      obtain ⟨item, hitem, hrow⟩ := List.mem_flatMap.mp hrow
      exact (fine_cells_iff format item).mpr (h item hitem) row hrow

end Files

section Kinds

/-- The seven kinds of records there is a sink for. -/
inductive Kind where
  | journalEntry
  | dunningRun
  | dunningLetter
  | dunningItem
  | paymentCorrection
  | shortPayment
  | onAccountPayment

def Kind.Record : Kind → Type
  | .journalEntry => JournalEntry
  | .dunningRun => DunningRun
  | .dunningLetter => DunningLetter
  | .dunningItem => String × DunningItem
  | .paymentCorrection => PaymentCorrection
  | .shortPayment => ShortPayment
  | .onAccountPayment => OnAccountPayment

def Kind.format : (kind : Kind) → RowFormat kind.Record
  | .journalEntry => csvSink
  | .dunningRun => dunningRunCsvSink
  | .dunningLetter => dunningLetterCsvSink
  | .dunningItem => dunningItemCsvSink
  | .paymentCorrection => paymentCorrectionCsvSink
  | .shortPayment => shortPaymentCsvSink
  | .onAccountPayment => onAccountPaymentCsvSink

/-- A row has a field for each column of the header. -/
theorem length_of_mem_rows (kind : Kind) (item : kind.Record) :
    ∀ row ∈ kind.format.rows item, row.length = kind.format.columns.length := by
  intro row hrow
  cases kind with
  | journalEntry =>
      obtain ⟨line, -, rfl⟩ := List.mem_map.mp hrow
      rfl
  | dunningRun => exact congrArg List.length (List.mem_singleton.mp hrow)
  | dunningLetter => exact congrArg List.length (List.mem_singleton.mp hrow)
  | dunningItem => exact congrArg List.length (List.mem_singleton.mp hrow)
  | paymentCorrection => exact congrArg List.length (List.mem_singleton.mp hrow)
  | shortPayment => exact congrArg List.length (List.mem_singleton.mp hrow)
  | onAccountPayment => exact congrArg List.length (List.mem_singleton.mp hrow)

theorem ne_nil_of_mem_rows (kind : Kind) (item : kind.Record) :
    ∀ row ∈ kind.format.rows item, row ≠ [] := by
  rintro row hrow rfl
  have hlength := length_of_mem_rows kind item [] hrow
  exact kind.format.columns_ne (List.eq_nil_of_length_eq_zero hlength.symm)

/-- The strings of a record that are written without quotes; those of an entry once for each
of its lines. -/
def Kind.unquotedTexts : (kind : Kind) → kind.Record → List String
  | .journalEntry, (entry : JournalEntry) =>
      entry.lines.flatMap fun line =>
        [entry.header.company_code, entry.header.document_type, entry.header.currency] ++
          entry.header.sap_source_code.toList ++
          [line.gl_account, line.trading_partner.getD "", entry.header.anomaly_type.getD ""]
  | .dunningRun, (run : DunningRun) => [run.run_id, run.company_code]
  | .dunningLetter, (letter : DunningLetter) =>
      [letter.letter_id, letter.dunning_run_id, letter.company_code, letter.customer_id,
        letter.currency]
  | .dunningItem, ((letter_id, item) : String × DunningItem) =>
      [letter_id, item.invoice_number, item.block_reason.getD ""]
  | .paymentCorrection, (correction : PaymentCorrection) =>
      [correction.correction_id, correction.company_code, correction.customer_id,
        correction.original_payment_id, correction.currency, correction.reversal_je_id.getD "",
        correction.correcting_payment_id.getD "", correction.bank_reference.getD "",
        correction.chargeback_code.getD ""]
  | .shortPayment, (payment : ShortPayment) =>
      [payment.short_payment_id, payment.company_code, payment.customer_id, payment.payment_id,
        payment.invoice_id, payment.currency, payment.credit_memo_id.getD "",
        payment.write_off_je_id.getD "", payment.rebill_invoice_id.getD ""]
  | .onAccountPayment, (payment : OnAccountPayment) =>
      [payment.on_account_id, payment.company_code, payment.customer_id, payment.payment_id,
        payment.currency]

theorem freeTexts_eq (kind : Kind) (item : kind.Record) :
    freeTexts kind.format item = kind.unquotedTexts item := by
  cases kind with
  | journalEntry =>
      obtain ⟨header, lines⟩ := item
      show (csvSink.rows ⟨header, lines⟩).flatMap (·.filterMap Field.free?) =
        Kind.unquotedTexts .journalEntry ⟨header, lines⟩
      unfold Kind.unquotedTexts
      dsimp only [csvSink]
      rw [List.flatMap_map]
      refine List.flatMap_congr fun line _ => ?_
      cases hcode : header.sap_source_code with
      | none => simp only [source_label, hcode]; rfl
      | some code => simp only [source_label, hcode]; rfl
  | dunningRun => rfl
  | dunningLetter => rfl
  | dunningItem => rfl
  | paymentCorrection => rfl
  | shortPayment => rfl
  | onAccountPayment => rfl

/-- A reader of the file finds the header, and every record's values in the header's columns. -/
def Decodes (kind : Kind) (records : List kind.Record) : Prop :=
  readCsv (writeAll kind.format records).file =
      some (columnRow kind.format :: records.flatMap (values kind.format)) ∧
    ∀ row ∈ records.flatMap (values kind.format), row.length = (columnRow kind.format).length

theorem length_of_mem_values (kind : Kind) (records : List kind.Record) :
    ∀ row ∈ records.flatMap (values kind.format),
      row.length = (columnRow kind.format).length := by
  intro row hrow
  obtain ⟨item, -, hrow⟩ := List.mem_flatMap.mp hrow
  obtain ⟨fields, hfields, rfl⟩ := List.mem_map.mp hrow
  rw [List.length_map, columnRow, List.length_map]
  exact length_of_mem_rows kind item fields hfields

theorem decodes_iff (kind : Kind) (records : List kind.Record) :
    Decodes kind records ↔
      records ≠ [] ∧
        ∀ record ∈ records, ∀ text ∈ kind.unquotedTexts record, isBareText text := by
  have hread := readCsv_file_iff kind.format (ne_nil_of_mem_rows kind) records
  simp only [freeTexts_eq] at hread
  rw [← hread]
  exact and_iff_left (length_of_mem_values kind records)

/-- An entry of a company whose code has a comma. -/
def commaEntry : JournalEntry where
  header :=
    { document_id := List.replicate 16 0
      company_code := "A,B"
      fiscal_year := 2024
      fiscal_period := 1
      posting_date := .ofYmd 2024 1 15
      document_type := "SA"
      currency := "USD"
      source := .manual
      sap_source_code := none
      fraud_type := none
      anomaly_type := none }
  lines := [⟨1, "1000", ⟨false, 50000, 2⟩, ⟨false, 0, 0⟩, none⟩]

theorem not_decodes_commaEntry : ¬ Decodes .journalEntry [commaEntry] := by
  rintro ⟨hread, -⟩
  have htexts := ((readCsv_file_iff csvSink (ne_nil_of_mem_rows .journalEntry) _).mp hread).2
  have hcode := htexts commaEntry List.mem_cons_self "A,B" (by decide)
  exact absurd (hcode ',' (by decide)) (by decide)

end Kinds

end Datasynth.Output.CsvRoundTrip
