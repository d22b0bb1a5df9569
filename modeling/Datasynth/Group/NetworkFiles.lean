import Datasynth.Core.FlowDocuments
import Datasynth.Lib.CsvLineBreaks
import Datasynth.Lib.DoubleValues
import Datasynth.Output.CsvRoundTrip

/-!
The journal networks of a group as comma-separated values, one file for each entity and one for
the group, and when they are read back as they were written: a carriage return in a field is
quoted only where something else in the field calls for quotes.
-/

namespace Datasynth.Group.NetworkFiles

open Datasynth.Core.FlowEntries (Uuid)
open Datasynth.Lib.BareTexts
open Datasynth.Lib.CivilCalendar
open Datasynth.Lib.CsvFormat (Cell quoteChar renderRow renderRows)
open Datasynth.Lib.CsvLineBreaks (Breakable readCsv_renderRows_iff)
open Datasynth.Lib.DoubleValues
open Datasynth.Lib.LiteralTexts
open Datasynth.Output.CsvRoundTrip (cells columnRow fine_headerRow headerRow text_cells
  text_headerRow values)
open Datasynth.Output.CsvSinks

structure JeNetworkEdge where
  edge_id : String
  document_id : Uuid
  posting_date : Date
  from_account : String
  to_account : String
  from_line_id : String
  to_line_id : String
  amount : ScaledDecimal
  confidence : F64
  predecessor_edge_id : String
  business_process : String
  is_fraud : Bool
  is_anomaly : Bool
  fraud_type : Option String
  ic_pair_id : Option String
  ic_partner_entity : Option String

/-- A row of the file of the group: the entity, its edge, whether an elimination posted it
and the pair that is eliminated. -/
structure ConsolidatedRow where
  entity_code : String
  edge : JeNetworkEdge
  is_eliminated : Bool
  eliminates_ic_pair_id : Option String

section Writers

def csv_escape (s : String) : Field :=
  if ',' ∈ s.toList ∨ quoteChar ∈ s.toList ∨ '\n' ∈ s.toList then .quoted s else .free s

def escapeText (text : BareText) : Field := csv_escape (String.ofList text.chars)

def escapeOption (s : Option String) : Field := csv_escape (s.getD "")

-- How a double is displayed: digits, a sign, a point, or the name of what is no number.
variable (display : F64 → BareText)

/-- The fields `write_entity_row` writes. -/
def entityRow (e : JeNetworkEdge) : List Field :=
  [csv_escape e.edge_id, escapeText (uuidText e.document_id.bytes),
    escapeText (isoDateText e.posting_date), csv_escape e.from_account,
    csv_escape e.to_account, csv_escape e.from_line_id, csv_escape e.to_line_id,
    .decimal e.amount, .value (display e.confidence), csv_escape e.predecessor_edge_id,
    csv_escape e.business_process, .bool e.is_fraud, .bool e.is_anomaly,
    escapeOption e.fraud_type, escapeOption e.ic_pair_id, escapeOption e.ic_partner_entity]

/-- The fields `write_consolidated_row` writes. -/
def consolidatedRow (row : ConsolidatedRow) : List Field :=
  [csv_escape row.edge.edge_id, escapeText (uuidText row.edge.document_id.bytes),
    csv_escape row.entity_code, escapeText (isoDateText row.edge.posting_date),
    csv_escape row.edge.from_account, csv_escape row.edge.to_account,
    csv_escape row.edge.from_line_id, csv_escape row.edge.to_line_id,
    .decimal row.edge.amount, .value (display row.edge.confidence),
    csv_escape row.edge.predecessor_edge_id, csv_escape row.edge.business_process,
    .bool row.edge.is_fraud, .bool row.edge.is_anomaly, escapeOption row.edge.fraud_type,
    escapeOption row.edge.ic_pair_id, escapeOption row.edge.ic_partner_entity,
    .bool row.is_eliminated, escapeOption row.eliminates_ic_pair_id]

def entityFormat : RowFormat JeNetworkEdge where
  header := "edge_id,document_id,posting_date,from_account,to_account,"
    ++ "from_line_id,to_line_id,amount,confidence,predecessor_edge_id,"
    ++ "business_process,is_fraud,is_anomaly,fraud_type,ic_pair_id,ic_partner_entity\n"
  columns := ["edge_id", "document_id", "posting_date", "from_account", "to_account",
    "from_line_id", "to_line_id", "amount", "confidence", "predecessor_edge_id",
    "business_process", "is_fraud", "is_anomaly", "fraud_type", "ic_pair_id",
    "ic_partner_entity"]
  header_eq := by
    apply header_eq_of_chars
    · repeat apply map_toList_cons String.toList_ofList
      rfl
    · refine .trans (toList_append_eq (toList_append_eq
        String.toList_ofList String.toList_ofList) String.toList_ofList) ?_
      rfl
  columns_ne := List.cons_ne_nil _ _
  columns_bare := by
    apply columns_bare_of_chars
    · repeat apply map_toList_cons String.toList_ofList
      rfl
    · rfl
  rows e := [entityRow display e]

set_option maxRecDepth 1024 in
def consolidatedFormat : RowFormat ConsolidatedRow where
  header := "edge_id,document_id,entity_code,posting_date,"
    ++ "from_account,to_account,from_line_id,to_line_id,amount,confidence,"
    ++ "predecessor_edge_id,business_process,is_fraud,is_anomaly,fraud_type,"
    ++ "ic_pair_id,ic_partner_entity,is_eliminated,eliminates_ic_pair_id\n"
  columns := ["edge_id", "document_id", "entity_code", "posting_date", "from_account",
    "to_account", "from_line_id", "to_line_id", "amount", "confidence", "predecessor_edge_id",
    "business_process", "is_fraud", "is_anomaly", "fraud_type", "ic_pair_id",
    "ic_partner_entity", "is_eliminated", "eliminates_ic_pair_id"]
  header_eq := by
    apply header_eq_of_chars
    · repeat apply map_toList_cons String.toList_ofList
      rfl
    · refine .trans (toList_append_eq (toList_append_eq (toList_append_eq
        String.toList_ofList String.toList_ofList) String.toList_ofList) String.toList_ofList) ?_
      rfl
  columns_ne := List.cons_ne_nil _ _
  columns_bare := by
    apply columns_bare_of_chars
    · repeat apply map_toList_cons String.toList_ofList
      rfl
    · rfl
  rows row := [consolidatedRow display row]

/-- The header and the rows of a file. -/
def fileOf {α : Type} (format : RowFormat α) (items : List α) : List Char :=
  format.header.toList ++ items.flatMap fun item => renderRows (cells format item)

def write_entity_csv (edges : List JeNetworkEdge) : List Char :=
  fileOf (entityFormat display) edges

def write_consolidated_csv (rows : List ConsolidatedRow) : List Char :=
  fileOf (consolidatedFormat display) rows

end Writers

section Reading

variable {α : Type} {format : RowFormat α}

/-- A carriage return in the text comes with a character that calls for quotes. -/
def Shielded (s : String) : Prop :=
  '\r' ∈ s.toList → ',' ∈ s.toList ∨ quoteChar ∈ s.toList ∨ '\n' ∈ s.toList

theorem breakable_csv_escape (s : String) : Breakable (csv_escape s).cell := by
  rw [csv_escape]
  split
  · trivial
  · rename_i h
    push Not at h
    intro c hc
    by_cases hcarriage : c = '\r'
    · exact .inr hcarriage
    · left
      refine decide_eq_true ⟨?_, ?_, ?_, hcarriage⟩
      · exact fun heq => h.1 (heq ▸ hc)
      · exact fun heq => h.2.1 (heq ▸ hc)
      · exact fun heq => h.2.2 (heq ▸ hc)

theorem fine_csv_escape_iff {s : String} : (csv_escape s).cell.Fine ↔ Shielded s := by
  have hbreakable := breakable_csv_escape s
  rw [Shielded]
  rw [csv_escape] at hbreakable ⊢
  split
  · rename_i h
    exact iff_of_true trivial fun _ => h
  · rename_i h
    rw [if_neg h] at hbreakable
    constructor
    · intro hfine hcarriage
      cases hfine '\r' hcarriage
    · intro hshielded c hc
      rcases hbreakable c hc with hbare | rfl
      · exact hbare
      · exact absurd (hshielded hc) h

theorem fine_escapeText (text : BareText) : (escapeText text).cell.Fine := by
  rw [escapeText, fine_csv_escape_iff, Shielded, String.toList_ofList]
  intro hcarriage
  cases text.bare '\r' hcarriage

theorem text_csv_escape (s : String) : (csv_escape s).cell.text = s.toList := by
  rw [csv_escape]
  split <;> rfl

/-- The file gives back its header and the values of its rows. -/
def ReadsBack (format : RowFormat α) (valuesOf : α → List (List Char)) (items : List α) : Prop :=
  Lib.CsvLineBreaks.readCsv (fileOf format items) =
    some (columnRow format :: items.map valuesOf)

variable {valuesOf : α → List (List Char)}

theorem readsBack_iff {fields : α → List Field} (hrows : ∀ item, format.rows item = [fields item])
    (hvalues : ∀ item, values format item = [valuesOf item]) (hne : ∀ item, fields item ≠ [])
    (hbreakable : ∀ item, ∀ field ∈ fields item, Breakable field.cell) (items : List α) :
    ReadsBack format valuesOf items ↔ ∀ item ∈ items, ∀ field ∈ fields item, field.cell.Fine := by
  have hcells : ∀ item, cells format item = [(fields item).map Field.cell] := by
    intro item
    rw [cells, hrows]
    rfl
  have hfile : fileOf format items =
      renderRows (headerRow format :: items.map fun item => (fields item).map Field.cell) := by
    rw [fileOf, format.header_eq, ← headerRow, renderRows, List.flatMap_cons, List.flatMap_map]
    simp only [hcells, renderRows, List.flatMap_singleton]
  have htexts : columnRow format :: items.map valuesOf =
      (headerRow format :: items.map fun item => (fields item).map Field.cell).map
        (·.map Cell.text) := by
    rw [List.map_cons, text_headerRow, List.map_map]
    congr 1
    refine List.map_congr_left fun item _ => ?_
    have hitem := (text_cells format item).trans (hvalues item)
    rw [hcells] at hitem
    exact (List.singleton_inj.mp hitem).symm
  have hheader : ∀ cell ∈ headerRow format, Breakable cell := by
    intro cell hcell
    obtain ⟨column, hcolumn, rfl⟩ := List.mem_map.mp hcell
    exact fun c hc => .inl (format.columns_bare column hcolumn c hc)
  rw [ReadsBack, hfile, htexts, readCsv_renderRows_iff]
  · simp only [List.forall_mem_cons, List.forall_mem_map]
    exact and_iff_right (fine_headerRow format)
  · simp only [List.forall_mem_cons, List.forall_mem_map, headerRow, ne_eq, List.map_eq_nil_iff]
    exact ⟨format.columns_ne, fun item _ => hne item⟩
  · simp only [List.forall_mem_cons, List.forall_mem_map]
    exact ⟨hheader, fun item _ => hbreakable item⟩

end Reading

section Files

variable (display : F64 → BareText)

def entityValues (e : JeNetworkEdge) : List (List Char) :=
  [e.edge_id.toList, (uuidText e.document_id.bytes).chars, (isoDateText e.posting_date).chars,
    e.from_account.toList, e.to_account.toList, e.from_line_id.toList, e.to_line_id.toList,
    e.amount.toText.chars, (display e.confidence).chars, e.predecessor_edge_id.toList,
    e.business_process.toList, (Field.bool e.is_fraud).cell.text,
    (Field.bool e.is_anomaly).cell.text, (e.fraud_type.getD "").toList,
    (e.ic_pair_id.getD "").toList, (e.ic_partner_entity.getD "").toList]

def consolidatedValues (row : ConsolidatedRow) : List (List Char) :=
  [row.edge.edge_id.toList, (uuidText row.edge.document_id.bytes).chars, row.entity_code.toList,
    (isoDateText row.edge.posting_date).chars, row.edge.from_account.toList,
    row.edge.to_account.toList, row.edge.from_line_id.toList, row.edge.to_line_id.toList,
    row.edge.amount.toText.chars, (display row.edge.confidence).chars,
    row.edge.predecessor_edge_id.toList, row.edge.business_process.toList,
    (Field.bool row.edge.is_fraud).cell.text, (Field.bool row.edge.is_anomaly).cell.text,
    (row.edge.fraud_type.getD "").toList, (row.edge.ic_pair_id.getD "").toList,
    (row.edge.ic_partner_entity.getD "").toList, (Field.bool row.is_eliminated).cell.text,
    (row.eliminates_ic_pair_id.getD "").toList]

/-- The fields of an edge that may hold any text. -/
def JeNetworkEdge.strings (e : JeNetworkEdge) : List String :=
  [e.edge_id, e.from_account, e.to_account, e.from_line_id, e.to_line_id, e.predecessor_edge_id,
    e.business_process, e.fraud_type.getD "", e.ic_pair_id.getD "", e.ic_partner_entity.getD ""]

def ConsolidatedRow.strings (row : ConsolidatedRow) : List String :=
  row.entity_code :: row.eliminates_ic_pair_id.getD "" :: row.edge.strings

theorem rows_entityFormat (e : JeNetworkEdge) :
    (entityFormat display).rows e = [entityRow display e] := rfl

theorem rows_consolidatedFormat (row : ConsolidatedRow) :
    (consolidatedFormat display).rows row = [consolidatedRow display row] := rfl

theorem values_entityFormat (e : JeNetworkEdge) :
    values (entityFormat display) e = [entityValues display e] := by
  rw [values, rows_entityFormat]
  simp only [entityRow, entityValues, escapeText, escapeOption, List.map_cons, List.map_nil,
    text_csv_escape, String.toList_ofList]
  rfl

theorem values_consolidatedFormat (row : ConsolidatedRow) :
    values (consolidatedFormat display) row = [consolidatedValues display row] := by
  rw [values, rows_consolidatedFormat]
  simp only [consolidatedRow, consolidatedValues, escapeText, escapeOption, List.map_cons,
    List.map_nil, text_csv_escape, String.toList_ofList]
  rfl

theorem fine_value (text : BareText) : (Field.value text).cell.Fine := text.bare

theorem breakable_value (text : BareText) : Breakable (Field.value text).cell :=
  fun c hc => .inl (text.bare c hc)

theorem fine_entityRow_iff (e : JeNetworkEdge) :
    (∀ field ∈ entityRow display e, field.cell.Fine) ↔ ∀ s ∈ e.strings, Shielded s := by
  simp only [entityRow, JeNetworkEdge.strings, escapeOption, Field.decimal, Field.bool,
    List.forall_mem_cons, fine_csv_escape_iff, fine_escapeText, fine_value, true_and,
    List.not_mem_nil, false_implies, implies_true]

theorem fine_consolidatedRow_iff (row : ConsolidatedRow) :
    (∀ field ∈ consolidatedRow display row, field.cell.Fine) ↔
      ∀ s ∈ row.strings, Shielded s := by
  simp only [consolidatedRow, ConsolidatedRow.strings, JeNetworkEdge.strings, escapeOption,
    Field.decimal, Field.bool, List.forall_mem_cons, fine_csv_escape_iff, fine_escapeText,
    fine_value, true_and, List.not_mem_nil, false_implies, implies_true]
  tauto

theorem breakable_entityRow (e : JeNetworkEdge) :
    ∀ field ∈ entityRow display e, Breakable field.cell := by
  simp only [entityRow, escapeText, escapeOption, Field.decimal, Field.bool,
    List.forall_mem_cons, breakable_csv_escape, breakable_value, true_and, List.not_mem_nil,
    false_implies, implies_true]

theorem breakable_consolidatedRow (row : ConsolidatedRow) :
    ∀ field ∈ consolidatedRow display row, Breakable field.cell := by
  simp only [consolidatedRow, escapeText, escapeOption, Field.decimal, Field.bool,
    List.forall_mem_cons, breakable_csv_escape, breakable_value, true_and, List.not_mem_nil,
    false_implies, implies_true]

/-- The files give back what was written exactly if every carriage return in a text field is
quoted for the sake of another character. -/
theorem network_files_read_back_iff :
    (∀ edges, ReadsBack (entityFormat display) (entityValues display) edges ↔
      ∀ e ∈ edges, ∀ s ∈ e.strings, Shielded s) ∧
    (∀ rows, ReadsBack (consolidatedFormat display) (consolidatedValues display) rows ↔
      ∀ row ∈ rows, ∀ s ∈ row.strings, Shielded s) := by
  constructor
  · intro edges
    rw [readsBack_iff (rows_entityFormat display) (values_entityFormat display)
      (fun _ => List.cons_ne_nil _ _) (breakable_entityRow display)]
    simp only [fine_entityRow_iff]
  · intro rows
    rw [readsBack_iff (rows_consolidatedFormat display) (values_consolidatedFormat display)
      (fun _ => List.cons_ne_nil _ _) (breakable_consolidatedRow display)]
    simp only [fine_consolidatedRow_iff]

def sampleEdge (from_account : String) : JeNetworkEdge :=
  ⟨"E-1", ⟨List.replicate 16 0, Uuid.length_zeros⟩, .ofYmd 2024 6 15, from_account, "4000",
    "L-2", "L-1", ⟨false, 100000, 2⟩, .finite 1, "", "P2P", false, false, none, none, none⟩

/-- A row with a lone carriage return in an account is read as two. -/
theorem carriage_return_breaks_row :
    ¬ ReadsBack (entityFormat fun _ => natText 1) (entityValues fun _ => natText 1)
      [sampleEdge "11\r00"] := by
  rw [readsBack_iff (rows_entityFormat _) (values_entityFormat _)
    (fun _ => List.cons_ne_nil _ _) (breakable_entityRow _)]
  intro h
  have hfine := (fine_entityRow_iff _ _).mp (h _ List.mem_cons_self) "11\r00"
    (List.mem_cons_of_mem _ List.mem_cons_self)
  exact absurd hfine (by unfold Shielded; decide)

end Files

end Datasynth.Group.NetworkFiles
