import Datasynth.Lib.CsvLineBreaks

/-!
Records written field by field into a buffer, and when a reader finds the fields again.
-/

namespace Datasynth.Output.FastCsv

open Datasynth.Lib.CsvFormat
open Datasynth.Lib.CsvLineBreaks

section Writer

/-- A writer is what has been written to it. -/
abbrev Writer := List Char

def needsQuotes (s : String) : Bool := ',' ∈ s.toList ∨ quoteChar ∈ s.toList ∨ '\n' ∈ s.toList

def write_csv_field (w : Writer) (s : String) : Writer :=
  if needsQuotes s then
    s.toList.foldl (fun w c => if c = quoteChar then w ++ [quoteChar, quoteChar] else w ++ [c])
      (w ++ [quoteChar]) ++ [quoteChar]
  else w ++ s.toList

def write_sep (w : Writer) : Writer := w ++ [',']

def write_newline (w : Writer) : Writer := w ++ ['\n']

/-- A separator stands between two fields. -/
def write_fields (w : Writer) : List String → Writer
  | [] => w
  | [s] => write_csv_field w s
  | s :: fields => write_fields (write_sep (write_csv_field w s)) fields

def write_record (fields : List String) : Writer := write_newline (write_fields [] fields)

example : write_record ["DOC001", "2024", "1500.00", "false"] =
    "DOC001,2024,1500.00,false\n".toList := by
  decide

end Writer

section Cells

/-- How a field is written. -/
def cellOf (s : String) : Cell := if needsQuotes s then .quoted s.toList else .bare s.toList

theorem text_cellOf (s : String) : (cellOf s).text = s.toList := by
  rw [cellOf]
  split
  · rfl
  · rfl

theorem write_csv_field_eq (w : Writer) (s : String) :
    write_csv_field w s = w ++ (cellOf s).encode := by
  have hescape : ∀ (text w : List Char),
      text.foldl (fun w c => if c = quoteChar then w ++ [quoteChar, quoteChar] else w ++ [c]) w =
        w ++ Cell.escape text := by
    intro text
    induction text with
    | nil => exact fun w => (List.append_nil w).symm
    | cons c text ih =>
        intro w
        have hcons : Cell.escape (c :: text) =
            (if c = quoteChar then [quoteChar, quoteChar] else [c]) ++ Cell.escape text :=
          List.flatMap_cons
        rw [List.foldl_cons, ih, hcons]
        split
        · rw [List.append_assoc]
        · rw [List.append_assoc]
  rw [write_csv_field, cellOf]
  split
  · rw [hescape, Cell.encode, List.append_assoc, List.append_assoc]
    rfl
  · rfl

theorem write_fields_newline (w : Writer) {fields : List String} (hfields : fields ≠ []) :
    write_newline (write_fields w fields) = w ++ renderRow (fields.map cellOf) := by
  induction fields generalizing w with
  | nil => exact absurd rfl hfields
  | cons s fields ih =>
      cases fields with
      | nil =>
          rw [write_fields, write_newline, write_csv_field_eq, List.append_assoc]
          rfl
      | cons s' fields =>
          rw [write_fields, ih _ (List.cons_ne_nil _ _), write_sep, write_csv_field_eq,
            List.append_assoc, List.append_assoc]
          · rfl
          · exact List.cons_ne_nil _ _

theorem write_record_eq {fields : List String} (hfields : fields ≠ []) :
    write_record fields = renderRow (fields.map cellOf) :=
  write_fields_newline [] hfields

/-- The characters of a field without quotes are bare, but for carriage returns. -/
theorem breakable_cellOf (s : String) : Breakable (cellOf s) := by
  rw [cellOf]
  split
  · trivial
  · rename_i hplain
    intro c hc
    by_contra hspecial
    rw [not_or, isBare, decide_eq_true_iff] at hspecial
    apply hplain
    rw [needsQuotes, decide_eq_true_iff]
    by_contra hnone
    rw [not_or, not_or] at hnone
    apply hspecial.1
    refine ⟨?_, ?_, ?_, hspecial.2⟩
    · rintro rfl
      exact hnone.1 hc
    · rintro rfl
      exact hnone.2.1 hc
    · rintro rfl
      exact hnone.2.2 hc

theorem fine_cellOf_iff (s : String) :
    (cellOf s).Fine ↔ ('\r' ∈ s.toList → needsQuotes s = true) := by
  have hbreakable := breakable_cellOf s
  rw [cellOf] at hbreakable ⊢
  split
  · rename_i hquotes
    exact iff_of_true trivial fun _ => hquotes
  · rename_i hplain
    rw [if_neg hplain] at hbreakable
    constructor
    · intro hfine hreturn
      exact absurd (hfine _ hreturn) (by decide)
    · intro hquotes c hc
      rcases hbreakable c hc with hbare | rfl
      · exact hbare
      · exact absurd (hquotes hc) hplain

end Cells

section RoundTrip

variable {fields fields' : List String}

theorem map_text_cellOf (fields : List String) :
    (fields.map cellOf).map Cell.text = fields.map String.toList := by
  rw [List.map_map]
  congr 1
  funext s
  exact text_cellOf s

theorem map_toList_injective (h : fields.map String.toList = fields'.map String.toList) :
    fields = fields' :=
  List.map_injective_iff.mpr (fun _ _ heq => String.toList_injective heq) h

theorem write_record_injective (hfields : fields ≠ []) (hfields' : fields' ≠ [])
    (h : write_record fields = write_record fields') : fields = fields' := by
  rw [write_record_eq hfields, write_record_eq hfields'] at h
  have hcells := renderRow_injective (by simpa using hfields) (by simpa using hfields')
    (List.forall_mem_map.mpr fun s _ => breakable_cellOf s)
    (List.forall_mem_map.mpr fun s _ => breakable_cellOf s) h
  have htexts := congrArg (List.map Cell.text) hcells
  rw [map_text_cellOf, map_text_cellOf] at htexts
  exact map_toList_injective htexts

/-- What a record of fields is for. -/
structure Faithful (fields : List String) : Prop where
  reads_back : readSkipping (write_record fields) = some [fields.map String.toList]
  distinct : ∀ fields' ≠ [], write_record fields' = write_record fields → fields' = fields

/-- The fields are read back unless a carriage return stands without quotes, or nothing does. -/
theorem write_record_faithful_iff (hfields : fields ≠ []) :
    Faithful fields ↔
      (∀ s ∈ fields, '\r' ∈ s.toList → needsQuotes s = true) ∧ fields ≠ [""] := by
  have hblank : fields.map cellOf = [.bare []] ↔ fields = [""] := by
    constructor
    · intro h
      have htexts := congrArg (List.map Cell.text) h
      rw [map_text_cellOf] at htexts
      exact map_toList_injective htexts
    · rintro rfl
      rfl
  have hbreakable : ∀ cell ∈ fields.map cellOf, Breakable cell :=
    List.forall_mem_map.mpr fun s _ => breakable_cellOf s
  have hreads := readSkipping_renderRow_iff (by simpa using hfields) hbreakable
  rw [map_text_cellOf, ← write_record_eq hfields, ne_eq, hblank, List.forall_mem_map] at hreads
  simp only [fine_cellOf_iff] at hreads
  rw [← hreads]
  constructor
  · exact Faithful.reads_back
  · intro h
    exact ⟨h, fun fields' hfields' heq => write_record_injective hfields' hfields heq⟩

theorem combined_row_faithful : Faithful ["DOC001", "2024", "1500.00", "false"] :=
  (write_record_faithful_iff (by decide)).mpr (by decide)

/-- A carriage return in the first of two fields. -/
theorem carriage_return_breaks_record :
    ¬ ∀ fields : List String, fields ≠ [] → Faithful fields := by
  intro h
  have hreads := (h ["a\rb", "c"] (by decide)).reads_back
  revert hreads
  decide

end RoundTrip

end Datasynth.Output.FastCsv
