import Mathlib.Tactic.Tauto
import Datasynth.Lib.DelimitedRecords

/-!
Lines of escaped fields, and what a reader makes of a line of which one stretch was
written without care.
-/

namespace Datasynth.Lib.DelimitedLines

open Datasynth.Lib.CsvFormat
open Datasynth.Lib.DelimitedRecords

section Cells

variable {sep : Char} {st st' : ReadState} {cell : Cell} {fields : List (List Char)} {c : Char}

/-- A separator that is none of the characters the format uses otherwise. -/
structure Separator (sep : Char) : Prop where
  ne_quote : sep ≠ quoteChar
  ne_newline : sep ≠ '\n'

/-- A character that neither separates fields nor breaks a line. -/
def Inner (sep : Char) (c : Char) : Prop := c ≠ sep ∧ c ≠ '\n' ∧ c ≠ '\r'

/-- A field of which no character ends it, without quotes unless it is quoted. -/
structure Tame (sep : Char) (cell : Cell) : Prop where
  inner : ∀ c ∈ cell.text, Inner sep c
  unquoted : ∀ text, cell = .bare text → quoteChar ∉ text

theorem isPlain_iff : isPlain sep c = true ↔ Inner sep c ∧ c ≠ quoteChar := by
  rw [isPlain, decide_eq_true_eq, Inner]
  tauto

/-- The characters that end a field: a separator or the end of the line. -/
def Ends (sep c : Char) : Prop := c = sep ∨ c = '\n'

theorem Ends.ne_quoteChar (h : Ends sep c) (hsep : Separator sep) : c ≠ quoteChar := by
  rcases h with rfl | rfl
  · exact hsep.ne_quote
  · decide

theorem Ends.not_isPlain (h : Ends sep c) : isPlain sep c = false := by
  rcases h with rfl | rfl <;> simp [isPlain]

theorem readText_plain {text : List Char} (htext : ∀ c ∈ text, isPlain sep c = true)
    (field : List Char) :
    readText sep ⟨.bare, field, fields⟩ text = .more ⟨.bare, field ++ text, fields⟩ := by
  induction text generalizing field with
  | nil => rw [List.append_nil, readText]
  | cons c text ih =>
      rw [List.forall_mem_cons] at htext
      have hchar : readChar sep ⟨.bare, field, fields⟩ c =
          .more ⟨.bare, field ++ [c], fields⟩ := if_pos htext.1
      rw [readText, hchar]
      dsimp only
      rw [ih htext.2, List.append_assoc, List.singleton_append]

theorem readText_escape (text field : List Char) :
    readText sep ⟨.quoted, field, fields⟩ (Cell.escape text) =
      .more ⟨.quoted, field ++ text, fields⟩ := by
  induction text generalizing field with
  | nil => rw [List.append_nil, Cell.escape, List.flatMap_nil, readText]
  | cons c text ih =>
      rw [Cell.escape, List.flatMap_cons, ← Cell.escape]
      by_cases hc : c = quoteChar
      · subst hc
        have hopen : readText sep ⟨.quoted, field, fields⟩ [quoteChar, quoteChar] =
            .more ⟨.quoted, field ++ [quoteChar], fields⟩ := by
          simp [readText, readChar]
        rw [if_pos rfl, readText_append hopen, ih, List.append_assoc, List.singleton_append]
      · have hchar : readText sep ⟨.quoted, field, fields⟩ [c] =
            .more ⟨.quoted, field ++ [c], fields⟩ := by
          simp [readText, readChar, hc]
        rw [if_neg hc, readText_append hchar, ih, List.append_assoc, List.singleton_append]

theorem readText_singleton : readText sep st [c] = readChar sep st c := by
  rw [readText]
  cases readChar sep st c <;> rfl

theorem readChar_ends (hsep : Separator sep) (hc : Ends sep c) (field : List Char) {mode : Mode}
    (hmode : mode ∈ [Mode.fieldStart, .bare, .closed]) :
    readChar sep ⟨mode, field, fields⟩ c = endField sep field fields c := by
  have hquote := hc.ne_quoteChar hsep
  have hplain := hc.not_isPlain
  simp only [List.mem_cons, List.not_mem_nil, or_false] at hmode
  rcases hmode with rfl | rfl | rfl <;> simp [readChar, hquote, hplain]

/-- A tame field ends where it is written to end. -/
theorem readText_cell (hsep : Separator sep) (htame : Tame sep cell) (hc : Ends sep c) :
    readText sep ⟨.fieldStart, [], fields⟩ (cell.encode ++ [c]) =
      endField sep cell.text fields c := by
  cases cell with
  | bare text =>
      have hplain : ∀ d ∈ text, isPlain sep d = true := by
        intro d hd
        refine isPlain_iff.mpr ⟨htame.inner d hd, ?_⟩
        rintro rfl
        exact htame.unquoted text rfl hd
      cases text with
      | nil => exact readText_singleton.trans (readChar_ends hsep hc [] (by simp))
      | cons d text =>
          rw [List.forall_mem_cons] at hplain
          have hfirst : readText sep ⟨.fieldStart, [], fields⟩ [d] =
              .more ⟨.bare, [d], fields⟩ := by
            rw [readText_singleton, readChar, if_neg (isPlain_iff.mp hplain.1).2, if_pos hplain.1]
            rfl
          rw [Cell.encode, ← List.singleton_append, List.append_assoc, readText_append hfirst,
            readText_append (readText_plain hplain.2 [d]), readText_singleton]
          exact readChar_ends hsep hc _ (by simp)
  | quoted text =>
      have hopen : readText sep ⟨.fieldStart, [], fields⟩ [quoteChar] =
          .more ⟨.quoted, [], fields⟩ := by
        rw [readText_singleton, readChar, if_pos rfl]
      have hclose : readText sep ⟨.quoted, [] ++ text, fields⟩ [quoteChar] =
          .more ⟨.closed, text, fields⟩ := by
        rw [readText_singleton, readChar, if_pos rfl]
        rfl
      rw [Cell.encode, ← List.singleton_append, List.append_assoc, List.append_assoc,
        readText_append hopen, readText_append (readText_escape text []), readText_append hclose,
        readText_singleton]
      exact readChar_ends hsep hc _ (by simp)

end Cells

section InQuotes

variable {sep : Char} {st st' : ReadState} {cell : Cell} {c : Char} {text : List Char}

/-- Between quotes, or at a fault. -/
def InQuotes (outcome : Outcome) : Prop :=
  outcome = .fail ∨ ∃ st, outcome = .more st ∧ st.mode = .quoted

theorem InQuotes.append (h : InQuotes (readText sep st text)) {rest : List Char}
    (hrest : ∀ st', st'.mode = .quoted → InQuotes (readText sep st' rest)) :
    InQuotes (readText sep st (text ++ rest)) := by
  rcases h with hfail | ⟨st', hmore, hmode⟩
  · exact .inl (readText_append_of_fail hfail rest)
  · rw [readText_append hmore]
    exact hrest st' hmode

theorem inQuotes_singleton (hst : st.mode = .quoted) (hc : c ≠ quoteChar) :
    InQuotes (readText sep st [c]) := by
  rw [readText_singleton, readChar, hst]
  exact .inr ⟨_, if_neg hc, rfl⟩

theorem inQuotes_text (hst : st.mode = .quoted) (htext : quoteChar ∉ text) :
    InQuotes (readText sep st text) := by
  induction text generalizing st with
  | nil => exact .inr ⟨st, rfl, hst⟩
  | cons c text ih =>
      rw [List.mem_cons, not_or] at htext
      rw [← List.singleton_append]
      exact (inQuotes_singleton hst (Ne.symm htext.1)).append fun st' hst' => ih hst' htext.2

/-- Behind a quote that was to open a field, nothing but quotes keeps the reader going. -/
theorem inQuotes_closed (hst : st.mode = .closed) (htext : ∀ c ∈ text, Inner sep c) :
    InQuotes (readText sep st (Cell.escape text ++ [quoteChar])) := by
  induction text generalizing st with
  | nil =>
      rw [Cell.escape, List.flatMap_nil, List.nil_append, readText_singleton, readChar, hst]
      exact .inr ⟨_, if_pos rfl, rfl⟩
  | cons c text ih =>
      rw [List.forall_mem_cons] at htext
      obtain ⟨hinner, htext⟩ := htext
      rw [Cell.escape, List.flatMap_cons, ← Cell.escape, List.append_assoc]
      by_cases hc : c = quoteChar
      · subst hc
        have hpair : readText sep st [quoteChar, quoteChar] =
            .more ⟨.closed, st.field ++ [quoteChar], st.fields⟩ := by
          simp [readText, readChar, hst]
        rw [if_pos rfl, readText_append hpair]
        exact ih rfl htext
      · have hfail : readText sep st [c] = .fail := by
          rw [readText_singleton, readChar, hst]
          simp [endField, hc, hinner.1, hinner.2.1, hinner.2.2]
        rw [if_neg hc]
        exact .inl (readText_append_of_fail hfail _)

theorem inQuotes_cell (hst : st.mode = .quoted) (htame : Tame sep cell) :
    InQuotes (readText sep st cell.encode) := by
  cases cell with
  | bare text => exact inQuotes_text hst (htame.unquoted text rfl)
  | quoted text =>
      have hfirst : readText sep st [quoteChar] = .more { st with mode := .closed } := by
        rw [readText_singleton, readChar, hst]
        exact if_pos rfl
      rw [Cell.encode, ← List.singleton_append, readText_append hfirst]
      exact inQuotes_closed rfl htame.inner

end InQuotes


section Rows

variable {sep : Char} {st st' : ReadState} {cells : List Cell} {last : Cell} {raw : List Char}
variable {fields : List (List Char)} {k : ℕ}

/-- Fields, each with a separator behind it. -/
def separated (sep : Char) (cells : List Cell) : List Char := cells.flatMap (·.encode ++ [sep])

/-- The end of a line: fields with separators between them and the line break. -/
def lineEnd (sep : Char) (cells : List Cell) (last : Cell) : List Char :=
  separated sep cells ++ (last.encode ++ ['\n'])

theorem separated_cons (cell : Cell) (cells : List Cell) :
    separated sep (cell :: cells) = (cell.encode ++ [sep]) ++ separated sep cells :=
  List.flatMap_cons

theorem readText_separated (hsep : Separator sep) (htame : ∀ cell ∈ cells, Tame sep cell)
    (fields : List (List Char)) :
    readText sep ⟨.fieldStart, [], fields⟩ (separated sep cells) =
      .more ⟨.fieldStart, [], fields ++ cells.map Cell.text⟩ := by
  induction cells generalizing fields with
  | nil => rw [List.map_nil, List.append_nil, separated, List.flatMap_nil, readText]
  | cons cell cells ih =>
      rw [List.forall_mem_cons] at htame
      have hcell : readText sep ⟨.fieldStart, [], fields⟩ (cell.encode ++ [sep]) =
          .more ⟨.fieldStart, [], fields ++ [cell.text]⟩ :=
        (readText_cell hsep htame.1 (.inl rfl)).trans (if_pos rfl)
      rw [separated_cons, readText_append hcell, ih htame.2, List.map_cons, List.append_assoc,
        List.singleton_append]

theorem readText_lineEnd (hsep : Separator sep) (htame : ∀ cell ∈ cells, Tame sep cell)
    (hlast : Tame sep last) (fields : List (List Char)) :
    readText sep ⟨.fieldStart, [], fields⟩ (lineEnd sep cells last) =
      .record (fields ++ cells.map Cell.text ++ [last.text]) := by
  rw [lineEnd, readText_append (readText_separated hsep htame fields),
    readText_cell hsep hlast (.inr rfl), endField, if_neg hsep.ne_newline.symm, if_pos rfl]

theorem inQuotes_lineEnd (hsep : Separator sep) (htame : ∀ cell ∈ cells, Tame sep cell)
    (hlast : Tame sep last) (hst : st.mode = .quoted) :
    InQuotes (readText sep st (lineEnd sep cells last)) := by
  have hseparated : InQuotes (readText sep st (separated sep cells)) := by
    induction cells generalizing st with
    | nil => exact .inr ⟨st, rfl, hst⟩
    | cons cell cells ih =>
        rw [List.forall_mem_cons] at htame
        rw [separated_cons]
        refine ((inQuotes_cell hst htame.1).append fun st' hst' => ?_).append fun st' hst' => ?_
        · exact inQuotes_singleton hst' hsep.ne_quote
        · exact ih htame.2 hst'
  refine hseparated.append fun st' hst' => (inQuotes_cell hst' hlast).append fun st'' hst'' => ?_
  exact inQuotes_singleton hst'' (by decide)

/-- A text that a reader takes, by itself, for so many fields with their separators. -/
def ReadsAs (sep : Char) (k : ℕ) (raw : List Char) : Prop :=
  ∃ mids : List (List Char), mids.length = k ∧
    readText sep .start raw = .more ⟨.fieldStart, [], mids⟩

/-- A line with a stretch that is written as it comes. -/
def lineWith (sep : Char) (before : List Cell) (raw : List Char) (cells : List Cell) (last : Cell) :
    List Char :=
  separated sep before ++ (raw ++ lineEnd sep cells last)

variable {before : List Cell}

theorem readText_lineWith (hsep : Separator sep) (hbefore : ∀ cell ∈ before, Tame sep cell)
    (htame : ∀ cell ∈ cells, Tame sep cell) (hlast : Tame sep last)
    {mids : List (List Char)}
    (hraw : readText sep .start raw = .more ⟨.fieldStart, [], mids⟩) :
    readText sep .start (lineWith sep before raw cells last) =
      .record (before.map Cell.text ++ mids ++ cells.map Cell.text ++ [last.text]) := by
  have hframe := readText_prepend sep .start raw (before.map Cell.text)
  rw [hraw] at hframe
  rw [lineWith, ReadState.start, readText_append (readText_separated hsep hbefore []),
    List.nil_append]
  have hstart : (⟨.fieldStart, [], before.map Cell.text⟩ : ReadState) =
      { ReadState.start with fields := before.map Cell.text ++ ReadState.start.fields } := by
    rw [ReadState.start, List.append_nil]
  rw [hstart, readText_append hframe]
  exact readText_lineEnd hsep htame hlast _

/-- Behind a separator a reader is before a field or between quotes. -/
theorem mode_of_readChar_sep (hsep : Separator sep) (h : readChar sep st sep = .more st') :
    st'.mode = .quoted ∨ st'.mode = .fieldStart ∧ st'.field = [] := by
  have hplain : isPlain sep sep = false := by simp [isPlain]
  have hend : ∀ field fields, endField sep field fields sep =
      .more ⟨.fieldStart, [], fields ++ [field]⟩ := fun _ _ => if_pos rfl
  rw [readChar] at h
  split at h <;> simp only [hsep.ne_quote, hsep.ne_newline, hplain, hend, if_false,
    Bool.false_eq_true, Outcome.more.injEq, reduceCtorEq] at h
  · exact .inr (h ▸ ⟨rfl, rfl⟩)
  · exact .inr (h ▸ ⟨rfl, rfl⟩)
  · rename_i hmode
    exact .inl (h ▸ hmode)
  · exact .inr (h ▸ ⟨rfl, rfl⟩)

theorem mode_of_readText_sep (hsep : Separator sep) {text : List Char}
    (h : readText sep st (text ++ [sep]) = .more st') :
    st'.mode = .quoted ∨ st'.mode = .fieldStart ∧ st'.field = [] := by
  by_cases htext : ∃ st₁, readText sep st text = .more st₁
  · obtain ⟨st₁, hst₁⟩ := htext
    rw [readText_append hst₁, readText_singleton] at h
    exact mode_of_readChar_sep hsep h
  · rw [readText_append_eq_fail (not_exists.mp htext) (List.cons_ne_nil _ _)] at h
    cases h

/-- A line is a record of the number of fields it was meant to have exactly if the stretch
in it is. -/
theorem readText_lineWith_iff (hsep : Separator sep) (hbefore : ∀ cell ∈ before, Tame sep cell)
    (htame : ∀ cell ∈ cells, Tame sep cell) (hlast : Tame sep last) (text : List Char) :
    (∃ fields, readText sep .start (lineWith sep before (text ++ [sep]) cells last) =
        .record fields ∧ fields.length = before.length + k + cells.length + 1) ↔
      ReadsAs sep k (text ++ [sep]) := by
  constructor
  · rintro ⟨fields, hread, hlength⟩
    have hframe := readText_prepend sep .start (text ++ [sep]) (before.map Cell.text)
    have hline : readText sep { ReadState.start with
        fields := before.map Cell.text ++ ReadState.start.fields }
          ((text ++ [sep]) ++ lineEnd sep cells last) = .record fields := by
      rw [lineWith, ReadState.start, readText_append (readText_separated hsep hbefore [])] at hread
      rw [ReadState.start, List.append_nil]
      exact hread
    cases houtcome : readText sep .start (text ++ [sep]) with
    | more st =>
        rw [houtcome] at hframe
        rcases mode_of_readText_sep hsep houtcome with hquoted | ⟨hmode, hfield⟩
        · rw [readText_append hframe] at hline
          have hquoted' : ({ st with fields := before.map Cell.text ++ st.fields } :
              ReadState).mode = .quoted := hquoted
          have hstays := inQuotes_lineEnd hsep htame hlast hquoted'
          rw [hline] at hstays
          rcases hstays with hfail | ⟨_, hmore, _⟩
          · cases hfail
          · cases hmore
        · obtain ⟨mode, field, mids⟩ := st
          obtain rfl : mode = .fieldStart := hmode
          obtain rfl : field = [] := hfield
          refine ⟨mids, ?_, houtcome⟩
          have hfields := readText_lineWith hsep hbefore htame hlast houtcome
          cases hread.symm.trans hfields
          simp only [List.length_append, List.length_map, List.length_singleton] at hlength
          omega
    | record fields' =>
        rw [houtcome] at hframe
        rw [readText_append_eq_fail (fun _ hmore => by cases hframe.symm.trans hmore)] at hline
        · cases hline
        · exact List.append_ne_nil_of_right_ne_nil _ (List.append_ne_nil_of_right_ne_nil _
            (List.cons_ne_nil _ _))
    | fail =>
        rw [houtcome] at hframe
        rw [readText_append_of_fail hframe] at hline
        cases hline
  · rintro ⟨mids, hmids, hraw⟩
    refine ⟨_, readText_lineWith hsep hbefore htame hlast hraw, ?_⟩
    simp only [List.length_append, List.length_map, List.length_singleton, hmids]

theorem readsAs_separated (hsep : Separator sep) (htame : ∀ cell ∈ cells, Tame sep cell) :
    ReadsAs sep cells.length (separated sep cells) :=
  ⟨cells.map Cell.text, List.length_map _, readText_separated hsep htame []⟩

end Rows

end Datasynth.Lib.DelimitedLines
