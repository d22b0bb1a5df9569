import Datasynth.Lib.CsvFormat

/-!
A reader of comma-separated values by the quoting rules of RFC 4180 for which a carriage
return, a line feed and both of them are the same line break, and when rows that are quoted
without regard to carriage returns are read back as they were written.
-/

namespace Datasynth.Lib.CsvLineBreaks

open Datasynth.Lib.CsvFormat

section Reader

/-- Where the reader stands: before a record, before a field, in one, between quotes, behind
a quote that may close them, behind a carriage return that has ended a record. -/
inductive Mode where
  | recordStart
  | fieldStart
  | bare
  | quoted
  | closed
  | carriage
deriving DecidableEq

structure ReadState where
  mode : Mode
  field : List Char
  fields : List (List Char)
  records : List (List (List Char))
deriving DecidableEq

def ReadState.start : ReadState := ⟨.recordStart, [], [], []⟩

/-- The end of a field, or nothing a field can end with. -/
def endField (st : ReadState) (c : Char) : Option ReadState :=
  if c = ',' then some ⟨.fieldStart, [], st.fields ++ [st.field], st.records⟩
  else if c = '\n' then some ⟨.recordStart, [], [], st.records ++ [st.fields ++ [st.field]]⟩
  else if c = '\r' then some ⟨.carriage, [], [], st.records ++ [st.fields ++ [st.field]]⟩
  else none

def openField (st : ReadState) (c : Char) : Option ReadState :=
  if c = quoteChar then some { st with mode := .quoted }
  else if isBare c then some { st with mode := .bare, field := st.field ++ [c] }
  else endField st c

def readChar (st : ReadState) (c : Char) : Option ReadState :=
  match st.mode with
  | .recordStart => openField st c
  | .fieldStart => openField st c
  | .bare => if isBare c then some { st with field := st.field ++ [c] } else endField st c
  | .quoted =>
      if c = quoteChar then some { st with mode := .closed }
      else some { st with field := st.field ++ [c] }
  | .closed =>
      if c = quoteChar then some { st with mode := .quoted, field := st.field ++ [c] }
      else endField st c
  | .carriage => if c = '\n' then some { st with mode := .recordStart } else openField st c

def readText (st : ReadState) (text : List Char) : Option ReadState := text.foldlM readChar st

/-- The records at the end of the file, which may end the last one. -/
def finish (st : ReadState) : Option (List (List (List Char))) :=
  match st.mode with
  | .recordStart => some st.records
  | .carriage => some st.records
  | .fieldStart => some (st.records ++ [st.fields ++ [st.field]])
  | .bare => some (st.records ++ [st.fields ++ [st.field]])
  | .closed => some (st.records ++ [st.fields ++ [st.field]])
  | .quoted => none

def readCsv (text : List Char) : Option (List (List (List Char))) :=
  (readText .start text).bind finish

example : readCsv "a,b\r\"c\"\"\r\",\r\nd".toList =
    some [[['a'], ['b']], [['c', quoteChar, '\r'], []], [['d']]] := by
  decide

end Reader

section Texts

variable {st st' : ReadState} {text rest : List Char} {c : Char}
  {fields : List (List Char)} {records : List (List (List Char))}

theorem readText_append (h : readText st text = some st') (rest : List Char) :
    readText st (text ++ rest) = readText st' rest := by
  rw [readText, List.foldlM_append, ← readText, h]
  rfl

theorem readText_singleton : readText st [c] = readChar st c := by
  rw [readText, List.foldlM_cons]
  cases readChar st c <;> rfl

/-- Records that are read stay read. -/
theorem records_prefix_of_readChar (h : readChar st c = some st') :
    st.records <+: st'.records := by
  have hend : ∀ st', endField st c = some st' → st.records <+: st'.records := by
    intro st' h
    rw [endField] at h
    split_ifs at h <;> cases h
    · exact List.prefix_rfl
    · exact List.prefix_append _ _
    · exact List.prefix_append _ _
  have hopen : ∀ st', openField st c = some st' → st.records <+: st'.records := by
    intro st' h
    rw [openField] at h
    split_ifs at h
    · cases h
      exact List.prefix_rfl
    · cases h
      exact List.prefix_rfl
    · exact hend st' h
  rw [readChar] at h
  split at h
  · exact hopen st' h
  · exact hopen st' h
  · split_ifs at h
    · cases h
      exact List.prefix_rfl
    · exact hend st' h
  · split_ifs at h <;> cases h <;> exact List.prefix_rfl
  · split_ifs at h
    · cases h
      exact List.prefix_rfl
    · exact hend st' h
  · split_ifs at h
    · cases h
      exact List.prefix_rfl
    · exact hopen st' h

theorem records_prefix_of_readText (h : readText st text = some st') :
    st.records <+: st'.records := by
  induction text generalizing st with
  | nil =>
      cases h
      exact List.prefix_rfl
  | cons c text ih =>
      rw [readText, List.foldlM_cons] at h
      obtain ⟨st₁, hchar, htext⟩ := Option.bind_eq_some_iff.mp h
      exact (records_prefix_of_readChar hchar).trans (ih htext)

theorem records_prefix_of_finish (h : (readText st text).bind finish = some records) :
    st.records <+: records := by
  obtain ⟨st', htext, hfinish⟩ := Option.bind_eq_some_iff.mp h
  refine (records_prefix_of_readText htext).trans ?_
  rw [finish] at hfinish
  split at hfinish <;> cases hfinish
  · exact List.prefix_rfl
  · exact List.prefix_rfl
  · exact List.prefix_append _ _
  · exact List.prefix_append _ _
  · exact List.prefix_append _ _

end Texts

section Cells

variable {cell : Cell} {text : List Char} {c : Char} {mode : Mode}
  {fields : List (List Char)} {records : List (List (List Char))}

/-- A character behind which a field has ended. -/
def Ends (c : Char) : Prop := c = ',' ∨ c = '\n' ∨ c = '\r'

theorem Ends.not_isBare (h : Ends c) : isBare c = false := by
  rcases h with rfl | rfl | rfl <;> rfl

theorem Ends.ne_quoteChar (h : Ends c) : c ≠ quoteChar := by
  rcases h with rfl | rfl | rfl <;> decide

/-- The reader stands before a field. -/
def Before (mode : Mode) : Prop := mode = .recordStart ∨ mode = .fieldStart

theorem readChar_before (h : Before mode) (field : List Char) (c : Char) :
    readChar ⟨mode, field, fields, records⟩ c = openField ⟨mode, field, fields, records⟩ c := by
  rcases h with rfl | rfl <;> rfl

theorem readText_bare (h : ∀ c ∈ text, isBare c = true) (field : List Char) :
    readText ⟨.bare, field, fields, records⟩ text =
      some ⟨.bare, field ++ text, fields, records⟩ := by
  induction text generalizing field with
  | nil => rw [List.append_nil]; rfl
  | cons c text ih =>
      rw [List.forall_mem_cons] at h
      have hchar : readText ⟨.bare, field, fields, records⟩ [c] =
          some ⟨.bare, field ++ [c], fields, records⟩ := readText_singleton.trans (if_pos h.1)
      rw [← List.singleton_append, readText_append hchar, ih h.2, List.append_assoc]

theorem readText_escape (text field : List Char) :
    readText ⟨.quoted, field, fields, records⟩ (Cell.escape text) =
      some ⟨.quoted, field ++ text, fields, records⟩ := by
  induction text generalizing field with
  | nil => rw [List.append_nil]; rfl
  | cons c text ih =>
      rw [Cell.escape, List.flatMap_cons, ← Cell.escape]
      have hchar : readText ⟨.quoted, field, fields, records⟩
          (if c = quoteChar then [quoteChar, quoteChar] else [c]) =
            some ⟨.quoted, field ++ [c], fields, records⟩ := by
        split
        · rename_i hc
          rw [hc]
          rfl
        · rename_i hc
          exact readText_singleton.trans (if_neg hc)
      rw [readText_append hchar, ih, List.append_assoc, List.singleton_append]

theorem readText_bare_end (hmode : Before mode) (htext : ∀ c ∈ text, isBare c = true)
    (hc : Ends c) :
    readText ⟨mode, [], fields, records⟩ (text ++ [c]) =
      endField ⟨mode, text, fields, records⟩ c := by
  cases text with
  | nil =>
      rw [List.nil_append, readText_singleton, readChar_before hmode, openField,
        if_neg hc.ne_quoteChar, if_neg (by simp [hc.not_isBare])]
  | cons d text =>
      rw [List.forall_mem_cons] at htext
      have hd : d ≠ quoteChar := by
        rintro rfl
        cases htext.1
      have hopen : readText ⟨mode, [], fields, records⟩ [d] =
          some ⟨.bare, [d], fields, records⟩ := by
        rw [readText_singleton, readChar_before hmode, openField, if_neg hd, if_pos htext.1]
        rfl
      have hfield : readText ⟨mode, [], fields, records⟩ (d :: text) =
          some ⟨.bare, d :: text, fields, records⟩ := by
        rw [← List.singleton_append, readText_append hopen, readText_bare htext.2]
      rw [readText_append hfield, readText_singleton, readChar]
      exact if_neg (by simp [hc.not_isBare])

/-- A field that a reader takes for what it is ends where it is written to end. -/
theorem readText_cell (hmode : Before mode) (hfine : cell.Fine) (hc : Ends c) :
    readText ⟨mode, [], fields, records⟩ (cell.encode ++ [c]) =
      endField ⟨mode, cell.text, fields, records⟩ c := by
  cases cell with
  | bare text => exact readText_bare_end hmode hfine hc
  | quoted text =>
      have hopen : readText ⟨mode, [], fields, records⟩ [quoteChar] =
          some ⟨.quoted, [], fields, records⟩ := by
        rw [readText_singleton, readChar_before hmode]
        rfl
      have hclose : readText ⟨.quoted, [] ++ text, fields, records⟩ [quoteChar] =
          some ⟨.closed, text, fields, records⟩ := rfl
      rw [Cell.encode, ← List.singleton_append, List.append_assoc, List.append_assoc,
        readText_append hopen, readText_append (readText_escape text []),
        readText_append hclose, readText_singleton, readChar]
      exact if_neg hc.ne_quoteChar

end Cells

section Rows

variable {row : List Cell} {mode : Mode} {rest : List Char}
  {fields : List (List Char)} {records : List (List (List Char))}

theorem renderRow_cons (cell : Cell) (hrow : row ≠ []) :
    renderRow (cell :: row) = (cell.encode ++ [',']) ++ renderRow row := by
  rw [renderRow, List.append_assoc, List.singleton_append]
  exact hrow

theorem readText_comma (hmode : Before mode) {cell : Cell} (hfine : cell.Fine) :
    readText ⟨mode, [], fields, records⟩ (cell.encode ++ [',']) =
      some ⟨.fieldStart, [], fields ++ [cell.text], records⟩ := by
  rw [readText_cell hmode hfine (.inl rfl)]
  rfl

theorem readText_renderRow (hrow : row ≠ []) (hfine : ∀ cell ∈ row, cell.Fine)
    (hmode : Before mode) :
    readText ⟨mode, [], fields, records⟩ (renderRow row) =
      some ⟨.recordStart, [], [], records ++ [fields ++ row.map Cell.text]⟩ := by
  induction row generalizing mode fields with
  | nil => exact absurd rfl hrow
  | cons cell row ih =>
      rw [List.forall_mem_cons] at hfine
      by_cases hnil : row = []
      · rw [hnil, renderRow, readText_cell hmode hfine.1 (.inr (.inl rfl))]
        rfl
      · rw [renderRow_cons cell hnil, readText_append (readText_comma hmode hfine.1),
          ih hnil hfine.2 (.inr rfl), List.append_assoc]
        rfl

theorem readText_renderRows {rows : List (List Cell)} (hrows : ∀ row ∈ rows, row ≠ [])
    (hfine : ∀ row ∈ rows, ∀ cell ∈ row, cell.Fine) (records : List (List (List Char))) :
    readText ⟨.recordStart, [], [], records⟩ (renderRows rows) =
      some ⟨.recordStart, [], [], records ++ rows.map (·.map Cell.text)⟩ := by
  induction rows generalizing records with
  | nil =>
      rw [List.map_nil, List.append_nil]
      rfl
  | cons row rows ih =>
      rw [List.forall_mem_cons] at hrows hfine
      rw [renderRows, List.flatMap_cons, ← renderRows,
        readText_append (readText_renderRow hrows.1 hfine.1 (.inl rfl)), ih hrows.2 hfine.2,
        List.append_assoc]
      rfl

/-- A field without quotes that holds at most carriage returns besides bare characters. -/
def Breakable : Cell → Prop
  | .bare text => ∀ c ∈ text, isBare c = true ∨ c = '\r'
  | .quoted _ => True

theorem exists_carriage {cell : Cell} (h : Breakable cell) (hfine : ¬ cell.Fine) :
    ∃ before after, cell = .bare (before ++ '\r' :: after) ∧ ∀ c ∈ before, isBare c = true := by
  cases cell with
  | quoted text => exact absurd trivial hfine
  | bare text =>
      rw [Breakable] at h
      rw [Cell.Fine] at hfine
      induction text with
      | nil => exact absurd (List.forall_mem_nil _) hfine
      | cons c text ih =>
          rw [List.forall_mem_cons] at h hfine
          rcases h.1 with hbare | rfl
          · obtain ⟨before, after, heq, hbefore⟩ := ih h.2 fun hrest => hfine ⟨hbare, hrest⟩
            cases heq
            exact ⟨c :: before, after, rfl, List.forall_mem_cons.mpr ⟨hbare, hbefore⟩⟩
          · exact ⟨[], text, rfl, List.forall_mem_nil _⟩

/-- The first carriage return outside quotes ends a record that was not written so. -/
theorem fine_of_readText (hrow : row ≠ []) (hbreakable : ∀ cell ∈ row, Breakable cell)
    (hmode : Before mode) {more : List (List (List Char))}
    (h : (readText ⟨mode, [], fields, records⟩ (renderRow row ++ rest)).bind finish =
      some (records ++ (fields ++ row.map Cell.text) :: more)) :
    ∀ cell ∈ row, cell.Fine := by
  induction row generalizing mode fields with
  | nil => exact absurd rfl hrow
  | cons cell row ih =>
      rw [List.forall_mem_cons] at hbreakable ⊢
      have hcell : cell.Fine := by
        by_contra hbroken
        obtain ⟨before, after, rfl, hbefore⟩ := exists_carriage hbreakable.1 hbroken
        obtain ⟨tail, htail⟩ : ∃ tail, renderRow (.bare (before ++ '\r' :: after) :: row) ++ rest =
            (before ++ ['\r']) ++ tail := by
          cases row with
          | nil => exact ⟨after ++ ['\n'] ++ rest, by simp [renderRow, Cell.encode]⟩
          | cons cell row =>
              exact ⟨after ++ ',' :: renderRow (cell :: row) ++ rest, by
                simp [renderRow, Cell.encode]⟩
        have hbreak : readText ⟨mode, [], fields, records⟩ (before ++ ['\r']) =
            some ⟨.carriage, [], [], records ++ [fields ++ [before]]⟩ := by
          rw [readText_bare_end hmode hbefore (.inr (.inr rfl))]
          rfl
        rw [htail, readText_append hbreak] at h
        have hprefix := records_prefix_of_finish h
        rw [List.prefix_append_right_inj, List.cons_prefix_cons, List.append_cancel_left_eq,
          List.map_cons, List.cons.injEq] at hprefix
        have hlength := congrArg List.length hprefix.1.1
        simp [Cell.text] at hlength
      refine ⟨hcell, ?_⟩
      by_cases hnil : row = []
      · rw [hnil]
        exact List.forall_mem_nil _
      · rw [renderRow_cons cell hnil, List.append_assoc,
          readText_append (readText_comma hmode hcell), List.map_cons,
          ← List.singleton_append (l := row.map Cell.text), ← List.append_assoc] at h
        exact ih hnil hbreakable.2 (.inr rfl) h

theorem readCsv_renderRows_iff {rows : List (List Cell)} (hrows : ∀ row ∈ rows, row ≠ [])
    (hbreakable : ∀ row ∈ rows, ∀ cell ∈ row, Breakable cell) :
    readCsv (renderRows rows) = some (rows.map (·.map Cell.text)) ↔
      ∀ row ∈ rows, ∀ cell ∈ row, cell.Fine := by
  have hgeneral : ∀ records, (readText ⟨.recordStart, [], [], records⟩ (renderRows rows)).bind
      finish = some (records ++ rows.map (·.map Cell.text)) →
        ∀ row ∈ rows, ∀ cell ∈ row, cell.Fine := by
    induction rows with
    | nil =>
        intro records _ row hrow
        cases hrow
    | cons row rows ih =>
        intro records h
        rw [List.forall_mem_cons] at hrows hbreakable ⊢
        rw [renderRows, List.flatMap_cons, ← renderRows, List.map_cons] at h
        have hfirst : (readText ⟨.recordStart, [], [], records⟩
            (renderRow row ++ rows.flatMap renderRow)).bind finish =
              some (records ++ ([] ++ row.map Cell.text) :: rows.map (·.map Cell.text)) := h
        have hrow := fine_of_readText hrows.1 hbreakable.1 (.inl rfl) hfirst
        rw [readText_append (readText_renderRow hrows.1 hrow (.inl rfl)), List.nil_append] at h
        refine ⟨hrow, ih hrows.2 hbreakable.2 (records ++ [row.map Cell.text]) ?_⟩
        rw [h, List.append_assoc]
        rfl
  constructor
  · exact hgeneral []
  · intro hfine
    rw [readCsv, ReadState.start, readText_renderRows hrows hfine]
    rfl

end Rows

section Skipping

/-- The reader stands between two records. -/
def Between (mode : Mode) : Prop := mode = .recordStart ∨ mode = .carriage

instance (mode : Mode) : Decidable (Between mode) := inferInstanceAs (Decidable (_ ∨ _))

/-- The same reader, but for a line without a character, which is no record. -/
def skipChar (st : ReadState) (c : Char) : Option ReadState :=
  if Between st.mode ∧ c = '\n' then some { st with mode := .recordStart }
  else if Between st.mode ∧ c = '\r' then some { st with mode := .carriage }
  else readChar st c

def skipText (st : ReadState) (text : List Char) : Option ReadState := text.foldlM skipChar st

def readSkipping (text : List Char) : Option (List (List (List Char))) :=
  (skipText .start text).bind finish

example : readSkipping "\n\ra,\r\n\n\x22\x22\n".toList = some [[['a'], []], [[]]] := by
  decide

variable {st st' : ReadState} {text rest : List Char} {c : Char} {cell : Cell} {row : List Cell}
  {fields : List (List Char)} {records : List (List (List Char))}

theorem skipText_append (h : skipText st text = some st') (rest : List Char) :
    skipText st (text ++ rest) = skipText st' rest := by
  rw [skipText, List.foldlM_append, ← skipText, h]
  rfl

theorem skipText_singleton : skipText st [c] = skipChar st c := by
  rw [skipText, List.foldlM_cons]
  cases skipChar st c <;> rfl

theorem skipChar_of_not_between (h : ¬Between st.mode) (c : Char) :
    skipChar st c = readChar st c := by
  rw [skipChar, if_neg fun hskip => h hskip.1, if_neg fun hskip => h hskip.1]

theorem not_between_of_endField (h : endField st c = some st')
    (hrecords : st'.records = st.records) : ¬Between st'.mode := by
  rw [endField] at h
  split_ifs at h
  · cases h
    simp [Between]
  · cases h
    simp at hrecords
  · cases h
    simp at hrecords

/-- A record has ended where the reader stands between two. -/
theorem not_between_of_readChar (hst : ¬Between st.mode) (h : readChar st c = some st')
    (hrecords : st'.records = st.records) : ¬Between st'.mode := by
  rw [Between, not_or] at hst
  rw [readChar] at h
  split at h
  · rename_i hmode
    exact absurd hmode hst.1
  · rw [openField] at h
    split_ifs at h
    · cases h
      simp [Between]
    · cases h
      simp [Between]
    · exact not_between_of_endField h hrecords
  · split_ifs at h
    · cases h
      simp_all [Between]
    · exact not_between_of_endField h hrecords
  · split_ifs at h
    · cases h
      simp [Between]
    · cases h
      simp_all [Between]
  · split_ifs at h
    · cases h
      simp [Between]
    · exact not_between_of_endField h hrecords
  · rename_i hmode
    exact absurd hmode hst.2

/-- As long as no record ends, no line is without a character. -/
theorem skipText_of_readText (hst : ¬Between st.mode) (h : readText st text = some st')
    (hrecords : st'.records = st.records) :
    skipText st text = some st' ∧ ¬Between st'.mode := by
  induction text generalizing st with
  | nil =>
      cases h
      exact ⟨rfl, hst⟩
  | cons c text ih =>
      rw [readText, List.foldlM_cons] at h
      obtain ⟨st₁, hchar, htext⟩ := Option.bind_eq_some_iff.mp h
      have hsame : st₁.records = st.records := by
        apply (records_prefix_of_readChar hchar).eq_of_length_le ?_ |>.symm
        rw [← hrecords]
        exact (records_prefix_of_readText htext).length_le
      have hnext := ih (not_between_of_readChar hst hchar hsame) htext (hrecords.trans hsame.symm)
      rw [skipText, List.foldlM_cons, skipChar_of_not_between hst, hchar]
      exact hnext

/-- Inside a record the readers agree on a field and what ends it. -/
theorem skipText_cell (hfine : cell.Fine) (hc : Ends c) :
    skipText ⟨.fieldStart, [], fields, records⟩ (cell.encode ++ [c]) =
      endField ⟨.fieldStart, cell.text, fields, records⟩ c := by
  have hcomma : readText ⟨.fieldStart, [], fields, records⟩ (cell.encode ++ [',']) =
      some ⟨.fieldStart, [], fields ++ [cell.text], records⟩ := readText_comma (.inr rfl) hfine
  have hend : readText ⟨.fieldStart, [], fields, records⟩ (cell.encode ++ [c]) =
      endField ⟨.fieldStart, cell.text, fields, records⟩ c := readText_cell (.inr rfl) hfine hc
  cases hbody : readText ⟨.fieldStart, [], fields, records⟩ cell.encode with
  | none =>
      rw [readText, List.foldlM_append, ← readText, hbody] at hcomma
      cases hcomma
  | some body =>
      rw [readText_append hbody] at hcomma hend
      have hrecords : body.records = records := by
        have hstarts := records_prefix_of_readText hcomma
        exact (hstarts.eq_of_length_le (records_prefix_of_readText hbody).length_le)
      obtain ⟨hskip, hbetween⟩ := skipText_of_readText (by simp [Between]) hbody hrecords
      rw [skipText_append hskip, skipText_singleton, skipChar_of_not_between hbetween,
        ← readText_singleton, hend]

theorem skipText_renderRow (hrow : row ≠ []) (hfine : ∀ cell ∈ row, cell.Fine) :
    skipText ⟨.fieldStart, [], fields, records⟩ (renderRow row) =
      some ⟨.recordStart, [], [], records ++ [fields ++ row.map Cell.text]⟩ := by
  induction row generalizing fields with
  | nil => exact absurd rfl hrow
  | cons cell row ih =>
      rw [List.forall_mem_cons] at hfine
      by_cases hnil : row = []
      · rw [hnil, renderRow, skipText_cell hfine.1 (.inr (.inl rfl))]
        rfl
      · have hcomma : skipText ⟨.fieldStart, [], fields, records⟩ (cell.encode ++ [',']) =
            some ⟨.fieldStart, [], fields ++ [cell.text], records⟩ :=
          skipText_cell hfine.1 (.inl rfl)
        rw [renderRow_cons cell hnil, skipText_append hcomma, ih hnil hfine.2, List.append_assoc]
        rfl

/-- A character that is no line break starts a record with its first field. -/
theorem skipText_recordStart (hnewline : c ≠ '\n') (hreturn : c ≠ '\r') (text : List Char) :
    skipText ⟨.recordStart, [], [], records⟩ (c :: text) =
      skipText ⟨.fieldStart, [], [], records⟩ (c :: text) := by
  have hchar : skipChar ⟨.recordStart, [], [], records⟩ c =
      skipChar ⟨.fieldStart, [], [], records⟩ c := by
    have hbetween : ¬Between (⟨.fieldStart, [], [], records⟩ : ReadState).mode := by
      simp [Between]
    rw [skipChar_of_not_between hbetween, skipChar, if_neg fun h => hnewline h.2,
      if_neg fun h => hreturn h.2]
    rfl
  rw [skipText, List.foldlM_cons, hchar]
  rfl

theorem isBare_ne (h : isBare c = true) : c ≠ '\n' ∧ c ≠ '\r' := by
  have hcases : c ≠ ',' ∧ c ≠ quoteChar ∧ c ≠ '\n' ∧ c ≠ '\r' := of_decide_eq_true h
  exact hcases.2.2

/-- Only the row of one empty field without quotes is a line without a character. -/
theorem exists_renderRow_eq_cons (hrow : row ≠ []) (hfine : ∀ cell ∈ row, cell.Fine)
    (hblank : row ≠ [.bare []]) :
    ∃ c text, renderRow row = c :: text ∧ c ≠ '\n' ∧ c ≠ '\r' := by
  obtain ⟨cell, rest, rfl⟩ := List.exists_cons_of_ne_nil hrow
  rw [List.forall_mem_cons] at hfine
  have hcell : (∃ c text, cell.encode = c :: text ∧ c ≠ '\n' ∧ c ≠ '\r') ∨ cell = .bare [] := by
    cases cell with
    | bare text =>
        cases text with
        | nil => exact .inr rfl
        | cons c text => exact .inl ⟨c, text, rfl, isBare_ne (hfine.1 c List.mem_cons_self)⟩
    | quoted text => exact .inl ⟨quoteChar, _, rfl, by decide, by decide⟩
  by_cases hnil : rest = []
  · subst hnil
    rcases hcell with ⟨c, text, hencode, hbreaks⟩ | rfl
    · exact ⟨c, text ++ ['\n'], by rw [renderRow, hencode, List.cons_append], hbreaks⟩
    · exact absurd rfl hblank
  · rw [renderRow_cons cell hnil]
    rcases hcell with ⟨c, text, hencode, hbreaks⟩ | rfl
    · exact ⟨c, text ++ [','] ++ renderRow rest, by rw [hencode]; rfl, hbreaks⟩
    · exact ⟨',', renderRow rest, rfl, by decide, by decide⟩

/-- Carriage returns in what has been read. -/
def returns (st : ReadState) : ℕ :=
  (st.records.flatten.flatten ++ st.fields.flatten ++ st.field).count '\r'

theorem returns_endField (h : endField st c = some st') : returns st' = returns st := by
  rw [endField] at h
  split_ifs at h
  all_goals
    cases h
    simp [returns]

theorem returns_field (hc : c ≠ '\r') (mode : Mode) :
    returns { st with mode := mode, field := st.field ++ [c] } = returns st := by
  simp [returns, hc]

theorem returns_openField (h : openField st c = some st') : returns st' = returns st := by
  rw [openField] at h
  split_ifs at h with hquote hbare
  · cases h
    rfl
  · cases h
    exact returns_field (isBare_ne hbare).2 _
  · exact returns_endField h

/-- A carriage return is taken into a field between quotes only. -/
theorem returns_readChar (h : readChar st c = some st') :
    returns st' ≤ returns st + if c = '\r' ∧ st.mode = .quoted then 1 else 0 := by
  have hsame : returns st' = returns st →
      returns st' ≤ returns st + if c = '\r' ∧ st.mode = .quoted then 1 else 0 :=
    fun heq => heq ▸ Nat.le_add_right _ _
  rw [readChar] at h
  split at h
  · exact hsame (returns_openField h)
  · exact hsame (returns_openField h)
  · split_ifs at h with hbare
    · cases h
      exact hsame (returns_field (isBare_ne hbare).2 _)
    · exact hsame (returns_endField h)
  · rename_i hmode
    split_ifs at h with hquote
    · cases h
      exact hsame rfl
    · cases h
      by_cases hreturn : c = '\r'
      · simp [returns, hreturn, hmode, Nat.add_assoc]
      · exact hsame (returns_field hreturn _)
  · split_ifs at h with hquote
    · cases h
      apply hsame
      rw [hquote]
      exact returns_field (by decide) _
    · exact hsame (returns_endField h)
  · split_ifs at h
    · cases h
      exact hsame rfl
    · exact hsame (returns_openField h)

theorem returns_skipChar (h : skipChar st c = some st') :
    returns st' ≤ returns st + if c = '\r' ∧ st.mode = .quoted then 1 else 0 := by
  rw [skipChar] at h
  split_ifs at h
  · cases h
    exact Nat.le_add_right _ _
  · cases h
    exact Nat.le_add_right _ _
  · exact returns_readChar h

theorem returns_skipText (h : skipText st text = some st') :
    returns st' ≤ returns st + text.count '\r' := by
  induction text generalizing st with
  | nil =>
      cases h
      exact Nat.le_add_right _ _
  | cons c text ih =>
      rw [skipText, List.foldlM_cons] at h
      obtain ⟨st₁, hchar, htext⟩ := Option.bind_eq_some_iff.mp h
      have hfirst := returns_skipChar hchar
      have hrest := ih htext
      have hcount : (if c = '\r' ∧ st.mode = .quoted then 1 else 0) ≤ List.count '\r' [c] := by
        split
        · rename_i hreturn
          rw [hreturn.1]
          decide
        · exact Nat.zero_le _
      rw [← List.singleton_append, List.count_append]
      omega

theorem count_escape (text : List Char) : (Cell.escape text).count '\r' = text.count '\r' := by
  induction text with
  | nil => rfl
  | cons c text ih =>
      rw [Cell.escape, List.flatMap_cons, ← Cell.escape, List.count_append, ih,
        ← List.singleton_append (l := text), List.count_append]
      congr 1
      split
      · rename_i hquote
        rw [hquote]
        rfl
      · rfl

theorem count_encode (cell : Cell) : cell.encode.count '\r' = cell.text.count '\r' := by
  cases cell with
  | bare text => rfl
  | quoted text =>
      rw [Cell.encode, List.count_cons_of_ne (by decide), List.count_append, count_escape]
      rfl

theorem count_renderRow (row : List Cell) :
    (renderRow row).count '\r' = ((row.map Cell.text).flatten).count '\r' := by
  induction row with
  | nil => rfl
  | cons cell row ih =>
      rw [List.map_cons, List.flatten_cons, List.count_append, ← count_encode]
      by_cases hnil : row = []
      · rw [hnil, renderRow, List.count_append]
        rfl
      · rw [renderRow_cons cell hnil, List.count_append, List.count_append, ih]
        rfl

theorem returns_finish (h : finish st = some records) :
    records.flatten.flatten.count '\r' ≤ returns st := by
  rw [finish] at h
  split at h
  all_goals cases h
  all_goals simp [returns]

/-- A field that may stand without quotes, as far as it has been read. -/
theorem readText_plain (htext : ∀ c ∈ text, isBare c = true) :
    ∃ mode, (mode = .fieldStart ∨ mode = .bare) ∧
      readText ⟨.fieldStart, [], fields, records⟩ text = some ⟨mode, text, fields, records⟩ := by
  cases text with
  | nil => exact ⟨.fieldStart, .inl rfl, rfl⟩
  | cons c text =>
      rw [List.forall_mem_cons] at htext
      have hquote : c ≠ quoteChar := by
        rintro rfl
        cases htext.1
      have hopen : readText ⟨.fieldStart, [], fields, records⟩ [c] =
          some ⟨.bare, [c], fields, records⟩ := by
        rw [readText_singleton, readChar_before (.inr rfl), openField, if_neg hquote,
          if_pos htext.1]
        rfl
      refine ⟨.bare, .inr rfl, ?_⟩
      rw [← List.singleton_append, readText_append hopen, readText_bare htext.2]

theorem head?_encode (hfine : cell.Fine) (rest : List Char) :
    ∀ c ∈ (cell.encode ++ [','] ++ rest).head?, c ≠ '\n' ∧ c ≠ '\r' := by
  intro c hc
  cases cell with
  | quoted text =>
      obtain rfl := Option.some.inj hc
      decide
  | bare text =>
      cases text with
      | nil =>
          obtain rfl := Option.some.inj hc
          decide
      | cons d text =>
          obtain rfl := Option.some.inj hc
          exact isBare_ne (hfine _ List.mem_cons_self)

variable (records) in
/-- Up to a field that is not taken for what it is, the reader keeps track. -/
theorem exists_return (hbreakable : ∀ cell ∈ row, Breakable cell)
    (hbroken : ¬ ∀ cell ∈ row, cell.Fine) (fields : List (List Char)) :
    ∃ before after st, renderRow row = before ++ '\r' :: after ∧
      skipText ⟨.fieldStart, [], fields, records⟩ before = some st ∧ st.mode ≠ .quoted ∧
        ∀ c ∈ before.head?, c ≠ '\n' ∧ c ≠ '\r' := by
  induction row generalizing fields with
  | nil => exact absurd (List.forall_mem_nil _) hbroken
  | cons cell row ih =>
      rw [List.forall_mem_cons] at hbreakable hbroken
      by_cases hcell : cell.Fine
      · have hnil : row ≠ [] := by
          rintro rfl
          exact hbroken ⟨hcell, List.forall_mem_nil _⟩
        obtain ⟨before, after, st, htext, hbefore, hmode, -⟩ :=
          ih hbreakable.2 (fun hrest => hbroken ⟨hcell, hrest⟩) (fields ++ [cell.text])
        have hcomma : skipText ⟨.fieldStart, [], fields, records⟩ (cell.encode ++ [',']) =
            some ⟨.fieldStart, [], fields ++ [cell.text], records⟩ :=
          skipText_cell hcell (.inl rfl)
        refine ⟨cell.encode ++ [','] ++ before, after, st, ?_, ?_, hmode, ?_⟩
        · rw [renderRow_cons cell hnil, htext, List.append_assoc _ before]
        · rw [skipText_append hcomma, hbefore]
        · exact head?_encode hcell before
      · obtain ⟨before, after, rfl, hbefore⟩ := exists_carriage hbreakable.1 hcell
        obtain ⟨mode, hmode, htext⟩ : ∃ mode, (mode = .fieldStart ∨ mode = .bare) ∧
            readText ⟨.fieldStart, [], fields, records⟩ before =
              some ⟨mode, before, fields, records⟩ := readText_plain hbefore
        have hskip := skipText_of_readText (by simp [Between]) htext rfl
        obtain ⟨tail, htail⟩ : ∃ tail, renderRow (.bare (before ++ '\r' :: after) :: row) =
            before ++ '\r' :: tail := by
          cases row with
          | nil => exact ⟨after ++ ['\n'], by simp [renderRow, Cell.encode]⟩
          | cons cell row =>
              exact ⟨after ++ ',' :: renderRow (cell :: row), by simp [renderRow, Cell.encode]⟩
        refine ⟨before, tail, _, htail, hskip.1, ?_, ?_⟩
        · rcases hmode with rfl | rfl
          · rintro ⟨⟩
          · rintro ⟨⟩
        · intro c hc
          exact isBare_ne (hbefore c (List.mem_of_mem_head? hc))

theorem readSkipping_renderRow_iff (hrow : row ≠ []) (hbreakable : ∀ cell ∈ row, Breakable cell) :
    readSkipping (renderRow row) = some [row.map Cell.text] ↔
      (∀ cell ∈ row, cell.Fine) ∧ row ≠ [.bare []] := by
  constructor
  · intro h
    constructor
    · by_contra hbroken
      obtain ⟨before, after, st, htext, hbefore, hmode, hhead⟩ :=
        exists_return [] hbreakable hbroken []
      have hstart : ∃ st, skipText .start before = some st ∧ st.mode ≠ .quoted ∧
          returns st ≤ before.count '\r' := by
        have hreturns : ∀ st, skipText .start before = some st →
            returns st ≤ before.count '\r' := by
          intro st hst
          exact Nat.le_trans (returns_skipText hst) (Nat.le_of_eq (Nat.zero_add _))
        cases before with
        | nil => exact ⟨.start, rfl, nofun, Nat.zero_le _⟩
        | cons c before =>
            obtain ⟨hnewline, hreturn⟩ := hhead c rfl
            rw [ReadState.start, skipText_recordStart hnewline hreturn] at hreturns ⊢
            exact ⟨st, hbefore, hmode, hreturns st hbefore⟩
      obtain ⟨st, hst, hquoted, hcount⟩ := hstart
      have hexpected := count_renderRow row
      rw [readSkipping, htext, skipText_append hst] at h
      rw [htext] at hexpected
      obtain ⟨final, hfinal, hfinish⟩ := Option.bind_eq_some_iff.mp h
      rw [skipText, List.foldlM_cons] at hfinal
      obtain ⟨st₁, hchar, hafter⟩ := Option.bind_eq_some_iff.mp hfinal
      have hlost := returns_skipChar hchar
      rw [if_neg fun hquote => hquoted hquote.2] at hlost
      have hrest := returns_skipText hafter
      have hread := returns_finish hfinish
      rw [List.flatten_singleton, ← hexpected, List.count_append, List.count_cons_self] at hread
      omega
    · rintro rfl
      revert h
      decide
  · rintro ⟨hfine, hblank⟩
    obtain ⟨c, text, htext, hnewline, hreturn⟩ := exists_renderRow_eq_cons hrow hfine hblank
    rw [readSkipping, ReadState.start, htext, skipText_recordStart hnewline hreturn, ← htext,
      skipText_renderRow hrow hfine]
    rfl

end Skipping

section Distinctness

variable {c d : Char} {text text' rest rest' : List Char} {cell cell' : Cell}
  {row row' : List Cell}

/-- A character between the fields of a row, or behind the last one. -/
def Separates (c : Char) : Prop := c = ',' ∨ c = '\n'

theorem Separates.not_breakable (h : Separates c) : ¬(isBare c = true ∨ c = '\r') := by
  rcases h with rfl | rfl
  · decide
  · decide

theorem Separates.ne_quoteChar (h : Separates c) : c ≠ quoteChar := by
  rcases h with rfl | rfl
  · decide
  · decide

theorem bare_append_inj (htext : ∀ c ∈ text, isBare c = true ∨ c = '\r')
    (htext' : ∀ c ∈ text', isBare c = true ∨ c = '\r') (hc : Separates c) (hd : Separates d)
    (h : text ++ c :: rest = text' ++ d :: rest') : text = text' ∧ c :: rest = d :: rest' := by
  induction text generalizing text' with
  | nil =>
      cases text' with
      | nil => exact ⟨rfl, h⟩
      | cons e text' =>
          obtain ⟨rfl, -⟩ := List.cons.inj h
          exact absurd (htext' _ List.mem_cons_self) hc.not_breakable
  | cons e text ih =>
      rw [List.forall_mem_cons] at htext
      cases text' with
      | nil =>
          obtain ⟨rfl, -⟩ := List.cons.inj h
          exact absurd htext.1 hd.not_breakable
      | cons e' text' =>
          rw [List.forall_mem_cons] at htext'
          obtain ⟨rfl, htail⟩ := List.cons.inj h
          obtain ⟨rfl, hrest⟩ := ih htext.2 htext'.2 htail
          exact ⟨rfl, hrest⟩

theorem escape_cons_quote (text : List Char) :
    Cell.escape (quoteChar :: text) = quoteChar :: quoteChar :: Cell.escape text := rfl

theorem escape_cons_of_ne (h : c ≠ quoteChar) (text : List Char) :
    Cell.escape (c :: text) = c :: Cell.escape text := by
  rw [Cell.escape, List.flatMap_cons, if_neg h]
  rfl

theorem escape_append_inj (hc : c ≠ quoteChar) (hd : d ≠ quoteChar)
    (h : Cell.escape text ++ quoteChar :: c :: rest =
      Cell.escape text' ++ quoteChar :: d :: rest') :
    text = text' ∧ c :: rest = d :: rest' := by
  induction text generalizing text' with
  | nil =>
      cases text' with
      | nil => exact ⟨rfl, (List.cons.inj h).2⟩
      | cons e' text' =>
          by_cases he' : e' = quoteChar
          · subst he'
            rw [escape_cons_quote] at h
            exact absurd (List.cons.inj (List.cons.inj h).2).1 hc
          · rw [escape_cons_of_ne he'] at h
            exact absurd (List.cons.inj h).1.symm he'
  | cons e text ih =>
      cases text' with
      | nil =>
          by_cases he : e = quoteChar
          · subst he
            rw [escape_cons_quote] at h
            exact absurd (List.cons.inj (List.cons.inj h).2).1.symm hd
          · rw [escape_cons_of_ne he] at h
            exact absurd (List.cons.inj h).1 he
      | cons e' text' =>
          by_cases he : e = quoteChar
          · subst he
            by_cases he' : e' = quoteChar
            · subst he'
              obtain ⟨rfl, hrest⟩ := ih (List.cons.inj (List.cons.inj h).2).2
              exact ⟨rfl, hrest⟩
            · rw [escape_cons_quote, escape_cons_of_ne he'] at h
              exact absurd (List.cons.inj h).1.symm he'
          · rw [escape_cons_of_ne he] at h
            by_cases he' : e' = quoteChar
            · subst he'
              exact absurd (List.cons.inj h).1 he
            · rw [escape_cons_of_ne he'] at h
              obtain ⟨rfl, htail⟩ := List.cons.inj h
              obtain ⟨rfl, hrest⟩ := ih htail
              exact ⟨rfl, hrest⟩

/-- A quote opens a field between quotes only. -/
theorem bare_append_ne_quoted (htext : ∀ c ∈ text, isBare c = true ∨ c = '\r')
    (hc : Separates c) : text ++ c :: rest ≠ quoteChar :: rest' := by
  intro h
  cases text with
  | nil => exact hc.ne_quoteChar (List.cons.inj h).1
  | cons e text =>
      obtain ⟨rfl, -⟩ := List.cons.inj h
      have hquote := htext _ List.mem_cons_self
      revert hquote
      decide

theorem encode_append_inj (hcell : Breakable cell) (hcell' : Breakable cell')
    (hc : Separates c) (hd : Separates d)
    (h : cell.encode ++ c :: rest = cell'.encode ++ d :: rest') :
    cell = cell' ∧ c :: rest = d :: rest' := by
  cases cell with
  | bare text =>
      cases cell' with
      | bare text' =>
          obtain ⟨rfl, hrest⟩ := bare_append_inj hcell hcell' hc hd h
          exact ⟨rfl, hrest⟩
      | quoted text' => exact absurd h (bare_append_ne_quoted hcell hc)
  | quoted text =>
      cases cell' with
      | bare text' => exact absurd h.symm (bare_append_ne_quoted hcell' hd)
      | quoted text' =>
          have hbody : Cell.escape text ++ [quoteChar] ++ c :: rest =
              Cell.escape text' ++ [quoteChar] ++ d :: rest' := (List.cons.inj h).2
          rw [List.append_assoc, List.append_assoc] at hbody
          obtain ⟨rfl, hrest⟩ := escape_append_inj hc.ne_quoteChar hd.ne_quoteChar hbody
          exact ⟨rfl, hrest⟩

theorem renderRow_eq (cell : Cell) (row : List Cell) :
    ∃ c rest, Separates c ∧ renderRow (cell :: row) = cell.encode ++ c :: rest ∧
      (c = '\n' ∧ row = [] ∧ rest = [] ∨ c = ',' ∧ row ≠ [] ∧ rest = renderRow row) := by
  by_cases hnil : row = []
  · exact ⟨'\n', [], .inr rfl, by rw [hnil, renderRow], .inl ⟨rfl, hnil, rfl⟩⟩
  · refine ⟨',', renderRow row, .inl rfl, ?_, .inr ⟨rfl, hnil, rfl⟩⟩
    rw [renderRow_cons cell hnil, List.append_assoc]
    rfl

/-- Carriage returns without quotes do not make two rows the same. -/
theorem renderRow_injective (hrow : row ≠ []) (hrow' : row' ≠ [])
    (hbreakable : ∀ cell ∈ row, Breakable cell) (hbreakable' : ∀ cell ∈ row', Breakable cell)
    (h : renderRow row = renderRow row') : row = row' := by
  induction row generalizing row' with
  | nil => exact absurd rfl hrow
  | cons cell row ih =>
      obtain ⟨cell', row', rfl⟩ := List.exists_cons_of_ne_nil hrow'
      rw [List.forall_mem_cons] at hbreakable hbreakable'
      obtain ⟨c, rest, hc, htext, hcases⟩ := renderRow_eq cell row
      obtain ⟨d, rest', hd, htext', hcases'⟩ := renderRow_eq cell' row'
      rw [htext, htext'] at h
      obtain ⟨rfl, hrest⟩ := encode_append_inj hbreakable.1 hbreakable'.1 hc hd h
      obtain ⟨rfl, rfl⟩ := List.cons.inj hrest
      congr 1
      rcases hcases with ⟨rfl, rfl, -⟩ | ⟨rfl, hnil, hmore⟩
      · rcases hcases' with ⟨-, rfl, -⟩ | ⟨hcomma, -, -⟩
        · rfl
        · exact absurd hcomma (by decide)
      · rcases hcases' with ⟨hcomma, -, -⟩ | ⟨-, hnil', hmore'⟩
        · exact absurd hcomma (by decide)
        · exact ih hnil hnil' hbreakable.2 hbreakable'.2 (hmore.symm.trans hmore')

end Distinctness

end Datasynth.Lib.CsvLineBreaks
