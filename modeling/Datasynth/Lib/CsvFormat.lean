import Mathlib.Data.List.Basic
import Mathlib.Tactic.Common

/-!
Comma-separated values: a reader of the quoting rules of RFC 4180 that takes both kinds of
line breaks, and when a file of rows, of which some fields are quoted and some are not, is
read back as it was written.
-/

namespace Datasynth.Lib.CsvFormat

def quoteChar : Char := '\x22'

/-- A character that may stand in a field without quotes. -/
def isBare (c : Char) : Bool := c ≠ ',' ∧ c ≠ quoteChar ∧ c ≠ '\n' ∧ c ≠ '\r'

section Reading

/-- What ends a field. -/
inductive Ending where
  | comma
  | record
  | file
deriving DecidableEq

/-- The rest of a field without quotes, what ends it and the text behind. -/
@[grind =] def readBare : List Char → Option (List Char × Ending × List Char)
  | [] => some ([], .file, [])
  | ',' :: text => some ([], .comma, text)
  | '\n' :: text => some ([], .record, text)
  | '\r' :: '\n' :: text => some ([], .record, text)
  | c :: text => if isBare c then (readBare text).map fun r => (c :: r.1, r.2) else none

/-- What ends a field behind its closing quote. -/
@[grind =] def readEnding : List Char → Option (Ending × List Char)
  | [] => some (.file, [])
  | ',' :: text => some (.comma, text)
  | '\n' :: text => some (.record, text)
  | '\r' :: '\n' :: text => some (.record, text)
  | _ => none

/-- The rest of a field behind its opening quote.  Two quotes stand for one. -/
@[grind =] def readQuoted : List Char → Option (List Char × Ending × List Char)
  | [] => none
  | [c] => if c = quoteChar then some ([], .file, []) else none
  | c :: c' :: text =>
      if c = quoteChar then
        if c' = quoteChar then (readQuoted text).map fun r => (quoteChar :: r.1, r.2)
        else (readEnding (c' :: text)).map fun r => ([], r)
      else (readQuoted (c' :: text)).map fun r => (c :: r.1, r.2)

@[grind =] def readField : List Char → Option (List Char × Ending × List Char)
  | [] => readBare []
  | c :: text => if c = quoteChar then readQuoted text else readBare (c :: text)

/-- The rows of a text that starts a field, at most `fuel` fields. -/
@[grind =] def readRows : ℕ → List Char → Option (List (List (List Char)))
  | 0, _ => none
  | fuel + 1, text =>
      (readField text).bind fun r =>
        match r.2.1, r.2.2 with
        | .comma, rest =>
            (readRows fuel rest).bind fun rows =>
              match rows with
              | [] => none
              | row :: rows => some ((r.1 :: row) :: rows)
        | .record, [] => some [[r.1]]
        | .record, c :: rest => (readRows fuel (c :: rest)).map fun rows => [r.1] :: rows
        | .file, _ => some [[r.1]]

/-- The rows of a text that starts a row or is at its end. -/
def readFrom (fuel : ℕ) (text : List Char) : Option (List (List (List Char))) :=
  if text = [] then some [] else readRows fuel text

/-- Every field takes a character of the text, or ends it. -/
def readCsv (text : List Char) : Option (List (List (List Char))) :=
  readFrom (text.length + 1) text

end Reading

section Writing

/-- A field that is written as it is, or between quotes. -/
inductive Cell where
  | bare (text : List Char)
  | quoted (text : List Char)

namespace Cell

def text : Cell → List Char
  | bare text => text
  | quoted text => text

/-- Quotes are doubled. -/
def escape (text : List Char) : List Char :=
  text.flatMap fun c => if c = quoteChar then [quoteChar, quoteChar] else [c]

def encode : Cell → List Char
  | bare text => text
  | quoted text => quoteChar :: (escape text ++ [quoteChar])

/-- Whether a reader takes the field for what it is. -/
def Fine : Cell → Prop
  | bare text => ∀ c ∈ text, isBare c = true
  | quoted _ => True

end Cell

@[grind =] def renderRow : List Cell → List Char
  | [] => ['\n']
  | [cell] => cell.encode ++ ['\n']
  | cell :: cells => cell.encode ++ ',' :: renderRow cells

def renderRows (rows : List (List Cell)) : List Char := rows.flatMap renderRow

end Writing

section Fields

/-- A character that ends a field, with what it ends. -/
inductive Separates : Char → Ending → Prop where
  | comma : Separates ',' .comma
  | record : Separates '\n' .record

variable {sep : Char} {ending : Ending} {rest : List Char}

theorem Separates.ne_quoteChar (h : Separates sep ending) : sep ≠ quoteChar := by
  cases h <;> decide

theorem Separates.readBare (h : Separates sep ending) :
    readBare (sep :: rest) = some ([], ending, rest) := by
  cases h <;> rfl

theorem Separates.readEnding (h : Separates sep ending) :
    readEnding (sep :: rest) = some (ending, rest) := by
  cases h <;> rfl

theorem readBare_cons {c : Char} (hc : isBare c = true) (text : List Char) :
    readBare (c :: text) = (readBare text).map fun r => (c :: r.1, r.2) := by
  have hcases : c ≠ ',' ∧ c ≠ quoteChar ∧ c ≠ '\n' ∧ c ≠ '\r' := of_decide_eq_true hc
  rw [readBare]
  · rw [if_pos hc]
  · exact hcases.1
  · exact hcases.2.2.1
  · intro text' h _
    exact hcases.2.2.2 h

theorem readBare_append (hsep : Separates sep ending) {text : List Char}
    (h : ∀ c ∈ text, isBare c = true) :
    readBare (text ++ sep :: rest) = some (text, ending, rest) := by
  induction text with
  | nil => exact hsep.readBare
  | cons c text ih =>
      rw [List.forall_mem_cons] at h
      rw [List.cons_append, readBare_cons h.1, ih h.2]
      rfl

theorem eq_nil_of_readBare_cons {c : Char} (hc : ¬ isBare c = true) {text field : List Char}
    {r : Ending × List Char} (h : readBare (c :: text) = some (field, r)) : field = [] := by
  rw [readBare.eq_def] at h
  split at h
  · rename_i heq
    cases heq
  · cases h
    rfl
  · cases h
    rfl
  · cases h
    rfl
  · rename_i heq
    cases heq
    rw [if_neg hc] at h
    cases h

/-- A field without quotes that is read as it stands has nothing that ends it earlier. -/
theorem isBare_of_readBare (text : List Char) {r : Ending × List Char}
    (h : readBare (text ++ sep :: rest) = some (text, r)) : ∀ c ∈ text, isBare c = true := by
  induction text with
  | nil =>
      intro c hc
      cases hc
  | cons c text ih =>
      by_cases hc : isBare c = true
      · rw [List.cons_append, readBare_cons hc] at h
        obtain ⟨⟨text', r'⟩, hread, heq⟩ := Option.map_eq_some_iff.mp h
        cases heq
        rw [List.forall_mem_cons]
        exact ⟨hc, ih hread⟩
      · exact absurd (eq_nil_of_readBare_cons hc h) (List.cons_ne_nil _ _)

theorem readQuoted_cons_of_ne {c : Char} (hc : c ≠ quoteChar) (text : List Char) :
    readQuoted (c :: text) = (readQuoted text).map fun r => (c :: r.1, r.2) := by
  cases text with
  | nil => exact if_neg hc
  | cons c' text => rw [readQuoted, if_neg hc]

theorem readQuoted_quote_quote (text : List Char) :
    readQuoted (quoteChar :: quoteChar :: text) =
      (readQuoted text).map fun r => (quoteChar :: r.1, r.2) := by
  rw [readQuoted, if_pos rfl, if_pos rfl]

theorem readQuoted_quote (hsep : Separates sep ending) :
    readQuoted (quoteChar :: sep :: rest) = some ([], ending, rest) := by
  rw [readQuoted, if_pos rfl, if_neg hsep.ne_quoteChar, hsep.readEnding]
  rfl

theorem readQuoted_escape (hsep : Separates sep ending) (text : List Char) :
    readQuoted (Cell.escape text ++ quoteChar :: sep :: rest) = some (text, ending, rest) := by
  induction text with
  | nil => exact readQuoted_quote hsep
  | cons c text ih =>
      rw [Cell.escape, List.flatMap_cons, ← Cell.escape, List.append_assoc]
      by_cases hc : c = quoteChar
      · rw [if_pos hc, List.cons_append, List.cons_append, List.nil_append,
          readQuoted_quote_quote, ih, hc]
        rfl
      · rw [if_neg hc, List.cons_append, List.nil_append, readQuoted_cons_of_ne hc, ih]
        rfl

/-- The quotes at the front of a text. -/
def leadingQuotes (text : List Char) : ℕ := (text.takeWhile (· = quoteChar)).length

/-- A reader takes two quotes for one, so that it does not read more than there are. -/
theorem leadingQuotes_readQuoted (text : List Char) {r : List Char × Ending × List Char}
    (h : readQuoted text = some r) : leadingQuotes r.1 ≤ leadingQuotes text := by
  induction text using readQuoted.induct generalizing r with
  | case1 => cases h
  | case2 =>
      cases h
      exact Nat.zero_le _
  | case3 c hc =>
      rw [readQuoted, if_neg hc] at h
      cases h
  | case4 text ih =>
      rw [readQuoted_quote_quote] at h
      obtain ⟨r', hread, rfl⟩ := Option.map_eq_some_iff.mp h
      have hle := ih hread
      simp only [leadingQuotes, List.takeWhile_cons, decide_true, if_true, List.length_cons] at *
      omega
  | case5 c' text hc' =>
      rw [readQuoted, if_pos rfl, if_neg hc'] at h
      obtain ⟨r', -, rfl⟩ := Option.map_eq_some_iff.mp h
      exact Nat.zero_le _
  | case6 c c' text hc ih =>
      rw [readQuoted_cons_of_ne hc] at h
      obtain ⟨r', -, rfl⟩ := Option.map_eq_some_iff.mp h
      simp [leadingQuotes, hc]

theorem leadingQuotes_append (hsep : Separates sep ending) (text : List Char) :
    leadingQuotes (text ++ sep :: rest) = leadingQuotes text := by
  induction text with
  | nil => simp [leadingQuotes, hsep.ne_quoteChar]
  | cons c text ih =>
      by_cases hc : c = quoteChar
      · simpa [leadingQuotes, hc] using ih
      · simp [leadingQuotes, hc]

theorem readField_of_fine (hsep : Separates sep ending) {cell : Cell} (h : cell.Fine) :
    readField (cell.encode ++ sep :: rest) = some (cell.text, ending, rest) := by
  cases cell with
  | quoted text =>
      rw [Cell.encode, List.cons_append, List.append_assoc, List.singleton_append, readField,
        if_pos rfl]
      exact readQuoted_escape hsep text
  | bare text =>
      have hread : readBare (text ++ sep :: rest) = some (text, ending, rest) :=
        readBare_append hsep h
      cases text with
      | nil =>
          rw [Cell.encode, List.nil_append, readField, if_neg hsep.ne_quoteChar]
          exact hread
      | cons c text =>
          have hc : c ≠ quoteChar := by
            rintro rfl
            cases h quoteChar List.mem_cons_self
          rw [Cell.encode, List.cons_append, readField, if_neg hc]
          exact hread

/-- Only what a reader takes for what it is comes back. -/
theorem fine_of_readField (hsep : Separates sep ending) {cell : Cell} {r : Ending × List Char}
    (h : readField (cell.encode ++ sep :: rest) = some (cell.text, r)) : cell.Fine := by
  cases cell with
  | quoted text => trivial
  | bare text =>
      cases text with
      | nil =>
          intro c hc
          cases hc
      | cons c text =>
          rw [Cell.encode, List.cons_append, readField] at h
          split at h
          · rename_i hc
            subst hc
            have hle := leadingQuotes_readQuoted _ h
            rw [leadingQuotes_append hsep] at hle
            have hmore : leadingQuotes (quoteChar :: text) = leadingQuotes text + 1 := by
              simp [leadingQuotes]
            exact absurd (Nat.le_trans (Nat.le_of_eq hmore.symm) hle) (Nat.not_succ_le_self _)
          · exact isBare_of_readBare (c :: text) h

end Fields

section Rows

variable {text rest field : List Char} {fuel : ℕ}

theorem readRows_comma (h : readField text = some (field, .comma, rest)) :
    readRows (fuel + 1) text = (readRows fuel rest).bind fun rows =>
      match rows with
      | [] => none
      | row :: rows => some ((field :: row) :: rows) := by
  rw [readRows, h]
  rfl

theorem readRows_record (h : readField text = some (field, .record, rest)) :
    readRows (fuel + 1) text = (readFrom fuel rest).map fun rows => [field] :: rows := by
  rw [readRows, h, readFrom]
  cases rest with
  | nil => rfl
  | cons c rest => rfl

theorem readField_of_readRows {row : List (List Char)} {rows : List (List (List Char))}
    (h : readRows fuel text = some ((field :: row) :: rows)) :
    ∃ r, readField text = some (field, r) := by
  cases fuel with
  | zero => cases h
  | succ fuel =>
      rw [readRows] at h
      obtain ⟨⟨field', ending, rest⟩, hread, hrest⟩ := Option.bind_eq_some_iff.mp h
      refine ⟨(ending, rest), ?_⟩
      rw [hread]
      split at hrest
      · obtain ⟨rows', -, hrows⟩ := Option.bind_eq_some_iff.mp hrest
        cases rows' with
        | nil => cases hrows
        | cons row' rows' =>
            cases hrows
            rfl
      · cases hrest
        rfl
      · obtain ⟨rows', -, hrows⟩ := Option.map_eq_some_iff.mp hrest
        cases hrows
        rfl
      · cases hrest
        rfl

/-- A row of fields that a reader takes for what they are is read as it was written. -/
theorem readRows_renderRow {row : List Cell} (hrow : row ≠ []) (hfine : ∀ cell ∈ row, cell.Fine)
    (fuel : ℕ) (rest : List Char) :
    readRows (fuel + row.length) (renderRow row ++ rest) =
      (readFrom fuel rest).map fun rows => row.map Cell.text :: rows := by
  induction row with
  | nil => exact absurd rfl hrow
  | cons cell cells ih =>
      rw [List.forall_mem_cons] at hfine
      cases cells with
      | nil =>
          rw [renderRow, List.append_assoc, List.singleton_append]
          exact readRows_record (readField_of_fine .record hfine.1)
      | cons cell' cells =>
          rw [renderRow, List.append_assoc, List.cons_append, List.length_cons, ← Nat.add_assoc,
            readRows_comma (readField_of_fine .comma hfine.1),
            ih (List.cons_ne_nil _ _) hfine.2]
          · cases readFrom fuel rest with
            | none => rfl
            | some rows => rfl
          · intro h
            cases h

theorem fine_of_readRows {row : List Cell} (hrow : row ≠ []) {rows : List (List (List Char))}
    (h : readRows fuel (renderRow row ++ rest) = some (row.map Cell.text :: rows)) :
    (∀ cell ∈ row, cell.Fine) ∧ ∃ fuel', readFrom fuel' rest = some rows := by
  induction row generalizing fuel rows with
  | nil => exact absurd rfl hrow
  | cons cell cells ih =>
      obtain ⟨r, hread⟩ := readField_of_readRows h
      cases fuel with
      | zero => cases h
      | succ fuel =>
          cases cells with
          | nil =>
              rw [renderRow, List.append_assoc, List.singleton_append] at h hread
              have hfine := fine_of_readField .record hread
              rw [readRows_record (readField_of_fine .record hfine)] at h
              obtain ⟨rows', hrows, heq⟩ := Option.map_eq_some_iff.mp h
              cases heq
              exact ⟨List.forall_mem_singleton.mpr hfine, fuel, hrows⟩
          | cons cell' cells =>
              have hsplit : renderRow (cell :: cell' :: cells) ++ rest =
                  cell.encode ++ ',' :: (renderRow (cell' :: cells) ++ rest) := by
                rw [renderRow, List.append_assoc, List.cons_append]
                intro h
                cases h
              rw [hsplit] at h hread
              have hfine := fine_of_readField .comma hread
              rw [readRows_comma (readField_of_fine .comma hfine)] at h
              obtain ⟨rows', hrows, heq⟩ := Option.bind_eq_some_iff.mp h
              cases rows' with
              | nil => cases heq
              | cons row' rows' =>
                  cases heq
                  obtain ⟨hcells, hrest⟩ := ih (List.cons_ne_nil _ _) hrows
                  exact ⟨List.forall_mem_cons.mpr ⟨hfine, hcells⟩, hrest⟩

theorem length_le_length_renderRow (row : List Cell) : row.length ≤ (renderRow row).length := by
  induction row with
  | nil => exact Nat.zero_le _
  | cons cell cells ih =>
      cases cells with
      | nil =>
          rw [renderRow, List.length_append]
          exact Nat.le_add_left _ _
      | cons cell' cells =>
          rw [renderRow, List.length_append]
          · simp only [List.length_cons] at ih ⊢
            omega
          · intro h
            cases h

theorem renderRow_ne_nil {row : List Cell} (hrow : row ≠ []) : renderRow row ≠ [] := by
  intro h
  have hle := length_le_length_renderRow row
  rw [h] at hle
  exact hrow (List.length_eq_zero_iff.mp (Nat.le_zero.mp hle))

theorem readFrom_renderRows {rows : List (List Cell)} (hrows : ∀ row ∈ rows, row ≠ [])
    (hfine : ∀ row ∈ rows, ∀ cell ∈ row, cell.Fine) (hfuel : (renderRows rows).length ≤ fuel) :
    readFrom fuel (renderRows rows) = some (rows.map (·.map Cell.text)) := by
  induction rows generalizing fuel with
  | nil => rfl
  | cons row rows ih =>
      rw [List.forall_mem_cons] at hrows hfine
      have hsplit : renderRows (row :: rows) = renderRow row ++ renderRows rows :=
        List.flatMap_cons
      rw [hsplit, List.length_append] at hfuel
      have hlength := length_le_length_renderRow row
      have hle : row.length ≤ fuel := by omega
      obtain ⟨fuel', rfl⟩ := Nat.exists_eq_add_of_le' hle
      have hnonempty : renderRows (row :: rows) ≠ [] := by
        rw [hsplit]
        exact List.append_ne_nil_of_left_ne_nil (renderRow_ne_nil hrows.1) _
      rw [readFrom, if_neg hnonempty, hsplit, readRows_renderRow hrows.1 hfine.1,
        ih hrows.2 hfine.2 (by omega)]
      rfl

theorem fine_of_readFrom {rows : List (List Cell)} (hrows : ∀ row ∈ rows, row ≠ [])
    (h : readFrom fuel (renderRows rows) = some (rows.map (·.map Cell.text))) :
    ∀ row ∈ rows, ∀ cell ∈ row, cell.Fine := by
  induction rows generalizing fuel with
  | nil =>
      intro row hrow
      cases hrow
  | cons row rows ih =>
      rw [List.forall_mem_cons] at hrows
      have hsplit : renderRows (row :: rows) = renderRow row ++ renderRows rows :=
        List.flatMap_cons
      have hnonempty : renderRows (row :: rows) ≠ [] := by
        rw [hsplit]
        exact List.append_ne_nil_of_left_ne_nil (renderRow_ne_nil hrows.1) _
      rw [readFrom, if_neg hnonempty, hsplit] at h
      obtain ⟨hrow, fuel', hrest⟩ := fine_of_readRows hrows.1 h
      exact List.forall_mem_cons.mpr ⟨hrow, ih hrows.2 hrest⟩

/-- Rows come back as they were written exactly if every field without quotes may stand so. -/
theorem readCsv_renderRows_iff {rows : List (List Cell)} (hrows : ∀ row ∈ rows, row ≠ []) :
    readCsv (renderRows rows) = some (rows.map (·.map Cell.text)) ↔
      ∀ row ∈ rows, ∀ cell ∈ row, cell.Fine := by
  constructor
  · exact fine_of_readFrom hrows
  · intro hfine
    exact readFrom_renderRows hrows hfine (Nat.le_succ _)

end Rows

end Datasynth.Lib.CsvFormat
