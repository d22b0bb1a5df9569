import Mathlib.Data.List.Forall2
import Datasynth.Lib.CsvFormat

/-!
A reader of records with any separator, character by character, by the quoting rules of
RFC 4180.  A file of lines is read line by line if each line is a record by itself.
-/

namespace Datasynth.Lib.DelimitedRecords

open Datasynth.Lib.CsvFormat

section Reader

/-- Where the reader stands: before a field, in one, between quotes, behind a quote that
may close them, behind a carriage return. -/
inductive Mode where
  | fieldStart
  | bare
  | quoted
  | closed
  | carriage
deriving DecidableEq

structure ReadState where
  mode : Mode
  field : List Char
  fields : List (List Char)
deriving DecidableEq

def ReadState.start : ReadState := ⟨.fieldStart, [], []⟩

/-- What a character leads to. -/
inductive Outcome where
  | more (st : ReadState)
  | record (fields : List (List Char))
  | fail
deriving DecidableEq

variable (sep : Char)

/-- A character that may stand in a field without quotes. -/
def isPlain (c : Char) : Bool := c ≠ sep ∧ c ≠ quoteChar ∧ c ≠ '\n' ∧ c ≠ '\r'

/-- The end of a field, or nothing a field can end with. -/
def endField (field : List Char) (fields : List (List Char)) (c : Char) : Outcome :=
  if c = sep then .more ⟨.fieldStart, [], fields ++ [field]⟩
  else if c = '\n' then .record (fields ++ [field])
  else if c = '\r' then .more ⟨.carriage, field, fields⟩
  else .fail

def readChar (st : ReadState) (c : Char) : Outcome :=
  match st.mode with
  | .fieldStart =>
      if c = quoteChar then .more { st with mode := .quoted }
      else if isPlain sep c then .more { st with mode := .bare, field := st.field ++ [c] }
      else endField sep st.field st.fields c
  | .bare =>
      if isPlain sep c then .more { st with field := st.field ++ [c] }
      else endField sep st.field st.fields c
  | .quoted =>
      if c = quoteChar then .more { st with mode := .closed }
      else .more { st with field := st.field ++ [c] }
  | .closed =>
      if c = quoteChar then .more { st with mode := .quoted, field := st.field ++ [c] }
      else endField sep st.field st.fields c
  | .carriage => if c = '\n' then .record (st.fields ++ [st.field]) else .fail

/-- What a text leads to that holds no record and more. -/
def readText (st : ReadState) : List Char → Outcome
  | [] => .more st
  | c :: text =>
      match readChar sep st c with
      | .more st' => readText st' text
      | .record fields => if text = [] then .record fields else .fail
      | .fail => .fail

/-- A record and the text it was read from. -/
structure Record where
  text : List Char
  fields : List (List Char)
deriving DecidableEq

/-- The fields of a record that ends with the file. -/
def finish (st : ReadState) : Option (List (List Char)) :=
  match st.mode with
  | .fieldStart => some (st.fields ++ [st.field])
  | .bare => some (st.fields ++ [st.field])
  | .closed => some (st.fields ++ [st.field])
  | .quoted => none
  | .carriage => none

/-- The first record and the text behind it. -/
def readRecord (st : ReadState) : List Char → Option (Record × List Char)
  | [] => (finish st).map fun fields => (⟨[], fields⟩, [])
  | c :: text =>
      match readChar sep st c with
      | .more st' => (readRecord st' text).map fun r => (⟨c :: r.1.text, r.1.fields⟩, r.2)
      | .record fields => some (⟨[c], fields⟩, text)
      | .fail => none

/-- At most `fuel` records. -/
def readFrom : ℕ → List Char → Option (List Record)
  | 0, text => if text = [] then some [] else none
  | fuel + 1, text =>
      if text = [] then some []
      else (readRecord sep .start text).bind fun r =>
        (readFrom fuel r.2).map fun records => r.1 :: records

/-- Every record takes a character of the text. -/
def readRecords (text : List Char) : Option (List Record) := readFrom sep text.length text

end Reader

section Texts

variable {sep : Char} {st st' : ReadState} {text rest : List Char} {fields : List (List Char)}

theorem readText_append (h : readText sep st text = .more st') (rest : List Char) :
    readText sep st (text ++ rest) = readText sep st' rest := by
  induction text generalizing st with
  | nil =>
      cases h
      rfl
  | cons c text ih =>
      rw [readText] at h
      rw [List.cons_append, readText]
      cases hchar : readChar sep st c with
      | more st₁ =>
          rw [hchar] at h
          exact ih h
      | record fields =>
          rw [hchar] at h
          dsimp only at h
          split at h <;> cases h
      | fail =>
          rw [hchar] at h
          cases h

/-- A record that ends early, or a fault, leaves no record of the whole text. -/
theorem readText_append_eq_fail (h : ∀ st', readText sep st text ≠ .more st') (hrest : rest ≠ []) :
    readText sep st (text ++ rest) = .fail := by
  induction text generalizing st with
  | nil => exact absurd rfl (h st)
  | cons c text ih =>
      simp only [readText] at h
      rw [List.cons_append, readText]
      cases hchar : readChar sep st c with
      | more st₁ =>
          rw [hchar] at h
          exact ih h
      | record fields => exact if_neg (List.append_ne_nil_of_right_ne_nil text hrest)
      | fail => rfl

theorem readText_append_of_fail (h : readText sep st text = .fail) (rest : List Char) :
    readText sep st (text ++ rest) = .fail := by
  by_cases hrest : rest = []
  · rw [hrest, List.append_nil, h]
  · apply readText_append_eq_fail _ hrest
    intro st' hmore
    cases h.symm.trans hmore

def Outcome.prepend (fields : List (List Char)) : Outcome → Outcome
  | .more st => .more { st with fields := fields ++ st.fields }
  | .record fields' => .record (fields ++ fields')
  | .fail => .fail

/-- What was read before stands before what is read. -/
theorem readChar_prepend (sep : Char) (st : ReadState) (c : Char) (fields : List (List Char)) :
    readChar sep { st with fields := fields ++ st.fields } c =
      (readChar sep st c).prepend fields := by
  have hend : ∀ field, endField sep field (fields ++ st.fields) c =
      (endField sep field st.fields c).prepend fields := by
    intro field
    simp only [endField, List.append_assoc]
    split
    · rfl
    · split
      · rfl
      · split <;> rfl
  obtain ⟨mode, field, fields'⟩ := st
  cases mode <;> simp only [readChar, hend] <;> split_ifs <;>
    simp [Outcome.prepend, List.append_assoc]

theorem readText_prepend (sep : Char) (st : ReadState) (text : List Char)
    (fields : List (List Char)) :
    readText sep { st with fields := fields ++ st.fields } text =
      (readText sep st text).prepend fields := by
  induction text generalizing st with
  | nil => rfl
  | cons c text ih =>
      rw [readText, readText, readChar_prepend]
      cases readChar sep st c with
      | more st' => exact ih st'
      | record fields' =>
          dsimp only [Outcome.prepend]
          split <;> rfl
      | fail => rfl

theorem readRecord_append (h : readText sep st text = .record fields) (rest : List Char) :
    readRecord sep st (text ++ rest) = some (⟨text, fields⟩, rest) := by
  induction text generalizing st with
  | nil => cases h
  | cons c text ih =>
      rw [readText] at h
      rw [List.cons_append, readRecord]
      cases hchar : readChar sep st c with
      | more st₁ =>
          rw [hchar] at h
          dsimp only
          rw [ih h]
          rfl
      | record fields' =>
          rw [hchar] at h
          dsimp only at h
          split at h
          · rename_i hnil
            cases h
            rw [hnil]
            rfl
          · cases h
      | fail =>
          rw [hchar] at h
          cases h

/-- The text is that of the record and the one behind it. -/
theorem text_append_of_readRecord {record : Record}
    (h : readRecord sep st text = some (record, rest)) : text = record.text ++ rest := by
  induction text generalizing st record with
  | nil =>
      obtain ⟨fields, -, heq⟩ := Option.map_eq_some_iff.mp h
      cases heq
      rfl
  | cons c text ih =>
      rw [readRecord] at h
      split at h
      · obtain ⟨⟨record', rest'⟩, hread, heq⟩ := Option.map_eq_some_iff.mp h
        cases heq
        rw [List.cons_append, ← ih hread]
      · cases h
        rfl
      · cases h

theorem mode_of_readChar_newline (h : readChar sep st '\n' = .more st') (hsep : sep ≠ '\n') :
    st'.mode = .quoted := by
  have hplain : isPlain sep '\n' = false := by simp [isPlain]
  have hend : endField sep st.field st.fields '\n' = .record (st.fields ++ [st.field]) := by
    rw [endField, if_neg hsep.symm, if_pos rfl]
  have hquote : '\n' ≠ quoteChar := by decide
  rw [readChar] at h
  split at h
  · rw [if_neg hquote, hplain, if_neg Bool.false_ne_true, hend] at h
    cases h
  · rw [hplain, if_neg Bool.false_ne_true, hend] at h
    cases h
  · rename_i hmode
    rw [if_neg hquote] at h
    cases h
    exact hmode
  · rw [if_neg hquote, hend] at h
    cases h
  · rw [if_pos rfl] at h
    cases h

/-- Only a line that is a record by itself is read as one. -/
theorem readText_of_readRecord (hsep : sep ≠ '\n') {line : List Char}
    (h : readRecord sep st (line ++ '\n' :: rest) = some (⟨line ++ ['\n'], fields⟩, rest)) :
    readText sep st (line ++ ['\n']) = .record fields := by
  induction line generalizing st with
  | nil =>
      rw [List.nil_append, readRecord] at h
      rw [List.nil_append, readText]
      cases hchar : readChar sep st '\n' with
      | more st₁ =>
          rw [hchar] at h
          obtain ⟨⟨⟨text, fields'⟩, rest'⟩, hread, heq⟩ := Option.map_eq_some_iff.mp h
          obtain ⟨htext, rfl⟩ := Prod.mk.inj heq
          obtain ⟨hnil, -⟩ := Record.mk.inj htext
          obtain rfl : text = [] := List.tail_eq_of_cons_eq hnil
          have hmode := mode_of_readChar_newline hchar hsep
          cases rest' with
          | nil =>
              rw [readRecord, finish, hmode] at hread
              cases hread
          | cons c rest =>
              rw [readRecord] at hread
              split at hread
              · obtain ⟨r, -, hr⟩ := Option.map_eq_some_iff.mp hread
                cases hr
              · cases hread
              · cases hread
      | record fields' =>
          rw [hchar] at h
          cases h
          rfl
      | fail =>
          rw [hchar] at h
          cases h
  | cons c line ih =>
      rw [List.cons_append, readRecord] at h
      rw [List.cons_append, readText]
      cases hchar : readChar sep st c with
      | more st₁ =>
          rw [hchar] at h
          obtain ⟨⟨⟨text, fields'⟩, rest'⟩, hread, heq⟩ := Option.map_eq_some_iff.mp h
          obtain ⟨htext, rfl⟩ := Prod.mk.inj heq
          obtain ⟨hline, rfl⟩ := Record.mk.inj htext
          obtain rfl : text = line ++ ['\n'] := List.tail_eq_of_cons_eq hline
          exact ih hread
      | record fields' =>
          rw [hchar] at h
          simp at h
      | fail =>
          rw [hchar] at h
          cases h

end Texts

section Lines

variable {sep : Char} {lines : List (List Char)} {records : List Record}

/-- Lines, each with its line break. -/
def joinLines (lines : List (List Char)) : List Char := lines.flatMap (· ++ ['\n'])

/-- The record is what a line holds. -/
structure IsRecordOf (sep : Char) (line : List Char) (record : Record) : Prop where
  text : record.text = line ++ ['\n']
  reads : readText sep .start (line ++ ['\n']) = .record record.fields

theorem joinLines_cons (line : List Char) (lines : List (List Char)) :
    joinLines (line :: lines) = line ++ '\n' :: joinLines lines := by
  rw [joinLines, List.flatMap_cons, ← joinLines, List.append_assoc]
  rfl

theorem readFrom_nil (fuel : ℕ) : readFrom sep fuel [] = some [] := by
  cases fuel <;> rfl

theorem readFrom_joinLines_iff (hsep : sep ≠ '\n') {fuel : ℕ}
    (hfuel : (joinLines lines).length ≤ fuel) :
    readFrom sep fuel (joinLines lines) = some records ∧
        records.map (·.text) = lines.map (· ++ ['\n']) ↔
      List.Forall₂ (IsRecordOf sep) lines records := by
  induction lines generalizing fuel records with
  | nil =>
      rw [joinLines, List.flatMap_nil, readFrom_nil, List.forall₂_nil_left_iff, List.map_nil,
        List.map_eq_nil_iff, Option.some.injEq]
      exact ⟨And.right, fun h => ⟨h.symm, h⟩⟩
  | cons line lines ih =>
      rw [joinLines_cons] at hfuel ⊢
      cases fuel with
      | zero => simp at hfuel
      | succ fuel =>
          have hrest : (joinLines lines).length ≤ fuel := by
            rw [List.length_append, List.length_cons] at hfuel
            omega
          have hne : line ++ '\n' :: joinLines lines ≠ [] :=
            List.append_ne_nil_of_right_ne_nil line (List.cons_ne_nil _ _)
          rw [readFrom, if_neg hne]
          constructor
          · rintro ⟨hread, htexts⟩
            obtain ⟨⟨record, rest⟩, hrecord, hread⟩ := Option.bind_eq_some_iff.mp hread
            obtain ⟨records', hrecords', rfl⟩ := Option.map_eq_some_iff.mp hread
            obtain ⟨text, fields⟩ := record
            obtain ⟨htext, htail⟩ := List.cons.inj htexts
            obtain rfl : text = line ++ ['\n'] := htext
            have hconsumed := text_append_of_readRecord hrecord
            rw [List.append_assoc] at hconsumed
            obtain rfl : joinLines lines = rest :=
              List.tail_eq_of_cons_eq (List.append_cancel_left hconsumed)
            exact .cons ⟨rfl, readText_of_readRecord hsep hrecord⟩
              ((ih hrest).mp ⟨hrecords', htail⟩)
          · intro h
            obtain ⟨record, records', hrecord, hrecords', rfl⟩ := List.forall₂_cons_left_iff.mp h
            obtain ⟨hread, htexts⟩ := (ih hrest).mpr hrecords'
            have hfirst := readRecord_append hrecord.reads (joinLines lines)
            rw [List.append_assoc, List.singleton_append] at hfirst
            rw [hfirst, Option.bind_some, hread, Option.map_some, List.map_cons, List.map_cons,
              htexts, ← hrecord.text]
            exact ⟨rfl, rfl⟩

/-- A file is read line by line exactly if every line is a record by itself. -/
theorem readRecords_joinLines_iff (hsep : sep ≠ '\n') :
    readRecords sep (joinLines lines) = some records ∧
        records.map (·.text) = lines.map (· ++ ['\n']) ↔
      List.Forall₂ (IsRecordOf sep) lines records :=
  readFrom_joinLines_iff hsep (Nat.le_refl _)

end Lines

end Datasynth.Lib.DelimitedRecords
