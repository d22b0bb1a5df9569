import Mathlib.Data.List.Basic
import Mathlib.Data.Nat.Notation

/-!
A reader of XML 1.0 documents, character by character.  The content of an element is its
characters and its elements.  The reader knows the references to the five predefined
entities; it refuses character references, references in attribute values, comments, CDATA
sections and processing instructions.
-/

namespace Datasynth.Lib.XmlReader

section Characters

/-- The characters that a document may have. -/
def isXmlChar (c : Char) : Bool :=
  c = '\t' ∨ c = '\n' ∨ c = '\r' ∨ (0x20 ≤ c.toNat ∧ c.toNat ≤ 0xD7FF) ∨
    (0xE000 ≤ c.toNat ∧ c.toNat ≤ 0xFFFD) ∨ 0x10000 ≤ c.toNat

def isSpace (c : Char) : Bool := c = ' ' ∨ c = '\t' ∨ c = '\n' ∨ c = '\r'

def nameStartRanges : List (ℕ × ℕ) :=
  [ (0xC0, 0xD6), (0xD8, 0xF6), (0xF8, 0x2FF), (0x370, 0x37D), (0x37F, 0x1FFF), (0x200C, 0x200D),
    (0x2070, 0x218F), (0x2C00, 0x2FEF), (0x3001, 0xD7FF), (0xF900, 0xFDCF), (0xFDF0, 0xFFFD),
    (0x10000, 0xEFFFF) ]

def nameRanges : List (ℕ × ℕ) := [(0xB7, 0xB7), (0x300, 0x36F), (0x203F, 0x2040)]

def inRanges (ranges : List (ℕ × ℕ)) (c : Char) : Bool :=
  ranges.any fun range => range.1 ≤ c.toNat ∧ c.toNat ≤ range.2

def isNameStart (c : Char) : Bool :=
  c.isAlpha || c == ':' || c == '_' || inRanges nameStartRanges c

def isNameChar (c : Char) : Bool :=
  isNameStart c || c.isDigit || c == '-' || c == '.' || inRanges nameRanges c

/-- A line ends with a line feed, whichever way it was written. -/
def normalizeLineEnds : List Char → List Char
  | [] => []
  | '\r' :: '\n' :: text => '\n' :: normalizeLineEnds text
  | '\r' :: text => '\n' :: normalizeLineEnds text
  | c :: text => c :: normalizeLineEnds text

def doubleQuote : Char := '\x22'

def apostrophe : Char := '\x27'

def predefinedEntity (name : List Char) : Option Char :=
  if name = ['a', 'm', 'p'] then some '&'
  else if name = ['l', 't'] then some '<'
  else if name = ['g', 't'] then some '>'
  else if name = ['q', 'u', 'o', 't'] then some doubleQuote
  else if name = ['a', 'p', 'o', 's'] then some apostrophe
  else none

end Characters

section Reader

/-- The name and the attributes of an element. -/
structure Tag where
  name : List Char
  attributes : List (List Char × List Char)

inductive Item where
  | char (c : Char)
  | element (tag : Tag) (content : List Item)

/-- An element that is not closed yet. -/
structure Frame where
  tag : Tag
  content : List Item

/-- Where the reader stands, with what it has read of a name, a tag or a value. -/
inductive Mode where
  | outside
  | content
  | reference (name : List Char)
  | markup
  | startName (name : List Char)
  | startTag (tag : Tag)
  | attributeName (tag : Tag) (name : List Char)
  | named (tag : Tag) (name : List Char)
  | equals (tag : Tag) (name : List Char)
  | value (tag : Tag) (name : List Char) (quote : Char) (text : List Char)
  | valued (tag : Tag)
  | emptyTag (tag : Tag)
  | endName (name : List Char)
  | endTag (name : List Char)

structure State where
  mode : Mode
  frames : List Frame
  root : Option Item

def State.start : State := ⟨.outside, [], none⟩

/-- An item behind those of the innermost element. -/
def State.push (st : State) (item : Item) : Option State :=
  match st.frames with
  | [] => none
  | frame :: frames => some ⟨.content, ⟨frame.tag, frame.content ++ [item]⟩ :: frames, st.root⟩

/-- An element that is complete stands in the one around it, or is the root. -/
def State.complete (st : State) (tag : Tag) (content : List Item) : Option State :=
  match st.frames with
  | [] => some ⟨.outside, [], some (.element tag content)⟩
  | _ :: _ => st.push (.element tag content)

/-- An end tag closes the innermost element, of which it has the name. -/
def State.close (st : State) (name : List Char) : Option State :=
  match st.frames with
  | [] => none
  | frame :: frames =>
      if frame.tag.name = name then
        State.complete ⟨.content, frames, st.root⟩ frame.tag frame.content
      else none

/-- What may stand behind the name or an attribute of a start tag. -/
def State.endStart (st : State) (tag : Tag) (c : Char) : Option State :=
  if isSpace c then some { st with mode := .startTag tag }
  else if c = '>' then some ⟨.content, ⟨tag, []⟩ :: st.frames, st.root⟩
  else if c = '/' then some { st with mode := .emptyTag tag }
  else none

/-- The end of a CDATA section must not stand in a text. -/
def Frame.endsWithBrackets (frame : Frame) : Bool :=
  match frame.content.reverse with
  | .char ']' :: .char ']' :: _ => true
  | _ => false

def readContent (st : State) (c : Char) : Option State :=
  if c = '<' then some { st with mode := .markup }
  else if c = '&' then some { st with mode := .reference [] }
  else if c = '>' ∧ st.frames.head?.any Frame.endsWithBrackets then none
  else st.push (.char c)

def readMode (st : State) (c : Char) : Option State :=
  match st.mode with
  | .outside =>
      if isSpace c then some st
      else if c = '<' ∧ st.root.isNone then some { st with mode := .markup }
      else none
  | .content => readContent st c
  | .reference name =>
      if c = ';' then (predefinedEntity name).bind fun entity => st.push (.char entity)
      else some { st with mode := .reference (name ++ [c]) }
  | .markup =>
      if isNameStart c then some { st with mode := .startName [c] }
      else if c = '/' then some { st with mode := .endName [] }
      else none
  | .startName name =>
      if isNameChar c then some { st with mode := .startName (name ++ [c]) }
      else st.endStart ⟨name, []⟩ c
  | .startTag tag =>
      if isNameStart c then some { st with mode := .attributeName tag [c] }
      else st.endStart tag c
  | .attributeName tag name =>
      if isNameChar c then some { st with mode := .attributeName tag (name ++ [c]) }
      else if c = '=' then some { st with mode := .equals tag name }
      else if isSpace c then some { st with mode := .named tag name }
      else none
  | .named tag name =>
      if c = '=' then some { st with mode := .equals tag name }
      else if isSpace c then some st
      else none
  | .equals tag name =>
      if c = doubleQuote ∨ c = apostrophe then some { st with mode := .value tag name c [] }
      else if isSpace c then some st
      else none
  | .value tag name quote text =>
      if c = quote then
        if tag.attributes.any (·.1 = name) then none
        else some { st with mode := .valued ⟨tag.name, tag.attributes ++ [(name, text)]⟩ }
      else if c = '<' ∨ c = '&' then none
      else some { st with
        mode := .value tag name quote (text ++ [if isSpace c then ' ' else c]) }
  | .valued tag => st.endStart tag c
  | .emptyTag tag => if c = '>' then st.complete tag [] else none
  | .endName name =>
      if isNameChar c ∧ (name = [] → isNameStart c) then
        some { st with mode := .endName (name ++ [c]) }
      else if isSpace c then some { st with mode := .endTag name }
      else if c = '>' then st.close name
      else none
  | .endTag name =>
      if isSpace c then some st
      else if c = '>' then st.close name
      else none

def readChar (st : State) (c : Char) : Option State :=
  if isXmlChar c then readMode st c else none

def readText (st : State) (text : List Char) : Option State := text.foldlM readChar st

/-- The declaration that a document may begin with. -/
def declaration : List Char := "<?xml version=\"1.0\" encoding=\"UTF-8\"?>".toList

def dropDeclaration (text : List Char) : List Char :=
  if declaration <+: text then text.drop declaration.length else text

/-- The root element of a document. -/
def State.document (st : State) : Option Item :=
  match st.mode with
  | .outside => st.root
  | _ => none

def readDocument (text : List Char) : Option Item :=
  (readText .start (dropDeclaration (normalizeLineEnds text))).bind State.document

end Reader

section LineEnds

variable {text : List Char} {c : Char}

theorem normalizeLineEnds_append (h : '\r' ∉ text) (rest : List Char) :
    normalizeLineEnds (text ++ rest) = text ++ normalizeLineEnds rest := by
  induction text with
  | nil => rfl
  | cons c text ih =>
      rw [List.mem_cons, not_or] at h
      rw [List.cons_append, normalizeLineEnds, ih h.2, List.cons_append]
      · rintro _ rfl
        exact absurd rfl h.1
      · rintro rfl
        exact absurd rfl h.1

theorem normalizeLineEnds_eq_self (h : '\r' ∉ text) : normalizeLineEnds text = text := by
  have happend := normalizeLineEnds_append h []
  rwa [List.append_nil, normalizeLineEnds, List.append_nil] at happend

theorem not_mem_normalizeLineEnds (text : List Char) : '\r' ∉ normalizeLineEnds text := by
  fun_induction normalizeLineEnds text with
  | case1 => exact List.not_mem_nil
  | case2 text ih => exact List.not_mem_cons_of_ne_of_not_mem (by decide) ih
  | case3 text _ ih => exact List.not_mem_cons_of_ne_of_not_mem (by decide) ih
  | case4 c text _ hc ih => exact List.not_mem_cons_of_ne_of_not_mem (fun h => hc h.symm) ih

theorem mem_normalizeLineEnds (h : c ∈ text) (hc : c ≠ '\r') : c ∈ normalizeLineEnds text := by
  fun_induction normalizeLineEnds text with
  | case1 => exact h
  | case2 text ih =>
      rcases List.mem_cons.mp h with rfl | h
      · exact absurd rfl hc
      · rcases List.mem_cons.mp h with rfl | h
        · exact List.mem_cons_self
        · exact List.mem_cons_of_mem _ (ih h)
  | case3 text _ ih =>
      rcases List.mem_cons.mp h with rfl | h
      · exact absurd rfl hc
      · exact List.mem_cons_of_mem _ (ih h)
  | case4 c' text _ _ ih =>
      rcases List.mem_cons.mp h with rfl | h
      · exact List.mem_cons_self
      · exact List.mem_cons_of_mem _ (ih h)

end LineEnds

section Runs

variable {st st' : State} {text rest : List Char} {c : Char}

theorem readText_append (h : readText st text = some st') (rest : List Char) :
    readText st (text ++ rest) = readText st' rest := by
  rw [readText, List.foldlM_append, ← readText, h]
  rfl

theorem readText_cons (st : State) (c : Char) (text : List Char) :
    readText st (c :: text) = (readChar st c).bind fun st' => readText st' text := by
  rw [readText, List.foldlM_cons]
  rfl

theorem readText_singleton (st : State) (c : Char) : readText st [c] = readChar st c := by
  rw [readText_cons]
  cases readChar st c <;> rfl

theorem isXmlChar_of_readText (h : readText st text = some st') :
    ∀ c ∈ text, isXmlChar c = true := by
  induction text generalizing st with
  | nil => exact List.forall_mem_nil _
  | cons c text ih =>
      rw [readText, List.foldlM_cons] at h
      obtain ⟨st₁, hchar, hrest⟩ := Option.bind_eq_some_iff.mp h
      rw [List.forall_mem_cons]
      refine ⟨?_, ih hrest⟩
      rw [readChar] at hchar
      split at hchar
      · assumption
      · cases hchar

end Runs

section Texts

mutual

/-- The characters of an item, in order. -/
def Item.chars : Item → List Char
  | .char c => [c]
  | .element _ content => charsOf content

def charsOf : List Item → List Char
  | [] => []
  | item :: items => item.chars ++ charsOf items

end

theorem charsOf_append (items items' : List Item) :
    charsOf (items ++ items') = charsOf items ++ charsOf items' := by
  induction items with
  | nil => rfl
  | cons item items ih => rw [List.cons_append, charsOf, charsOf, ih, List.append_assoc]

theorem charsOf_singleton (item : Item) : charsOf [item] = item.chars := by
  rw [charsOf, charsOf, List.append_nil]

def State.chars (st : State) : List Char :=
  (st.frames.flatMap fun frame => charsOf frame.content) ++ (st.root.map Item.chars).getD []

variable {P : Char → Prop} {st st' : State} {c : Char}

theorem forall_chars_push {item : Item} (hst : ∀ x ∈ st.chars, P x) (hitem : ∀ x ∈ item.chars, P x)
    (h : st.push item = some st') : ∀ x ∈ st'.chars, P x := by
  obtain ⟨mode, frames, root⟩ := st
  cases frames with
  | nil => cases h
  | cons frame frames =>
      cases h
      simp only [State.chars, List.flatMap_cons, charsOf_append, charsOf_singleton,
        List.forall_mem_append] at hst ⊢
      exact ⟨⟨⟨hst.1.1, hitem⟩, hst.1.2⟩, hst.2⟩

theorem forall_chars_complete {tag : Tag} {content : List Item} (hst : ∀ x ∈ st.chars, P x)
    (hcontent : ∀ x ∈ charsOf content, P x) (h : st.complete tag content = some st') :
    ∀ x ∈ st'.chars, P x := by
  have helement : ∀ x ∈ (Item.element tag content).chars, P x := by
    rw [Item.chars]
    exact hcontent
  rw [State.complete] at h
  split at h
  · cases h
    exact helement
  · exact forall_chars_push hst helement h

theorem forall_chars_close {name : List Char} (hst : ∀ x ∈ st.chars, P x)
    (h : st.close name = some st') : ∀ x ∈ st'.chars, P x := by
  obtain ⟨mode, frames, root⟩ := st
  cases frames with
  | nil => cases h
  | cons frame frames =>
      simp only [State.chars, List.flatMap_cons, List.forall_mem_append] at hst
      simp only [State.close] at h
      split at h
      · refine forall_chars_complete ?_ hst.1.1 h
        simpa only [State.chars, List.forall_mem_append] using And.intro hst.1.2 hst.2
      · cases h

theorem chars_endStart {tag : Tag} (h : st.endStart tag c = some st') : st'.chars = st.chars := by
  rw [State.endStart] at h
  split_ifs at h <;> cases h <;> rfl

/-- What the reader holds are characters it was given or that entities stand for. -/
theorem forall_chars_readChar
    (hentity : ∀ name entity, predefinedEntity name = some entity → P entity)
    (hst : ∀ x ∈ st.chars, P x) (hc : P c) (h : readChar st c = some st') :
    ∀ x ∈ st'.chars, P x := by
  have hchar : ∀ entity, P entity → ∀ x ∈ (Item.char entity).chars, P x := by
    intro entity hP x hx
    rw [List.mem_singleton.mp hx]
    exact hP
  rw [readChar] at h
  split at h
  · rw [readMode] at h
    cases hmode : st.mode <;> rw [hmode] at h <;> dsimp only at h
    case content =>
      rw [readContent] at h
      split_ifs at h
      · cases h
        exact hst
      · cases h
        exact hst
      · exact forall_chars_push hst (hchar c hc) h
    case reference name =>
      split at h
      · obtain ⟨entity, hname, hpush⟩ := Option.bind_eq_some_iff.mp h
        exact forall_chars_push hst (hchar entity (hentity _ _ hname)) hpush
      · cases h
        exact hst
    case startName name =>
      split at h
      · cases h
        exact hst
      · rw [chars_endStart h]
        exact hst
    case startTag tag =>
      split at h
      · cases h
        exact hst
      · rw [chars_endStart h]
        exact hst
    case valued tag =>
      rw [chars_endStart h]
      exact hst
    case emptyTag tag =>
      split at h
      · exact forall_chars_complete hst (List.forall_mem_nil _) h
      · cases h
    case endName name =>
      split_ifs at h
      · cases h
        exact hst
      · cases h
        exact hst
      · exact forall_chars_close hst h
    case endTag name =>
      split_ifs at h
      · cases h
        exact hst
      · exact forall_chars_close hst h
    -- The other modes read on in a tag, or between markup.
    all_goals
      split_ifs at h <;> cases h <;> exact hst
  · cases h

theorem forall_chars_readText
    (hentity : ∀ name entity, predefinedEntity name = some entity → P entity) {text : List Char}
    (hst : ∀ x ∈ st.chars, P x) (htext : ∀ x ∈ text, P x) (h : readText st text = some st') :
    ∀ x ∈ st'.chars, P x := by
  induction text generalizing st with
  | nil =>
      cases h
      exact hst
  | cons c text ih =>
      rw [List.forall_mem_cons] at htext
      rw [readText, List.foldlM_cons] at h
      obtain ⟨st₁, hchar, hrest⟩ := Option.bind_eq_some_iff.mp h
      exact ih (forall_chars_readChar hentity hst htext.1 hchar) htext.2 hrest

end Texts

end Datasynth.Lib.XmlReader
