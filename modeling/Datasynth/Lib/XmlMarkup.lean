import Mathlib.Tactic.Basic
import Datasynth.Lib.XmlReader

/-!
What the reader of XML documents makes of the markup that a writer puts around texts.
-/

namespace Datasynth.Lib.XmlMarkup

open Datasynth.Lib.XmlReader

section Content

/-- In an element the text is read as the items, whatever is around it. -/
def Reads (text : List Char) (items : List Item) : Prop :=
  ∀ tag content frames root,
    readText ⟨.content, ⟨tag, content⟩ :: frames, root⟩ text =
      some ⟨.content, ⟨tag, content ++ items⟩ :: frames, root⟩

variable {text text' : List Char} {items items' : List Item} {c : Char}

theorem reads_nil : Reads [] [] := by
  intro tag content frames root
  rw [List.append_nil]
  rfl

theorem Reads.append (h : Reads text items) (h' : Reads text' items') :
    Reads (text ++ text') (items ++ items') := by
  intro tag content frames root
  rw [readText_append (h tag content frames root), h', List.append_assoc]

/-- A character that has no meaning of its own in the content of an element. -/
def isData (c : Char) : Bool := isXmlChar c && c != '<' && c != '&' && c != '>'

theorem isData_iff : isData c = true ↔ isXmlChar c = true ∧ c ≠ '<' ∧ c ≠ '&' ∧ c ≠ '>' := by
  simp [isData, and_assoc]

theorem reads_data (h : isData c = true) : Reads [c] [.char c] := by
  intro tag content frames root
  obtain ⟨hchar, hlt, hamp, hgt⟩ := isData_iff.mp h
  rw [readText_singleton, readChar, if_pos hchar]
  simp [readMode, readContent, hlt, hamp, hgt, State.push]

theorem reads_dataText (h : ∀ c ∈ text, isData c = true) : Reads text (text.map .char) := by
  induction text with
  | nil => exact reads_nil
  | cons c text ih =>
      rw [List.forall_mem_cons] at h
      exact (reads_data h.1).append (ih h.2)

end Content

section Names

variable {c : Char} {name text : List Char} {items : List Item}
variable {tag : Tag} {content : List Item} {frames : List Frame} {root : Option Item}

/-- The characters of ASCII that are seen, and the blank. -/
def isPrintable (c : Char) : Bool := 0x20 ≤ c.toNat ∧ c.toNat ≤ 0x7E

theorem isXmlChar_of_isPrintable (h : isPrintable c = true) : isXmlChar c = true := by
  rw [isPrintable, decide_eq_true_eq] at h
  rw [isXmlChar, decide_eq_true_eq]
  omega

theorem isPrintable_of_isAlpha (h : c.isAlpha = true) : isPrintable c = true := by
  rw [isPrintable, decide_eq_true_eq]
  rcases Bool.or_eq_true_iff.mp h with hupper | hlower
  · have hrange : 65 ≤ c.toNat ∧ c.toNat ≤ 90 := of_decide_eq_true hupper
    omega
  · have hrange := Bool.and_eq_true_iff.mp hlower
    have hfirst : 97 ≤ c.toNat := of_decide_eq_true hrange.1
    have hlast : c.toNat ≤ 122 := of_decide_eq_true hrange.2
    omega

/-- A name of ASCII letters. -/
structure IsPlainName (name : List Char) : Prop where
  ne_nil : name ≠ []
  isAlpha : ∀ c ∈ name, c.isAlpha = true

theorem isXmlChar_of_isAlpha (h : c.isAlpha = true) : isXmlChar c = true :=
  isXmlChar_of_isPrintable (isPrintable_of_isAlpha h)

theorem isNameStart_of_isAlpha (h : c.isAlpha = true) : isNameStart c = true := by
  simp [isNameStart, h]

theorem isNameChar_of_isAlpha (h : c.isAlpha = true) : isNameChar c = true := by
  simp [isNameChar, isNameStart_of_isAlpha h]

/-- A mode that takes up every character of some kind takes up a text of them. -/
theorem readText_takesUp {mode : List Char → Mode} {P : Char → Prop}
    (hchar : ∀ taken c, P c → readChar ⟨mode taken, frames, root⟩ c =
      some ⟨mode (taken ++ [c]), frames, root⟩)
    (htext : ∀ c ∈ text, P c) (taken : List Char) :
    readText ⟨mode taken, frames, root⟩ text = some ⟨mode (taken ++ text), frames, root⟩ := by
  induction text generalizing taken with
  | nil =>
      rw [List.append_nil]
      rfl
  | cons c text ih =>
      rw [List.forall_mem_cons] at htext
      rw [readText_cons, hchar taken c htext.1, Option.bind_some, ih htext.2, List.append_assoc,
        List.singleton_append]

theorem readText_startName (h : ∀ c ∈ name, c.isAlpha = true) (taken : List Char) :
    readText ⟨.startName taken, frames, root⟩ name =
      some ⟨.startName (taken ++ name), frames, root⟩ := by
  refine readText_takesUp (fun taken c hc => ?_) h taken
  rw [readChar, if_pos (isXmlChar_of_isAlpha hc), readMode]
  exact if_pos (isNameChar_of_isAlpha hc)

theorem readText_endName (h : ∀ c ∈ name, c.isAlpha = true) (taken : List Char) :
    readText ⟨.endName taken, frames, root⟩ name =
      some ⟨.endName (taken ++ name), frames, root⟩ := by
  refine readText_takesUp (fun taken c hc => ?_) h taken
  rw [readChar, if_pos (isXmlChar_of_isAlpha hc), readMode]
  exact if_pos ⟨isNameChar_of_isAlpha hc, fun _ => isNameStart_of_isAlpha hc⟩

theorem readText_markupName (hname : IsPlainName name) :
    readText ⟨.markup, frames, root⟩ name = some ⟨.startName name, frames, root⟩ := by
  obtain ⟨c, rest, rfl⟩ := List.exists_cons_of_ne_nil hname.ne_nil
  have halpha := List.forall_mem_cons.mp hname.isAlpha
  have hchar : readChar ⟨.markup, frames, root⟩ c = some ⟨.startName [c], frames, root⟩ := by
    rw [readChar, if_pos (isXmlChar_of_isAlpha halpha.1), readMode]
    exact if_pos (isNameStart_of_isAlpha halpha.1)
  rw [readText_cons, hchar, Option.bind_some, readText_startName halpha.2,
    List.singleton_append]

/-- A start tag without attributes. -/
def startTag (name : List Char) : List Char := '<' :: (name ++ ['>'])

def endTag (name : List Char) : List Char := '<' :: '/' :: (name ++ ['>'])

theorem readText_startTag (hname : IsPlainName name) :
    readText ⟨.content, frames, root⟩ (startTag name) =
      some ⟨.content, ⟨⟨name, []⟩, []⟩ :: frames, root⟩ := by
  have hmarkup : readChar ⟨.content, frames, root⟩ '<' = some ⟨.markup, frames, root⟩ := rfl
  have hopen : readChar ⟨.startName name, frames, root⟩ '>' =
      some ⟨.content, ⟨⟨name, []⟩, []⟩ :: frames, root⟩ := rfl
  rw [startTag, readText_cons, hmarkup, Option.bind_some,
    readText_append (readText_markupName hname), readText_singleton, hopen]

theorem readText_endTag (hname : IsPlainName name) {attributes : List (List Char × List Char)} :
    readText ⟨.content, ⟨⟨name, attributes⟩, content⟩ :: frames, root⟩ (endTag name) =
      State.complete ⟨.content, frames, root⟩ ⟨name, attributes⟩ content := by
  have hmarkup : ∀ all, readChar ⟨.content, all, root⟩ '<' = some ⟨.markup, all, root⟩ :=
    fun _ => rfl
  have hslash : ∀ all, readChar ⟨.markup, all, root⟩ '/' = some ⟨.endName [], all, root⟩ :=
    fun _ => rfl
  have hclose : ∀ all, readChar ⟨.endName name, all, root⟩ '>' =
      State.close ⟨.endName name, all, root⟩ name := fun _ => rfl
  rw [endTag, readText_cons, hmarkup, Option.bind_some, readText_cons, hslash, Option.bind_some,
    readText_append (readText_endName hname.isAlpha []), readText_singleton, List.nil_append,
    hclose]
  exact if_pos rfl

/-- Tags around a text make an element of its items. -/
theorem Reads.element (hname : IsPlainName name) (h : Reads text items) :
    Reads (startTag name ++ (text ++ endTag name)) [.element ⟨name, []⟩ items] := by
  intro tag content frames root
  rw [readText_append (readText_startTag hname), readText_append (h _ _ _ _),
    readText_endTag hname, List.nil_append]
  rfl

end Names

section Documents

variable {name key value text : List Char} {items : List Item} {c : Char}
variable {tag : Tag} {frames : List Frame} {root : Option Item}

/-- A start tag with one attribute. -/
def startTagWith (name key value : List Char) : List Char :=
  '<' :: (name ++ ' ' :: (key ++ '=' :: doubleQuote :: (value ++ [doubleQuote, '>'])))

/-- A character that may stand in the value of an attribute as it is. -/
def isPlainValue (c : Char) : Bool :=
  isPrintable c && c != doubleQuote && c != '<' && c != '&'

theorem readText_attributeName (h : ∀ c ∈ key, c.isAlpha = true) (taken : List Char) :
    readText ⟨.attributeName tag taken, frames, root⟩ key =
      some ⟨.attributeName tag (taken ++ key), frames, root⟩ := by
  refine readText_takesUp (fun taken c hc => ?_) h taken
  rw [readChar, if_pos (isXmlChar_of_isAlpha hc), readMode]
  exact if_pos (isNameChar_of_isAlpha hc)

theorem readText_key (hkey : IsPlainName key) :
    readText ⟨.startTag tag, frames, root⟩ key = some ⟨.attributeName tag key, frames, root⟩ := by
  obtain ⟨c, rest, rfl⟩ := List.exists_cons_of_ne_nil hkey.ne_nil
  have halpha := List.forall_mem_cons.mp hkey.isAlpha
  have hchar : readChar ⟨.startTag tag, frames, root⟩ c =
      some ⟨.attributeName tag [c], frames, root⟩ := by
    rw [readChar, if_pos (isXmlChar_of_isAlpha halpha.1), readMode]
    exact if_pos (isNameStart_of_isAlpha halpha.1)
  rw [readText_cons, hchar, Option.bind_some, readText_attributeName halpha.2,
    List.singleton_append]

theorem readChar_value (h : isPlainValue c = true) (taken : List Char) :
    readChar ⟨.value tag key doubleQuote taken, frames, root⟩ c =
      some ⟨.value tag key doubleQuote (taken ++ [c]), frames, root⟩ := by
  simp only [isPlainValue, Bool.and_eq_true, bne_iff_ne] at h
  obtain ⟨⟨⟨hprintable, hquote⟩, hlt⟩, hamp⟩ := h
  have hspace : (if isSpace c = true then ' ' else c) = c := by
    split
    · rename_i hc
      rw [isPrintable, decide_eq_true_eq] at hprintable
      rw [isSpace, decide_eq_true_eq] at hc
      rcases hc with rfl | rfl | rfl | rfl
      · rfl
      all_goals exact absurd hprintable.1 (by decide)
    · rfl
  rw [readChar, if_pos (isXmlChar_of_isPrintable hprintable), readMode]
  simp only [hquote, hlt, hamp, or_self, if_false, hspace]

theorem readText_value (h : ∀ c ∈ value, isPlainValue c = true) (taken : List Char) :
    readText ⟨.value tag key doubleQuote taken, frames, root⟩ value =
      some ⟨.value tag key doubleQuote (taken ++ value), frames, root⟩ :=
  readText_takesUp (fun taken _ hc => readChar_value hc taken) h taken

theorem readText_startTagWith (hname : IsPlainName name) (hkey : IsPlainName key)
    (hvalue : ∀ c ∈ value, isPlainValue c = true) :
    readText .start (startTagWith name key value) =
      some ⟨.content, [⟨⟨name, [(key, value)]⟩, []⟩], none⟩ := by
  have hmarkup : readChar .start '<' = some ⟨.markup, [], none⟩ := rfl
  have hblank : readChar ⟨.startName name, [], none⟩ ' ' =
      some ⟨.startTag ⟨name, []⟩, [], none⟩ := rfl
  have hequals : readChar ⟨.attributeName ⟨name, []⟩ key, [], none⟩ '=' =
      some ⟨.equals ⟨name, []⟩ key, [], none⟩ := rfl
  have hopen : readChar ⟨.equals ⟨name, []⟩ key, [], none⟩ doubleQuote =
      some ⟨.value ⟨name, []⟩ key doubleQuote [], [], none⟩ := rfl
  have hclose : readText ⟨.value ⟨name, []⟩ key doubleQuote value, [], none⟩ [doubleQuote, '>'] =
      some ⟨.content, [⟨⟨name, [(key, value)]⟩, []⟩], none⟩ := rfl
  rw [startTagWith, readText_cons, hmarkup, Option.bind_some,
    readText_append (readText_markupName hname), readText_cons, hblank, Option.bind_some,
    readText_append (readText_key hkey), readText_cons, hequals, Option.bind_some, readText_cons,
    hopen, Option.bind_some, readText_append (readText_value hvalue []), List.nil_append, hclose]

/-- A declaration and the root element, each with a line break behind it. -/
def document (name key value text : List Char) : List Char :=
  declaration ++ '\n' :: (startTagWith name key value ++ (text ++ (endTag name ++ ['\n'])))

theorem not_mem_of_isPlainName (hname : IsPlainName name) : '\r' ∉ name :=
  fun h => absurd (hname.isAlpha _ h) (by decide)

theorem not_mem_startTag (hname : IsPlainName name) :
    '\r' ∉ startTag name := by
  simp [startTag, not_mem_of_isPlainName hname]

theorem not_mem_endTag (hname : IsPlainName name) : '\r' ∉ endTag name := by
  simp [endTag, not_mem_of_isPlainName hname]

theorem not_mem_startTagWith (hname : IsPlainName name) (hkey : IsPlainName key)
    (hvalue : ∀ c ∈ value, isPlainValue c = true) : '\r' ∉ startTagWith name key value := by
  have hplain : '\r' ∉ value := fun h => absurd (hvalue _ h) (by decide)
  have hquote : '\r' ≠ doubleQuote := by decide
  simp [startTagWith, not_mem_of_isPlainName hname, not_mem_of_isPlainName hkey, hplain, hquote]

theorem not_mem_declaration : '\r' ∉ declaration := by decide

theorem dropDeclaration_append (text : List Char) :
    dropDeclaration (declaration ++ text) = text := by
  rw [dropDeclaration, if_pos (List.prefix_append _ _), List.drop_left]

/-- A text that is read as items is the content of the root of a document. -/
theorem readDocument_document (hname : IsPlainName name) (hkey : IsPlainName key)
    (hvalue : ∀ c ∈ value, isPlainValue c = true) (htext : Reads text items)
    (hline : '\r' ∉ text) :
    readDocument (document name key value text) =
      some (.element ⟨name, [(key, value)]⟩ items) := by
  have hreturn : '\r' ∉ document name key value text := by
    simp [document, not_mem_declaration, not_mem_startTagWith hname hkey hvalue, hline,
      not_mem_endTag hname]
  have hbreak : readChar .start '\n' = some .start := rfl
  have hend : readChar ⟨.outside, [], some (.element ⟨name, [(key, value)]⟩ items)⟩ '\n' =
      some ⟨.outside, [], some (.element ⟨name, [(key, value)]⟩ items)⟩ := rfl
  have hclosed : readText ⟨.content, [⟨⟨name, [(key, value)]⟩, items⟩], none⟩ (endTag name) =
      some ⟨.outside, [], some (.element ⟨name, [(key, value)]⟩ items)⟩ := by
    rw [readText_endTag hname]
    rfl
  rw [readDocument, normalizeLineEnds_eq_self hreturn, document, dropDeclaration_append,
    readText_cons, hbreak, Option.bind_some,
    readText_append (readText_startTagWith hname hkey hvalue), readText_append (htext _ _ _ _),
    List.nil_append, readText_append hclosed, readText_singleton, hend]
  rfl

theorem predefinedEntity_ne_return {entity : Char} (h : predefinedEntity name = some entity) :
    entity ≠ '\r' := by
  rintro rfl
  simp only [predefinedEntity] at h
  split_ifs at h <;> cases h

theorem mem_of_mem_dropDeclaration (h : c ∈ dropDeclaration text) : c ∈ text := by
  rw [dropDeclaration] at h
  split at h
  · exact List.mem_of_mem_drop h
  · exact h

/-- No carriage return is left in a document that was read. -/
theorem not_mem_chars_of_readDocument {item : Item} (h : readDocument text = some item) :
    '\r' ∉ item.chars := by
  obtain ⟨st, hread, hroot⟩ := Option.bind_eq_some_iff.mp h
  have hchars := forall_chars_readText (P := fun x => x ≠ '\r')
    (fun _ _ => predefinedEntity_ne_return) (List.forall_mem_nil _)
    (fun x hx heq => not_mem_normalizeLineEnds text (heq ▸ mem_of_mem_dropDeclaration hx)) hread
  rw [State.document] at hroot
  split at hroot
  · intro hmem
    apply hchars '\r' _ rfl
    rw [State.chars, hroot]
    exact List.mem_append_right _ hmem
  · cases hroot

/-- Only characters that a document may have were read behind its declaration. -/
theorem isXmlChar_of_readDocument {item : Item} (h : readDocument (declaration ++ text) = some item)
    (hc : c ∈ text) (hline : c ≠ '\r') : isXmlChar c = true := by
  obtain ⟨st, hread, -⟩ := Option.bind_eq_some_iff.mp h
  rw [normalizeLineEnds_append not_mem_declaration, dropDeclaration_append] at hread
  exact isXmlChar_of_readText hread c (mem_normalizeLineEnds hc hline)

end Documents

end Datasynth.Lib.XmlMarkup
