import Mathlib.Data.List.Infix
import Datasynth.Lib.XmlMarkup

/-!
Documents as trees of fields and groups, written with a line for each tag that holds
elements and for each field, and read back.
-/

namespace Datasynth.Lib.XmlTrees

open Datasynth.Lib.XmlMarkup
open Datasynth.Lib.XmlReader

/-- A field has a text, a group has elements. -/
inductive Element where
  | field (tag : String) (text : List Char)
  | group (tag : String) (children : List Element)

section Trees

mutual

theorem Element.induction_aux {P : Element → Prop} (hfield : ∀ tag text, P (.field tag text))
    (hgroup : ∀ tag children, (∀ e ∈ children, P e) → P (.group tag children)) : ∀ e, P e
  | .field tag text => hfield tag text
  | .group tag children => hgroup tag children (Element.forall_aux hfield hgroup children)

theorem Element.forall_aux {P : Element → Prop} (hfield : ∀ tag text, P (.field tag text))
    (hgroup : ∀ tag children, (∀ e ∈ children, P e) → P (.group tag children)) :
    ∀ children : List Element, ∀ e ∈ children, P e
  | [] => List.forall_mem_nil _
  | e :: children => List.forall_mem_cons.mpr
      ⟨Element.induction_aux hfield hgroup e, Element.forall_aux hfield hgroup children⟩

end

/-- What holds of fields, and of groups whose elements it holds of, holds of all elements. -/
@[elab_as_elim]
theorem Element.induction {P : Element → Prop} (e : Element)
    (field : ∀ tag text, P (.field tag text))
    (group : ∀ tag children, (∀ e ∈ children, P e) → P (.group tag children)) : P e :=
  Element.induction_aux field group e

mutual

/-- The texts of the fields, in order. -/
def Element.fields : Element → List (List Char)
  | .field _ text => [text]
  | .group _ children => fieldsOf children

def fieldsOf : List Element → List (List Char)
  | [] => []
  | e :: es => e.fields ++ fieldsOf es

end

mutual

def Element.tags : Element → List String
  | .field tag _ => [tag]
  | .group tag children => tag :: tagsOf children

def tagsOf : List Element → List String
  | [] => []
  | e :: es => e.tags ++ tagsOf es

end

theorem fieldsOf_eq (es : List Element) : fieldsOf es = es.flatMap Element.fields := by
  induction es with
  | nil => rfl
  | cons e es ih => rw [fieldsOf, ih, List.flatMap_cons]

theorem tagsOf_eq (es : List Element) : tagsOf es = es.flatMap Element.tags := by
  induction es with
  | nil => rfl
  | cons e es ih => rw [tagsOf, ih, List.flatMap_cons]

end Trees

section Queries

def Element.tag : Element → String
  | .field tag _ => tag
  | .group tag _ => tag

/-- The texts of the fields at the end of a path, on which each step is a choice of tags. -/
def Element.texts : List (List String) → Element → List (List Char)
  | [], .field _ text => [text]
  | [], .group _ _ => []
  | _ :: _, .field _ _ => []
  | tags :: path, .group _ children =>
      (children.filter fun e => e.tag ∈ tags).flatMap (Element.texts path)

end Queries

section Writing

/-- A reference for a character that markup is made of. -/
def escapeChar (c : Char) : List Char :=
  if c = '&' then ['&', 'a', 'm', 'p', ';']
  else if c = '<' then ['&', 'l', 't', ';']
  else if c = '>' then ['&', 'g', 't', ';']
  else if c = doubleQuote then ['&', 'q', 'u', 'o', 't', ';']
  else if c = apostrophe then ['&', 'a', 'p', 'o', 's', ';']
  else [c]

def escape (text : List Char) : List Char := text.flatMap escapeChar

/-- Two blanks for each group around an element. -/
def indent (depth : ℕ) : List Char := List.replicate (2 * depth) ' '

mutual

def Element.render (depth : ℕ) : Element → List Char
  | .field tag text =>
      indent depth ++ (startTag tag.toList ++ (escape text ++ endTag tag.toList) ++ ['\n'])
  | .group tag children =>
      indent depth ++ (startTag tag.toList ++
        ('\n' :: (renderAll (depth + 1) children ++ indent depth) ++ endTag tag.toList) ++ ['\n'])

def renderAll (depth : ℕ) : List Element → List Char
  | [] => []
  | e :: es => e.render depth ++ renderAll depth es

end

@[simp] theorem renderAll_nil (depth : ℕ) : renderAll depth [] = [] := rfl

@[simp] theorem renderAll_cons (depth : ℕ) (e : Element) (es : List Element) :
    renderAll depth (e :: es) = e.render depth ++ renderAll depth es := rfl

theorem renderAll_eq (depth : ℕ) (es : List Element) :
    renderAll depth es = es.flatMap (Element.render depth) := by
  induction es with
  | nil => rfl
  | cons e es ih => rw [renderAll, ih, List.flatMap_cons]

@[simp] theorem renderAll_map {α : Type*} (depth : ℕ) (f : α → Element) (xs : List α) :
    renderAll depth (xs.map f) = xs.flatMap fun x => (f x).render depth := by
  rw [renderAll_eq, List.flatMap_map]

end Writing

section Holding

/-- Nothing but white space. -/
def IsLayout (items : List Item) : Prop :=
  ∀ item ∈ items, ∃ c, isSpace c = true ∧ item = .char c

mutual

/-- An item holds a field with exactly its text, or a group with its elements and white
space between them. -/
def Element.Holds : Element → Item → Prop
  | .field tag text, item => item = .element ⟨tag.toList, []⟩ (text.map .char)
  | .group tag children, item =>
      ∃ attributes content, item = .element ⟨tag.toList, attributes⟩ content ∧
        HoldsAll children content

def HoldsAll : List Element → List Item → Prop
  | [], content => IsLayout content
  | e :: es, content => ∃ blank item rest, content = blank ++ item :: rest ∧ IsLayout blank ∧
      e.Holds item ∧ HoldsAll es rest

end

variable {e : Element} {es es' : List Element} {items items' blank : List Item}

theorem IsLayout.append (h : IsLayout items) (h' : IsLayout items') :
    IsLayout (items ++ items') :=
  List.forall_mem_append.mpr ⟨h, h'⟩

theorem HoldsAll.layout_append (hblank : IsLayout blank) (h : HoldsAll es items) :
    HoldsAll es (blank ++ items) := by
  cases es with
  | nil => exact hblank.append h
  | cons e es =>
      obtain ⟨before, item, rest, rfl, hbefore, hitem, hrest⟩ := h
      exact ⟨blank ++ before, item, rest, (List.append_assoc ..).symm, hblank.append hbefore,
        hitem, hrest⟩

theorem HoldsAll.append (h : HoldsAll es items) (h' : HoldsAll es' items') :
    HoldsAll (es ++ es') (items ++ items') := by
  induction es generalizing items with
  | nil => exact h'.layout_append h
  | cons e es ih =>
      obtain ⟨before, item, rest, rfl, hbefore, hitem, hrest⟩ := h
      exact ⟨before, item, rest ++ items', by rw [List.append_assoc, List.cons_append], hbefore,
        hitem, ih hrest⟩

theorem holdsAll_singleton {item : Item} (h : e.Holds item) : HoldsAll [e] [item] :=
  ⟨[], item, [], rfl, List.forall_mem_nil _, h, List.forall_mem_nil _⟩

theorem charsOf_map_char (text : List Char) : charsOf (text.map .char) = text := by
  induction text with
  | nil => rfl
  | cons c text ih =>
      rw [List.map_cons, charsOf, ih]
      rfl

/-- The text of a field is among the characters of an item that holds it. -/
theorem mem_chars_of_holds {text : List Char} {item : Item} {c : Char} (h : e.Holds item)
    (htext : text ∈ e.fields) (hc : c ∈ text) : c ∈ item.chars := by
  induction e using Element.induction generalizing item with
  | field tag text' =>
      obtain rfl : text = text' := List.mem_singleton.mp htext
      obtain rfl := h
      rw [Item.chars, charsOf_map_char]
      exact hc
  | group tag children ih =>
      obtain ⟨attributes, content, rfl, hcontent⟩ := h
      rw [Element.fields] at htext
      rw [Item.chars]
      induction children generalizing content with
      | nil => cases htext
      | cons e es ihs =>
          obtain ⟨blank, item, rest, rfl, -, hitem, hrest⟩ := hcontent
          rw [List.forall_mem_cons] at ih
          rw [charsOf_append, charsOf]
          rcases List.mem_append.mp htext with hfirst | hlater
          · exact List.mem_append_right _ (List.mem_append_left _ (ih.1 hitem hfirst))
          · exact List.mem_append_right _ (List.mem_append_right _
              (ihs ih.2 hlater rest hrest))

end Holding

section Reading

variable {e : Element} {es es' : List Element} {text text' : List Char} {c : Char} {depth : ℕ}

/-- Characters of documents, and no carriage return, which a reader would take for a line
feed. -/
def IsClean (text : List Char) : Prop := ∀ c ∈ text, isXmlChar c = true ∧ c ≠ '\r'

/-- In an element the text is read as the elements and white space. -/
def ReadsAs (text : List Char) (es : List Element) : Prop :=
  ∃ items, Reads text items ∧ HoldsAll es items

theorem ReadsAs.append (h : ReadsAs text es) (h' : ReadsAs text' es') :
    ReadsAs (text ++ text') (es ++ es') := by
  obtain ⟨items, hreads, hholds⟩ := h
  obtain ⟨items', hreads', hholds'⟩ := h'
  exact ⟨items ++ items', hreads.append hreads', hholds.append hholds'⟩

theorem isData_of_isSpace (h : isSpace c = true) : isData c = true := by
  rw [isSpace, decide_eq_true_eq] at h
  rcases h with rfl | rfl | rfl | rfl <;> decide

theorem readsAs_layout (h : ∀ c ∈ text, isSpace c = true) : ReadsAs text [] := by
  refine ⟨text.map .char, reads_dataText fun c hc => isData_of_isSpace (h c hc), ?_⟩
  intro item hitem
  obtain ⟨c, hc, rfl⟩ := List.mem_map.mp hitem
  exact ⟨c, h c hc, rfl⟩

theorem readsAs_indent (depth : ℕ) : ReadsAs (indent depth) [] := by
  apply readsAs_layout
  intro c hc
  rw [(List.mem_replicate.mp hc).2]
  decide

theorem readsAs_newline : ReadsAs ['\n'] [] :=
  readsAs_layout (List.all_eq_true.mp (by decide))

theorem reads_escapeChar (h : isXmlChar c = true) : Reads (escapeChar c) [.char c] := by
  rw [escapeChar]
  split_ifs with hamp hlt hgt hquote hapostrophe
  · rw [hamp]
    exact fun _ _ _ _ => rfl
  · rw [hlt]
    exact fun _ _ _ _ => rfl
  · rw [hgt]
    exact fun _ _ _ _ => rfl
  · rw [hquote]
    exact fun _ _ _ _ => rfl
  · rw [hapostrophe]
    exact fun _ _ _ _ => rfl
  · exact reads_data (isData_iff.mpr ⟨h, hlt, hamp, hgt⟩)

theorem reads_escape (h : ∀ c ∈ text, isXmlChar c = true) :
    Reads (escape text) (text.map .char) := by
  induction text with
  | nil => exact reads_nil
  | cons c text ih =>
      rw [List.forall_mem_cons] at h
      rw [escape, List.flatMap_cons, ← escape]
      exact (reads_escapeChar h.1).append (ih h.2)

/-- An element between white space. -/
theorem readsAs_line {name inner : List Char} {items : List Item} (hname : IsPlainName name)
    (hinner : Reads inner items) (hholds : e.Holds (.element ⟨name, []⟩ items)) :
    ReadsAs (indent depth ++ (startTag name ++ (inner ++ endTag name) ++ ['\n'])) [e] := by
  have helement : ReadsAs (startTag name ++ (inner ++ endTag name)) [e] :=
    ⟨_, hinner.element hname, holdsAll_singleton hholds⟩
  have hline := (readsAs_indent depth).append (helement.append readsAs_newline)
  rwa [List.append_nil, List.nil_append] at hline

theorem readsAs_renderAll (h : ∀ e ∈ es, ReadsAs (e.render depth) [e]) :
    ReadsAs (renderAll depth es) es := by
  induction es with
  | nil => exact readsAs_layout (List.forall_mem_nil _)
  | cons e es ih =>
      rw [List.forall_mem_cons] at h
      exact h.1.append (ih h.2)

theorem readsAs_render (htags : ∀ tag ∈ e.tags, IsPlainName tag.toList)
    (hfields : ∀ text ∈ e.fields, IsClean text) : ReadsAs (e.render depth) [e] := by
  induction e using Element.induction generalizing depth with
  | field tag text =>
      rw [Element.fields, List.forall_mem_singleton] at hfields
      rw [Element.tags, List.forall_mem_singleton] at htags
      exact readsAs_line htags (reads_escape fun c hc => (hfields c hc).1) rfl
  | group tag children ih =>
      rw [Element.fields, fieldsOf_eq, List.forall_mem_flatMap] at hfields
      rw [Element.tags, tagsOf_eq, List.forall_mem_cons, List.forall_mem_flatMap] at htags
      have hchildren : ReadsAs (renderAll (depth + 1) children) children :=
        readsAs_renderAll fun e he => ih e he (htags.2 e he) (hfields e he)
      obtain ⟨items, hreads, hholds⟩ :=
        (readsAs_newline.append hchildren).append (readsAs_indent depth)
      rw [List.nil_append, List.append_nil] at hholds
      exact readsAs_line htags.1 hreads ⟨_, _, rfl, hholds⟩

end Reading

section Characters

variable {e : Element} {es : List Element} {text : List Char} {c : Char} {depth : ℕ}

theorem not_mem_indent (hc : c ≠ ' ') : c ∉ indent depth :=
  fun h => hc (List.mem_replicate.mp h).2

theorem not_mem_escape (h : '\r' ∉ text) : '\r' ∉ escape text := by
  intro hmem
  obtain ⟨c, hc, hescape⟩ := List.mem_flatMap.mp hmem
  rw [escapeChar] at hescape
  split_ifs at hescape
  case neg =>
    rw [← List.mem_singleton.mp hescape] at hc
    exact h hc
  all_goals exact absurd hescape (by decide)

theorem not_mem_render (htags : ∀ tag ∈ e.tags, IsPlainName tag.toList)
    (hfields : ∀ text ∈ e.fields, '\r' ∉ text) : '\r' ∉ e.render depth := by
  have hindent : ∀ depth, '\r' ∉ indent depth := fun _ => not_mem_indent (by decide)
  induction e using Element.induction generalizing depth with
  | field tag text =>
      rw [Element.fields, List.forall_mem_singleton] at hfields
      rw [Element.tags, List.forall_mem_singleton] at htags
      simp [Element.render, hindent, not_mem_startTag htags, not_mem_endTag htags,
        not_mem_escape hfields]
  | group tag children ih =>
      rw [Element.fields, fieldsOf_eq, List.forall_mem_flatMap] at hfields
      rw [Element.tags, tagsOf_eq, List.forall_mem_cons, List.forall_mem_flatMap] at htags
      have hchildren : '\r' ∉ renderAll (depth + 1) children := by
        rw [renderAll_eq]
        intro hmem
        obtain ⟨e, he, hmem⟩ := List.mem_flatMap.mp hmem
        exact ih e he (htags.2 e he) (hfields e he) hmem
      simp [Element.render, hindent, not_mem_startTag htags.1, not_mem_endTag htags.1, hchildren]

/-- A character is written as itself, unless markup is made of it. -/
theorem mem_escape (hc : c ∈ text) : c ∈ escape text ∨
    c = '&' ∨ c = '<' ∨ c = '>' ∨ c = doubleQuote ∨ c = apostrophe := by
  by_cases hmarkup : c = '&' ∨ c = '<' ∨ c = '>' ∨ c = doubleQuote ∨ c = apostrophe
  · exact .inr hmarkup
  · simp only [not_or] at hmarkup
    refine .inl (List.mem_flatMap.mpr ⟨c, hc, ?_⟩)
    simp [escapeChar, hmarkup]

theorem mem_render_of_mem_escape (htext : text ∈ e.fields) (hc : c ∈ escape text) :
    c ∈ e.render depth := by
  induction e using Element.induction generalizing depth with
  | field tag text' =>
      obtain rfl : text = text' := List.mem_singleton.mp htext
      simp [Element.render, hc]
  | group tag children ih =>
      rw [Element.fields, fieldsOf_eq] at htext
      obtain ⟨e, he, htext⟩ := List.mem_flatMap.mp htext
      have hchildren : c ∈ renderAll (depth + 1) children := by
        rw [renderAll_eq]
        exact List.mem_flatMap.mpr ⟨e, he, ih e he htext⟩
      simp [Element.render, hchildren]

end Characters

section Documents

variable {tag : String} {key value : List Char} {es : List Element}

/-- The reader finds a root element that holds the tree. -/
def DocumentHolds (file : List Char) (root : Element) : Prop :=
  ∃ item, readDocument file = some item ∧ root.Holds item

/-- The document of a tree, with an attribute of its root. -/
def renderDocument (tag : String) (key value : List Char) (es : List Element) : List Char :=
  document tag.toList key value ('\n' :: renderAll 1 es)

/-- The tree is what a reader finds in its document exactly if all its texts are clean. -/
theorem documentHolds_iff (htags : ∀ t ∈ tag :: tagsOf es, IsPlainName t.toList)
    (hkey : IsPlainName key) (hvalue : ∀ c ∈ value, isPlainValue c = true) :
    DocumentHolds (renderDocument tag key value es) (.group tag es) ↔
      ∀ text ∈ fieldsOf es, IsClean text := by
  rw [List.forall_mem_cons, tagsOf_eq, List.forall_mem_flatMap] at htags
  constructor
  · rintro ⟨item, hread, hholds⟩ text htext c hc
    have hline : c ≠ '\r' := by
      rintro rfl
      exact not_mem_chars_of_readDocument hread (mem_chars_of_holds hholds htext hc)
    refine ⟨?_, hline⟩
    rcases mem_escape hc with hescape | rfl | rfl | rfl | rfl | rfl
    · rw [fieldsOf_eq] at htext
      obtain ⟨e, he, htext⟩ := List.mem_flatMap.mp htext
      have hbody : c ∈ renderAll 1 es := by
        rw [renderAll_eq]
        exact List.mem_flatMap.mpr ⟨e, he, mem_render_of_mem_escape htext hescape⟩
      apply isXmlChar_of_readDocument hread _ hline
      simp [hbody]
    all_goals decide
  · intro hclean
    rw [fieldsOf_eq, List.forall_mem_flatMap] at hclean
    have hbody : ReadsAs ('\n' :: renderAll 1 es) es :=
      readsAs_newline.append
        (readsAs_renderAll fun e he => readsAs_render (htags.2 e he) (hclean e he))
    have hreturn : '\r' ∉ '\n' :: renderAll 1 es := by
      rw [renderAll_eq, List.mem_cons, List.mem_flatMap]
      rintro (heq | ⟨e, he, hmem⟩)
      · exact absurd heq (by decide)
      · exact not_mem_render (htags.2 e he)
          (fun text htext hc => (hclean e he text htext _ hc).2 rfl) hmem
    obtain ⟨items, hreads, hholds⟩ := hbody
    exact ⟨_, readDocument_document htags.1 hkey hvalue hreads hreturn, _, _, rfl, hholds⟩

end Documents

end Datasynth.Lib.XmlTrees
