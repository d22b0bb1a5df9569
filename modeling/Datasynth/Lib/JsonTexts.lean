import Mathlib.Algebra.Order.Group.Int
import Mathlib.Tactic.Common

/-!
The texts of JSON values, and how deep the brackets of such a text are nested.  A bracket counts
for the nesting where it stands outside the strings.
-/

namespace Datasynth.Lib.JsonTexts

section Grammar

def IsSpace (c : Char) : Prop := c = ' ' ∨ c = '\t' ∨ c = '\n' ∨ c = '\r'

def IsDigit (c : Char) : Prop := '0' ≤ c ∧ c ≤ '9'

def IsHexDigit (c : Char) : Prop := IsDigit c ∨ ('a' ≤ c ∧ c ≤ 'f') ∨ ('A' ≤ c ∧ c ≤ 'F')

def IsSpaces (t : List Char) : Prop := ∀ c ∈ t, IsSpace c

def IsDigits (t : List Char) : Prop := t ≠ [] ∧ ∀ c ∈ t, IsDigit c

/-- What stands between the quotes of a string. -/
inductive IsStringBody : List Char → Prop where
  | nil : IsStringBody []
  | char {c : Char} {t : List Char} : ' ' ≤ c → c ≠ '\x22' → c ≠ '\\' → IsStringBody t →
      IsStringBody (c :: t)
  | escape {c : Char} {t : List Char} : c ∈ ['\x22', '\\', '/', 'b', 'f', 'n', 'r', 't'] →
      IsStringBody t → IsStringBody ('\\' :: c :: t)
  | unicode {a b c d : Char} {t : List Char} : IsHexDigit a → IsHexDigit b → IsHexDigit c →
      IsHexDigit d → IsStringBody t → IsStringBody ('\\' :: 'u' :: a :: b :: c :: d :: t)

inductive IsString : List Char → Prop where
  | quoted {t : List Char} : IsStringBody t → IsString ('\x22' :: (t ++ ['\x22']))

inductive IsInteger : List Char → Prop where
  | zero : IsInteger ['0']
  | digits {c : Char} {t : List Char} : '1' ≤ c → c ≤ '9' → (∀ d ∈ t, IsDigit d) →
      IsInteger (c :: t)
  | negZero : IsInteger ['-', '0']
  | negDigits {c : Char} {t : List Char} : '1' ≤ c → c ≤ '9' → (∀ d ∈ t, IsDigit d) →
      IsInteger ('-' :: c :: t)

inductive IsFraction : List Char → Prop where
  | nil : IsFraction []
  | point {t : List Char} : IsDigits t → IsFraction ('.' :: t)

inductive IsExponent : List Char → Prop where
  | nil : IsExponent []
  | unsigned {e : Char} {t : List Char} : e = 'e' ∨ e = 'E' → IsDigits t → IsExponent (e :: t)
  | signed {e s : Char} {t : List Char} : e = 'e' ∨ e = 'E' → s = '+' ∨ s = '-' → IsDigits t →
      IsExponent (e :: s :: t)

inductive IsNumber : List Char → Prop where
  | number {i f e : List Char} : IsInteger i → IsFraction f → IsExponent e →
      IsNumber (i ++ f ++ e)

/-- The parts of a text that are made of parts themselves. -/
inductive Part where
  | object
  | array
  | value
  | element
  | elements
  | member
  | members
deriving DecidableEq, Repr

/-- The texts of each part.  An element is a value in white space. -/
inductive Derives : Part → List Char → Prop where
  | emptyObject {ws : List Char} : IsSpaces ws → Derives .object ('{' :: (ws ++ ['}']))
  | membersObject {t : List Char} : Derives .members t → Derives .object ('{' :: (t ++ ['}']))
  | emptyArray {ws : List Char} : IsSpaces ws → Derives .array ('[' :: (ws ++ [']']))
  | elementsArray {t : List Char} : Derives .elements t → Derives .array ('[' :: (t ++ [']']))
  | object {t : List Char} : Derives .object t → Derives .value t
  | array {t : List Char} : Derives .array t → Derives .value t
  | string {t : List Char} : IsString t → Derives .value t
  | number {t : List Char} : IsNumber t → Derives .value t
  | true : Derives .value ['t', 'r', 'u', 'e']
  | false : Derives .value ['f', 'a', 'l', 's', 'e']
  | null : Derives .value ['n', 'u', 'l', 'l']
  | element {before t after : List Char} : IsSpaces before → Derives .value t → IsSpaces after →
      Derives .element (before ++ t ++ after)
  | lastElement {t : List Char} : Derives .element t → Derives .elements t
  | elements {t ts : List Char} : Derives .element t → Derives .elements ts →
      Derives .elements (t ++ ',' :: ts)
  | member {before key after t : List Char} : IsSpaces before → IsString key → IsSpaces after →
      Derives .element t → Derives .member (before ++ key ++ after ++ ':' :: t)
  | lastMember {t : List Char} : Derives .member t → Derives .members t
  | members {t ts : List Char} : Derives .member t → Derives .members ts →
      Derives .members (t ++ ',' :: ts)

end Grammar

section Scanning

/-- Where a character stands. -/
inductive Place where
  | outside
  | inString
  | escaped
deriving DecidableEq, Repr

def Place.next : Place → Char → Place
  | .outside, c => if c = '\x22' then .inString else .outside
  | .inString, c => if c = '\x22' then .outside else if c = '\\' then .escaped else .inString
  | .escaped, _ => .inString

def Place.after (p : Place) (t : List Char) : Place := t.foldl Place.next p

variable (weight : Char → ℤ)

/-- The weights of all characters. -/
def total : List Char → ℤ
  | [] => 0
  | c :: t => weight c + total t

/-- The weights of the characters outside the strings. -/
def nesting : Place → List Char → ℤ
  | _, [] => 0
  | p, c :: t => (if p = .outside then weight c else 0) + nesting (p.next c) t

/-- The weights of the characters in the strings. -/
def inStrings : Place → List Char → ℤ
  | _, [] => 0
  | p, c :: t => (if p = .outside then 0 else weight c) + inStrings (p.next c) t

theorem nesting_add_inStrings (p : Place) (t : List Char) :
    nesting weight p t + inStrings weight p t = total weight t := by
  induction t generalizing p with
  | nil => rfl
  | cons c t ih =>
      rw [nesting, inStrings, total, ← ih (p.next c)]
      split <;> omega

theorem nesting_append (p : Place) (t u : List Char) :
    nesting weight p (t ++ u) = nesting weight p t + nesting weight (p.after t) u := by
  induction t generalizing p with
  | nil => exact (zero_add _).symm
  | cons c t ih =>
      rw [List.cons_append, nesting, nesting, ih, add_assoc]
      rfl

theorem Place.after_append (p : Place) (t u : List Char) :
    p.after (t ++ u) = (p.after t).after u :=
  List.foldl_append

end Scanning

section Nesting

/-- A weight for nesting: the opening brackets of one kind add what the closing ones take. -/
structure BracketWeight (weight : Char → ℤ) : Prop where
  brace : 0 ≤ weight '{'
  brace_close : weight '}' = -weight '{'
  bracket : 0 ≤ weight '['
  bracket_close : weight ']' = -weight '['
  other : ∀ c, c ≠ '{' → c ≠ '}' → c ≠ '[' → c ≠ ']' → weight c = 0

variable {weight : Char → ℤ} {p : Place} {c : Char} {t u v : List Char}

/-- A text that ends outside the strings and has no bracket to count. -/
structure Flat (weight : Char → ℤ) (p : Place) (t : List Char) : Prop where
  after : p.after t = .outside
  nesting_eq : ∀ u v, t = u ++ v → nesting weight p u = 0

theorem flat_nil : Flat weight .outside [] where
  after := rfl
  nesting_eq u v h := by
    rw [(List.append_eq_nil_iff.mp h.symm).1]
    rfl

theorem Flat.cons (hc : p = .outside → weight c = 0) (ht : Flat weight (p.next c) t) :
    Flat weight p (c :: t) where
  after := ht.after
  nesting_eq u v h := by
    cases u with
    | nil => rfl
    | cons d u =>
        rw [List.cons_append, List.cons.injEq] at h
        obtain ⟨rfl, h⟩ := h
        rw [nesting, ht.nesting_eq u v h, add_zero]
        split
        · rename_i hp
          exact hc hp
        · rfl

theorem flat_of_plain (h : ∀ c ∈ t, c ≠ '\x22' ∧ weight c = 0) : Flat weight .outside t := by
  induction t with
  | nil => exact flat_nil
  | cons c t ih =>
      obtain ⟨hquote, hweight⟩ := h c List.mem_cons_self
      apply Flat.cons (fun _ => hweight)
      rw [Place.next, if_neg hquote]
      exact ih fun d hd => h d (List.mem_cons_of_mem c hd)

theorem next_inString (hquote : c ≠ '\x22') (hescape : c ≠ '\\') :
    Place.inString.next c = .inString := by
  rw [Place.next, if_neg hquote, if_neg hescape]

theorem IsHexDigit.next_inString (h : IsHexDigit c) : Place.inString.next c = .inString := by
  apply JsonTexts.next_inString
  · rintro rfl
    exact absurd h (by unfold IsHexDigit IsDigit; decide)
  · rintro rfl
    exact absurd h (by unfold IsHexDigit IsDigit; decide)

theorem IsStringBody.flat (h : IsStringBody t) : Flat weight .inString (t ++ ['\x22']) := by
  have hinside : ∀ {p : Place}, p ≠ .outside → ∀ {c}, p = .outside → weight c = 0 :=
    fun hp _ hp' => absurd hp' hp
  induction h with
  | nil => exact Flat.cons (hinside (by decide)) flat_nil
  | char hspace hquote hescape _ ih =>
      apply Flat.cons (hinside (by decide))
      rwa [JsonTexts.next_inString hquote hescape]
  | escape hc _ ih => exact Flat.cons (hinside (by decide)) (Flat.cons (hinside (by decide)) ih)
  | unicode ha hb hc hd _ ih =>
      have hu : (Place.inString.next '\\').next 'u' = .inString := rfl
      apply Flat.cons (hinside (by decide))
      apply Flat.cons (hinside (by decide))
      rw [hu]
      apply Flat.cons (hinside (by decide))
      rw [ha.next_inString]
      apply Flat.cons (hinside (by decide))
      rw [hb.next_inString]
      apply Flat.cons (hinside (by decide))
      rw [hc.next_inString]
      apply Flat.cons (hinside (by decide))
      rwa [hd.next_inString]

theorem BracketWeight.quote (hw : BracketWeight weight) : weight '\x22' = 0 := by
  apply hw.other <;> decide

theorem IsString.flat (hw : BracketWeight weight) (h : IsString t) :
    Flat weight .outside t := by
  obtain ⟨hbody⟩ := h
  exact Flat.cons (fun _ => hw.quote) hbody.flat

/-- A text that closes all it opens, and nothing more. -/
structure Nested (weight : Char → ℤ) (t : List Char) : Prop where
  after : Place.outside.after t = .outside
  nesting_eq : nesting weight .outside t = 0
  nonneg : ∀ u v, t = u ++ v → 0 ≤ nesting weight .outside u

theorem Flat.nested (h : Flat weight .outside t) : Nested weight t where
  after := h.after
  nesting_eq := h.nesting_eq t [] (List.append_nil t).symm
  nonneg u v hu := (h.nesting_eq u v hu).ge

theorem Nested.append (ht : Nested weight t) (hu : Nested weight u) : Nested weight (t ++ u) where
  after := by rw [Place.after_append, ht.after, hu.after]
  nesting_eq := by rw [nesting_append, ht.after, ht.nesting_eq, hu.nesting_eq, add_zero]
  nonneg w v h := by
    rcases List.append_eq_append_iff.mp h with ⟨w', rfl, hv⟩ | ⟨w', ht', -⟩
    · rw [nesting_append, ht.after, ht.nesting_eq, zero_add]
      exact hu.nonneg w' v hv
    · exact ht.nonneg w w' ht'

variable {first last : Char}

/-- Within the brackets the nesting is at least as deep as they make it. -/
theorem Nested.inside (ht : Nested weight t) (hquote : first ≠ '\x22')
    (h : first :: (t ++ [last]) = u ++ v) (hu : u ≠ []) (hv : v ≠ []) :
    weight first ≤ nesting weight .outside u := by
  obtain ⟨d, u, rfl⟩ := List.exists_cons_of_ne_nil hu
  rw [List.cons_append, List.cons.injEq] at h
  obtain ⟨rfl, h⟩ := h
  have hnext : Place.outside.next first = .outside := if_neg hquote
  rw [nesting, if_pos rfl, hnext, le_add_iff_nonneg_right]
  rcases List.append_eq_append_iff.mp h with ⟨w, rfl, hlast⟩ | ⟨w, ht', -⟩
  · have hw : w = [] := by
      have hlength := congrArg List.length hlast
      have hpos := List.length_pos_iff.mpr hv
      rw [List.length_append, List.length_singleton] at hlength
      exact List.length_eq_zero_iff.mp (by omega)
    rw [hw, List.append_nil, ht.nesting_eq]
  · exact ht.nonneg u w ht'

theorem Nested.bracketed (ht : Nested weight t) (hquote : first ≠ '\x22') (hquote' : last ≠ '\x22')
    (hfirst : 0 ≤ weight first) (hlast : weight last = -weight first) :
    Nested weight (first :: (t ++ [last])) := by
  have hnext : Place.outside.next first = .outside := if_neg hquote
  have hnext' : Place.outside.next last = .outside := if_neg hquote'
  have hsum : nesting weight .outside (first :: (t ++ [last])) = 0 := by
    rw [nesting, if_pos rfl, hnext, nesting_append, ht.after, ht.nesting_eq, zero_add, nesting,
      if_pos rfl, nesting, hlast]
    omega
  refine ⟨?_, hsum, fun u v h => ?_⟩
  · have hafter : Place.outside.after (first :: (t ++ [last])) =
        (Place.outside.next first).after (t ++ [last]) := rfl
    rw [hafter, hnext, Place.after_append, ht.after]
    exact hnext'
  · by_cases hu : u = []
    · rw [hu]
      exact le_rfl
    · by_cases hv : v = []
      · rw [hv, List.append_nil] at h
        rw [← h, hsum]
      · exact hfirst.trans (ht.inside hquote h hu hv)

end Nesting

section Values

variable {weight : Char → ℤ} {c : Char} {t u v : List Char} {part : Part}

/-- A character that neither starts a string nor nests. -/
def IsPlain (c : Char) : Prop := c ∉ ['\x22', '{', '}', '[', ']']

instance decidableIsPlain : DecidablePred IsPlain := fun c =>
  inferInstanceAs (Decidable (c ∉ ['\x22', '{', '}', '[', ']']))

theorem plain_of_all (h : (t.all fun c => decide (IsPlain c)) = true) : ∀ c ∈ t, IsPlain c :=
  fun c hc => of_decide_eq_true (List.all_eq_true.mp h c hc)

theorem BracketWeight.nested (hw : BracketWeight weight) (h : ∀ c ∈ t, IsPlain c) :
    Nested weight t := by
  apply Flat.nested
  apply flat_of_plain
  intro c hc
  have hplain := h c hc
  rw [IsPlain] at hplain
  simp only [List.mem_cons, List.not_mem_nil, or_false, not_or] at hplain
  obtain ⟨hquote, hbrace, hbrace', hbracket, hbracket'⟩ := hplain
  exact ⟨hquote, hw.other c hbrace hbrace' hbracket hbracket'⟩

theorem IsDigit.plain (h : IsDigit c) : IsPlain c := by
  intro hc
  simp only [List.mem_cons, List.not_mem_nil, or_false] at hc
  rcases hc with rfl | rfl | rfl | rfl | rfl
  all_goals exact absurd h (by unfold IsDigit; decide)

theorem IsSpaces.plain (h : IsSpaces t) : ∀ c ∈ t, IsPlain c := by
  intro c hc
  rcases h c hc with rfl | rfl | rfl | rfl
  all_goals decide

theorem forall_plain_cons (hc : IsPlain c) (ht : ∀ d ∈ t, IsPlain d) : ∀ d ∈ c :: t, IsPlain d :=
  List.forall_mem_cons.mpr ⟨hc, ht⟩

theorem IsInteger.plain (h : IsInteger t) : ∀ c ∈ t, IsPlain c := by
  have hdigit : ∀ c, '1' ≤ c → c ≤ '9' → IsPlain c :=
    fun c hone hnine => IsDigit.plain ⟨Char.le_trans (by decide) hone, hnine⟩
  cases h with
  | zero => exact plain_of_all (by decide)
  | digits hone hnine ht =>
      exact forall_plain_cons (hdigit _ hone hnine) fun d hd => (ht d hd).plain
  | negZero => exact plain_of_all (by decide)
  | negDigits hone hnine ht =>
      apply forall_plain_cons (by decide)
      exact forall_plain_cons (hdigit _ hone hnine) fun d hd => (ht d hd).plain

theorem IsFraction.plain (h : IsFraction t) : ∀ c ∈ t, IsPlain c := by
  cases h with
  | nil => exact fun c hc => absurd hc List.not_mem_nil
  | point ht => exact forall_plain_cons (by decide) fun d hd => (ht.2 d hd).plain

theorem IsExponent.plain (h : IsExponent t) : ∀ c ∈ t, IsPlain c := by
  have hletter : ∀ e, e = 'e' ∨ e = 'E' → IsPlain e := by
    rintro e (rfl | rfl)
    all_goals decide
  cases h with
  | nil => exact fun c hc => absurd hc List.not_mem_nil
  | unsigned he ht => exact forall_plain_cons (hletter _ he) fun d hd => (ht.2 d hd).plain
  | signed he hs ht =>
      apply forall_plain_cons (hletter _ he)
      apply forall_plain_cons
      · rcases hs with rfl | rfl
        all_goals decide
      · exact fun d hd => (ht.2 d hd).plain

theorem IsNumber.plain (h : IsNumber t) : ∀ c ∈ t, IsPlain c := by
  obtain ⟨hi, hf, he⟩ := h
  intro c hc
  rw [List.mem_append, List.mem_append] at hc
  rcases hc with (hc | hc) | hc
  · exact hi.plain c hc
  · exact hf.plain c hc
  · exact he.plain c hc

theorem BracketWeight.nested_object (hw : BracketWeight weight) (ht : Nested weight t) :
    Nested weight ('{' :: (t ++ ['}'])) :=
  ht.bracketed (by decide) (by decide) hw.brace hw.brace_close

theorem BracketWeight.nested_array (hw : BracketWeight weight) (ht : Nested weight t) :
    Nested weight ('[' :: (t ++ [']'])) :=
  ht.bracketed (by decide) (by decide) hw.bracket hw.bracket_close

/-- Every part of a text closes the brackets it opens. -/
theorem Derives.nested (hw : BracketWeight weight) (h : Derives part t) : Nested weight t := by
  have hmark : ∀ {c}, IsPlain c → ∀ {u}, Nested weight u → Nested weight (c :: u) := by
    intro c hc u hu
    have hone : Nested weight [c] := hw.nested (List.forall_mem_singleton.mpr hc)
    exact hone.append hu
  induction h with
  | emptyObject hws => exact hw.nested_object (hw.nested hws.plain)
  | membersObject _ ih => exact hw.nested_object ih
  | emptyArray hws => exact hw.nested_array (hw.nested hws.plain)
  | elementsArray _ ih => exact hw.nested_array ih
  | object _ ih => exact ih
  | array _ ih => exact ih
  | string ht => exact (ht.flat hw).nested
  | number ht => exact hw.nested ht.plain
  | true => exact hw.nested (plain_of_all (by decide))
  | false => exact hw.nested (plain_of_all (by decide))
  | null => exact hw.nested (plain_of_all (by decide))
  | element hbefore _ hafter ih =>
      exact ((hw.nested hbefore.plain).append ih).append (hw.nested hafter.plain)
  | lastElement _ ih => exact ih
  | elements _ _ ih ih' => exact ih.append (hmark (by decide) ih')
  | member hbefore hkey hafter _ ih =>
      exact (((hw.nested hbefore.plain).append (hkey.flat hw).nested).append
        (hw.nested hafter.plain)).append (hmark (by decide) ih)
  | lastMember _ ih => exact ih
  | members _ _ ih ih' => exact ih.append (hmark (by decide) ih')

/-- What is between the braces of an object, or the brackets of an array, is nested. -/
theorem Derives.object_inner (hw : BracketWeight weight) (h : Derives .object t) :
    ∃ inner, t = '{' :: (inner ++ ['}']) ∧ Nested weight inner := by
  cases h with
  | emptyObject hws => exact ⟨_, rfl, hw.nested hws.plain⟩
  | membersObject ht => exact ⟨_, rfl, ht.nested hw⟩

theorem Derives.array_inner (hw : BracketWeight weight) (h : Derives .array t) :
    ∃ inner, t = '[' :: (inner ++ [']']) ∧ Nested weight inner := by
  cases h with
  | emptyArray hws => exact ⟨_, rfl, hw.nested hws.plain⟩
  | elementsArray ht => exact ⟨_, rfl, ht.nested hw⟩

end Values

end Datasynth.Lib.JsonTexts
