import Mathlib.Data.List.TakeWhile
import Datasynth.Runtime.ConfigMutator

/-!
Single writes to configuration documents in place, and which texts of paths they follow.
-/

namespace Datasynth.Runtime.ConfigWrites

open Datasynth.Core.CountryPacks
open Datasynth.Core.Interventions
open Datasynth.Lib.PathWrites
open Datasynth.Lib.SortedEntries
open Datasynth.Runtime.ConfigMutator
open Datasynth.Runtime.ConfigPaths

section Model

/-- The document after a write in place, and whether the place was found. -/
def applyInPlace (new_value : Json) : List PathSegment → Json → Json × Bool
  | [.key key], .object fields =>
      (.object (upsertEntries key (fun _ => new_value) fields), true)
  | [.index idx], .array items =>
      if idx < items.length then (.array (items.set idx new_value), true)
      else (.array items, false)
  | .key key :: segment :: rest, .object fields =>
      match lookupEntries fields key with
      | none => (.object fields, false)
      | some current =>
          let written := applyInPlace new_value (segment :: rest) current
          (.object (upsertEntries key (fun _ => written.1) fields), written.2)
  | .index idx :: segment :: rest, .array items =>
      match items[idx]? with
      | none => (.array items, false)
      | some current =>
          let written := applyInPlace new_value (segment :: rest) current
          (.array (items.set idx written.1), written.2)
  | _, json => (json, false)

/-- No result is a panic while the path is parsed. -/
def apply_in_place (value : Json) (path : String) (new_value : Json) :
    Option (Json × Except MutationError Unit) :=
  (parse_path path).map fun segments =>
    let written := applyInPlace new_value segments value
    (written.1, if written.2 then .ok () else .error (.pathNotFound path))

end Model

section InPlace

/-- What a failed write has passed through is put back as it was. -/
theorem applyInPlace_eq {new_value json : Json} (hsorted : SortedFields json)
    (segments : List PathSegment) :
    applyInPlace new_value segments json =
      ((applyAt new_value segments json).getD json,
        (applyAt new_value segments json).isSome) := by
  induction segments generalizing json with
  | nil => cases json <;> rfl
  | cons segment rest ih =>
      cases rest with
      | nil =>
          match segment, json with
          | .key _, .object _ => rfl
          | .index idx, .array items =>
              rw [applyInPlace, applyAt]
              split <;> rfl
          | .key _, .array _ | .index _, .object _ => rfl
          | .key _, .null | .key _, .bool _ | .key _, .number _ | .key _, .string _ => rfl
          | .index _, .null | .index _, .bool _ | .index _, .number _ | .index _, .string _ => rfl
      | cons next rest =>
          match segment, json with
          | .key key, .object fields =>
              rw [applyInPlace, applyAt]
              cases hfield : lookupEntries fields key with
              | none => rfl
              | some current =>
                  have hget : ConfigPaths.get (.key key) (.object fields) = some current := hfield
                  have hput := put_get hsorted hget
                  rw [put, Option.some.injEq] at hput
                  dsimp only
                  rw [ih (sortedFields_get hsorted hget), Option.bind_some]
                  cases applyAt new_value (next :: rest) current with
                  | none => exact Prod.ext hput rfl
                  | some written => rfl
          | .index idx, .array items =>
              rw [applyInPlace, applyAt]
              cases hitem : items[idx]? with
              | none => rfl
              | some current =>
                  have hget : ConfigPaths.get (.index idx) (.array items) = some current := hitem
                  have hput := put_get hsorted hget
                  rw [put, if_pos (List.getElem?_eq_some_iff.mp hitem).1, Option.some.injEq] at hput
                  dsimp only
                  rw [ih (sortedFields_get hsorted hget), Option.bind_some]
                  cases applyAt new_value (next :: rest) current with
                  | none => exact Prod.ext hput rfl
                  | some written => rfl
          | .key _, .array _ | .index _, .object _ => rfl
          | .key _, .null | .key _, .bool _ | .key _, .number _ | .key _, .string _ => rfl
          | .index _, .null | .index _, .bool _ | .index _, .number _ | .index _, .string _ => rfl

/-- The write in place is the write that the mutations of a scenario are made of. -/
theorem apply_in_place_eq {value : Json} (hsorted : SortedFields value) (path : String)
    (new_value : Json) :
    apply_in_place value path new_value =
      (apply_at_path value path new_value).map fun applied =>
        (applied.toOption.getD value, applied.map fun _ => ()) := by
  rw [apply_in_place, apply_at_path, Option.map_map]
  refine congrArg (Option.map · _) (funext fun segments => ?_)
  rw [Function.comp_apply, applyInPlace_eq hsorted]
  cases applyAt new_value segments value <;> rfl

end InPlace

section Texts

/-- A key of a path with the indices behind it. -/
structure PathField where
  key : String
  indices : List ℕ
  dotless : '.' ∉ key.toList
  bracketless : '[' ∉ key.toList

def indexText (idx : ℕ) : List Char := '[' :: (Nat.toDigits 10 idx ++ [']'])

def PathField.text (field : PathField) : List Char :=
  field.key.toList ++ field.indices.flatMap indexText

def PathField.segments (field : PathField) : List PathSegment :=
  .key field.key :: field.indices.map .index

def pathText (fields : List PathField) : String :=
  String.ofList (['.'].intercalate (fields.map PathField.text))

def pathSegments (fields : List PathField) : List PathSegment :=
  fields.flatMap PathField.segments

/-- No index, or a key with one index that the machine has. -/
def PathField.Single (field : PathField) : Prop :=
  field.indices = [] ∨ field.key ≠ "" ∧ ∃ idx < 2 ^ 64, field.indices = [idx]

/-- A part that gives no segment. -/
def Dropped (part : List Char) : Prop :=
  ∃ inner last, part = '[' :: (inner ++ [last]) ∧ last.utf8Size = 1 ∧ parse_usize inner = none

theorem parse_usize_eq {text : List Char} (hplus : text.head? ≠ some '+') :
    parse_usize text =
      if text.isEmpty || !text.all Char.isDigit then none
      else if Nat.ofDigitChars 10 text 0 < 2 ^ 64 then some (Nat.ofDigitChars 10 text 0)
      else none := by
  rw [parse_usize]
  · rfl
  · rintro rest rfl
    exact hplus rfl

theorem head?_digits_ne (idx : ℕ) (rest : List Char) :
    (Nat.toDigits 10 idx ++ rest).head? ≠ some '+' := by
  rw [List.head?_append_of_ne_nil _ Nat.toDigits_ne_nil]
  intro h
  have hdigit := Nat.isDigit_of_mem_toDigits (by decide) (by decide) (List.mem_of_head? h)
  exact absurd hdigit (by decide)

theorem parse_usize_digits (idx : ℕ) :
    parse_usize (Nat.toDigits 10 idx) = if idx < 2 ^ 64 then some idx else none := by
  have hhead := head?_digits_ne idx []
  rw [List.append_nil] at hhead
  have hall : (Nat.toDigits 10 idx).all Char.isDigit = true :=
    List.all_eq_true.mpr fun c hc => Nat.isDigit_of_mem_toDigits (by decide) (by decide) hc
  have hempty : (Nat.toDigits 10 idx).isEmpty = false :=
    List.isEmpty_eq_false_iff.mpr Nat.toDigits_ne_nil
  rw [parse_usize_eq hhead, hempty, hall, Nat.ofDigitChars_ten_toDigits]
  rfl

theorem parse_usize_brackets (idx : ℕ) (rest : List Char) :
    parse_usize (Nat.toDigits 10 idx ++ ']' :: rest) = none := by
  have hall : (Nat.toDigits 10 idx ++ ']' :: rest).all Char.isDigit = false := by
    rw [List.all_append, List.all_cons]
    have hbracket : Char.isDigit ']' = false := by decide
    rw [hbracket, Bool.false_and, Bool.and_false]
  rw [parse_usize_eq (head?_digits_ne idx _), hall, Bool.not_false, Bool.or_true, if_pos rfl]

theorem parsePart_plain {key : List Char} (hkey : '[' ∉ key) :
    parsePart key = some [.key (String.ofList key)] := by
  have hall : ∀ c ∈ key, decide (c ≠ '[') = true :=
    fun c hc => decide_eq_true fun heq => hkey (heq ▸ hc)
  rw [parsePart, List.span_eq_takeWhile_dropWhile, List.takeWhile_eq_self_iff.mpr hall,
    List.dropWhile_eq_nil_iff.mpr hall]

theorem parsePart_append {key : List Char} (hkey : '[' ∉ key) (rest : List Char) :
    parsePart (key ++ '[' :: rest) =
      rest.getLast?.bind fun last =>
        if last.utf8Size ≠ 1 then none
        else
          some ((if key.isEmpty then [] else [.key (String.ofList key)]) ++
            ((parse_usize rest.dropLast).map .index).toList) := by
  have hall : ∀ c ∈ key, decide (c ≠ '[') = true :=
    fun c hc => decide_eq_true fun heq => hkey (heq ▸ hc)
  rw [parsePart, List.span_eq_takeWhile_dropWhile, List.takeWhile_append_of_pos hall,
    List.dropWhile_append_of_pos hall, List.takeWhile_cons_of_neg (by simp),
    List.dropWhile_cons_of_neg (by simp), List.append_nil]
  dsimp only
  cases rest.getLast? <;> rfl

theorem parsePart_bracket {key : List Char} (hkey : '[' ∉ key) (inner : List Char) {last : Char}
    (hlast : last.utf8Size = 1) :
    parsePart (key ++ '[' :: (inner ++ [last])) =
      some ((if key.isEmpty then [] else [.key (String.ofList key)]) ++
        ((parse_usize inner).map .index).toList) := by
  rw [parsePart_append hkey, List.getLast?_concat, Option.bind_some, if_neg (not_not.mpr hlast),
    List.dropLast_concat]

theorem parsePart_eq_nil_iff {part : List Char} : parsePart part = some [] ↔ Dropped part := by
  constructor
  · intro h
    by_cases hbracket : '[' ∈ part
    · obtain ⟨key, rest, rfl, hkey⟩ := List.eq_append_cons_of_mem hbracket
      rw [parsePart_append hkey] at h
      obtain ⟨last, hlast, h⟩ := Option.bind_eq_some_iff.mp h
      obtain ⟨inner, rfl⟩ := List.getLast?_eq_some_iff.mp hlast
      rw [List.dropLast_concat] at h
      split at h
      · cases h
      · rename_i hsize
        rw [Option.some.injEq, List.append_eq_nil_iff, Option.toList_eq_nil_iff,
          Option.map_eq_none_iff] at h
        obtain ⟨hempty, hnone⟩ := h
        split at hempty
        · rename_i hnil
          rw [List.isEmpty_iff] at hnil
          rw [hnil, List.nil_append]
          exact ⟨inner, last, rfl, not_not.mp hsize, hnone⟩
        · cases hempty
    · rw [parsePart_plain hbracket] at h
      cases h
  · rintro ⟨inner, last, rfl, hlast, hnone⟩
    have hpart := parsePart_bracket (List.not_mem_nil (a := '[')) inner hlast
    rw [hnone] at hpart
    exact hpart

/-- A path without segments. -/
theorem parse_path_eq_nil_iff {path : String} :
    parse_path path = some [] ↔ ∀ part ∈ path.toList.splitOn '.', Dropped part := by
  rw [parse_path, Option.map_eq_some_iff]
  simp only [← parsePart_eq_nil_iff]
  generalize path.toList.splitOn '.' = parts
  induction parts with
  | nil => exact iff_of_true ⟨[], rfl, rfl⟩ (List.forall_mem_nil _)
  | cons part parts ih =>
      rw [List.forall_mem_cons, ← ih, List.mapM_cons]
      constructor
      · rintro ⟨parsed, hparsed, hflat⟩
        obtain ⟨first, hfirst, hrest⟩ := Option.bind_eq_some_iff.mp hparsed
        obtain ⟨rest, hmap, hpure⟩ := Option.bind_eq_some_iff.mp hrest
        cases hpure
        rw [List.flatten_cons, List.append_eq_nil_iff] at hflat
        exact ⟨by rw [hfirst, hflat.1], rest, hmap, hflat.2⟩
      · rintro ⟨hfirst, rest, hmap, hflat⟩
        refine ⟨[] :: rest, ?_, hflat⟩
        rw [hfirst, hmap]
        rfl

theorem indexText_eq (idx : ℕ) : indexText idx = '[' :: (Nat.toDigits 10 idx ++ [']']) := rfl

namespace PathField

variable {field : PathField}

theorem exists_inner (idx : ℕ) (indices : List ℕ) :
    ∃ inner, Nat.toDigits 10 idx ++ ']' :: indices.flatMap indexText = inner ++ [']'] ∧
      (indices = [] → inner = Nat.toDigits 10 idx) ∧
        (indices ≠ [] → ∃ rest, inner = Nat.toDigits 10 idx ++ ']' :: rest) := by
  rcases List.eq_nil_or_concat indices with rfl | ⟨init, last, rfl⟩
  · exact ⟨_, rfl, fun _ => rfl, fun h => absurd rfl h⟩
  · refine ⟨Nat.toDigits 10 idx ++ ']' :: (init.flatMap indexText ++
      '[' :: Nat.toDigits 10 last), ?_, fun h => absurd h (by simp), fun _ => ⟨_, rfl⟩⟩
    simp [indexText]

/-- A text is parsed to its segments, or something is left out. -/
theorem parsePart_text (field : PathField) :
    ∃ parsed, parsePart field.text = some parsed ∧ parsed.length ≤ field.segments.length ∧
      (parsed.length = field.segments.length → field.Single) ∧
        (field.Single → parsed = field.segments) := by
  obtain ⟨key, indices, dotless, bracketless⟩ := field
  rcases indices with _ | ⟨idx, rest⟩
  · refine ⟨[.key key], ?_, le_rfl, fun _ => .inl rfl, fun _ => rfl⟩
    rw [text, List.flatMap_nil, List.append_nil, parsePart_plain bracketless,
      String.ofList_toList]
  obtain ⟨inner, hinner, hnil, hcons⟩ := exists_inner idx rest
  have htext : (PathField.mk key (idx :: rest) dotless bracketless).text =
      key.toList ++ '[' :: (inner ++ [']']) := by
    rw [← hinner, text, List.flatMap_cons, indexText_eq]
    simp
  have hempty : key.toList.isEmpty = true ↔ key = "" := by
    rw [List.isEmpty_iff, String.toList_eq_nil_iff]
  refine ⟨_, by rw [htext, parsePart_bracket bracketless inner (by decide)], ?_⟩
  simp only [segments, Single, String.ofList_toList, hempty]
  by_cases hrest : rest = []
  · rw [hnil hrest, parse_usize_digits, hrest]
    generalize 2 ^ 64 = bound
    by_cases hkey : key = "" <;> by_cases hidx : idx < bound <;> simp [hkey, hidx]
  · obtain ⟨after, hafter⟩ := hcons hrest
    have hlength := List.length_pos_iff.mpr hrest
    rw [hafter, parse_usize_brackets]
    by_cases hkey : key = ""
    · simp [hkey]
    · simp [hkey, hrest]

/-- The number of segments can be counted in the text. -/
theorem length_segments (field : PathField) :
    field.segments.length = field.text.count '[' + 1 := by
  have hkey : field.key.toList.count '[' = 0 := List.count_eq_zero.mpr field.bracketless
  have hdigits : ∀ idx, (Nat.toDigits 10 idx).count '[' = 0 := by
    intro idx
    refine List.count_eq_zero.mpr fun hmem => ?_
    exact absurd (Nat.isDigit_of_mem_toDigits (by decide) (by decide) hmem) (by decide)
  have hindices : (field.indices.flatMap indexText).count '[' = field.indices.length := by
    induction field.indices with
    | nil => rfl
    | cons idx indices ih =>
        rw [List.flatMap_cons, List.count_append, ih, indexText_eq, List.count_cons_self,
          List.count_append, hdigits, List.length_cons, Nat.add_comm]
        rfl
  rw [segments, text, List.count_append, hkey, hindices, List.length_cons, List.length_map,
    Nat.zero_add]

theorem dotless_text (field : PathField) : '.' ∉ field.text := by
  rw [text, List.mem_append, List.mem_flatMap]
  rintro (hkey | ⟨idx, -, hmem⟩)
  · exact field.dotless hkey
  · rw [indexText_eq, List.mem_cons, List.mem_append, List.mem_singleton] at hmem
    rcases hmem with hbracket | hdigit | hbracket
    · exact absurd hbracket (by decide)
    · exact absurd (Nat.isDigit_of_mem_toDigits (by decide) (by decide) hdigit) (by decide)
    · exact absurd hbracket (by decide)

end PathField

variable {fields fields' : List PathField}

theorem splitOn_pathText (hne : fields ≠ []) :
    (pathText fields).toList.splitOn '.' = fields.map PathField.text := by
  rw [pathText, String.toList_ofList]
  refine List.splitOn_intercalate '.' ?_ (by simpa using hne)
  intro part hpart
  obtain ⟨field, -, rfl⟩ := List.mem_map.mp hpart
  exact field.dotless_text

theorem parse_pathText (hne : fields ≠ []) :
    ∃ parsed, parse_path (pathText fields) = some parsed ∧
      (parsed.length = (pathSegments fields).length → ∀ field ∈ fields, field.Single) ∧
        ((∀ field ∈ fields, field.Single) → parsed = pathSegments fields) := by
  rw [parse_path, splitOn_pathText hne]
  have hparts : ∃ parts, (fields.map PathField.text).mapM parsePart = some parts ∧
      parts.flatten.length ≤ (pathSegments fields).length ∧
        (parts.flatten.length = (pathSegments fields).length → ∀ field ∈ fields, field.Single) ∧
          ((∀ field ∈ fields, field.Single) → parts.flatten = pathSegments fields) := by
    clear hne
    induction fields with
    | nil => exact ⟨[], rfl, le_rfl, fun _ => List.forall_mem_nil _, fun _ => rfl⟩
    | cons field fields ih =>
        obtain ⟨parsed, hparsed, hle, hsingle, heq⟩ := field.parsePart_text
        obtain ⟨parts, hparts, hle', hsingle', heq'⟩ := ih
        refine ⟨parsed :: parts, ?_, ?_, ?_, ?_⟩
        · rw [List.map_cons, List.mapM_cons, hparsed, hparts]
          rfl
        · rw [List.flatten_cons, List.length_append, pathSegments, List.flatMap_cons,
            List.length_append]
          exact Nat.add_le_add hle hle'
        · rw [List.flatten_cons, List.length_append, pathSegments, List.flatMap_cons,
            List.length_append, ← pathSegments, List.forall_mem_cons]
          intro hlength
          exact ⟨hsingle (by omega), hsingle' (by omega)⟩
        · rw [List.forall_mem_cons]
          rintro ⟨hfield, hfields⟩
          rw [List.flatten_cons, heq hfield, heq' hfields, pathSegments, pathSegments,
            List.flatMap_cons]
  obtain ⟨parts, hmap, -, hsingle, heq⟩ := hparts
  exact ⟨parts.flatten, by rw [hmap, Option.map_some], hsingle, heq⟩

theorem length_pathSegments (hne : fields ≠ []) :
    (pathSegments fields).length =
      (((pathText fields).toList.splitOn '.').map fun part => part.count '[' + 1).sum := by
  rw [splitOn_pathText hne, pathSegments, List.length_flatMap, List.map_map]
  simp only [PathField.length_segments, Function.comp_def]

/-- A text that is parsed to its segments has no other ones. -/
theorem pathSegments_eq_of_single (hne : fields ≠ []) (hne' : fields' ≠ [])
    (hsingle : ∀ field ∈ fields, field.Single) (htext : pathText fields' = pathText fields) :
    pathSegments fields' = pathSegments fields := by
  obtain ⟨parsed, hparsed, -, heq⟩ := parse_pathText hne
  obtain ⟨parsed', hparsed', hsingle', heq'⟩ := parse_pathText hne'
  rw [htext, hparsed] at hparsed'
  cases hparsed'
  have hlength : parsed.length = (pathSegments fields').length := by
    rw [heq hsingle, length_pathSegments hne, length_pathSegments hne', htext]
  rw [← heq hsingle, heq' (hsingle' hlength)]

end Texts

section Result

/-- The write at a path is no panic.  A failed write leaves the document as it was; a write that
succeeds is at the place that the text stands for, with nothing changed aside; and a text that
stands for no place is rejected. -/
def Lawful (path : String) (value new_value : Json) : Prop :=
  ∃ written result, apply_in_place value path new_value = some (written, result) ∧
    (∀ e, result = .error e → written = value) ∧
      (∀ fields ≠ [], pathText fields = path → result = .ok () →
        places.valueAt (pathSegments fields) (some written) = some new_value ∧
          ∀ other, Places.Apart (pathSegments fields) other →
            places.valueAt other (some written) = places.valueAt other (some value)) ∧
        ((∀ fields ≠ [], pathText fields ≠ path) → ∃ e, result = .error e)

/-- Each key has at most one index, none if it is empty; or nothing of the text is read. -/
def Readable (path : String) : Prop :=
  (∃ fields ≠ [], pathText fields = path ∧ ∀ field ∈ fields, field.Single) ∨
    ∀ part ∈ path.toList.splitOn '.', Dropped part

theorem lawful_of_readable {path : String} (h : Readable path) {value : Json}
    (hsorted : SortedFields value) (new_value : Json) : Lawful path value new_value := by
  rcases h with ⟨fields, hne, rfl, hsingle⟩ | hdropped
  · obtain ⟨parsed, hparsed, -, heq⟩ := parse_pathText hne
    have hsegments : pathSegments fields ≠ [] := by
      obtain ⟨field, fields, rfl⟩ := List.exists_cons_of_ne_nil hne
      exact List.cons_ne_nil _ _
    rw [Lawful, apply_in_place, hparsed, heq hsingle, Option.map_some]
    dsimp only
    rw [applyInPlace_eq hsorted, applyAt_eq_writeAt hsegments]
    cases hwrite : places.writeAt (pathSegments fields) new_value (some value) with
    | none =>
        refine ⟨_, _, rfl, fun _ _ => rfl, ?_, fun _ => ⟨_, rfl⟩⟩
        rintro fields' - - ⟨⟩
    | some written =>
        refine ⟨_, _, rfl, ?_, ?_, fun hnone => absurd rfl (hnone fields hne)⟩
        · rintro e ⟨⟩
        · rintro fields' hne' htext -
          rw [pathSegments_eq_of_single hne hne' hsingle htext]
          exact ⟨Places.valueAt_writeAt hwrite,
            fun other hapart => Places.valueAt_writeAt_of_apart hwrite hapart⟩
  · rw [Lawful, apply_in_place, parse_path_eq_nil_iff.mpr hdropped]
    have hnothing : applyInPlace new_value [] value = (value, false) := by cases value <;> rfl
    rw [Option.map_some, hnothing]
    refine ⟨_, _, rfl, fun _ _ => rfl, ?_, fun _ => ⟨_, rfl⟩⟩
    rintro fields' - - ⟨⟩

/-- A document that has the place of some segments. -/
def skeleton : List PathSegment → Json
  | [] => .null
  | .key key :: segments => .object [(key, skeleton segments)]
  | .index idx :: segments => .array (List.replicate (idx + 1) (skeleton segments))

theorem sortedFields_skeleton (segments : List PathSegment) : SortedFields (skeleton segments) := by
  induction segments with
  | nil => exact .null
  | cons segment segments ih =>
      cases segment with
      | key key =>
          refine .object (List.pairwise_singleton _ _) fun field hfield => ?_
          rw [List.mem_singleton.mp hfield]
          exact ih
      | index idx =>
          refine .array fun item hitem => ?_
          rw [List.eq_of_mem_replicate hitem]
          exact ih

theorem valueAt_skeleton (segments : List PathSegment) :
    places.valueAt segments (some (skeleton segments)) = some .null := by
  induction segments with
  | nil => rfl
  | cons segment segments ih =>
      rw [Places.valueAt, Option.bind_some]
      cases segment with
      | key key =>
          have hchild : places.child? (.key key) (skeleton (.key key :: segments)) =
              some (skeleton segments) := if_pos rfl
          rw [hchild, ih]
      | index idx =>
          have hchild : places.child? (.index idx) (skeleton (.index idx :: segments)) =
              some (skeleton segments) :=
            List.getElem?_replicate_of_lt (Nat.lt_succ_self idx)
          rw [hchild, ih]

theorem readable_of_lawful {path : String}
    (h : ∀ value new_value, SortedFields value → Lawful path value new_value) : Readable path := by
  obtain ⟨_, _, happly, -⟩ := h .null .null .null
  obtain ⟨segments, hsegments, -⟩ := Option.map_eq_some_iff.mp happly
  clear happly
  by_cases hnil : segments = []
  · exact .inr (parse_path_eq_nil_iff.mp (hnil ▸ hsegments))
  -- a one is written where the skeleton has nothing
  have hold := valueAt_skeleton segments
  have hresolves : places.Resolves segments (skeleton segments) := by
    refine Places.resolves_of_isSome (v := .null) ?_
    rw [Places.writeAt_valueAt (sortedFields_skeleton segments) hold, Option.isSome_some]
  obtain ⟨document, hwrite⟩ := Option.isSome_iff_exists.mp (hresolves (.number 1))
  obtain ⟨written, result, happly, -, hplace, hreject⟩ :=
    h (skeleton segments) (.number 1) (sortedFields_skeleton segments)
  rw [apply_in_place, hsegments, Option.map_some, applyInPlace_eq (sortedFields_skeleton segments),
    applyAt_eq_writeAt hnil, hwrite] at happly
  cases happly
  by_cases hnone : ∀ fields ≠ [], pathText fields ≠ path
  · obtain ⟨e, he⟩ := hreject hnone
    cases he
  push Not at hnone
  obtain ⟨fields, hne, rfl⟩ := hnone
  obtain ⟨hvalue, hapart⟩ := hplace fields hne rfl rfl
  have heq : segments = pathSegments fields :=
    Places.eq_of_valueAt_writeAt (leaf_number 1) hwrite
      (by rw [hold]; exact fun heq => by cases heq) hvalue hapart
  obtain ⟨parsed, hparsed, hsingle, -⟩ := parse_pathText hne
  rw [hsegments] at hparsed
  cases hparsed
  exact .inl ⟨fields, hne, rfl, hsingle (congrArg List.length heq)⟩

/-- For all documents and new values. -/
theorem lawful_iff (path : String) :
    (∀ value new_value, SortedFields value → Lawful path value new_value) ↔ Readable path :=
  ⟨readable_of_lawful, fun h _ new_value hsorted => lawful_of_readable h hsorted new_value⟩

/-- A text that ends with the bracket is a panic, and the second index is left out with the first:
the list under the key is overwritten. -/
theorem unread_brackets_not_lawful :
    let value := Json.object [("a", .array [.array [.null, .null]])]
    ¬Lawful "a[" value (.number 5) ∧ ¬Lawful "a[0][1]" value (.number 5) := by
  intro value
  constructor
  · rintro ⟨_, _, happly, -⟩
    have hparse : parse_path "a[" = none := by decide +kernel
    rw [apply_in_place, hparse] at happly
    cases happly
  · rintro ⟨_, _, happly, -, hplace, -⟩
    have hparse : parse_path "a[0][1]" = some [.key "a"] := by decide +kernel
    rw [apply_in_place, hparse] at happly
    cases happly
    have hfield := (hplace [⟨"a", [0, 1], by decide, by decide⟩] (by simp) (by decide) rfl).1
    cases hfield

end Result

end Datasynth.Runtime.ConfigWrites
