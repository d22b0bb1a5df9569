import Datasynth.Core.CausalDag
import Datasynth.Lib.PathWrites

/-!
The paths of configuration documents: how they are parsed, and what a write at a path does
to a document.  The fields of an object are kept in the order of their keys.
-/

namespace Datasynth.Runtime.ConfigPaths

open Datasynth.Core.CountryPacks
open Datasynth.Core.Interventions
open Datasynth.Lib.PathWrites
open Datasynth.Lib.SortedEntries

inductive PathSegment
  | key (key : String)
  | index (idx : ℕ)
deriving DecidableEq

section Parsing

/-- `parse::<usize>`. -/
def parse_usize (text : List Char) : Option ℕ :=
  let digits :=
    match text with
    | '+' :: rest => rest
    | digits => digits
  if digits.isEmpty || !digits.all Char.isDigit then none
  else
    let n := digits.foldl (fun n c => 10 * n + (c.toNat - '0'.toNat)) 0
    if n < 2 ^ 64 then some n else none

/-- The index is the text between the bracket and the last byte, whatever that byte is.
No result is a panic: there is no such text, or it ends within a character. -/
def parsePart (part : List Char) : Option (List PathSegment) :=
  match part.span (· ≠ '[') with
  | (key, []) => some [.key (String.ofList key)]
  | (key, _ :: rest) =>
      match rest.getLast? with
      | none => none
      | some last =>
          if last.utf8Size ≠ 1 then none
          else
            some ((if key.isEmpty then [] else [.key (String.ofList key)]) ++
              ((parse_usize rest.dropLast).map .index).toList)

def parse_path (path : String) : Option (List PathSegment) :=
  ((path.toList.splitOn '.').mapM parsePart).map List.flatten

end Parsing

section Writing

/-- The document with the value at the segments; none if there is no such place. -/
@[grind =] def applyAt (new_value : Json) : List PathSegment → Json → Option Json
  | [.key key], .object fields =>
      some (.object (upsertEntries key (fun _ => new_value) fields))
  | [.index idx], .array items =>
      if idx < items.length then some (.array (items.set idx new_value)) else none
  | .key key :: segment :: rest, .object fields =>
      (lookupEntries fields key).bind fun current =>
        (applyAt new_value (segment :: rest) current).map fun current =>
          .object (upsertEntries key (fun _ => current) fields)
  | .index idx :: segment :: rest, .array items =>
      items[idx]?.bind fun current =>
        (applyAt new_value (segment :: rest) current).map fun current =>
          .array (items.set idx current)
  | _, _ => none

mutual

@[grind =] def strip_nulls : Json → Json
  | .object fields => .object (stripFields fields)
  | .array items => .array (stripItems items)
  | json => json

@[grind =] def stripFields : List (String × Json) → List (String × Json)
  | [] => []
  | (_, .null) :: fields => stripFields fields
  | (key, value) :: fields => (key, strip_nulls value) :: stripFields fields

@[grind =] def stripItems : List Json → List Json
  | [] => []
  | item :: items => strip_nulls item :: stripItems items

end

end Writing

section Places

/-- The fields of all objects are in the order of their keys. -/
inductive SortedFields : Json → Prop
  | null : SortedFields .null
  | bool (value : Bool) : SortedFields (.bool value)
  | number (value : ℚ) : SortedFields (.number value)
  | string (text : String) : SortedFields (.string text)
  | array {items : List Json} : (∀ item ∈ items, SortedFields item) → SortedFields (.array items)
  | object {fields : List (String × Json)} : fields.Pairwise (fun a b => a.1 < b.1) →
      (∀ field ∈ fields, SortedFields field.2) → SortedFields (.object fields)

/-- `Value::get`. -/
@[grind =] def get : PathSegment → Json → Option Json
  | .key key, .object fields => lookupEntries fields key
  | .index idx, .array items => items[idx]?
  | _, _ => none

/-- The document with a value at its place. -/
@[grind =] def put : PathSegment → Json → Json → Option Json
  | .key key, value, .object fields => some (.object (upsertEntries key (fun _ => value) fields))
  | .index idx, value, .array items =>
      if idx < items.length then some (.array (items.set idx value)) else none
  | _, _, _ => none

theorem put_eq_some_iff {segment : PathSegment} {value json json' : Json} :
    put segment value json = some json' ↔
      (∃ key fields, segment = .key key ∧ json = .object fields ∧
        json' = .object (upsertEntries key (fun _ => value) fields)) ∨
      ∃ idx items, segment = .index idx ∧ json = .array items ∧ idx < items.length ∧
        json' = .array (items.set idx value) := by
  cases segment <;> cases json <;> simp [put, eq_comm]

theorem get_eq_some_iff {segment : PathSegment} {child json : Json} :
    get segment json = some child ↔
      (∃ key fields, segment = .key key ∧ json = .object fields ∧
        lookupEntries fields key = some child) ∨
      ∃ idx items, segment = .index idx ∧ json = .array items ∧ items[idx]? = some child := by
  cases segment <;> cases json <;> simp [get]

theorem get_put {segment : PathSegment} {value json json' : Json}
    (h : put segment value json = some json') : get segment json' = some value := by
  rw [put_eq_some_iff] at h
  obtain ⟨key, fields, rfl, rfl, rfl⟩ | ⟨idx, items, rfl, rfl, hlt, rfl⟩ := h
  · exact lookupEntries_stored
  · rw [get, List.getElem?_set_self hlt]

theorem get_put_ne {segment other : PathSegment} {value json json' : Json}
    (hne : other ≠ segment) (h : put segment value json = some json') :
    get other json' = get other json := by
  rw [put_eq_some_iff] at h
  obtain ⟨key, fields, rfl, rfl, rfl⟩ | ⟨idx, items, rfl, rfl, hlt, rfl⟩ := h
  · cases other with
    | key other =>
        exact lookupEntries_upsertEntries_ne (fun heq => hne (congrArg PathSegment.key heq)) _ _
    | index _ => rfl
  · cases other with
    | key _ => rfl
    | index other =>
        rw [get, get, List.getElem?_set_ne fun heq => hne (congrArg PathSegment.index heq.symm)]

theorem put_put {segment : PathSegment} {value other json json' : Json}
    (h : put segment value json = some json') :
    put segment other json' = put segment other json := by
  rw [put_eq_some_iff] at h
  obtain ⟨key, fields, rfl, rfl, rfl⟩ | ⟨idx, items, rfl, rfl, hlt, rfl⟩ := h
  · rw [put, put, stored_stored]
  · rw [put, put, List.length_set, List.set_set]

theorem put_comm {segment segment' : PathSegment} {value value' json : Json}
    (hne : segment ≠ segment') :
    (put segment value json).bind (put segment' value') =
      (put segment' value' json).bind (put segment value) := by
  match segment, segment', json with
  | .key key, .key key', .object fields =>
      simp only [put, Option.bind_some]
      rw [stored_comm fun heq => hne (congrArg PathSegment.key heq)]
  | .index idx, .index idx', .array items =>
      have hidx : idx ≠ idx' := fun heq => hne (congrArg PathSegment.index heq)
      by_cases hlt : idx < items.length <;> by_cases hlt' : idx' < items.length <;>
        simp [put, hlt, hlt', List.set_comm _ _ hidx]
  | .key key, .index idx, .array items =>
      simp only [put, Option.bind_none]
      split_ifs <;> rfl
  | .index idx, .key key, .array items =>
      simp only [put, Option.bind_none]
      split_ifs <;> rfl
  | .key _, .index _, .object _ => rfl
  | .index _, .key _, .object _ => rfl
  | .index _, .index _, .object _ => rfl
  | .key _, .key _, .array _ => rfl
  | _, _, .null => simp [put]
  | _, _, .bool _ => simp [put]
  | _, _, .number _ => simp [put]
  | _, _, .string _ => simp [put]

theorem isSome_put {segment : PathSegment} {child value json : Json}
    (h : get segment json = some child) : (put segment value json).isSome := by
  rw [get_eq_some_iff] at h
  obtain ⟨key, fields, rfl, rfl, -⟩ | ⟨idx, items, rfl, rfl, hitem⟩ := h
  · rfl
  · rw [put, if_pos (List.getElem?_eq_some_iff.mp hitem).1, Option.isSome_some]

theorem isSome_put_put {segment other : PathSegment} {value value' json json' : Json}
    (h : put segment value json = some json') :
    (put other value' json').isSome = (put other value' json).isSome := by
  rw [put_eq_some_iff] at h
  obtain ⟨key, fields, rfl, rfl, rfl⟩ | ⟨idx, items, rfl, rfl, hlt, rfl⟩ := h
  · cases other <;> rfl
  · cases other with
    | key _ => rfl
    | index other =>
        rw [put, put, List.length_set]
        split_ifs <;> rfl

theorem put_get {segment : PathSegment} {value json : Json} (hsorted : SortedFields json)
    (h : get segment json = some value) : put segment value json = some json := by
  rw [get_eq_some_iff] at h
  obtain ⟨key, fields, rfl, rfl, hfield⟩ | ⟨idx, items, rfl, rfl, hitem⟩ := h
  · cases hsorted with
    | object hfields _ => rw [put, stored_eq_self hfields hfield]
  · obtain ⟨hlt, rfl⟩ := List.getElem?_eq_some_iff.mp hitem
    rw [put, if_pos hlt, List.set_getElem_self]

theorem sortedFields_get {segment : PathSegment} {value json : Json} (hsorted : SortedFields json)
    (h : get segment json = some value) : SortedFields value := by
  rw [get_eq_some_iff] at h
  obtain ⟨key, fields, rfl, rfl, hfield⟩ | ⟨idx, items, rfl, rfl, hitem⟩ := h
  · cases hsorted with
    | object _ hitems => exact hitems _ (mem_of_lookupEntries hfield)
  · cases hsorted with
    | array hitems => exact hitems _ (List.mem_of_getElem? hitem)

theorem sortedFields_put {segment : PathSegment} {value json json' : Json}
    (hsorted : SortedFields json) (hvalue : SortedFields value)
    (h : put segment value json = some json') : SortedFields json' := by
  rw [put_eq_some_iff] at h
  obtain ⟨key, fields, rfl, rfl, rfl⟩ | ⟨idx, items, rfl, rfl, hlt, rfl⟩ := h
  · cases hsorted with
    | object hfields hitems =>
        refine .object (upsertEntries_sorted key _ hfields) fun field hfield => ?_
        rcases mem_stored hfield with rfl | hfield
        · exact hvalue
        · exact hitems field hfield
  · cases hsorted with
    | array hitems =>
        refine .array fun item hitem => ?_
        rcases List.mem_or_eq_of_mem_set hitem with hitem | rfl
        · exact hitems item hitem
        · exact hvalue

def places : Places PathSegment Json where
  child? := get
  put := put
  Canonical := SortedFields
  child?_put := get_put
  child?_put_ne := get_put_ne
  put_put := put_put
  put_comm := put_comm
  isSome_put := isSome_put
  isSome_put_put := isSome_put_put
  put_child? := put_get
  canonical_child? := sortedFields_get
  canonical_put := sortedFields_put

theorem leaf_number (value : ℚ) : places.Leaf (.number value) where
  child?_eq segment := by cases segment <;> rfl
  put_eq segment _ := by cases segment <;> rfl

theorem leaf_null : places.Leaf .null where
  child?_eq segment := by cases segment <;> rfl
  put_eq segment _ := by cases segment <;> rfl

theorem applyAt_eq_writeAt {new_value json : Json} {segments : List PathSegment}
    (hsegments : segments ≠ []) :
    applyAt new_value segments json = places.writeAt segments new_value (some json) := by
  induction segments generalizing json with
  | nil => exact absurd rfl hsegments
  | cons segment rest ih =>
      cases rest with
      | nil => cases segment <;> cases json <;> rfl
      | cons next rest =>
          have hrest : applyAt new_value (next :: rest) =
              fun current => places.writeAt (next :: rest) new_value (some current) := by
            funext current
            exact ih (List.cons_ne_nil next rest)
          match segment, json with
          | .key key, .object fields =>
              change _ = (places.writeAt (next :: rest) new_value (lookupEntries fields key)).bind _
              rw [applyAt, hrest]
              cases lookupEntries fields key with
              | none => rfl
              | some current => exact Option.map_eq_bind
          | .index idx, .array items =>
              change _ = (places.writeAt (next :: rest) new_value items[idx]?).bind _
              rw [applyAt, hrest]
              cases hitem : items[idx]? with
              | none => rfl
              | some current =>
                  rw [Option.bind_some, Option.map_eq_bind]
                  congr 1
                  funext child
                  exact (if_pos (List.getElem?_eq_some_iff.mp hitem).1).symm
          | .key _, .array _ | .index _, .object _ => rfl
          | .key _, .null | .key _, .bool _ | .key _, .number _ | .key _, .string _ => rfl
          | .index _, .null | .index _, .bool _ | .index _, .number _ | .index _, .string _ => rfl

end Places

section Nulls

theorem stripItems_eq_map (items : List Json) : stripItems items = items.map strip_nulls := by
  induction items with
  | nil => rfl
  | cons item items ih => rw [stripItems, ih, List.map_cons]

theorem stripFields_cons {key : String} {value : Json} {fields : List (String × Json)}
    (hvalue : value ≠ .null) :
    stripFields ((key, value) :: fields) = (key, strip_nulls value) :: stripFields fields := by
  rw [stripFields]
  exact hvalue

theorem mem_stripFields {field : String × Json} {fields : List (String × Json)}
    (h : field ∈ stripFields fields) : ∃ original ∈ fields, original.1 = field.1 := by
  induction fields with
  | nil => cases h
  | cons original fields ih =>
      have hrest (h : field ∈ stripFields fields) :
          ∃ o ∈ original :: fields, o.1 = field.1 := by
        obtain ⟨o, ho, hkey⟩ := ih h
        exact ⟨o, List.mem_cons_of_mem original ho, hkey⟩
      by_cases hnull : original.2 = .null
      · rw [← Prod.eta original, hnull] at h
        exact hrest h
      · rw [← Prod.eta original, stripFields_cons hnull, List.mem_cons] at h
        rcases h with rfl | h
        · exact ⟨original, List.mem_cons_self .., rfl⟩
        · exact hrest h

theorem lookupEntries_stripFields {key : String} {fields : List (String × Json)}
    (hfields : fields.Pairwise fun a b => a.1 < b.1) :
    lookupEntries (stripFields fields) key = (lookupEntries fields key).map strip_nulls ∨
      lookupEntries fields key = some .null ∧ lookupEntries (stripFields fields) key = none := by
  induction fields with
  | nil => exact .inl rfl
  | cons field fields ih =>
      obtain ⟨hhd, hrest⟩ := List.pairwise_cons.mp hfields
      obtain ⟨name, value⟩ := field
      by_cases hnull : value = .null
      · subst hnull
        rw [stripFields, lookupEntries]
        split_ifs with hname
        · refine .inr ⟨rfl, lookupEntries_eq_none_of_lt fun e he => ?_⟩
          obtain ⟨original, horiginal, hkey⟩ := mem_stripFields he
          rw [← hname, ← hkey]
          exact hhd original horiginal
        · exact ih hrest
      · rw [stripFields_cons hnull, lookupEntries, lookupEntries]
        split_ifs with hname
        · exact .inl rfl
        · exact ih hrest

theorem get_strip_nulls {segment : PathSegment} {json : Json} (hsorted : SortedFields json) :
    get segment (strip_nulls json) = (get segment json).map strip_nulls ∨
      get segment json = some .null ∧ get segment (strip_nulls json) = none := by
  match segment, json, hsorted with
  | .key key, .object fields, .object hfields _ =>
      rw [strip_nulls]
      exact lookupEntries_stripFields hfields
  | .index idx, .array items, _ =>
      rw [strip_nulls, get, get, stripItems_eq_map, List.getElem?_map]
      exact .inl rfl
  | .key _, .array _, _ | .index _, .object _, _ => exact .inl (by rw [strip_nulls]; rfl)
  | segment, .null, _ | segment, .bool _, _ | segment, .number _, _ | segment, .string _, _ =>
      exact .inl (by cases segment <;> rfl)

/-- The numbers of a document stay where they are. -/
theorem valueAt_strip_nulls {segments : List PathSegment} {json : Json} {value : ℚ}
    (hsorted : SortedFields json) :
    places.valueAt segments (some (strip_nulls json)) = some (.number value) ↔
      places.valueAt segments (some json) = some (.number value) := by
  induction segments generalizing json with
  | nil => cases json <;> simp [Places.valueAt, strip_nulls]
  | cons segment rest ih =>
      rw [Places.valueAt, Places.valueAt, Option.bind_some, Option.bind_some]
      change places.valueAt rest (get segment _) = _ ↔ places.valueAt rest (get segment _) = _
      rcases @get_strip_nulls segment json hsorted with h | ⟨hnull, hnone⟩
      · rw [h]
        cases hchild : get segment json with
        | none => rfl
        | some child => exact ih (sortedFields_get hsorted hchild)
      · rw [hnull, hnone, Places.valueAt_none]
        refine iff_of_false nofun fun h => ?_
        cases rest with
        | nil => cases h
        | cons next rest =>
            rw [Places.valueAt_leaf leaf_null (List.cons_ne_nil next rest)] at h
            cases h

end Nulls

end Datasynth.Runtime.ConfigPaths
