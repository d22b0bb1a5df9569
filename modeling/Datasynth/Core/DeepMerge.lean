import Datasynth.Core.CountryPacks

/-!
What a merge of JSON values has at each path, and that an override which fails leaves the pack
as it was.
-/

namespace Datasynth.Core.DeepMerge

open Datasynth.Core.CountryOverrides
open Datasynth.Core.CountryPacks
open Datasynth.Lib.SortedEntries

section Paths

/-- The fields of every object come in the order of their keys, as in the maps of `serde_json`. -/
inductive WellFormed : Json → Prop where
  | null : WellFormed .null
  | bool (value : Bool) : WellFormed (.bool value)
  | number (value : ℚ) : WellFormed (.number value)
  | string (text : String) : WellFormed (.string text)
  | array {items : List Json} : (∀ item ∈ items, WellFormed item) → WellFormed (.array items)
  | object {fields : List (String × Json)} : (fields.Pairwise fun a b => a.1 < b.1) →
      (∀ field ∈ fields, WellFormed field.2) → WellFormed (.object fields)

/-- A JSON value as it can be built. -/
def Value : Type := { value : Json // WellFormed value }

@[grind =] def isObject : Json → Bool
  | .object _ => true
  | _ => false

/-- The value at the end of a path of keys. -/
@[grind =] def valueAt : List String → Json → Option Json
  | [], value => some value
  | key :: path, .object fields => (lookupEntries fields key).bind (valueAt path)
  | _ :: _, _ => none

/-- Something other than an object stands at the path or on the way to it. -/
@[grind =] def Shadows (overlay : Json) (path : List String) : Prop :=
  ∃ start value, start <+: path ∧ valueAt start overlay = some value ∧ isObject value = false

end Paths

section Fields

variable {base overlay : List (String × Json)} {b o x y : Json} {k : String} {p : List String}

theorem WellFormed.lookup (h : WellFormed (.object base)) (hx : lookupEntries base k = some x) :
    WellFormed x := by
  cases h with
  | object _ hfields => exact hfields (k, x) (mem_of_lookupEntries hx)

theorem WellFormed.sorted (h : WellFormed (.object base)) :
    base.Pairwise fun a b => a.1 < b.1 := by
  cases h with
  | object hsorted _ => exact hsorted

theorem filter_key (h : overlay.Pairwise fun a b => a.1 < b.1) (k : String) :
    overlay.filter (fun e => e.1 = k) = ((lookupEntries overlay k).map (k, ·)).toList := by
  induction overlay with
  | nil => rfl
  | cons e overlay ih =>
      obtain ⟨hfirst, hrest⟩ := List.pairwise_cons.mp h
      rw [lookupEntries]
      by_cases hk : e.1 = k
      · have hnone : overlay.filter (fun e => e.1 = k) = [] := by
          rw [List.filter_eq_nil_iff]
          intro e' he'
          rw [decide_eq_true_eq, ← hk]
          exact (hfirst e' he').ne'
        rw [List.filter_cons_of_pos (by simpa using hk), hnone, if_pos hk, ← hk]
        rfl
      · rw [List.filter_cons_of_neg (by simpa using hk), if_neg hk, ih hrest]

/-- A field of the overlay is merged into the one under its key. -/
theorem lookupEntries_merged (hbase : base.Pairwise fun a b => a.1 < b.1)
    (hoverlay : overlay.Pairwise fun a b => a.1 < b.1) (k : String) :
    lookupEntries (mergeFields base overlay) k =
      match lookupEntries overlay k with
      | none => lookupEntries base k
      | some value => some (deep_merge ((lookupEntries base k).getD .null) value) := by
  rw [lookupEntries_mergeFields hbase, filter_key hoverlay]
  cases lookupEntries overlay k with
  | none => rfl
  | some value => rfl

theorem deep_merge_of_not_object (h : isObject o = false) (b : Json) : deep_merge b o = o := by
  cases o with
  | object fields => cases h
  | _ => simp [deep_merge]

theorem deep_merge_into_not_object (h : isObject b = false) (o : Json) : deep_merge b o = o := by
  cases o with
  | object fields =>
      cases b with
      | object base => cases h
      | _ => simp [deep_merge]
  | _ => simp [deep_merge]

theorem isObject_iff : isObject b = true ↔ ∃ fields, b = .object fields := by
  constructor
  · intro h
    cases b with
    | object fields => exact ⟨fields, rfl⟩
    | _ => cases h
  · rintro ⟨fields, rfl⟩
    rfl

theorem valueAt_of_not_object (h : isObject b = false) : valueAt (k :: p) b = none := by
  cases b with
  | object fields => cases h
  | _ => rfl

theorem shadows_of_not_object (h : isObject o = false) (p : List String) : Shadows o p :=
  ⟨[], o, List.nil_prefix, rfl, h⟩

theorem shadows_cons : Shadows (.object overlay) (k :: p) ↔
    ∃ value, lookupEntries overlay k = some value ∧ Shadows value p := by
  constructor
  · rintro ⟨start, value, hprefix, hvalue, hobject⟩
    rcases List.prefix_cons_iff.mp hprefix with rfl | ⟨rest, rfl, hrest⟩
    · cases hvalue
      cases hobject
    · obtain ⟨first, hfirst, hvalue⟩ := Option.bind_eq_some_iff.mp hvalue
      exact ⟨first, hfirst, rest, value, hrest, hvalue, hobject⟩
  · rintro ⟨first, hfirst, start, value, hprefix, hvalue, hobject⟩
    refine ⟨k :: start, value, List.prefix_cons_iff.mpr (.inr ⟨start, rfl, hprefix⟩), ?_, hobject⟩
    rw [valueAt, hfirst, Option.bind_some, hvalue]

/-- The value that a field is merged into. -/
theorem WellFormed.getD_lookup (h : WellFormed (.object base)) (k : String) :
    WellFormed ((lookupEntries base k).getD .null) := by
  cases hx : lookupEntries base k with
  | none => exact .null
  | some x => exact h.lookup hx

theorem valueAt_merged_object (hb : WellFormed (.object base)) (ho : WellFormed (.object overlay))
    (k : String) (p : List String) :
    valueAt (k :: p) (deep_merge (.object base) (.object overlay)) =
      match lookupEntries overlay k with
      | none => valueAt (k :: p) (.object base)
      | some value => valueAt p (deep_merge ((lookupEntries base k).getD .null) value) := by
  rw [deep_merge, valueAt, lookupEntries_merged hb.sorted ho.sorted]
  cases lookupEntries overlay k with
  | none => rfl
  | some value => rfl

theorem getD_valueAt (base : List (String × Json)) (k : String) (p : List String) :
    (valueAt p ((lookupEntries base k).getD .null)).getD .null =
      (valueAt (k :: p) (.object base)).getD .null := by
  rw [valueAt]
  cases lookupEntries base k with
  | some value => rfl
  | none => cases p <;> rfl

/-- A value of the overlay is merged into the one at its path. -/
theorem valueAt_deep_merge_of_touched (hb : WellFormed b) (ho : WellFormed o)
    (h : valueAt p o = some x) :
    valueAt p (deep_merge b o) = some (deep_merge ((valueAt p b).getD .null) x) := by
  induction p generalizing b o with
  | nil =>
      cases h
      rfl
  | cons k p ih =>
      cases o with
      | object overlay =>
          obtain ⟨value, hvalue, hx⟩ := Option.bind_eq_some_iff.mp h
          cases b with
          | object base =>
              rw [valueAt_merged_object hb ho, hvalue]
              dsimp only
              rw [ih (hb.getD_lookup k) (ho.lookup hvalue) hx, getD_valueAt]
          | _ =>
              rw [deep_merge_into_not_object rfl, h, valueAt_of_not_object rfl, Option.getD_none,
                deep_merge_into_not_object rfl]
      | _ => cases h

theorem valueAt_deep_merge_of_not_shadowed (hb : WellFormed b) (ho : WellFormed o)
    (h : valueAt p o = none) (hshadow : ¬ Shadows o p) :
    valueAt p (deep_merge b o) = valueAt p b := by
  induction p generalizing b o with
  | nil => cases h
  | cons k p ih =>
      cases o with
      | object overlay =>
          cases b with
          | object base =>
              rw [valueAt_merged_object hb ho]
              cases hvalue : lookupEntries overlay k with
              | none => rfl
              | some value =>
                  dsimp only
                  rw [valueAt, hvalue, Option.bind_some] at h
                  have hshadow' : ¬ Shadows value p :=
                    fun hvalue' => hshadow (shadows_cons.mpr ⟨value, hvalue, hvalue'⟩)
                  rw [ih (hb.getD_lookup k) (ho.lookup hvalue) h hshadow', valueAt]
                  cases lookupEntries base k with
                  | some y => rfl
                  | none =>
                      cases p with
                      | nil => cases h
                      | cons k' p => rfl
          | _ => rw [deep_merge_into_not_object rfl, h, valueAt_of_not_object rfl]
      | _ => exact absurd (shadows_of_not_object rfl _) hshadow

theorem valueAt_deep_merge_of_shadowed (hb : WellFormed b) (ho : WellFormed o)
    (h : valueAt p o = none) (hshadow : Shadows o p) : valueAt p (deep_merge b o) = none := by
  induction p generalizing b o with
  | nil => cases h
  | cons k p ih =>
      cases o with
      | object overlay =>
          obtain ⟨value, hvalue, hshadow⟩ := shadows_cons.mp hshadow
          cases b with
          | object base =>
              rw [valueAt, hvalue, Option.bind_some] at h
              rw [valueAt_merged_object hb ho, hvalue]
              exact ih (hb.getD_lookup k) (ho.lookup hvalue) h hshadow
          | _ => rw [deep_merge_into_not_object rfl, h]
      | _ => rw [deep_merge_of_not_object rfl, h]

theorem eq_of_lookupEntries {fields fields' : List (String × Json)}
    (h : fields.Pairwise fun a b => a.1 < b.1) (h' : fields'.Pairwise fun a b => a.1 < b.1)
    (hlookup : ∀ k, lookupEntries fields k = lookupEntries fields' k) : fields = fields' := by
  have hsame : (⟨fields, h⟩ : OrderedMap String Json) = ⟨fields', h'⟩ :=
    OrderedMap.ext_find? hlookup
  exact congrArg OrderedMap.entries hsame

theorem mergeFields_nil (h : overlay.Pairwise fun a b => a.1 < b.1) :
    mergeFields [] overlay = overlay := by
  apply eq_of_lookupEntries (mergeFields_sorted .nil) h
  intro k
  rw [lookupEntries_merged .nil h]
  cases lookupEntries overlay k with
  | none => rfl
  | some value =>
      dsimp only
      rw [lookupEntries, Option.getD_none, deep_merge_into_not_object rfl]

theorem deep_merge_deep_merge (hb : WellFormed b) (ho : WellFormed o) :
    deep_merge (deep_merge b o) o = deep_merge b o := by
  induction ho generalizing b with
  | @object overlay hsorted hfields ih =>
      have hmerged : ∀ {base : List (String × Json)}, WellFormed (.object base) →
          mergeFields (mergeFields base overlay) overlay = mergeFields base overlay := by
        intro base hbase
        have hsorted' : (mergeFields base overlay).Pairwise fun a b => a.1 < b.1 :=
          mergeFields_sorted hbase.sorted
        apply eq_of_lookupEntries (mergeFields_sorted hsorted') hsorted'
        intro k
        rw [lookupEntries_merged hsorted' hsorted, lookupEntries_merged hbase.sorted hsorted]
        cases hvalue : lookupEntries overlay k with
        | none => rfl
        | some value =>
            exact congrArg some (ih _ (mem_of_lookupEntries hvalue) (hbase.getD_lookup k))
      by_cases hobject : isObject b = true
      · obtain ⟨base, rfl⟩ := isObject_iff.mp hobject
        rw [deep_merge, deep_merge, hmerged hb]
      · -- Anything but an object is replaced, as if it were the object without fields.
        have hempty : WellFormed (.object []) :=
          .object .nil fun field hfield => absurd hfield List.not_mem_nil
        have hself := hmerged hempty
        rw [mergeFields_nil hsorted] at hself
        rw [Bool.not_eq_true] at hobject
        rw [deep_merge_into_not_object hobject, deep_merge, hself]
  | _ => rw [deep_merge_of_not_object rfl, deep_merge_of_not_object rfl]

/-- A merge of values that can be built can be built. -/
theorem wellFormed_deep_merge (hb : WellFormed b) (ho : WellFormed o) :
    WellFormed (deep_merge b o) := by
  induction ho generalizing b with
  | @object overlay hsorted hfields ih =>
      cases b with
      | object base =>
          have hsorted' : (mergeFields base overlay).Pairwise fun a b => a.1 < b.1 :=
            mergeFields_sorted hb.sorted
          rw [deep_merge]
          refine .object hsorted' fun field hfield => ?_
          have hlookup := (OrderedMap.mem_entries_iff ⟨_, hsorted'⟩).mp hfield
          have hmerged := lookupEntries_merged hb.sorted hsorted field.1
          rw [show lookupEntries (mergeFields base overlay) field.1 = some field.2 from hlookup]
            at hmerged
          split at hmerged
          · exact hb.lookup hmerged.symm
          · rename_i value hvalue
            rw [Option.some.inj hmerged]
            exact ih (field.1, value) (mem_of_lookupEntries hvalue) (hb.getD_lookup field.1)
      | _ =>
          rw [deep_merge_into_not_object rfl]
          exact .object hsorted hfields
  | null =>
      rw [deep_merge_of_not_object rfl]
      exact .null
  | bool value =>
      rw [deep_merge_of_not_object rfl]
      exact .bool value
  | number value =>
      rw [deep_merge_of_not_object rfl]
      exact .number value
  | string text =>
      rw [deep_merge_of_not_object rfl]
      exact .string text
  | array hitems _ =>
      rw [deep_merge_of_not_object rfl]
      exact .array hitems

end Fields

section Overrides

variable {R : Type}

/-- The override as it works on the pack in place: the pack is written last. -/
def apply_override_to (serde : Serde R) (override_value : Json) :
    ExceptT CountryPackError (StateM (CountryPack R)) Unit := do
  let pack ← get
  let base ← MonadExcept.ofExcept ((serde.to_value pack).mapError .mergeError)
  let merged ← MonadExcept.ofExcept
    ((serde.from_value (deep_merge base override_value)).mapError .mergeError)
  set merged

theorem run_apply_override_to (serde : Serde R) (override_value : Json) (pack : CountryPack R) :
    (apply_override_to serde override_value).run.run pack =
      match apply_override serde pack override_value with
      | .ok merged => (.ok (), merged)
      | .error e => (.error e, pack) := by
  have hget : (apply_override_to serde override_value).run.run pack =
      (MonadExcept.ofExcept ((serde.to_value pack).mapError .mergeError) >>= fun base =>
        MonadExcept.ofExcept
          ((serde.from_value (deep_merge base override_value)).mapError .mergeError) >>= set :
            ExceptT CountryPackError (StateM (CountryPack R)) Unit).run.run pack := rfl
  rw [hget, apply_override]
  cases serde.to_value pack with
  | error e => rfl
  | ok base =>
      show (MonadExcept.ofExcept
          ((serde.from_value (deep_merge base override_value)).mapError .mergeError) >>= set :
            ExceptT CountryPackError (StateM (CountryPack R)) Unit).run.run pack =
        match (serde.from_value (deep_merge base override_value)).mapError .mergeError with
        | .ok merged => (.ok (), merged)
        | .error e => (.error e, pack)
      cases serde.from_value (deep_merge base override_value) with
      | error e => rfl
      | ok merged => rfl

/-- What a merge has at each path, and that merging once more changes nothing. -/
structure Merged (base overlay : Json) : Prop where
  built : WellFormed (deep_merge base overlay)
  overlaid : ∀ path value, valueAt path overlay = some value → isObject value = false →
    valueAt path (deep_merge base overlay) = some value
  objects : ∀ path value, valueAt path overlay = some value → isObject value = true →
    ∃ merged, valueAt path (deep_merge base overlay) = some merged ∧ isObject merged = true
  kept : ∀ path value, valueAt path base = some value → valueAt path overlay = none →
    ¬ Shadows overlay path → valueAt path (deep_merge base overlay) = some value
  nothing_else : ∀ path value, valueAt path (deep_merge base overlay) = some value →
    (valueAt path overlay).isSome ∨ (valueAt path base = some value ∧ ¬ Shadows overlay path)
  idempotent : deep_merge (deep_merge base overlay) overlay = deep_merge base overlay

structure OverrideContract (serde : Serde R) : Prop where
  merged : ∀ base overlay : Value, Merged base.1 overlay.1
  unchanged : ∀ pack value e pack',
    (apply_override_to serde value).run.run pack = (.error e, pack') → pack' = pack

theorem isObject_deep_merge {b o : Json} (h : isObject o = true) :
    isObject (deep_merge b o) = true := by
  obtain ⟨overlay, rfl⟩ := isObject_iff.mp h
  cases b with
  | _ => simp [deep_merge, isObject]

theorem merged_of_wellFormed {b o : Json} (hb : WellFormed b) (ho : WellFormed o) :
    Merged b o where
  built := wellFormed_deep_merge hb ho
  overlaid path value h hobject := by
    rw [valueAt_deep_merge_of_touched hb ho h, deep_merge_of_not_object hobject]
  objects path value h hobject :=
    ⟨_, valueAt_deep_merge_of_touched hb ho h, isObject_deep_merge hobject⟩
  kept path value h huntouched hshadow := by
    rw [valueAt_deep_merge_of_not_shadowed hb ho huntouched hshadow, h]
  nothing_else path value h := by
    cases hoverlay : valueAt path o with
    | some x => exact .inl rfl
    | none =>
        by_cases hshadow : Shadows o path
        · rw [valueAt_deep_merge_of_shadowed hb ho hoverlay hshadow] at h
          cases h
        · rw [valueAt_deep_merge_of_not_shadowed hb ho hoverlay hshadow] at h
          exact .inr ⟨h, hshadow⟩
  idempotent := deep_merge_deep_merge hb ho

theorem override_contract (serde : Serde R) : OverrideContract serde where
  merged base overlay := merged_of_wellFormed base.2 overlay.2
  unchanged pack value e pack' h := by
    rw [run_apply_override_to] at h
    split at h
    · cases h
    · cases h
      rfl

end Overrides

end Datasynth.Core.DeepMerge
