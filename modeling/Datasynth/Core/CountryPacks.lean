import Datasynth.Lib.ExceptRuns
import Datasynth.Lib.KeyedUpdates
import Datasynth.Lib.SortedEntries
import Mathlib.Data.String.Basic

/-!
Country packs: the JSON merge of an override into a pack, and the registry of packs by
country code.
-/

namespace Datasynth.Core.CountryPacks

open Datasynth.Lib.SortedEntries

inductive Json where
  | null
  | bool (value : Bool)
  | number (value : ℚ)
  | string (text : String)
  | array (items : List Json)
  | object (fields : List (String × Json))

mutual

/-- Objects merge field by field, everything else is replaced by the overlay. -/
def deep_merge (base : Json) : Json → Json
  | .object overlay =>
      match base with
      | .object fields => .object (mergeFields fields overlay)
      | _ => .object overlay
  | overlay => overlay

def mergeFields (base : List (String × Json)) : List (String × Json) → List (String × Json)
  | [] => base
  | (key, value) :: overlay =>
      mergeFields (upsertEntries key (fun entry => deep_merge (entry.getD .null) value) base)
        overlay

end

inductive CountryPackError where
  | invalidCountryCode (code : String)
  | parseError (text : String)
  | mergeError (text : String)
  | directoryError (text : String)
deriving DecidableEq, Repr

def CountryPackError.message : CountryPackError → String
  | .invalidCountryCode code => "Invalid country code: " ++ code
  | .parseError text => "Failed to parse country pack: " ++ text
  | .mergeError text => "Merge error: " ++ text
  | .directoryError text => "Directory error: " ++ text

section Codes

/-- The characters that `trim` removes. -/
def isWhiteSpace (c : Char) : Bool :=
  (9 ≤ c.val && c.val ≤ 13) || c.val = 32 || c.val = 0x85 || c.val = 0xA0 || c.val = 0x1680 ||
    (0x2000 ≤ c.val && c.val ≤ 0x200A) || c.val = 0x2028 || c.val = 0x2029 || c.val = 0x202F ||
    c.val = 0x205F || c.val = 0x3000

def trim (text : String) : String :=
  String.ofList (((text.toList.dropWhile isWhiteSpace).reverse.dropWhile isWhiteSpace).reverse)

/-- By the upper-case form of each character, which can be several characters. -/
def to_uppercase (upper : Char → List Char) (text : String) : String :=
  String.ofList (text.toList.flatMap upper)

def CountryCode : Type :=
  { code : String //
    code = "_DEFAULT" ∨ (code.utf8ByteSize = 2 ∧ code.toList.all Char.isUpper = true) }

instance : LinearOrder CountryCode := inferInstanceAs (LinearOrder (Subtype _))

def CountryCode.new (upper : Char → List Char) (code : String) :
    Except CountryPackError CountryCode :=
  let code := to_uppercase upper (trim code)
  if h : code = "_DEFAULT" then .ok ⟨code, .inl h⟩
  else if h : code.utf8ByteSize = 2 ∧ code.toList.all Char.isUpper = true then .ok ⟨code, .inr h⟩
  else .error (.invalidCountryCode code)

end Codes

/-- A pack by its code and its other fields. -/
structure CountryPack (R : Type) where
  country_code : String
  rest : R

/-- `serde_json` for values and packs. -/
structure Serde (R : Type) where
  from_str : String → Except String Json
  to_value : CountryPack R → Except String Json
  from_value : Json → Except String (CountryPack R)

structure CountryPackRegistry (R : Type) where
  default_pack : CountryPack R
  packs : OrderedMap CountryCode (CountryPack R)

structure DirEntry where
  display : String
  extension : Option String
  file_stem : Option String
  file_name : Option String
  contents : Except String String

/-- What `read_dir` finds. -/
structure Directory where
  display : String
  entries : Except String (List (Except String DirEntry))

section Registry

variable {R : Type} (serde : Serde R) (upper : Char → List Char)

def apply_override (pack : CountryPack R) (override_value : Json) :
    Except CountryPackError (CountryPack R) := do
  let base ← (serde.to_value pack).mapError .mergeError
  (serde.from_value (deep_merge base override_value)).mapError .mergeError

def parse_and_merge (default : CountryPack R) (json label : String) :
    Except CountryPackError (CountryPack R) := do
  let country_value ← (serde.from_str json).mapError fun e => .parseError (label ++ ": " ++ e)
  let base_value ← (serde.to_value default).mapError fun e =>
    .parseError ("serialize default: " ++ e)
  (serde.from_value (deep_merge base_value country_value)).mapError fun e =>
    .parseError (label ++ " merge: " ++ e)

/-- Parse a pack over the default and store it under its code. -/
def CountryPackRegistry.load (registry : CountryPackRegistry R) (json label : String) :
    Except CountryPackError (CountryPackRegistry R) := do
  let pack ← parse_and_merge serde registry.default_pack json label
  let code ← CountryCode.new upper pack.country_code
  pure { registry with packs := registry.packs.insert code pack }

def embeddedLabels : List String :=
  ["US.json", "DE.json", "GB.json", "FR.json", "JP.json", "CN.json", "IN.json", "IT.json",
    "ES.json", "CA.json"]

/-- The embedded files come by their labels. -/
def CountryPackRegistry.builtin_only (embedded : String → String) :
    Except CountryPackError (CountryPackRegistry R) := do
  let default_pack ← ((serde.from_str (embedded "_default.json")).bind serde.from_value).mapError
    fun e => .parseError ("_default.json: " ++ e)
  embeddedLabels.foldlM (fun registry label => registry.load serde upper (embedded label) label)
    ⟨default_pack, .empty⟩

def CountryPackRegistry.load_entry (dir : Directory) (registry : CountryPackRegistry R)
    (entry : Except String DirEntry) : Except CountryPackError (CountryPackRegistry R) := do
  let entry ← entry.mapError fun e => .directoryError (dir.display ++ ": " ++ e)
  if entry.extension ≠ some "json" then pure registry
  else if entry.file_stem = some "_default" then pure registry
  else
    let json ← entry.contents.mapError fun e => .directoryError (entry.display ++ ": " ++ e)
    registry.load serde upper json (entry.file_name.getD "unknown")

def CountryPackRegistry.load_external_dir (registry : CountryPackRegistry R) (dir : Directory) :
    Except CountryPackError (CountryPackRegistry R) := do
  let entries ← dir.entries.mapError fun e => .directoryError (dir.display ++ ": " ++ e)
  entries.foldlM (CountryPackRegistry.load_entry serde upper dir) registry

/-- The pack that an override leaves, from the pack under its code if there is one. -/
def overridden (default_pack : CountryPack R) (entry : String × Json) :
    Option (CountryPack R) → Except CountryPackError (CountryPack R)
  | some pack => apply_override serde pack entry.2
  | none =>
      apply_override serde { default_pack with country_code := to_uppercase upper entry.1 } entry.2

def CountryPackRegistry.apply (registry : CountryPackRegistry R) (entry : String × Json) :
    Except CountryPackError (CountryPackRegistry R) := do
  let code ← CountryCode.new upper entry.1
  let pack ← overridden serde upper registry.default_pack entry (registry.packs.find? code)
  pure { registry with packs := registry.packs.insert code pack }

def CountryPackRegistry.loaded (embedded : String → String) (external_dir : Option Directory) :
    Except CountryPackError (CountryPackRegistry R) := do
  let registry ← CountryPackRegistry.builtin_only serde upper embedded
  match external_dir with
  | none => pure registry
  | some dir => registry.load_external_dir serde upper dir

/-- The overrides come in the order in which their map is iterated. -/
def CountryPackRegistry.new (embedded : String → String) (external_dir : Option Directory)
    (overrides : List (String × Json)) : Except CountryPackError (CountryPackRegistry R) := do
  let registry ← CountryPackRegistry.loaded serde upper embedded external_dir
  overrides.foldlM (CountryPackRegistry.apply serde upper) registry

end Registry

end Datasynth.Core.CountryPacks

/-!
When the registry of country packs does not depend on the order of the overrides, and
when every pack carries the code it is stored under.
-/

namespace Datasynth.Core.CountryOverrides

open Datasynth.Core.CountryPacks
open Datasynth.Lib.ExceptRuns
open Datasynth.Lib.KeyedUpdates
open Datasynth.Lib.SortedEntries

section Codes

/-- The second element of the array form of a pack. -/
def arrayCode (items : List Json) : Option String :=
  match (items[1]? : Option Json) with
  | none => some ""
  | some (.string code) => some code
  | some _ => none

/-- The `country_code` of a JSON pack; it is empty by default. -/
def codeOf : Json → Option String
  | .object fields =>
      match lookupEntries fields "country_code" with
      | none => some ""
      | some (.string code) => some code
      | some _ => none
  | .array items => arrayCode items
  | _ => none

/-- What `serde_json` does with the code of a pack. -/
structure Lawful {R : Type} (serde : Serde R) : Prop where
  to_value_code : ∀ pack value, serde.to_value pack = .ok value →
    ∃ fields, value = .object fields ∧ (fields.Pairwise fun a b => a.1 < b.1) ∧
      lookupEntries fields "country_code" = some (.string pack.country_code)
  from_value_code : ∀ value pack, serde.from_value value = .ok pack →
    codeOf value = some pack.country_code

/-- The code that an override sets. -/
def declaredCode : Json → Option String
  | .object fields =>
      match (fields.filter fun e => e.1 = "country_code").getLast? with
      | some (_, .string code) => some code
      | _ => none
  | .array items => arrayCode items
  | _ => none

/-- A merge keeps the fields of an object in order. -/
theorem mergeFields_sorted {base overlay : List (String × Json)}
    (h : base.Pairwise fun a b => a.1 < b.1) :
    (mergeFields base overlay).Pairwise fun a b => a.1 < b.1 := by
  induction overlay generalizing base with
  | nil => exact h
  | cons e overlay ih =>
      rw [mergeFields]
      exact ih (upsertEntries_sorted _ _ h)

theorem lookupEntries_mergeFields {base overlay : List (String × Json)}
    (h : base.Pairwise fun a b => a.1 < b.1) (k : String) :
    lookupEntries (mergeFields base overlay) k =
      (overlay.filter fun e => e.1 = k).foldl
        (fun entry e => some (deep_merge (entry.getD .null) e.2)) (lookupEntries base k) := by
  induction overlay generalizing base with
  | nil => rfl
  | cons e overlay ih =>
      rw [mergeFields, ih (upsertEntries_sorted _ _ h)]
      by_cases hk : e.1 = k
      · rw [List.filter_cons_of_pos (by simpa using hk), List.foldl_cons, ← hk,
          lookupEntries_upsertEntries_self _ _ h]
      · rw [List.filter_cons_of_neg (by simpa using hk),
          lookupEntries_upsertEntries_ne (Ne.symm hk)]

theorem deep_merge_eq_string {base overlay : Json} {text : String}
    (h : deep_merge base overlay = .string text) : overlay = .string text := by
  cases overlay with
  | object fields => cases base <;> simp [deep_merge] at h
  | string text' => simpa [deep_merge] using h
  | null => simp [deep_merge] at h
  | bool value => simp [deep_merge] at h
  | number value => simp [deep_merge] at h
  | array items => simp [deep_merge] at h

/-- The code of an object after a merge is the last that is set. -/
theorem codeOf_deep_merge {fields : List (String × Json)} {code code' : String} {overlay : Json}
    (hsorted : fields.Pairwise fun a b => a.1 < b.1)
    (hcode : lookupEntries fields "country_code" = some (.string code))
    (h : codeOf (deep_merge (.object fields) overlay) = some code') :
    code' = (declaredCode overlay).getD code := by
  cases overlay with
  | object overlay =>
      rw [deep_merge, codeOf, lookupEntries_mergeFields hsorted, hcode] at h
      rw [declaredCode]
      rcases List.eq_nil_or_concat (overlay.filter fun e => e.1 = "country_code") with
        hnil | ⟨init, last, hlast⟩
      · rw [hnil] at h ⊢
        exact (Option.some.inj h).symm
      · rw [hlast, List.concat_eq_append] at h ⊢
        rw [List.foldl_append, List.foldl_cons, List.foldl_nil] at h
        rw [List.getLast?_append_of_ne_nil _ (List.cons_ne_nil _ _), List.getLast?_singleton]
        split at h
        · rename_i hfold
          cases hfold
        · rename_i text hfold
          cases h
          have hstring := deep_merge_eq_string (Option.some.inj hfold)
          obtain ⟨key, value⟩ := last
          simp only at hstring
          rw [hstring]
          rfl
        · cases h
  | array items =>
      rw [deep_merge, codeOf] at h
      rw [declaredCode, h, Option.getD_some]
      simp
  | null => simp [deep_merge, codeOf] at h
  | bool value => simp [deep_merge, codeOf] at h
  | number value => simp [deep_merge, codeOf] at h
  | string text => simp [deep_merge, codeOf] at h

end Codes

section Overrides

variable {R : Type} {serde : Serde R} {upper : Char → List Char}

theorem country_code_apply_override (hlawful : Lawful serde) {pack pack' : CountryPack R}
    {value : Json} (h : apply_override serde pack value = .ok pack') :
    pack'.country_code = (declaredCode value).getD pack.country_code := by
  obtain ⟨base, hbase, hmerged⟩ := bind_eq_ok_iff.mp h
  obtain ⟨fields, rfl, hsorted, hcode⟩ := hlawful.to_value_code pack base
    (mapError_eq_ok_iff.mp hbase)
  exact codeOf_deep_merge hsorted hcode
    (hlawful.from_value_code _ _ (mapError_eq_ok_iff.mp hmerged))

variable (upper) in
def codeOfKey (entry : String × Json) : Option CountryCode :=
  (CountryCode.new upper entry.1).toOption

variable (serde upper) in
/-- The pack under a code after one of its overrides. -/
def overrideAt (default_pack : CountryPack R) (entry : String × Json)
    (pack : Option (CountryPack R)) : Option (CountryPack R) :=
  (overridden serde upper default_pack entry pack).toOption

theorem toOption_foldlM_apply (registry : CountryPackRegistry R) (l : List (String × Json)) :
    (l.foldlM (CountryPackRegistry.apply serde upper) registry).toOption =
      (updateAll (codeOfKey upper) (overrideAt serde upper registry.default_pack) l
        registry.packs).map fun packs => ⟨registry.default_pack, packs⟩ := by
  induction l generalizing registry with
  | nil => rfl
  | cons e l ih =>
      rw [List.foldlM_cons, updateAll, codeOfKey, CountryPackRegistry.apply]
      cases CountryCode.new upper e.1 with
      | error err => rfl
      | ok code =>
          simp only [overrideAt, Except.toOption, Option.bind_some]
          cases hpack :
              overridden serde upper registry.default_pack e (registry.packs.find? code) with
          | error err =>
              simp only [bind, Except.bind, hpack]
              rfl
          | ok pack =>
              simp only [bind, Except.bind, hpack, pure, Except.pure]
              exact ih _

/-- The code that overrides leave, from the code they start with. -/
def codeAfter (code : String) (l : List (String × Json)) : String :=
  l.foldl (fun code e => (declaredCode e.2).getD code) code

theorem codeAfter_snoc {l : List (String × Json)} {e : String × Json} {code code' : String}
    (h : declaredCode e.2 = some code') : codeAfter code (l ++ [e]) = code' := by
  rw [codeAfter, List.foldl_append, List.foldl_cons, List.foldl_nil, h, Option.getD_some]

theorem codeAfter_of_undeclared {l : List (String × Json)} (h : ∀ e ∈ l, declaredCode e.2 = none)
    (code : String) : codeAfter code l = code := by
  induction l with
  | nil => rfl
  | cons e l ih =>
      rw [List.forall_mem_cons] at h
      rw [codeAfter, List.foldl_cons, h.1, Option.getD_none]
      exact ih h.2

theorem codeAfter_of_declared {l : List (String × Json)} {code code' : String}
    (h : ∀ e ∈ l, ∀ c, declaredCode e.2 = some c → c = code)
    (hstart : (∀ e ∈ l, declaredCode e.2 = none) → code' = code) : codeAfter code' l = code := by
  induction l generalizing code' with
  | nil => exact hstart (by simp)
  | cons e l ih =>
      rw [List.forall_mem_cons] at h
      rw [codeAfter, List.foldl_cons]
      apply ih h.2
      intro hrest
      cases hdeclared : declaredCode e.2 with
      | none =>
          rw [Option.getD_none]
          exact hstart (List.forall_mem_cons.mpr ⟨hdeclared, hrest⟩)
      | some c => exact h.1 c hdeclared

variable (upper) in
/-- A pack that is not there yet starts with the key of its first override. -/
def startingCode : Option (CountryPack R) → List (String × Json) → String
  | some pack, _ => pack.country_code
  | none, [] => ""
  | none, e :: _ => to_uppercase upper e.1

theorem country_code_updateAt (hlawful : Lawful serde) {default_pack pack : CountryPack R}
    {l : List (String × Json)} {x : Option (CountryPack R)}
    (h : updateAt (overrideAt serde upper default_pack) l x = some (some pack)) :
    pack.country_code = codeAfter (startingCode upper x l) l := by
  induction l generalizing x with
  | nil =>
      cases Option.some.inj h
      rfl
  | cons e l ih =>
      rw [updateAt, Option.bind_eq_some_iff] at h
      obtain ⟨first, hfirst, hrest⟩ := h
      have hok : overridden serde upper default_pack e x = .ok first := by
        rw [overrideAt] at hfirst
        cases hover : overridden serde upper default_pack e x with
        | error err => rw [hover] at hfirst; cases hfirst
        | ok pack => rw [hover] at hfirst; cases hfirst; rfl
      have hcode : first.country_code =
          (declaredCode e.2).getD (startingCode upper x (e :: l)) := by
        cases x with
        | none => exact country_code_apply_override hlawful hok
        | some pack => exact country_code_apply_override hlawful hok
      rw [ih hrest, startingCode, hcode, codeAfter, codeAfter, List.foldl_cons]

end Overrides

section Registry

variable {R : Type} (serde : Serde R) (upper : Char → List Char)

/-- What the overrides of a code must satisfy: they commute, and leave it its code. -/
structure Settled (base : CountryPackRegistry R) (overrides : List (String × Json))
    (code : CountryCode) : Prop where
  confluent : Confluent (codeOfKey upper) (overrideAt serde upper base.default_pack) base.packs
    overrides code
  declared : ∀ e ∈ updatesOf (codeOfKey upper) overrides code, ∀ code',
    declaredCode e.2 = some code' → code' = code.1
  undeclared : (∀ e ∈ updatesOf (codeOfKey upper) overrides code, declaredCode e.2 = none) →
    (∀ pack, base.packs.find? code = some pack → pack.country_code = code.1) ∧
      (base.packs.find? code = none → ∀ e ∈ updatesOf (codeOfKey upper) overrides code,
        to_uppercase upper e.1 = code.1)

/-- The overrides build the same registry, if any, in every order, and its packs carry
the codes they are stored under. -/
structure Determined (embedded : String → String) (external_dir : Option Directory)
    (overrides : OrderedMap String Json) : Prop where
  order_free : ∀ l₁ l₂, l₁.Perm overrides.entries → l₂.Perm overrides.entries →
    (CountryPackRegistry.new serde upper embedded external_dir l₁).toOption =
      (CountryPackRegistry.new serde upper embedded external_dir l₂).toOption
  own_code : ∀ l registry, l.Perm overrides.entries →
    CountryPackRegistry.new serde upper embedded external_dir l = .ok registry →
      ∀ code pack, registry.packs.find? code = some pack → pack.country_code = code.1

variable {serde upper} {base : CountryPackRegistry R} {overrides l : List (String × Json)}
  {code : CountryCode} {pack : CountryPack R}

theorem Settled.country_code (hlawful : Lawful serde) (h : Settled serde upper base overrides code)
    (hl : l.Perm (updatesOf (codeOfKey upper) overrides code))
    (hpack : updateAt (overrideAt serde upper base.default_pack) l (base.packs.find? code) =
      some (some pack)) : pack.country_code = code.1 := by
  rw [country_code_updateAt hlawful hpack]
  apply codeAfter_of_declared
  · intro e he
    exact h.declared e (hl.subset he)
  · intro hnone
    obtain ⟨hbase, hfresh⟩ := h.undeclared fun e he => hnone e (hl.symm.subset he)
    cases hfind : base.packs.find? code with
    | some pack' => exact hbase pack' hfind
    | none =>
        cases l with
        | nil =>
            rw [hfind] at hpack
            cases hpack
        | cons e l => exact hfresh hfind e (hl.subset List.mem_cons_self)

/-- All orders of the overrides of a code leave one pack that carries it, so they are settled. -/
theorem settled_of_updateAt (hlawful : Lawful serde) {x : Option (CountryPack R)}
    (hall : ∀ l, l.Perm (updatesOf (codeOfKey upper) overrides code) →
      updateAt (overrideAt serde upper base.default_pack) l (base.packs.find? code) = some x)
    (hx : ∀ pack, x = some pack → pack.country_code = code.1) :
    Settled serde upper base overrides code := by
  have hcode : ∀ l, l.Perm (updatesOf (codeOfKey upper) overrides code) →
      l ≠ [] ∨ (base.packs.find? code).isSome →
      codeAfter (startingCode upper (base.packs.find? code) l) l = code.1 := by
    intro l hl hsome
    obtain ⟨pack, hpack⟩ := Option.isSome_iff_exists.mp (isSome_of_updateAt (hall l hl) hsome)
    have hafter := hall l hl
    rw [hpack] at hafter
    rw [← country_code_updateAt hlawful hafter]
    exact hx pack hpack
  constructor
  · intro l₁ l₂ h₁ h₂
    rw [hall l₁ h₁, hall l₂ h₂]
  · intro e he code' hdeclared
    obtain ⟨before, after, hsplit⟩ := List.append_of_mem he
    have hlast : ((before ++ after) ++ [e]).Perm (updatesOf (codeOfKey upper) overrides code) := by
      rw [hsplit]
      exact (List.perm_append_singleton e _).trans List.perm_middle.symm
    rw [← hcode _ hlast (.inl (by simp)), codeAfter_snoc hdeclared]
  · intro hnone
    constructor
    · intro pack hpack
      have hstart := hcode _ (List.Perm.refl _) (.inr (by rw [hpack]; rfl))
      rw [codeAfter_of_undeclared hnone, hpack] at hstart
      exact hstart
    · intro hfresh e he
      obtain ⟨before, after, hsplit⟩ := List.append_of_mem he
      have hfirst : (e :: (before ++ after)).Perm
          (updatesOf (codeOfKey upper) overrides code) := by
        rw [hsplit]
        exact List.perm_middle.symm
      have hstart := hcode _ hfirst (.inl (List.cons_ne_nil _ _))
      rw [codeAfter_of_undeclared fun e he => hnone e (hfirst.subset he), hfresh] at hstart
      exact hstart

theorem toOption_new {embedded : String → String} {external_dir : Option Directory}
    (hloaded : CountryPackRegistry.loaded serde upper embedded external_dir = .ok base) :
    (CountryPackRegistry.new serde upper embedded external_dir l).toOption =
      (updateAll (codeOfKey upper) (overrideAt serde upper base.default_pack) l base.packs).map
        fun packs => ⟨base.default_pack, packs⟩ := by
  rw [CountryPackRegistry.new, hloaded]
  exact toOption_foldlM_apply base l

theorem new_eq_ok_iff {embedded : String → String} {external_dir : Option Directory}
    (hloaded : CountryPackRegistry.loaded serde upper embedded external_dir = .ok base)
    {registry : CountryPackRegistry R} :
    CountryPackRegistry.new serde upper embedded external_dir l = .ok registry ↔
      registry.default_pack = base.default_pack ∧
        updateAll (codeOfKey upper) (overrideAt serde upper base.default_pack) l base.packs =
          some registry.packs := by
  have hnew := toOption_new (l := l) hloaded
  cases hresult : CountryPackRegistry.new serde upper embedded external_dir l with
  | error e =>
      rw [hresult] at hnew
      have hnone := Option.map_eq_none_iff.mp hnew.symm
      simp [hnone]
  | ok result =>
      rw [hresult] at hnew
      obtain ⟨packs, hpacks, rfl⟩ := Option.map_eq_some_iff.mp hnew.symm
      rw [hpacks, Except.ok.injEq, Option.some.injEq]
      constructor
      · rintro rfl
        exact ⟨rfl, rfl⟩
      · rintro ⟨hdefault, rfl⟩
        rw [← hdefault]

/-- Where some order of the overrides builds a registry, it is determined just in case
the overrides of every code are settled. -/
theorem registry_is_determined_iff (hlawful : Lawful serde) (embedded : String → String)
    (external_dir : Option Directory) (overrides : OrderedMap String Json) :
    Determined serde upper embedded external_dir overrides ↔
      ∀ base, CountryPackRegistry.loaded serde upper embedded external_dir = .ok base →
        (∀ e ∈ overrides.entries, (CountryCode.new upper e.1).isOk = true) →
        (∀ code, Possible (codeOfKey upper) (overrideAt serde upper base.default_pack) base.packs
          overrides.entries code) →
        ∀ code, Settled serde upper base overrides.entries code := by
  have hkeys : (∀ e ∈ overrides.entries, (CountryCode.new upper e.1).isOk = true) ↔
      ∀ e ∈ overrides.entries, (codeOfKey upper e).isSome := by
    apply forall₂_congr
    intro e _
    rw [codeOfKey]
    cases CountryCode.new upper e.1 <;> simp [Except.isOk, Except.toBool, Except.toOption]
  constructor
  · rintro hdetermined base hloaded hvalid hpossible code
    obtain ⟨l, hl, hsome⟩ := exists_isSome_updateAll_iff.mpr ⟨hkeys.mp hvalid, hpossible⟩
    obtain ⟨packs, hpacks⟩ := Option.isSome_iff_exists.mp hsome
    have hconfluent := confluent_of_updateAll_congr (hkeys.mp hvalid) hpossible
      (fun l₁ l₂ h₁ h₂ => by
        have hsame := hdetermined.order_free l₁ l₂ h₁ h₂
        rw [toOption_new hloaded, toOption_new hloaded] at hsame
        exact Option.map_injective (fun packs packs' h => congrArg (·.packs) h) hsame) code
    apply settled_of_updateAt hlawful (x := packs.find? code)
    · intro l' hl'
      rw [hconfluent l' _ hl' (perm_updatesOf hl code)]
      exact (updateAll_eq_some_iff.mp hpacks).2 code
    · intro pack hpack
      exact hdetermined.own_code l ⟨base.default_pack, packs⟩ hl
        ((new_eq_ok_iff hloaded).mpr ⟨rfl, hpacks⟩) code pack hpack
  · intro hsettled
    cases hloaded : CountryPackRegistry.loaded serde upper embedded external_dir with
    | error e =>
        have hfails : ∀ l, CountryPackRegistry.new serde upper embedded external_dir l =
            .error e := by
          intro l
          rw [CountryPackRegistry.new, hloaded]
          rfl
        constructor
        · intro l₁ l₂ _ _
          rw [hfails, hfails]
        · intro l registry _ hnew
          rw [hfails] at hnew
          cases hnew
    | ok base =>
        have hbuilt : ∀ l, l.Perm overrides.entries →
            (updateAll (codeOfKey upper) (overrideAt serde upper base.default_pack) l
              base.packs).isSome → ∀ code, Settled serde upper base overrides.entries code := by
          intro l hl hsome
          obtain ⟨hvalid, hpossible⟩ := exists_isSome_updateAll_iff.mp ⟨l, hl, hsome⟩
          exact hsettled base hloaded (hkeys.mpr hvalid) hpossible
        constructor
        · intro l₁ l₂ h₁ h₂
          rw [toOption_new hloaded, toOption_new hloaded]
          congr 1
          by_cases hsome : ∃ l, l.Perm overrides.entries ∧ (updateAll (codeOfKey upper)
              (overrideAt serde upper base.default_pack) l base.packs).isSome
          · obtain ⟨l, hl, hsome⟩ := hsome
            exact updateAll_congr (fun code => (hbuilt l hl hsome code).confluent) h₁ h₂
          · have hnone : ∀ l, l.Perm overrides.entries → updateAll (codeOfKey upper)
                (overrideAt serde upper base.default_pack) l base.packs = none := by
              intro l hl
              rw [← Option.not_isSome_iff_eq_none]
              exact fun h => hsome ⟨l, hl, h⟩
            rw [hnone l₁ h₁, hnone l₂ h₂]
        · intro l registry hl hnew code pack hpack
          obtain ⟨-, hpacks⟩ := (new_eq_ok_iff hloaded).mp hnew
          have hcode := hbuilt l hl (by rw [hpacks]; rfl) code
          apply hcode.country_code hlawful (perm_updatesOf hl code)
          rw [(updateAll_eq_some_iff.mp hpacks).2 code, hpack]

end Registry

section Sample

/-- The fields `country_code` and `country_name` of packs. -/
def nameSerde : Serde String where
  -- Texts with one field and no escapes.
  from_str text :=
    .ok (.object [("country_code",
      .string (String.ofList ((text.toList.drop 18).takeWhile (·.val ≠ 34))))])
  to_value pack :=
    .ok (.object [("country_code", .string pack.country_code), ("country_name", .string pack.rest)])
  from_value value :=
    match value, codeOf value with
    | .object fields, some code =>
        match lookupEntries fields "country_name" with
        | none => .ok ⟨code, ""⟩
        | some (.string name) => .ok ⟨code, name⟩
        | some _ => .error "invalid type, expected a string"
    | _, _ => .error "invalid type, expected struct CountryPack"

theorem lawful_nameSerde : Lawful nameSerde where
  to_value_code pack value h := by
    cases h
    refine ⟨_, rfl, ?_, rfl⟩
    simp only [List.pairwise_cons, List.mem_singleton, forall_eq, List.not_mem_nil, false_implies,
      implies_true, List.Pairwise.nil, and_true]
    decide
  from_value_code value pack h := by
    simp only [nameSerde] at h
    split at h
    · rename_i hcode
      split at h
      · cases h
        exact hcode
      · cases h
        exact hcode
      · cases h
    · cases h

def asciiUpper (c : Char) : List Char := [c.toUpper]

/-- Each embedded file sets the code in its name. -/
def embeddedCodes (label : String) : String :=
  "\x7b\"country_code\": \"" ++
    (if label = "_default.json" then "_DEFAULT" else String.ofList (label.toList.take 2)) ++
    "\"\x7d"

/-- Whether the packs of a registry, if there is one, carry their codes. -/
def ownCodes (result : Except CountryPackError (CountryPackRegistry String)) : Bool :=
  result.toOption.all fun registry =>
    registry.packs.entries.all fun e => e.2.country_code = e.1.1

theorem ownCodes_ok_iff {registry : CountryPackRegistry String} :
    ownCodes (.ok registry) = true ↔
      ∀ code pack, registry.packs.find? code = some pack → pack.country_code = code.1 := by
  rw [ownCodes, Except.toOption, Option.all_some, List.all_eq_true]
  constructor
  · intro h code pack hpack
    exact of_decide_eq_true (h (code, pack) ((OrderedMap.mem_entries_iff _).mpr hpack))
  · intro h e he
    exact decide_eq_true (h e.1 e.2 ((OrderedMap.mem_entries_iff _).mp he))

theorem single_override_is_determined :
    Determined nameSerde asciiUpper embeddedCodes none
      (OrderedMap.empty.insert "us" (.object [("country_name", .string "USA")])) := by
  apply (registry_is_determined_iff lawful_nameSerde embeddedCodes none _).mpr
  intro base hloaded _ _ code
  have hentry : ∀ e ∈ updatesOf (codeOfKey asciiUpper)
      [("us", .object [("country_name", .string "USA")])] code,
      declaredCode e.2 = none ∧ to_uppercase asciiUpper e.1 = code.1 := by
    intro e he
    obtain ⟨hmem, hcode⟩ := mem_updatesOf_iff.mp he
    cases List.mem_singleton.mp hmem
    cases hcode
    exact ⟨rfl, rfl⟩
  constructor
  · exact confluent_of_length_le_one (List.length_filter_le _ _)
  · intro e he code' hdeclared
    rw [(hentry e he).1] at hdeclared
    cases hdeclared
  · intro _
    have hembedded : ownCodes (CountryPackRegistry.loaded nameSerde asciiUpper embeddedCodes none) =
        true := by
      decide +kernel
    rw [hloaded] at hembedded
    exact ⟨ownCodes_ok_iff.mp hembedded code, fun _ e he => (hentry e he).2⟩

/-- Two spellings of one code, and a key with a blank. -/
theorem colliding_and_untrimmed_keys :
    ¬ Determined nameSerde asciiUpper embeddedCodes none
        ((OrderedMap.empty.insert "fr" (.object [("country_name", .string "France")])).insert "FR"
          (.object [("country_name", .string "République française")])) ∧
      ¬ Determined nameSerde asciiUpper embeddedCodes none
        (OrderedMap.empty.insert " zz" (.object [])) := by
  constructor
  · intro h
    have hsame := congrArg (fun result => result.map fun registry =>
      registry.packs.values.map (·.rest))
        (h.order_free _ _ (List.Perm.refl _) (List.reverse_perm _))
    revert hsame
    decide +kernel
  · intro h
    have hfresh : ownCodes (CountryPackRegistry.new nameSerde asciiUpper embeddedCodes none
        [(" zz", .object [])]) = false := by
      decide +kernel
    cases hnew : CountryPackRegistry.new nameSerde asciiUpper embeddedCodes none
        [(" zz", .object [])] with
    | error e =>
        rw [hnew] at hfresh
        cases hfresh
    | ok registry =>
        rw [hnew, ownCodes_ok_iff.mpr (h.own_code _ registry (List.Perm.refl _) hnew)] at hfresh
        cases hfresh

end Sample

end Datasynth.Core.CountryOverrides
