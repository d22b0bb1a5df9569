import Mathlib.Algebra.BigOperators.Group.List.Basic
import Mathlib.Data.List.Nodup
import Mathlib.Order.Lattice
import Mathlib.Tactic.Abel
import Datasynth.Lib.ExceptRuns

/-!
Maps kept as association lists with strictly increasing keys.

The order invariant is a field, so iterating over `entries` is iterating in key
order and two maps with the same lookups are equal.  The single update is
`upsert`: it hands the value stored at a key (or its absence) to a function and
stores the result.
-/

namespace Datasynth.Lib.SortedEntries

open Datasynth.Lib.ExceptRuns

universe u v w

/-- A finite map with its keys in strictly increasing order. -/
structure OrderedMap (κ : Type u) (ν : Type v) [LinearOrder κ] where
  entries : List (κ × ν)
  sorted : entries.Pairwise fun a b => a.1 < b.1

section Entries

variable {κ : Type u} {ν : Type v} [LinearOrder κ]

def lookupEntries : List (κ × ν) → κ → Option ν
  | [], _ => none
  | (key, value) :: rest, k => if key = k then some value else lookupEntries rest k

def upsertEntries (k : κ) (f : Option ν → ν) : List (κ × ν) → List (κ × ν)
  | [] => [(k, f none)]
  | (key, value) :: rest =>
      if k < key then (k, f none) :: (key, value) :: rest
      else if key = k then (k, f (some value)) :: rest
      else (key, value) :: upsertEntries k f rest

theorem lookupEntries_eq_none_of_lt {entries : List (κ × ν)} {k : κ}
    (h : ∀ e ∈ entries, k < e.1) : lookupEntries entries k = none := by
  induction entries with
  | nil => rfl
  | cons e rest ih =>
      have hk : k < e.1 := h e (by simp)
      have htail : ∀ e' ∈ rest, k < e'.1 := fun e' he' => h e' (by simp [he'])
      rw [lookupEntries, if_neg hk.ne', ih htail]

theorem mem_upsertEntries {k : κ} {f : Option ν → ν} {entries : List (κ × ν)}
    {e : κ × ν} (h : e ∈ upsertEntries k f entries) : e.1 = k ∨ e ∈ entries := by
  induction entries with
  | nil =>
      rw [upsertEntries, List.mem_singleton] at h
      exact .inl (by rw [h])
  | cons hd rest ih =>
      simp only [upsertEntries] at h
      split at h
      · rcases List.mem_cons.mp h with rfl | h
        · exact .inl rfl
        · exact .inr h
      · split at h
        · rcases List.mem_cons.mp h with rfl | h
          · exact .inl rfl
          · exact .inr (List.mem_cons_of_mem _ h)
        · rcases List.mem_cons.mp h with rfl | h
          · exact .inr (List.mem_cons_self ..)
          · exact (ih h).imp id (List.mem_cons_of_mem _)

theorem upsertEntries_sorted (k : κ) (f : Option ν → ν) {entries : List (κ × ν)}
    (h : entries.Pairwise fun a b => a.1 < b.1) :
    (upsertEntries k f entries).Pairwise fun a b => a.1 < b.1 := by
  induction entries with
  | nil => simp [upsertEntries]
  | cons hd rest ih =>
      obtain ⟨hhd, hrest⟩ := List.pairwise_cons.mp h
      simp only [upsertEntries]
      split
      · rename_i hlt
        refine List.pairwise_cons.mpr ⟨?_, h⟩
        intro e he
        rcases List.mem_cons.mp he with rfl | he
        · exact hlt
        · exact hlt.trans (hhd e he)
      · split
        · rename_i _ heq
          exact List.pairwise_cons.mpr ⟨fun e he => heq ▸ hhd e he, hrest⟩
        · rename_i hnlt hne
          refine List.pairwise_cons.mpr ⟨?_, ih hrest⟩
          intro e he
          rcases mem_upsertEntries he with hk | he
          · rw [hk]
            exact lt_of_le_of_ne (not_lt.mp hnlt) hne
          · exact hhd e he

theorem lookupEntries_upsertEntries_self (k : κ) (f : Option ν → ν)
    {entries : List (κ × ν)} (h : entries.Pairwise fun a b => a.1 < b.1) :
    lookupEntries (upsertEntries k f entries) k = some (f (lookupEntries entries k)) := by
  induction entries with
  | nil => simp [upsertEntries, lookupEntries]
  | cons hd rest ih =>
      obtain ⟨hhd, hrest⟩ := List.pairwise_cons.mp h
      simp only [upsertEntries]
      split
      · rename_i hlt
        have hnone : lookupEntries (hd :: rest) k = none :=
          lookupEntries_eq_none_of_lt fun e he => by
            rcases List.mem_cons.mp he with rfl | he
            · exact hlt
            · exact hlt.trans (hhd e he)
        rw [hnone]
        simp [lookupEntries]
      · split
        · rename_i _ heq
          simp [lookupEntries, heq]
        · rename_i _ hne
          simp only [lookupEntries, if_neg hne, ih hrest]

theorem lookupEntries_upsertEntries_ne {k k' : κ} (hne : k' ≠ k) (f : Option ν → ν)
    (entries : List (κ × ν)) :
    lookupEntries (upsertEntries k f entries) k' = lookupEntries entries k' := by
  induction entries with
  | nil => simp [upsertEntries, lookupEntries, hne.symm]
  | cons hd rest ih =>
      simp only [upsertEntries]
      split
      · simp [lookupEntries, hne.symm]
      · split
        · rename_i _ heq
          simp [lookupEntries, heq, hne.symm]
        · simp only [lookupEntries, ih]

/-- The key-dependent sum over an association list. -/
def sumEntries {M : Type w} [AddCommMonoid M] (weight : κ → ν → M)
    (entries : List (κ × ν)) : M :=
  (entries.map fun e => weight e.1 e.2).sum

theorem sumEntries_upsertEntries {M : Type w} [AddCommGroup M] (weight : κ → ν → M)
    (k : κ) (f : Option ν → ν) {entries : List (κ × ν)}
    (h : entries.Pairwise fun a b => a.1 < b.1) :
    sumEntries weight (upsertEntries k f entries) =
      sumEntries weight entries - (lookupEntries entries k).elim 0 (weight k) +
        weight k (f (lookupEntries entries k)) := by
  induction entries with
  | nil => simp [upsertEntries, lookupEntries, sumEntries]
  | cons hd rest ih =>
      obtain ⟨hhd, hrest⟩ := List.pairwise_cons.mp h
      simp only [upsertEntries]
      split
      · rename_i hlt
        have hnone : lookupEntries (hd :: rest) k = none :=
          lookupEntries_eq_none_of_lt fun e he => by
            rcases List.mem_cons.mp he with rfl | he
            · exact hlt
            · exact hlt.trans (hhd e he)
        rw [hnone]
        simp only [sumEntries, List.map_cons, List.sum_cons, Option.elim_none, sub_zero]
        abel
      · split
        · rename_i _ heq
          subst heq
          simp only [sumEntries, lookupEntries, List.map_cons, List.sum_cons, if_true,
            Option.elim_some]
          abel
        · rename_i _ hne
          have ih' := ih hrest
          simp only [sumEntries] at ih'
          simp only [sumEntries, lookupEntries, List.map_cons, List.sum_cons, if_neg hne, ih']
          abel

end Entries

section Stored

variable {κ : Type u} {ν : Type v} [LinearOrder κ] {k k' : κ} {value value' : ν}
  {entries : List (κ × ν)}

theorem lookupEntries_stored :
    lookupEntries (upsertEntries k (fun _ => value) entries) k = some value := by
  induction entries with
  | nil => simp [upsertEntries, lookupEntries]
  | cons e rest ih =>
      rw [upsertEntries]
      split_ifs with hlt heq
      · simp [lookupEntries]
      · simp [lookupEntries]
      · rw [lookupEntries, if_neg heq, ih]

theorem stored_stored :
    upsertEntries k (fun _ => value') (upsertEntries k (fun _ => value) entries) =
      upsertEntries k (fun _ => value') entries := by
  induction entries with
  | nil => simp [upsertEntries]
  | cons e rest ih =>
      rw [upsertEntries, upsertEntries]
      split_ifs with hlt heq
      · simp [upsertEntries]
      · simp [upsertEntries]
      · rw [upsertEntries, if_neg hlt, if_neg heq, ih]

theorem stored_comm_of_lt (hlt : k < k') :
    upsertEntries k' (fun _ => value') (upsertEntries k (fun _ => value) entries) =
      upsertEntries k (fun _ => value) (upsertEntries k' (fun _ => value') entries) := by
  induction entries with
  | nil => simp [upsertEntries, hlt, hlt.asymm, hlt.ne]
  | cons e rest ih =>
      rcases lt_trichotomy k e.1 with hk | hk | hk
      · rw [upsertEntries, if_pos hk, upsertEntries, if_neg hlt.asymm, if_neg hlt.ne]
        rw [upsertEntries]
        split_ifs with hlt' heq
        · rw [upsertEntries, if_pos hlt]
        · rw [upsertEntries, if_pos hlt]
        · rw [upsertEntries, if_pos hk]
      · subst hk
        simp [upsertEntries, hlt.asymm, hlt.ne]
      · have hk' := hk.trans hlt
        simp [upsertEntries, hk.asymm, hk.ne, hk'.asymm, hk'.ne, ih]

theorem stored_comm (hne : k ≠ k') :
    upsertEntries k' (fun _ => value') (upsertEntries k (fun _ => value) entries) =
      upsertEntries k (fun _ => value) (upsertEntries k' (fun _ => value') entries) := by
  rcases hne.lt_or_gt with hlt | hlt
  · exact stored_comm_of_lt hlt
  · exact (stored_comm_of_lt hlt).symm

theorem stored_eq_self (hsorted : entries.Pairwise fun a b => a.1 < b.1)
    (h : lookupEntries entries k = some value) :
    upsertEntries k (fun _ => value) entries = entries := by
  induction entries with
  | nil => cases h
  | cons e rest ih =>
      obtain ⟨hhd, hrest⟩ := List.pairwise_cons.mp hsorted
      rw [lookupEntries] at h
      rw [upsertEntries]
      split_ifs at h with heq
      · cases h
        rw [if_neg heq.le.not_gt, if_pos heq, ← heq]
      · have hlt : ¬ k < e.1 := by
          intro hlt
          rw [lookupEntries_eq_none_of_lt fun e' he' => hlt.trans (hhd e' he')] at h
          cases h
        rw [if_neg hlt, if_neg heq, ih hrest h]

theorem mem_stored {e : κ × ν} (h : e ∈ upsertEntries k (fun _ => value) entries) :
    e = (k, value) ∨ e ∈ entries := by
  induction entries with
  | nil => exact .inl (List.mem_singleton.mp h)
  | cons hd rest ih =>
      rw [upsertEntries] at h
      split_ifs at h with hlt heq
      · exact List.mem_cons.mp h
      · exact (List.mem_cons.mp h).imp_right (List.mem_cons_of_mem hd)
      · rcases List.mem_cons.mp h with rfl | h
        · exact .inr (List.mem_cons_self ..)
        · exact (ih h).imp_right (List.mem_cons_of_mem hd)

theorem mem_of_lookupEntries (h : lookupEntries entries k = some value) :
    (k, value) ∈ entries := by
  induction entries with
  | nil => cases h
  | cons e rest ih =>
      rw [lookupEntries] at h
      split_ifs at h with heq
      · cases h
        rw [← heq]
        exact List.mem_cons_self ..
      · exact List.mem_cons_of_mem e (ih h)

end Stored

namespace OrderedMap

variable {κ : Type u} {ν : Type v} [LinearOrder κ]

def empty : OrderedMap κ ν := ⟨[], List.Pairwise.nil⟩

def find? (m : OrderedMap κ ν) (k : κ) : Option ν := lookupEntries m.entries k

/-- Store `f` of what is stored at `k` (`none` when the key is absent). -/
def upsert (m : OrderedMap κ ν) (k : κ) (f : Option ν → ν) : OrderedMap κ ν :=
  ⟨upsertEntries k f m.entries, upsertEntries_sorted k f m.sorted⟩

def insert (m : OrderedMap κ ν) (k : κ) (v : ν) : OrderedMap κ ν := m.upsert k fun _ => v

def keys (m : OrderedMap κ ν) : List κ := m.entries.map Prod.fst

def values (m : OrderedMap κ ν) : List ν := m.entries.map Prod.snd

/-- Collect a list of entries; a later entry replaces an earlier one of the same key. -/
def ofList (l : List (κ × ν)) : OrderedMap κ ν :=
  l.foldl (fun m e => m.insert e.1 e.2) empty

def sumOver {M : Type w} [AddCommMonoid M] (m : OrderedMap κ ν) (weight : κ → ν → M) : M :=
  sumEntries weight m.entries

@[simp] theorem find?_empty (k : κ) : (empty : OrderedMap κ ν).find? k = none := rfl

@[simp] theorem find?_upsert_self (m : OrderedMap κ ν) (k : κ) (f : Option ν → ν) :
    (m.upsert k f).find? k = some (f (m.find? k)) :=
  lookupEntries_upsertEntries_self k f m.sorted

theorem find?_upsert_ne (m : OrderedMap κ ν) {k k' : κ} (hne : k' ≠ k)
    (f : Option ν → ν) : (m.upsert k f).find? k' = m.find? k' :=
  lookupEntries_upsertEntries_ne hne f m.entries

theorem find?_upsert (m : OrderedMap κ ν) (k k' : κ) (f : Option ν → ν) :
    (m.upsert k f).find? k' = if k' = k then some (f (m.find? k)) else m.find? k' := by
  split
  · rename_i h
    rw [h, find?_upsert_self]
  · rename_i h
    exact find?_upsert_ne m h f

theorem find?_insert (m : OrderedMap κ ν) (k k' : κ) (v : ν) :
    (m.insert k v).find? k' = if k' = k then some v else m.find? k' :=
  find?_upsert m k k' fun _ => v

/-- An update changes a sum by the new value's weight minus the replaced one's. -/
theorem sumOver_upsert {M : Type w} [AddCommGroup M] (weight : κ → ν → M)
    (m : OrderedMap κ ν) (k : κ) (f : Option ν → ν) :
    (m.upsert k f).sumOver weight =
      m.sumOver weight - (m.find? k).elim 0 (weight k) + weight k (f (m.find? k)) :=
  sumEntries_upsertEntries weight k f m.sorted

theorem sumOver_add {M : Type w} [AddCommMonoid M] (m : OrderedMap κ ν) (f g : κ → ν → M) :
    m.sumOver (fun k v => f k v + g k v) = m.sumOver f + m.sumOver g :=
  List.sum_map_add

theorem sumOver_sub {M : Type w} [AddCommGroup M] (m : OrderedMap κ ν) (f g : κ → ν → M) :
    m.sumOver (fun k v => f k v - g k v) = m.sumOver f - m.sumOver g := by
  rw [eq_sub_iff_add_eq, ← sumOver_add]
  simp only [sub_add_cancel]

theorem sumOver_eq_zero {M : Type w} [AddCommMonoid M] {m : OrderedMap κ ν} {f : κ → ν → M}
    (h : ∀ e ∈ m.entries, f e.1 e.2 = 0) : m.sumOver f = 0 := by
  refine List.sum_eq_zero fun x hx => ?_
  obtain ⟨e, he, rfl⟩ := List.mem_map.mp hx
  exact h e he

theorem sumOver_single {M : Type w} [AddCommMonoid M] (m : OrderedMap κ ν) (k : κ) (f : ν → M) :
    m.sumOver (fun key v => if key = k then f v else 0) = (m.find? k).elim 0 f := by
  obtain ⟨entries, hsorted⟩ := m
  simp only [sumOver, sumEntries, find?]
  induction entries with
  | nil => rfl
  | cons hd rest ih =>
      obtain ⟨hhd, hrest⟩ := List.pairwise_cons.mp hsorted
      rw [List.map_cons, List.sum_cons, ih hrest, lookupEntries]
      by_cases hk : hd.1 = k
      · have hnone : lookupEntries rest k = none :=
          lookupEntries_eq_none_of_lt fun e he => hk ▸ hhd e he
        rw [if_pos hk, if_pos hk, hnone, Option.elim_none, add_zero, Option.elim_some]
      · rw [if_neg hk, if_neg hk, zero_add]

theorem sumOver_ite {M : Type w} [AddCommMonoid M] (m : OrderedMap κ ν) (p : κ → ν → Bool)
    (f : κ → ν → M) :
    m.sumOver (fun k v => if p k v then f k v else 0) =
      ((m.entries.filter fun e => p e.1 e.2).map fun e => f e.1 e.2).sum := by
  rw [sumOver, sumEntries]
  induction m.entries with
  | nil => rfl
  | cons e entries ih =>
      rw [List.map_cons, List.sum_cons, ih]
      by_cases he : p e.1 e.2 = true
      · rw [if_pos he, List.filter_cons, if_pos he, List.map_cons, List.sum_cons]
      · rw [if_neg he, List.filter_cons, if_neg he, zero_add]

theorem mem_entries_iff (m : OrderedMap κ ν) {k : κ} {v : ν} :
    (k, v) ∈ m.entries ↔ m.find? k = some v := by
  obtain ⟨entries, hsorted⟩ := m
  simp only [find?]
  induction entries with
  | nil => simp [lookupEntries]
  | cons hd rest ih =>
      obtain ⟨hhd, hrest⟩ := List.pairwise_cons.mp hsorted
      have ih' := ih hrest
      simp only [List.mem_cons, lookupEntries]
      constructor
      · rintro (h | h)
        · simp [← h]
        · have hlt := hhd _ h
          rw [if_neg hlt.ne]
          exact ih'.mp h
      · intro h
        split at h
        · rename_i heq
          exact .inl (Prod.ext heq.symm (Option.some.inj h).symm)
        · exact .inr (ih'.mpr h)

theorem mem_values_iff (m : OrderedMap κ ν) {v : ν} : v ∈ m.values ↔ ∃ k, m.find? k = some v := by
  rw [values, List.mem_map]
  constructor
  · rintro ⟨⟨k, v⟩, he, rfl⟩
    exact ⟨k, (mem_entries_iff m).mp he⟩
  · rintro ⟨k, hk⟩
    exact ⟨(k, v), (mem_entries_iff m).mpr hk, rfl⟩

theorem ext_find? {m m' : OrderedMap κ ν} (h : ∀ k, m.find? k = m'.find? k) : m = m' := by
  have hmem : ∀ e, e ∈ m.entries ↔ e ∈ m'.entries := fun ⟨k, v⟩ => by
    rw [mem_entries_iff, mem_entries_iff, h]
  have hperm : m.entries.Perm m'.entries :=
    (List.perm_ext_iff_of_nodup (m.sorted.imp fun hlt heq => hlt.ne (congrArg Prod.fst heq))
      (m'.sorted.imp fun hlt heq => hlt.ne (congrArg Prod.fst heq))).mpr hmem
  have hentries : m.entries = m'.entries :=
    hperm.eq_of_pairwise (fun a b _ _ hab hba => absurd hab hba.asymm) m.sorted m'.sorted
  cases m
  cases m'
  cases hentries
  rfl

theorem mem_keys_iff (m : OrderedMap κ ν) {k : κ} : k ∈ m.keys ↔ (m.find? k).isSome := by
  rw [keys, List.mem_map, Option.isSome_iff_exists]
  constructor
  · rintro ⟨⟨k, v⟩, he, rfl⟩
    exact ⟨v, (mem_entries_iff m).mp he⟩
  · rintro ⟨v, hv⟩
    exact ⟨(k, v), (mem_entries_iff m).mpr hv, rfl⟩

theorem foldl_insert_self (m : OrderedMap κ ν) (k : κ) (values : List ν) :
    values.foldl (fun m v => m.insert k v) m = values.getLast?.elim m fun v => m.insert k v := by
  induction values generalizing m with
  | nil => rfl
  | cons v values ih =>
      rw [List.foldl_cons, ih]
      cases hlast : values.getLast? with
      | none =>
          rw [List.getLast?_eq_none_iff.mp hlast]
          rfl
      | some last =>
          rw [List.getLast?_cons, hlast, Option.elim_some]
          refine ext_find? fun k' => ?_
          simp only [Option.getD_some, Option.elim_some, find?_insert]
          split <;> rfl

theorem sumOver_congr {M : Type w} [AddCommMonoid M] {m : OrderedMap κ ν} {f g : κ → ν → M}
    (h : ∀ k v, m.find? k = some v → f k v = g k v) : m.sumOver f = m.sumOver g := by
  rw [sumOver, sumOver, sumEntries, sumEntries]
  congr 1
  exact List.map_congr_left fun e he => h e.1 e.2 ((mem_entries_iff m).mp he)

theorem sumOver_keys {M : Type w} [AddCommMonoid M] (m : OrderedMap κ ν) (f : κ → M) :
    m.sumOver (fun k _ => f k) = (m.keys.map f).sum := by
  rw [keys, List.map_map]
  rfl

theorem keys_nodup (m : OrderedMap κ ν) : m.keys.Nodup := by
  refine List.pairwise_map.mpr ?_
  exact m.sorted.imp fun h => h.ne

theorem find?_foldl_insert (l : List (κ × ν)) (m : OrderedMap κ ν) (k : κ) :
    (l.foldl (fun m e => m.insert e.1 e.2) m).find? k =
      ((l.reverse.find? fun e => decide (e.1 = k)).map Prod.snd).or (m.find? k) := by
  induction l generalizing m with
  | nil => simp
  | cons e rest ih =>
      rw [List.foldl_cons, ih, List.reverse_cons, List.find?_append, find?_insert]
      by_cases hk : k = e.1
      · subst hk
        cases rest.reverse.find? fun e' => decide (e'.1 = e.1) <;> simp
      · have hk' : ¬ e.1 = k := fun h => hk h.symm
        cases rest.reverse.find? fun e' => decide (e'.1 = k) <;> simp [hk, hk']

theorem find?_ofList (l : List (κ × ν)) (k : κ) :
    (ofList l).find? k = (l.reverse.find? fun e => decide (e.1 = k)).map Prod.snd := by
  simp [ofList, find?_foldl_insert]

theorem find?_ofList_eq_some_of_nodup {l : List (κ × ν)} (hl : (l.map Prod.fst).Nodup)
    {k : κ} {v : ν} (h : (k, v) ∈ l) : (ofList l).find? k = some v := by
  rw [find?_ofList]
  cases hfind : l.reverse.find? fun e => decide (e.1 = k) with
  | none =>
      have := List.find?_eq_none.mp hfind (k, v) (List.mem_reverse.mpr h)
      simp at this
  | some e =>
      have hmem : e ∈ l := List.mem_reverse.mp (List.mem_of_find?_eq_some hfind)
      have hkey : e.1 = k := by simpa using List.find?_some hfind
      have heq : e = (k, v) := List.inj_on_of_nodup_map hl hmem h hkey
      rw [heq]
      rfl

theorem mem_of_find?_ofList {l : List (κ × ν)} {k : κ} {v : ν}
    (h : (ofList l).find? k = some v) : (k, v) ∈ l := by
  rw [find?_ofList] at h
  obtain ⟨⟨k', v'⟩, hfind, rfl⟩ := Option.map_eq_some_iff.mp h
  have hkey : k' = k := by simpa using List.find?_some hfind
  rw [← hkey]
  exact List.mem_reverse.mp (List.mem_of_find?_eq_some hfind)

/-- The entries of `m'` over those of `m`. -/
theorem find?_foldl_entries (m' m : OrderedMap κ ν) (k : κ) :
    (m'.entries.foldl (fun m e => m.insert e.1 e.2) m).find? k = (m'.find? k).or (m.find? k) := by
  rw [find?_foldl_insert, ← find?_ofList]
  congr 1
  cases hfind : m'.find? k with
  | none =>
      cases hlist : (ofList m'.entries).find? k with
      | none => rfl
      | some v =>
          rw [(mem_entries_iff m').mp (mem_of_find?_ofList hlist)] at hfind
          cases hfind
  | some v =>
      exact find?_ofList_eq_some_of_nodup m'.keys_nodup ((mem_entries_iff m').mpr hfind)

/-- The entries on whose key and value `f` is defined, with its values. -/
def filterMap {μ : Type w} (m : OrderedMap κ ν) (f : κ → ν → Option μ) : OrderedMap κ μ where
  entries := m.entries.filterMap fun e => (f e.1 e.2).map fun v => (e.1, v)
  sorted := by
    refine List.Pairwise.filterMap _ ?_ m.sorted
    rintro e e' hlt b hb b' hb'
    obtain ⟨v, -, rfl⟩ := Option.map_eq_some_iff.mp hb
    obtain ⟨v', -, rfl⟩ := Option.map_eq_some_iff.mp hb'
    exact hlt

theorem find?_filterMap_eq_some_iff {μ : Type w} (m : OrderedMap κ ν) (f : κ → ν → Option μ)
    {k : κ} {v : μ} :
    (m.filterMap f).find? k = some v ↔ ∃ value, m.find? k = some value ∧ f k value = some v := by
  rw [← mem_entries_iff, filterMap, List.mem_filterMap]
  constructor
  · rintro ⟨⟨key, value⟩, hmem, h⟩
    obtain ⟨v', hf, heq⟩ := Option.map_eq_some_iff.mp h
    cases heq
    exact ⟨value, (mem_entries_iff m).mp hmem, hf⟩
  · rintro ⟨value, hfind, hf⟩
    refine ⟨(k, value), (mem_entries_iff m).mpr hfind, ?_⟩
    rw [hf, Option.map_some]

def erase (m : OrderedMap κ ν) (k : κ) : OrderedMap κ ν :=
  m.filterMap fun key v => if key = k then none else some v

theorem find?_erase (m : OrderedMap κ ν) (k k' : κ) :
    (m.erase k).find? k' = if k' = k then none else m.find? k' := by
  refine Option.ext fun v => ?_
  rw [erase, find?_filterMap_eq_some_iff]
  by_cases hk : k' = k
  · simp [hk]
  · simp [hk]

theorem le_of_getLast?_eq_some (m : OrderedMap κ ν) {e e' : κ × ν}
    (hlast : m.entries.getLast? = some e) (hmem : e' ∈ m.entries) : e'.1 ≤ e.1 := by
  obtain ⟨init, hinit⟩ := List.getLast?_eq_some_iff.mp hlast
  rw [hinit, List.mem_append, List.mem_singleton] at hmem
  rcases hmem with hmem | rfl
  · have hsorted := m.sorted
    rw [hinit, List.pairwise_append] at hsorted
    exact (hsorted.2.2 e' hmem e (List.mem_singleton_self e)).le
  · exact le_rfl

/-- A map with a computed value under the key of every item, unless one of the
computations fails. -/
def collectRun {ε : Type*} {α : Type*} (key : α → κ) (value : α → Except ε ν) :
    OrderedMap κ ν → List α → Except ε (OrderedMap κ ν) :=
  foldRun fun m a => (value a).map fun v => m.insert (key a) v

theorem collectRun_cons_eq_ok_iff {ε : Type*} {α : Type*} {key : α → κ} {value : α → Except ε ν}
    {m result : OrderedMap κ ν} {a : α} {items : List α} :
    collectRun key value m (a :: items) = .ok result ↔
      ∃ v, value a = .ok v ∧ collectRun key value (m.insert (key a) v) items = .ok result := by
  rw [collectRun, foldRun, bind_eq_ok_iff]
  constructor
  · rintro ⟨m', hm', hrest⟩
    cases hv : value a with
    | error e => simp [hv, Except.map] at hm'
    | ok v =>
        rw [hv] at hm'
        cases hm'
        exact ⟨v, rfl, hrest⟩
  · rintro ⟨v, hv, hrest⟩
    exact ⟨m.insert (key a) v, by rw [hv]; rfl, hrest⟩

theorem find?_collectRun_of_notMem {ε : Type*} {α : Type*} {key : α → κ} {value : α → Except ε ν}
    {m result : OrderedMap κ ν} {items : List α} {k : κ}
    (h : collectRun key value m items = .ok result) (hk : k ∉ items.map key) :
    result.find? k = m.find? k := by
  induction items generalizing m with
  | nil =>
      cases h
      rfl
  | cons a items ih =>
      obtain ⟨v, -, hrest⟩ := collectRun_cons_eq_ok_iff.mp h
      rw [List.map_cons, List.mem_cons, not_or] at hk
      rw [ih hrest hk.2, find?_insert, if_neg hk.1]

theorem find?_collectRun_of_mem {ε : Type*} {α : Type*} {key : α → κ} {value : α → Except ε ν}
    {m result : OrderedMap κ ν} {items : List α} {a : α} (hnodup : (items.map key).Nodup)
    (h : collectRun key value m items = .ok result) (ha : a ∈ items) :
    ∃ v, value a = .ok v ∧ result.find? (key a) = some v := by
  induction items generalizing m with
  | nil => cases ha
  | cons b items ih =>
      obtain ⟨v, hv, hrest⟩ := collectRun_cons_eq_ok_iff.mp h
      rw [List.map_cons, List.nodup_cons] at hnodup
      rcases List.mem_cons.mp ha with rfl | ha
      · refine ⟨v, hv, ?_⟩
        rw [find?_collectRun_of_notMem hrest hnodup.1, find?_insert, if_pos rfl]
      · exact ih hnodup.2 hrest ha

end OrderedMap

end Datasynth.Lib.SortedEntries
