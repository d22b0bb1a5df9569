import Datasynth.Lib.SortedEntries
import Mathlib.Algebra.BigOperators.Group.List.Basic
import Mathlib.Algebra.GroupWithZero.Nat
import Mathlib.Algebra.Order.BigOperators.Group.List
import Mathlib.Algebra.Order.Group.Nat
import Mathlib.Algebra.Order.Ring.Nat
import Mathlib.Data.List.Induction
import Mathlib.Data.List.Perm.Basic
import Mathlib.Tactic.Common

/-!
Grouping a list by a key into a sorted map; every group keeps the list's order.
-/

namespace Datasynth.Lib.Grouping

open Datasynth.Lib.SortedEntries

universe u v

variable {κ : Type u} {α : Type v} [LinearOrder κ]

def pushTo (key : α → κ) (m : OrderedMap κ (List α)) (a : α) : OrderedMap κ (List α) :=
  m.upsert (key a) fun group => group.getD [] ++ [a]

def groupBy (key : α → κ) (l : List α) : OrderedMap κ (List α) :=
  l.foldl (pushTo key) OrderedMap.empty

theorem find?_foldl_pushTo (key : α → κ) (l : List α) (m : OrderedMap κ (List α)) (k : κ) :
    (l.foldl (pushTo key) m).find? k =
      if l.filter (key · = k) = [] then m.find? k
      else some ((m.find? k).getD [] ++ l.filter (key · = k)) := by
  induction l generalizing m with
  | nil => simp
  | cons a l ih =>
      rw [List.foldl_cons, ih, pushTo, OrderedMap.find?_upsert]
      by_cases hk : key a = k
      · subst hk
        by_cases hl : l.filter (key · = key a) = []
        · simp [hl]
        · simp [hl]
      · have hk' : ¬ k = key a := fun h => hk h.symm
        simp [hk, hk']

/-- A run of updates leaves under a key what the updates of this key make of its value. -/
theorem find?_foldl_upsert {ν : Type*} (key : α → κ) (f : α → Option ν → ν) (l : List α)
    (m : OrderedMap κ ν) (k : κ) :
    (l.foldl (fun m a => m.upsert (key a) (f a)) m).find? k =
      (l.filter (key · = k)).foldl (fun v a => some (f a v)) (m.find? k) := by
  induction l generalizing m with
  | nil => rfl
  | cons a l ih =>
      rw [List.foldl_cons, ih, OrderedMap.find?_upsert, List.filter_cons]
      split
      · rename_i hk
        rw [if_pos (decide_eq_true hk.symm), List.foldl_cons, hk]
      · rename_i hk
        rw [if_neg fun h => hk (of_decide_eq_true h).symm]

/-- Updates of a value that starts from a default leave a value. -/
theorem foldl_getD {β : Type*} (f : β → α → β) (d : β) {l : List α} (hl : l ≠ [])
    (v : Option β) :
    l.foldl (fun v a => some (f (v.getD d) a)) v = some (l.foldl f (v.getD d)) := by
  induction l generalizing v with
  | nil => exact absurd rfl hl
  | cons a l ih =>
      rw [List.foldl_cons, List.foldl_cons]
      rcases eq_or_ne l [] with rfl | hne
      · rfl
      · rw [ih hne, Option.getD_some]

theorem find?_groupBy (key : α → κ) (l : List α) (k : κ) :
    (groupBy key l).find? k =
      if l.filter (key · = k) = [] then none else some (l.filter (key · = k)) := by
  rw [groupBy, find?_foldl_pushTo]
  simp

/-- The groups are the non-empty fibres of the key. -/
theorem mem_entries_groupBy (key : α → κ) (l : List α) (k : κ) (group : List α) :
    (k, group) ∈ (groupBy key l).entries ↔ group = l.filter (key · = k) ∧ group ≠ [] := by
  rw [OrderedMap.mem_entries_iff, find?_groupBy]
  split
  · rename_i h
    simp only [h, reduceCtorEq, false_iff, not_and, not_not]
    exact id
  · rename_i h
    rw [Option.some.injEq]
    constructor
    · rintro rfl
      exact ⟨rfl, h⟩
    · rintro ⟨rfl, -⟩
      rfl

theorem mem_keys_groupBy (key : α → κ) (l : List α) (k : κ) :
    k ∈ (groupBy key l).keys ↔ ∃ a ∈ l, key a = k := by
  have hfilter : l.filter (key · = k) ≠ [] ↔ ∃ a ∈ l, key a = k := by
    simp [List.filter_eq_nil_iff]
  rw [← hfilter, OrderedMap.keys]
  constructor
  · intro h
    obtain ⟨⟨k', group⟩, he, rfl⟩ := List.mem_map.mp h
    obtain ⟨rfl, hne⟩ := (mem_entries_groupBy key l k' group).mp he
    exact hne
  · intro h
    refine List.mem_map.mpr ⟨(k, l.filter (key · = k)), ?_, rfl⟩
    exact (mem_entries_groupBy key l k _).mpr ⟨rfl, h⟩

theorem entries_groupBy (key : α → κ) (l : List α) :
    (groupBy key l).entries = (groupBy key l).keys.map fun k => (k, l.filter (key · = k)) := by
  rw [OrderedMap.keys, List.map_map]
  calc (groupBy key l).entries
      = (groupBy key l).entries.map id := (List.map_id _).symm
    _ = (groupBy key l).entries.map ((fun k => (k, l.filter (key · = k))) ∘ Prod.fst) := by
        apply List.map_congr_left
        intro e he
        exact Prod.ext rfl ((mem_entries_groupBy key l e.1 e.2).mp he).1

/-- Rearranging a list rearranges its groups, each within itself. -/
theorem forall₂_entries_groupBy (key : α → κ) {l l' : List α} (h : l.Perm l') :
    List.Forall₂ (fun g g' => g.1 = g'.1 ∧ g.2.Perm g'.2)
      (groupBy key l).entries (groupBy key l').entries := by
  have hkeys : (groupBy key l).keys = (groupBy key l').keys := by
    have hperm : (groupBy key l).keys.Perm (groupBy key l').keys := by
      rw [List.perm_ext_iff_of_nodup (OrderedMap.keys_nodup _) (OrderedMap.keys_nodup _)]
      intro k
      simp only [mem_keys_groupBy, h.mem_iff]
    exact hperm.eq_of_pairwise (fun a b _ _ hab hba => absurd hab hba.asymm)
      (List.pairwise_map.mpr (groupBy key l).sorted) (List.pairwise_map.mpr (groupBy key l').sorted)
  rw [entries_groupBy, entries_groupBy, hkeys, List.forall₂_map_left_iff,
    List.forall₂_map_right_iff, List.forall₂_same]
  exact fun k _ => ⟨rfl, h.filter _⟩

theorem flatten_upsertEntries (k : κ) (a : α) (entries : List (κ × List α)) :
    ((upsertEntries k (fun group => group.getD [] ++ [a]) entries).map Prod.snd).flatten.Perm
      ((entries.map Prod.snd).flatten ++ [a]) := by
  induction entries with
  | nil => simp [upsertEntries]
  | cons e rest ih =>
      simp only [upsertEntries]
      split
      · exact (List.perm_append_singleton a _).symm
      · split
        · simp only [List.map_cons, List.flatten_cons, Option.getD_some, List.append_assoc]
          exact List.Perm.append_left _ List.perm_append_comm
        · simp only [List.map_cons, List.flatten_cons, List.append_assoc]
          exact List.Perm.append_left _ ih

/-- No element is lost or duplicated by grouping. -/
theorem flatten_values_groupBy (key : α → κ) (l : List α) :
    (groupBy key l).values.flatten.Perm l := by
  have hfold : ∀ m : OrderedMap κ (List α),
      (l.foldl (pushTo key) m).values.flatten.Perm (m.values.flatten ++ l) := by
    induction l with
    | nil => simp
    | cons a l ih =>
        intro m
        rw [List.foldl_cons]
        refine (ih _).trans ?_
        rw [List.append_cons]
        exact List.Perm.append_right l (flatten_upsertEntries (key a) a m.entries)
  simpa [groupBy, OrderedMap.empty, OrderedMap.values] using hfold OrderedMap.empty

end Datasynth.Lib.Grouping

/-!
Counts of values in a map that a list of observations is added to, and maps whose values are
built up entry by entry.
-/

namespace Datasynth.Lib.CountedValues

open Datasynth.Lib.SortedEntries

universe u v w

section Entrywise

variable {κ : Type u} {X : Type v} {V : Type w} [LinearOrder κ]

theorem getD_foldl_upsertEntries {entries : List (κ × X)}
    (hsorted : entries.Pairwise fun a b => a.1 < b.1) (g : κ → X → V → V) (d : V)
    (m : OrderedMap κ V) (k : κ) :
    ((entries.foldl (fun m e => m.upsert e.1 fun v => g e.1 e.2 (v.getD d)) m).find? k).getD d =
      (lookupEntries entries k).elim ((m.find? k).getD d) fun x => g k x ((m.find? k).getD d) := by
  induction entries generalizing m with
  | nil => rfl
  | cons e rest ih =>
      obtain ⟨hhd, hrest⟩ := List.pairwise_cons.mp hsorted
      rw [List.foldl_cons, ih hrest, OrderedMap.find?_upsert, lookupEntries]
      by_cases hk : e.1 = k
      · subst hk
        rw [if_pos rfl, if_pos rfl, lookupEntries_eq_none_of_lt hhd]
        rfl
      · rw [if_neg hk, if_neg (Ne.symm hk)]

/-- What a map of updates leaves at a key. -/
theorem getD_foldl_upsert (updates : OrderedMap κ X) (g : κ → X → V → V) (d : V)
    (m : OrderedMap κ V) (k : κ) :
    ((updates.entries.foldl (fun m e => m.upsert e.1 fun v => g e.1 e.2 (v.getD d)) m).find?
        k).getD d =
      (updates.find? k).elim ((m.find? k).getD d) fun x => g k x ((m.find? k).getD d) :=
  getD_foldl_upsertEntries updates.sorted g d m k

theorem find?_foldl_upsertEntries {entries : List (κ × X)}
    (hsorted : entries.Pairwise fun a b => a.1 < b.1) (g : Option V → X → V)
    (m : OrderedMap κ V) (k : κ) :
    (entries.foldl (fun m e => m.upsert e.1 fun v => g v e.2) m).find? k =
      (lookupEntries entries k).elim (m.find? k) fun x => some (g (m.find? k) x) := by
  induction entries generalizing m with
  | nil => rfl
  | cons e rest ih =>
      obtain ⟨hhd, hrest⟩ := List.pairwise_cons.mp hsorted
      rw [List.foldl_cons, ih hrest, OrderedMap.find?_upsert, lookupEntries]
      split
      · rename_i hk
        rw [if_pos hk.symm, hk, lookupEntries_eq_none_of_lt hhd]
        rfl
      · rename_i hk
        rw [if_neg (Ne.symm hk)]

/-- A map of updates leaves what it makes of the value of each of its keys. -/
theorem find?_foldl_entries_upsert (updates : OrderedMap κ X) (g : Option V → X → V)
    (m : OrderedMap κ V) (k : κ) :
    (updates.entries.foldl (fun m e => m.upsert e.1 fun v => g v e.2) m).find? k =
      (updates.find? k).elim (m.find? k) fun x => some (g (m.find? k) x) :=
  find?_foldl_upsertEntries updates.sorted g m k

end Entrywise

section Counts

variable {κ : Type u} [LinearOrder κ]

def addCount (counts : OrderedMap κ ℕ) (e : κ × ℕ) : OrderedMap κ ℕ :=
  counts.upsert e.1 fun count => count.getD 0 + e.2

theorem sum_values_addCount (counts : OrderedMap κ ℕ) (e : κ × ℕ) :
    (addCount counts e).values.sum = counts.values.sum + e.2 := by
  obtain ⟨entries, hsorted⟩ := counts
  show ((upsertEntries e.1 (fun count => count.getD 0 + e.2) entries).map Prod.snd).sum =
    (entries.map Prod.snd).sum + e.2
  induction entries with
  | nil => simp [upsertEntries]
  | cons hd rest ih =>
      have hrest := ih (List.pairwise_cons.mp hsorted).2
      simp only [upsertEntries]
      split
      · simp only [List.map_cons, List.sum_cons, Option.getD_none]
        omega
      · split
        · simp only [List.map_cons, List.sum_cons, Option.getD_some]
          omega
        · simp only [List.map_cons, List.sum_cons, hrest]
          omega

theorem mem_keys_addCount {counts : OrderedMap κ ℕ} {e : κ × ℕ} {k : κ} :
    k ∈ (addCount counts e).keys ↔ k = e.1 ∨ k ∈ counts.keys := by
  rw [OrderedMap.mem_keys_iff, OrderedMap.mem_keys_iff, addCount, OrderedMap.find?_upsert]
  by_cases hk : k = e.1
  · simp [hk]
  · simp [hk]

/-- The counts of a list of observations. -/
def countAll (observations : List (κ × ℕ)) : OrderedMap κ ℕ :=
  observations.foldl addCount .empty

theorem sum_values_countAll (observations : List (κ × ℕ)) :
    (countAll observations).values.sum = (observations.map Prod.snd).sum := by
  induction observations using List.reverseRecOn with
  | nil => rfl
  | append_singleton observations e ih =>
      rw [countAll, List.foldl_append, List.foldl_cons, List.foldl_nil, sum_values_addCount,
        List.map_append, List.sum_append, List.map_singleton, List.sum_singleton]
      rw [← ih, countAll]

theorem mem_keys_countAll {observations : List (κ × ℕ)} {k : κ} :
    k ∈ (countAll observations).keys ↔ ∃ e ∈ observations, e.1 = k := by
  induction observations using List.reverseRecOn with
  | nil => simp [countAll, OrderedMap.keys, OrderedMap.empty]
  | append_singleton observations e ih =>
      rw [countAll, List.foldl_append, List.foldl_cons, List.foldl_nil, mem_keys_addCount]
      rw [countAll] at ih
      rw [ih]
      constructor
      · rintro (rfl | ⟨e', he', rfl⟩)
        · exact ⟨e, by simp, rfl⟩
        · exact ⟨e', by simp [he'], rfl⟩
      · rintro ⟨e', he', rfl⟩
        obtain he' | he' := List.mem_append.mp he'
        · exact .inr ⟨e', he', rfl⟩
        · rw [List.mem_singleton.mp he']
          exact .inl rfl

/-- Nothing is counted exactly if every observation counts zero. -/
theorem sum_values_countAll_ne_zero_iff {observations : List (κ × ℕ)} :
    (countAll observations).values.sum ≠ 0 ↔ ∃ e ∈ observations, e.2 ≠ 0 := by
  rw [sum_values_countAll, Ne, List.sum_eq_zero_iff]
  push Not
  constructor
  · rintro ⟨n, hn, hne⟩
    obtain ⟨e, he, rfl⟩ := List.mem_map.mp hn
    exact ⟨e, he, hne⟩
  · rintro ⟨e, he, hne⟩
    exact ⟨e.2, List.mem_map_of_mem he, hne⟩

end Counts

end Datasynth.Lib.CountedValues

/-!
Next-fit packing: items go, in order, into the open bin until the next one would
not fit; an empty bin takes any item.
-/

namespace Datasynth.Lib.NextFitPacking

universe u

variable {α : Type u} (size : α → ℕ) (capacity : ℕ)

def load (bin : List α) : ℕ := (bin.map size).sum

/-- The bins of `items` when `bin` is open. -/
def nextFit (bin : List α) : List α → List (List α)
  | [] => if bin.isEmpty then [] else [bin]
  | x :: items =>
      if !bin.isEmpty && capacity < load size bin + size x then bin :: nextFit [x] items
      else nextFit (bin ++ [x]) items

theorem load_append_singleton (bin : List α) (x : α) :
    load size (bin ++ [x]) = load size bin + size x := by
  simp [load]

theorem flatten_nextFit (bin items : List α) :
    (nextFit size capacity bin items).flatten = bin ++ items := by
  induction items generalizing bin with
  | nil => cases bin <;> simp [nextFit]
  | cons x items ih =>
      rw [nextFit]
      split
      · rw [List.flatten_cons, ih]
        rfl
      · rw [ih, List.append_assoc]
        rfl

theorem nextFit_bins_ne_nil (bin items : List α) :
    ∀ b ∈ nextFit size capacity bin items, b ≠ [] := by
  induction items generalizing bin with
  | nil => cases bin <;> simp [nextFit]
  | cons x items ih =>
      rw [nextFit]
      split
      · rename_i hfull
        intro b hb
        rcases List.mem_cons.mp hb with rfl | hb
        · rintro rfl
          simp at hfull
        · exact ih [x] b hb
      · exact ih (bin ++ [x])

/-- Only a bin with a single item can be over capacity. -/
theorem load_le_of_mem_nextFit (bin items : List α)
    (hbin : 1 < bin.length → load size bin ≤ capacity) :
    ∀ b ∈ nextFit size capacity bin items, 1 < b.length → load size b ≤ capacity := by
  induction items generalizing bin with
  | nil =>
      intro b hb
      cases bin with
      | nil => simp [nextFit] at hb
      | cons y ys =>
          rw [nextFit, if_neg (by simp), List.mem_singleton] at hb
          rw [hb]
          exact hbin
  | cons x items ih =>
      rw [nextFit]
      split
      · intro b hb
        rcases List.mem_cons.mp hb with rfl | hb
        · exact hbin
        · exact ih [x] (by simp) b hb
      · rename_i hfits
        refine ih (bin ++ [x]) ?_
        intro hlen
        rw [load_append_singleton]
        cases bin with
        | nil => simp at hlen
        | cons y ys => simpa using hfits

theorem nextFit_ne_nil {bin items : List α} (h : bin ++ items ≠ []) :
    nextFit size capacity bin items ≠ [] := by
  intro hnil
  have hflat := flatten_nextFit size capacity bin items
  rw [hnil] at hflat
  exact h hflat.symm

end Datasynth.Lib.NextFitPacking
