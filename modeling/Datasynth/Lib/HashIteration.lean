import Mathlib.Algebra.BigOperators.Group.List.Basic
import Mathlib.Data.List.Induction
import Mathlib.Tactic.Tauto

/-!
Hash maps by their entries.  A map that is built by adding to totals is the list of
its entries in order of first occurrence; iterating over it visits the entries in an
order of which nothing else is known.
-/

namespace Datasynth.Lib.HashIteration

universe u v

/-- An order in which hash maps are iterated. -/
structure HashOrder where
  iter : ∀ {α : Type}, List α → List α
  perm : ∀ {α : Type} (entries : List α), (iter entries).Perm entries

/-- The order of first occurrence. -/
def HashOrder.insertion : HashOrder := ⟨id, fun _ => List.Perm.refl _⟩

/-- Every order of the entries of a map is one in which it can be iterated. -/
theorem HashOrder.exists_iter_eq {α : Type} {l l' : List α} (h : l'.Perm l) :
    ∃ order : HashOrder, order.iter l = l' := by
  classical
  refine ⟨⟨fun {β} entries =>
    if hβ : α = β then if hβ ▸ l = entries then hβ ▸ l' else entries else entries, ?_⟩, ?_⟩
  · intro β entries
    split_ifs with hβ heq
    · subst hβ heq
      exact h
    · exact List.Perm.refl entries
    · exact List.Perm.refl entries
  · simp

/-- Every entry that a search looks for is the one it finds in some order. -/
theorem HashOrder.exists_find?_eq {α : Type} {l : List α} (p : α → Bool) {a : α} (ha : a ∈ l)
    (hp : p a = true) : ∃ order : HashOrder, (order.iter l).find? p = some a := by
  obtain ⟨before, after, hsplit⟩ := List.append_of_mem ha
  have hperm : (a :: (before ++ after)).Perm l := by
    rw [hsplit]
    exact List.perm_middle.symm
  obtain ⟨order, horder⟩ := HashOrder.exists_iter_eq hperm
  exact ⟨order, by rw [horder, List.find?_cons_of_pos hp]⟩

variable {κ : Type u} {M : Type v} [DecidableEq κ] [AddCommMonoid M]

/-- Add to the total of a key; a new key starts at zero. -/
def addTotal (k : κ) (x : M) : List (κ × M) → List (κ × M)
  | [] => [(k, 0 + x)]
  | (key, total) :: rest =>
      if key = k then (key, total + x) :: rest else (key, total) :: addTotal k x rest

def totalsBy {α : Type*} (key : α → κ) (amount : α → M) (items : List α) : List (κ × M) :=
  items.foldl (fun totals a => addTotal (key a) (amount a) totals) []

/-- What the entries of a key hold together. -/
def totalAt (k : κ) (totals : List (κ × M)) : M := ((totals.filter (·.1 = k)).map Prod.snd).sum

theorem totalAt_addTotal (k key : κ) (x : M) (totals : List (κ × M)) :
    totalAt k (addTotal key x totals) = totalAt k totals + if key = k then x else 0 := by
  induction totals with
  | nil => by_cases hk : key = k <;> simp [addTotal, totalAt, hk]
  | cons e rest ih =>
      rw [totalAt, totalAt] at ih
      rw [addTotal, totalAt, totalAt]
      split
      · rename_i hkey
        by_cases hk : e.1 = k
        · rw [if_pos (hkey.symm.trans hk)]
          simp [hk, add_right_comm]
        · rw [if_neg fun h => hk (hkey.trans h)]
          simp [hk]
      · by_cases hk : e.1 = k
        · simp [hk, ih, add_assoc]
        · simp [hk, ih]

theorem mem_keys_addTotal {k key : κ} {x : M} {totals : List (κ × M)} :
    k ∈ (addTotal key x totals).map Prod.fst ↔ k = key ∨ k ∈ totals.map Prod.fst := by
  induction totals with
  | nil => simp [addTotal]
  | cons e rest ih =>
      rw [addTotal]
      split
      · rename_i hkey
        rw [List.map_cons, List.map_cons, List.mem_cons, ← hkey]
        tauto
      · rw [List.map_cons, List.map_cons, List.mem_cons, List.mem_cons, ih]
        tauto

theorem nodup_keys_addTotal {key : κ} {x : M} {totals : List (κ × M)}
    (h : (totals.map Prod.fst).Nodup) : ((addTotal key x totals).map Prod.fst).Nodup := by
  induction totals with
  | nil => simp [addTotal]
  | cons e rest ih =>
      rw [List.map_cons, List.nodup_cons] at h
      rw [addTotal]
      split
      · rw [List.map_cons, List.nodup_cons]
        exact h
      · rename_i hkey
        rw [List.map_cons, List.nodup_cons, mem_keys_addTotal, not_or]
        exact ⟨⟨hkey, h.1⟩, ih h.2⟩

section TotalsBy

variable {α : Type*} {key : α → κ} {amount : α → M} {items : List α} {k : κ}

theorem totalsBy_concat (a : α) :
    totalsBy key amount (items ++ [a]) =
      addTotal (key a) (amount a) (totalsBy key amount items) := by
  rw [totalsBy, List.foldl_append]
  rfl

theorem mem_keys_totalsBy :
    k ∈ (totalsBy key amount items).map Prod.fst ↔ ∃ a ∈ items, key a = k := by
  induction items using List.reverseRecOn with
  | nil => simp [totalsBy]
  | append_singleton items a ih =>
      rw [totalsBy_concat, mem_keys_addTotal, ih]
      simp only [List.mem_append, List.mem_singleton, or_and_right, exists_or, exists_eq_left]
      rw [or_comm, eq_comm]

theorem nodup_keys_totalsBy : ((totalsBy key amount items).map Prod.fst).Nodup := by
  induction items using List.reverseRecOn with
  | nil => simp [totalsBy]
  | append_singleton items a ih =>
      rw [totalsBy_concat]
      exact nodup_keys_addTotal ih

theorem totalAt_totalsBy :
    totalAt k (totalsBy key amount items) = ((items.filter (key · = k)).map amount).sum := by
  induction items using List.reverseRecOn with
  | nil => simp [totalsBy, totalAt]
  | append_singleton items a ih =>
      rw [totalsBy_concat, totalAt_addTotal, ih, List.filter_append, List.map_append,
        List.sum_append]
      by_cases hk : key a = k <;> simp [hk]

omit [AddCommMonoid M] in
theorem filter_key_eq {totals : List (κ × M)} (h : (totals.map Prod.fst).Nodup) {e : κ × M}
    (he : e ∈ totals) : totals.filter (·.1 = e.1) = [e] := by
  induction totals with
  | nil => cases he
  | cons hd rest ih =>
      rw [List.map_cons, List.nodup_cons] at h
      have hrest : ∀ e' ∈ rest, e'.1 ≠ hd.1 := by
        intro e' he' heq
        exact h.1 (List.mem_map.mpr ⟨e', he', heq⟩)
      rcases List.mem_cons.mp he with rfl | he
      · rw [List.filter_cons_of_pos (by simp), List.filter_eq_nil_iff.mpr]
        intro e' he'
        simpa using hrest e' he'
      · rw [List.filter_cons_of_neg (by simpa using (hrest e he).symm), ih h.2 he]

/-- A key is there once, with the amounts of its items. -/
theorem mem_totalsBy_iff {x : M} :
    (k, x) ∈ totalsBy key amount items ↔
      (∃ a ∈ items, key a = k) ∧ x = ((items.filter (key · = k)).map amount).sum := by
  rw [← mem_keys_totalsBy (M := M), ← totalAt_totalsBy]
  have htotal : ∀ y, (k, y) ∈ totalsBy key amount items →
      totalAt k (totalsBy key amount items) = y := by
    intro y hy
    rw [totalAt, filter_key_eq nodup_keys_totalsBy hy, List.map_singleton, List.sum_singleton]
  constructor
  · intro h
    exact ⟨List.mem_map.mpr ⟨_, h, rfl⟩, (htotal x h).symm⟩
  · rintro ⟨hkey, rfl⟩
    obtain ⟨⟨k', y⟩, hy, rfl⟩ := List.mem_map.mp hkey
    rw [htotal y hy]
    exact hy

end TotalsBy

section Groups

variable {α : Type*}

/-- Push onto the list of a key; a new key starts with no items. -/
def pushTo (k : κ) (a : α) : List (κ × List α) → List (κ × List α)
  | [] => [(k, [a])]
  | (key, items) :: rest =>
      if key = k then (key, items ++ [a]) :: rest else (key, items) :: pushTo k a rest

def groupsBy (key : α → κ) (items : List α) : List (κ × List α) :=
  items.foldl (fun groups a => pushTo (key a) a groups) []

omit [AddCommMonoid M] in
theorem flatMap_pushTo_perm (k : κ) (a : α) (groups : List (κ × List α)) :
    ((pushTo k a groups).flatMap Prod.snd).Perm (groups.flatMap Prod.snd ++ [a]) := by
  induction groups with
  | nil => exact List.Perm.refl [a]
  | cons group rest ih =>
      rw [pushTo]
      split
      · rw [List.flatMap_cons, List.flatMap_cons, List.append_assoc, List.append_assoc]
        exact List.perm_append_comm.append_left group.2
      · rw [List.flatMap_cons, List.flatMap_cons, List.append_assoc]
        exact ih.append_left group.2

omit [AddCommMonoid M] in
/-- The groups hold the items, and each of them once. -/
theorem flatMap_groupsBy_perm (key : α → κ) (items : List α) :
    ((groupsBy key items).flatMap Prod.snd).Perm items := by
  induction items using List.reverseRecOn with
  | nil => exact List.Perm.refl []
  | append_singleton items a ih =>
      rw [groupsBy, List.foldl_concat]
      exact (flatMap_pushTo_perm (key a) a _).trans (ih.append_right [a])

end Groups

end Datasynth.Lib.HashIteration
