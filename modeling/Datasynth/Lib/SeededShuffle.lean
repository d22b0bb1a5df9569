import Mathlib.Data.List.Perm.Basic
import Mathlib.Data.List.Nodup
import Mathlib.Order.Lattice

/-!
Shuffling a list by a seeded generator, and cutting the result at fixed positions: the
shuffle reaches every order, so a cut part is the same for all orders of the list only
when it is empty or the whole.
-/

namespace Datasynth.Lib.SeededShuffle

universe u v

section Swaps

variable {α : Type u} {i j : ℕ} {l : List α}

/-- `l.swap(i, j)`, for positions of the list. -/
def swapAt (l : List α) (i j : ℕ) : List α :=
  match l[i]?, l[j]? with
  | some a, some b => (l.set i b).set j a
  | _, _ => l

theorem swapAt_eq (hi : i < l.length) (hj : j < l.length) :
    swapAt l i j = (l.set i l[j]).set j l[i] := by
  rw [swapAt, List.getElem?_eq_getElem hi, List.getElem?_eq_getElem hj]

theorem swapAt_perm : (swapAt l i j).Perm l := by
  rw [swapAt]
  split
  · rename_i a b ha hb
    obtain ⟨hi, rfl⟩ := List.getElem?_eq_some_iff.mp ha
    obtain ⟨hj, rfl⟩ := List.getElem?_eq_some_iff.mp hb
    exact List.set_set_perm hi hj
  · exact List.Perm.refl l

theorem getElem?_swapAt (hi : i < l.length) (hj : j < l.length) (k : ℕ) :
    (swapAt l i j)[k]? = if k = j then l[i]? else if k = i then l[j]? else l[k]? := by
  rw [swapAt_eq hi hj, List.getElem?_set, List.getElem?_set, List.length_set, if_pos hi, if_pos hj,
    List.getElem?_eq_getElem hi, List.getElem?_eq_getElem hj]
  simp only [eq_comm]

theorem swapAt_swapAt (hi : i < l.length) (hj : j < l.length) :
    swapAt (swapAt l i j) i j = l := by
  have hlength : (swapAt l i j).length = l.length := swapAt_perm.length_eq
  apply List.ext_getElem?
  intro k
  rw [getElem?_swapAt (hlength ▸ hi) (hlength ▸ hj), getElem?_swapAt hi hj,
    getElem?_swapAt hi hj, getElem?_swapAt hi hj]
  by_cases hkj : k = j
  · subst hkj
    rw [if_pos rfl]
    split
    · rename_i hik
      rw [hik]
    · rw [if_pos rfl]
  · rw [if_neg hkj, if_neg hkj, if_pos rfl]
    split
    · rename_i hki
      rw [hki]
    · rfl

end Swaps

section FisherYates

variable {α : Type u} {S : Type v} (draw : S → ℕ × S)

/-- `for i in (1..=n).rev() { items.swap(i, draw % (i + 1)) }` -/
def fisherYates : ℕ → List α → S → List α × S
  | 0, items, s => (items, s)
  | i + 1, items, s =>
      let (x, s') := draw s
      fisherYates i (swapAt items (i + 1) (x % (i + 2))) s'

theorem fisherYates_perm (n : ℕ) (items : List α) (s : S) :
    (fisherYates draw n items s).1.Perm items := by
  induction n generalizing items s with
  | zero => exact List.Perm.refl items
  | succ n ih => exact (ih _ _).trans swapAt_perm

/-- How often numbers are drawn does not depend on the items. -/
theorem fisherYates_state (n : ℕ) (items items' : List α) (s : S) :
    (fisherYates draw n items s).2 = (fisherYates draw n items' s).2 := by
  induction n generalizing items items' s with
  | zero => rfl
  | succ n ih => exact ih _ _ _

/-- Every order of the items is the shuffle of some order of them. -/
theorem exists_fisherYates_eq {n : ℕ} {target : List α} (hn : n ≤ target.length - 1) (s : S) :
    ∃ items, items.Perm target ∧ (fisherYates draw n items s).1 = target := by
  induction n generalizing s with
  | zero => exact ⟨target, List.Perm.refl target, rfl⟩
  | succ n ih =>
      obtain ⟨items, hperm, heq⟩ := ih (by omega) (draw s).2
      have hlength := hperm.length_eq
      have hlast : n + 1 < items.length := by omega
      have hdrawn : (draw s).1 % (n + 2) < items.length :=
        Nat.lt_of_lt_of_le (Nat.mod_lt _ (Nat.succ_pos _)) hlast
      refine ⟨swapAt items (n + 1) ((draw s).1 % (n + 2)), swapAt_perm.trans hperm, ?_⟩
      rw [fisherYates]
      dsimp only
      rw [swapAt_swapAt hlast hdrawn, heq]

end FisherYates

section Windows

variable {α : Type u} {i j : ℕ} {l : List α}

/-- The items at the positions from `i` on and before `j`. -/
def window (l : List α) (i j : ℕ) : List α := (l.take j).drop i

theorem window_self (l : List α) (i : ℕ) : window l i i = [] := by
  rw [window, List.drop_eq_nil_iff, List.length_take]
  exact min_le_left _ _

theorem window_all (l : List α) : window l 0 l.length = l := by
  rw [window, List.take_length, List.drop_zero]

theorem window_append (hij : i ≤ j) (l : List α) :
    window l 0 i ++ window l i j = window l 0 j := by
  rw [window, window, window, List.drop_zero, List.drop_zero]
  calc l.take i ++ (l.take j).drop i
      = (l.take j).take i ++ (l.take j).drop i := by rw [List.take_take, min_eq_left hij]
    _ = l.take j := List.take_append_drop i (l.take j)

theorem length_window (hj : j ≤ l.length) : (window l i j).length = j - i := by
  rw [window, List.length_drop, List.length_take, min_eq_left hj]

theorem window_subset (l : List α) (i j : ℕ) : window l i j ⊆ l :=
  ((List.drop_sublist i (l.take j)).trans (List.take_sublist j l)).subset

/-- Windows that follow each other from the first position on. -/
theorem flatMap_windows (l : List α) {bound : ℕ → ℕ} (hzero : bound 0 = 0) (k : ℕ)
    (hmono : ∀ m < k, bound m ≤ bound (m + 1)) :
    ((List.range k).flatMap fun m => window l (bound m) (bound (m + 1))) =
      window l 0 (bound k) := by
  induction k with
  | zero => rw [hzero, window_self, List.range_zero, List.flatMap_nil]
  | succ k ih =>
      rw [List.range_succ, List.flatMap_append, List.flatMap_singleton,
        ih fun m hm => hmono m (Nat.lt_succ_of_lt hm)]
      exact window_append (hmono k (Nat.lt_succ_self k)) l

theorem mem_window_iff (hl : l.Nodup) {k : ℕ} (hk : k < l.length) :
    l[k] ∈ window l i j ↔ i ≤ k ∧ k < j := by
  rw [window, List.mem_iff_getElem?]
  simp only [List.getElem?_drop, List.getElem?_take]
  constructor
  · rintro ⟨m, hm⟩
    obtain ⟨hlt, hget⟩ := Option.ite_none_right_eq_some.mp hm
    obtain ⟨hlength, heq⟩ := List.getElem?_eq_some_iff.mp hget
    have hindex := (hl.getElem_inj_iff).mp heq
    omega
  · rintro ⟨hik, hkj⟩
    refine ⟨k - i, ?_⟩
    rw [Nat.add_sub_cancel' hik, if_pos hkj, List.getElem?_eq_getElem hk]

/-- A part cut at fixed positions is the same for all orders exactly when it is empty or
everything. -/
theorem window_perm_const_iff (hl : l.Nodup) (hij : i ≤ j) (hj : j ≤ l.length) :
    (∀ t t', t.Perm l → t'.Perm l → (window t i j).Perm (window t' i j)) ↔
      i = j ∨ (i = 0 ∧ j = l.length) := by
  constructor
  · intro hconst
    by_contra hmixed
    rw [not_or, not_and_or] at hmixed
    obtain ⟨k, hk, houtside⟩ : ∃ k, k < l.length ∧ ¬ (i ≤ k ∧ k < j) := by
      rcases hmixed.2 with hi | hall
      · exact ⟨0, by omega, by omega⟩
      · exact ⟨j, by omega, by omega⟩
    have hi : i < l.length := by omega
    have hin : l[i] ∈ window l i j := (mem_window_iff hl hi).mpr ⟨le_rfl, by omega⟩
    have hswapped : (swapAt l i k).Nodup := swapAt_perm.nodup_iff.mpr hl
    have hk' : k < (swapAt l i k).length := hk.trans_eq swapAt_perm.length_eq.symm
    have hmoved : (swapAt l i k)[k] = l[i] := by
      apply Option.some.inj
      rw [← List.getElem?_eq_getElem hk', getElem?_swapAt hi hk, if_pos rfl,
        List.getElem?_eq_getElem hi]
    have hstill := (hconst l _ (.refl l) (swapAt_perm (i := i) (j := k))).mem_iff.mp hin
    rw [← hmoved] at hstill
    exact houtside ((mem_window_iff hswapped hk').mp hstill)
  · rintro (rfl | ⟨rfl, rfl⟩) t t' ht ht'
    · rw [window_self, window_self]
    · rw [← ht.length_eq, window_all, ht.length_eq, ← ht'.length_eq, window_all]
      exact ht.trans ht'.symm

end Windows

end Datasynth.Lib.SeededShuffle
