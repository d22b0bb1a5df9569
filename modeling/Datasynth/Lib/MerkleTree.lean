import Mathlib.Algebra.Group.Nat.Defs
import Mathlib.Data.List.Forall2
import Mathlib.Data.Nat.Log
import Mathlib.Data.Set.Function
import Mathlib.Tactic.Common

/-!
Binary hash trees over a row of any length: a row of odd length repeats its last
node, neighbours are hashed to the row above, and so on up to a single node.

A path is checked by its siblings and a position of which only the parities are
read.  `wrap` says which leaf of the row a position then means.  An accepted path
leads to the tree's own leaf there, provided the hash is injective on the pairs that
the tree and the path hash and no leaf is a hash of one of them.
-/

namespace Datasynth.Lib.MerkleTree

universe u

variable {α : Type u}

def padLast (row : List α) : List α :=
  if row.length % 2 = 0 then row else row ++ row.getLast?.toList

def pairUp : List α → List (α × α)
  | a :: b :: rest => (a, b) :: pairUp rest
  | _ => []

def rowPairs (row : List α) : List (α × α) := pairUp (padLast row)

theorem length_padLast (row : List α) : (padLast row).length = row.length + row.length % 2 := by
  rw [padLast]
  split
  · omega
  · rename_i hodd
    have hne : row ≠ [] := by
      rintro rfl
      exact hodd rfl
    rw [List.getLast?_eq_some_getLast hne, List.length_append, Option.toList_some,
      List.length_singleton]
    omega

theorem getElem?_padLast {row : List α} {i : ℕ} (hi : i < row.length + row.length % 2) :
    (padLast row)[i]? = row[min i (row.length - 1)]? := by
  rw [padLast]
  split
  · rw [min_eq_left (by omega)]
  · by_cases hlt : i < row.length
    · rw [List.getElem?_append_left hlt, min_eq_left (by omega)]
    · have hlast : i = row.length := by omega
      have hne : row ≠ [] := by
        rintro rfl
        simp at hi
      rw [min_eq_right (by omega), List.getElem?_append_right (by omega),
        List.getLast?_eq_some_getLast hne, ← List.getLast?_eq_getElem?,
        List.getLast?_eq_some_getLast hne, hlast, Nat.sub_self]
      rfl

theorem length_pairUp (row : List α) : (pairUp row).length = row.length / 2 := by
  fun_induction pairUp row with
  | case1 a b rest ih =>
      rw [List.length_cons, ih, List.length_cons, List.length_cons]
      omega
  | case2 row h =>
      match row, h with
      | [], _ => simp
      | [_], _ => simp
      | a :: b :: rest, h => exact absurd rfl (h a b rest)

theorem getElem?_pairUp {row : List α} {k : ℕ} {a b : α} (ha : row[2 * k]? = some a)
    (hb : row[2 * k + 1]? = some b) : (pairUp row)[k]? = some (a, b) := by
  induction k generalizing row with
  | zero =>
      match row, ha, hb with
      | a' :: b' :: rest, ha, hb =>
          cases ha
          cases hb
          rfl
  | succ k ih =>
      match row, ha, hb with
      | a' :: b' :: rest, ha, hb => exact ih ha hb

theorem length_rowPairs (row : List α) : (rowPairs row).length = (row.length + 1) / 2 := by
  rw [rowPairs, length_pairUp, length_padLast]
  omega

/-- A pair of the row holds the nodes at its two positions, the last one when there is
nothing on the right. -/
theorem getElem?_rowPairs {row : List α} {k : ℕ} (hk : k < (row.length + 1) / 2) :
    ∃ a b, row[2 * k]? = some a ∧ row[min (2 * k + 1) (row.length - 1)]? = some b ∧
      (rowPairs row)[k]? = some (a, b) := by
  have hleft : 2 * k < row.length := by omega
  have hright : min (2 * k + 1) (row.length - 1) < row.length := by omega
  refine ⟨row[2 * k], row[min (2 * k + 1) (row.length - 1)], List.getElem?_eq_getElem hleft,
    List.getElem?_eq_getElem hright, ?_⟩
  apply getElem?_pairUp
  · rw [getElem?_padLast (by omega), min_eq_left (by omega), List.getElem?_eq_getElem hleft]
  · rw [getElem?_padLast (by omega), List.getElem?_eq_getElem hright]

theorem forall₂_rowPairs {β : Type*} {R : α → β → Prop} {row : List α} {row' : List β}
    (h : List.Forall₂ R row row') :
    List.Forall₂ (fun p q => R p.1 q.1 ∧ R p.2 q.2) (rowPairs row) (rowPairs row') := by
  have hlength := h.length_eq
  have hlength' : (rowPairs row).length = (rowPairs row').length := by
    rw [length_rowPairs, length_rowPairs, hlength]
  refine List.forall₂_iff_get.mpr ⟨hlength', fun k hk hk' => ?_⟩
  rw [length_rowPairs] at hk hk'
  obtain ⟨a, b, ha, hb, hab⟩ := getElem?_rowPairs hk
  obtain ⟨a', b', ha', hb', hab'⟩ := getElem?_rowPairs hk'
  rw [← hlength] at hb'
  have hget : ∀ (i : ℕ) (x : α) (y : β), row[i]? = some x → row'[i]? = some y → R x y := by
    intro i x y hx hy
    obtain ⟨hi, rfl⟩ := List.getElem?_eq_some_iff.mp hx
    obtain ⟨hi', rfl⟩ := List.getElem?_eq_some_iff.mp hy
    exact h.get hi hi'
  rw [List.get_eq_getElem, List.get_eq_getElem, (List.getElem?_eq_some_iff.mp hab).2,
    (List.getElem?_eq_some_iff.mp hab').2]
  exact ⟨hget _ _ _ ha ha', hget _ _ _ hb hb'⟩

section Tree

variable (hash : α × α → α)

def up (row : List α) : List α := (rowPairs row).map hash

theorem length_up (row : List α) : (up hash row).length = (row.length + 1) / 2 := by
  rw [up, List.length_map, length_rowPairs]

/-- The pairs hashed on the way up by `k` rows. -/
def treePairs : ℕ → List α → List (α × α)
  | 0, _ => []
  | k + 1, row => rowPairs row ++ treePairs k (up hash row)

/-- `k` steps lead from a row to the single node `r`. -/
inductive Climbs : ℕ → List α → α → Prop where
  | single (r : α) : Climbs 0 [r] r
  | step {k : ℕ} {row : List α} {r : α} (hlength : 1 < row.length)
      (hup : Climbs k (up hash row) r) : Climbs (k + 1) row r

/-- The leaf of a row of length `n` that a position means after `k` steps. -/
def wrap : ℕ → ℕ → ℕ → ℕ
  | 0, _, _ => 0
  | k + 1, n, j => min (2 * wrap k ((n + 1) / 2) (j / 2) + j % 2) (n - 1)

/-- A node and its sibling, in the order that the parity of the position tells. -/
def joined (j : ℕ) (x sibling : α) : α × α := if j % 2 = 0 then (x, sibling) else (sibling, x)

/-- The node that a leaf and siblings lead to from a position. -/
def rollUp : α → List α → ℕ → α
  | x, [], _ => x
  | x, sibling :: siblings, j => rollUp (hash (joined j x sibling)) siblings (j / 2)

def pathPairs : α → List α → ℕ → List (α × α)
  | _, [], _ => []
  | x, sibling :: siblings, j =>
      joined j x sibling :: pathPairs (hash (joined j x sibling)) siblings (j / 2)

end Tree

theorem wrap_lt {k n j : ℕ} (hn : 0 < n) : wrap k n j < n := by
  cases k with
  | zero => exact hn
  | succ k =>
      rw [wrap]
      omega

theorem wrap_of_lt {k n j : ℕ} (hj : j < n) (hn : n ≤ 2 ^ k) : wrap k n j = j := by
  induction k generalizing n j with
  | zero =>
      rw [pow_zero] at hn
      rw [wrap]
      omega
  | succ k ih =>
      rw [pow_succ] at hn
      rw [wrap, ih (by omega) (by omega)]
      omega

section Climbs

variable {hash : α × α → α} {k : ℕ} {row : List α} {r : α}

theorem Climbs.length_pos (h : Climbs hash k row r) : 0 < row.length := by
  cases h with
  | single => exact Nat.one_pos
  | step hlength hup => omega

theorem Climbs.length_le (h : Climbs hash k row r) : row.length ≤ 2 ^ k := by
  induction h with
  | single => exact le_rfl
  | step hlength hup ih =>
      rw [length_up] at ih
      rw [pow_succ]
      omega

theorem Climbs.height_eq (h : Climbs hash k row r) : k = Nat.clog 2 row.length := by
  induction h with
  | single => rfl
  | @step k row r hlength hup ih =>
      rw [Nat.clog_of_two_le (by decide) hlength, ih, length_up]
      rfl

variable (hash) in
theorem exists_climbs {n : ℕ} {row : List α} (hn : Nat.clog 2 row.length = n) (hne : row ≠ []) :
    ∃ r, Climbs hash n row r := by
  induction n generalizing row with
  | zero =>
      have hlength : row.length ≤ 1 := by
        by_contra hlong
        have := Nat.clog_pos (b := 2) (by decide) (show 2 ≤ row.length by omega)
        omega
      match row, hne, hlength with
      | [r], _, _ => exact ⟨r, .single r⟩
  | succ n ih =>
      have hlength : 1 < row.length := by
        by_contra hshort
        rw [Nat.clog_of_right_le_one (by omega)] at hn
        cases hn
      rw [Nat.clog_of_two_le (by decide) hlength] at hn
      have hup : Nat.clog 2 (up hash row).length = n := by
        rw [length_up]
        exact Nat.succ.inj hn
      have hne' : up hash row ≠ [] := by
        rw [← List.length_pos_iff, length_up]
        omega
      obtain ⟨r, hr⟩ := ih hup hne'
      exact ⟨r, .step hlength hr⟩

variable (hash) in
theorem getElem?_up {m : ℕ} (hm : m < (row.length + 1) / 2) :
    ∃ a b, row[2 * m]? = some a ∧ row[min (2 * m + 1) (row.length - 1)]? = some b ∧
      (a, b) ∈ rowPairs row ∧ (up hash row)[m]? = some (hash (a, b)) := by
  obtain ⟨a, b, ha, hb, hpair⟩ := getElem?_rowPairs hm
  refine ⟨a, b, ha, hb, List.mem_of_getElem? hpair, ?_⟩
  rw [up, List.getElem?_map, hpair]
  rfl

/-- An accepted path of the tree's height starts at the tree's own leaf. -/
theorem rollUp_sound {S : Set (α × α)} (hclimbs : Climbs hash k row r) (hinj : S.InjOn hash)
    (htree : ∀ p ∈ treePairs hash k row, p ∈ S) {x : α} {siblings : List α} {j : ℕ}
    (hlength : siblings.length = k) (hpath : ∀ p ∈ pathPairs hash x siblings j, p ∈ S)
    (hroll : rollUp hash x siblings j = r) : row[wrap k row.length j]? = some x := by
  induction hclimbs generalizing x siblings j with
  | single r =>
      rw [List.length_eq_zero_iff.mp hlength, rollUp] at hroll
      rw [hroll]
      rfl
  | @step k row r hrow hup ih =>
      obtain ⟨sibling, siblings, rfl⟩ := List.exists_cons_of_length_eq_add_one hlength
      have hnode := ih (fun p hp => htree p (List.mem_append_right _ hp))
        (Nat.succ.inj hlength) (fun p hp => hpath p (List.mem_cons_of_mem _ hp)) hroll
      rw [length_up] at hnode
      set m := wrap k ((row.length + 1) / 2) (j / 2) with hm
      have hmlt : m < (row.length + 1) / 2 := wrap_lt (by omega)
      obtain ⟨a, b, ha, hb, hmem, hab⟩ := getElem?_up hash hmlt
      have hpair : (a, b) = joined j x sibling :=
        hinj (htree _ (List.mem_append_left _ hmem)) (hpath _ List.mem_cons_self)
          (Option.some.inj (hab.symm.trans hnode))
      rw [wrap, ← hm]
      rcases Nat.mod_two_eq_zero_or_one j with hj | hj
      · rw [joined, if_pos hj] at hpair
        obtain ⟨rfl, -⟩ := Prod.mk.inj hpair
        rw [hj, min_eq_left (by omega)]
        exact ha
      · rw [joined, if_neg (by omega)] at hpair
        obtain ⟨-, rfl⟩ := Prod.mk.inj hpair
        rw [hj]
        exact hb

/-- At every position some path is accepted, along the pairs of the tree. -/
theorem exists_rollUp (hclimbs : Climbs hash k row r) (j : ℕ) :
    ∃ x siblings, row[wrap k row.length j]? = some x ∧ siblings.length = k ∧
      rollUp hash x siblings j = r ∧
      ∀ p ∈ pathPairs hash x siblings j, p ∈ treePairs hash k row := by
  induction hclimbs generalizing j with
  | single r => exact ⟨r, [], rfl, rfl, rfl, fun p hp => absurd hp List.not_mem_nil⟩
  | @step k row r hrow hup ih =>
      obtain ⟨x, siblings, hx, hlength, hroll, hpath⟩ := ih (j / 2)
      rw [length_up] at hx
      set m := wrap k ((row.length + 1) / 2) (j / 2) with hm
      have hmlt : m < (row.length + 1) / 2 := wrap_lt (by omega)
      obtain ⟨a, b, ha, hb, hmem, hab⟩ := getElem?_up hash hmlt
      obtain rfl : hash (a, b) = x := Option.some.inj (hab.symm.trans hx)
      have hpairs : ∀ p ∈ (a, b) :: pathPairs hash (hash (a, b)) siblings (j / 2),
          p ∈ treePairs hash (k + 1) row := by
        intro p hp
        rcases List.mem_cons.mp hp with rfl | hp
        · exact List.mem_append_left _ hmem
        · exact List.mem_append_right _ (hpath p hp)
      rcases Nat.mod_two_eq_zero_or_one j with hj | hj
      · have hjoined : joined j a b = (a, b) := if_pos hj
        refine ⟨a, b :: siblings, ?_, congrArg Nat.succ hlength, ?_, ?_⟩
        · rw [wrap, ← hm, hj, min_eq_left (by omega)]
          exact ha
        · rw [rollUp, hjoined, hroll]
        · rw [pathPairs, hjoined]
          exact hpairs
      · have hjoined : joined j b a = (a, b) := if_neg (by omega)
        refine ⟨b, a :: siblings, ?_, congrArg Nat.succ hlength, ?_, ?_⟩
        · rw [wrap, ← hm, hj]
          exact hb
        · rw [rollUp, hjoined, hroll]
        · rw [pathPairs, hjoined]
          exact hpairs

/-- The rows between a row and its root climb to the same root along pairs of the tree. -/
theorem Climbs.rise {m : ℕ} (h : Climbs hash (k + m) row r) :
    Climbs hash k ((up hash)^[m] row) r ∧
      ∀ p ∈ treePairs hash k ((up hash)^[m] row), p ∈ treePairs hash (k + m) row := by
  induction m generalizing row with
  | zero => exact ⟨h, fun p hp => hp⟩
  | succ m ih =>
      cases h with
      | step hlength hup =>
          obtain ⟨hclimbs, hpairs⟩ := ih hup
          exact ⟨hclimbs, fun p hp => List.mem_append_right _ (hpairs p hp)⟩

/-- A node above the lowest row is the hash of a pair of the tree. -/
theorem exists_pair_of_mem_rise {m : ℕ} (h : Climbs hash (k + (m + 1)) row r) {x : α}
    (hx : x ∈ (up hash)^[m + 1] row) : ∃ p ∈ treePairs hash (k + (m + 1)) row, hash p = x := by
  induction m generalizing row with
  | zero =>
      obtain ⟨p, hp, rfl⟩ := List.mem_map.mp hx
      exact ⟨p, List.mem_append_left _ hp, rfl⟩
  | succ m ih =>
      cases h with
      | step hlength hup =>
          obtain ⟨p, hp, hpx⟩ := ih hup hx
          exact ⟨p, List.mem_append_right _ hp, hpx⟩

variable (hash) in
theorem rollUp_append (x : α) (lower upper : List α) (j : ℕ) :
    rollUp hash x (lower ++ upper) j =
      rollUp hash (rollUp hash x lower j) upper (j / 2 ^ lower.length) ∧
    ∀ p ∈ pathPairs hash (rollUp hash x lower j) upper (j / 2 ^ lower.length),
      p ∈ pathPairs hash x (lower ++ upper) j := by
  induction lower generalizing x j with
  | nil => simp [rollUp]
  | cons sibling lower ih =>
      obtain ⟨hroll, hpairs⟩ := ih (hash (joined j x sibling)) (j / 2)
      rw [Nat.div_div_eq_div_mul, ← Nat.pow_succ'] at hroll hpairs
      exact ⟨hroll, fun p hp => List.mem_cons_of_mem _ (hpairs p hp)⟩

variable (hash) in
theorem exists_pair_of_rollUp (x : α) {siblings : List α} (j : ℕ) (hne : siblings ≠ []) :
    ∃ p ∈ pathPairs hash x siblings j, hash p = rollUp hash x siblings j := by
  induction siblings generalizing x j with
  | nil => exact absurd rfl hne
  | cons sibling siblings ih =>
      cases siblings with
      | nil => exact ⟨joined j x sibling, List.mem_cons_self, rfl⟩
      | cons sibling' siblings =>
          obtain ⟨p, hp, hpx⟩ := ih (x := hash (joined j x sibling)) (j := j / 2)
            (List.cons_ne_nil _ _)
          exact ⟨p, List.mem_cons_of_mem _ hp, hpx⟩

theorem pathPairs_append_left (x : α) (lower upper : List α) (j : ℕ) {p : α × α}
    (hp : p ∈ pathPairs hash x lower j) : p ∈ pathPairs hash x (lower ++ upper) j := by
  induction lower generalizing x j with
  | nil => cases hp
  | cons sibling lower ih =>
      rcases List.mem_cons.mp hp with rfl | hp
      · exact List.mem_cons_self
      · exact List.mem_cons_of_mem _ (ih _ _ hp)

/-- Where no leaf is the hash of a pair, an accepted path has the height of the tree: a
shorter one would start at an inner node, a longer one would pass through a leaf. -/
theorem length_of_rollUp_eq {S : Set (α × α)} (hclimbs : Climbs hash k row r)
    (hinj : S.InjOn hash) (htree : ∀ p ∈ treePairs hash k row, p ∈ S) {x : α} {siblings : List α}
    {j : ℕ} (hpath : ∀ p ∈ pathPairs hash x siblings j, p ∈ S)
    (hroll : rollUp hash x siblings j = r) (hleaf : ∀ p ∈ S, hash p ≠ x)
    (hrow : ∀ p ∈ S, ∀ y ∈ row, hash p ≠ y) : siblings.length = k := by
  rcases lt_trichotomy siblings.length k with hshort | heq | hlong
  · exfalso
    obtain ⟨m, rfl⟩ := Nat.exists_eq_add_of_lt hshort
    obtain ⟨hrise, hpairs⟩ := hclimbs.rise (m := m + 1)
    have hnode := rollUp_sound hrise hinj (fun p hp => htree p (hpairs p hp)) rfl hpath hroll
    obtain ⟨p, hp, hpx⟩ := exists_pair_of_mem_rise (m := m) hclimbs (List.mem_of_getElem? hnode)
    exact hleaf p (htree p hp) hpx
  · exact heq
  · exfalso
    set lower := siblings.take (siblings.length - k) with hlower
    set upper := siblings.drop (siblings.length - k) with hupper
    have hsplit : siblings = lower ++ upper := (List.take_append_drop _ siblings).symm
    have hupper_length : upper.length = k := by
      rw [hupper, List.length_drop]
      omega
    have hlower_ne : lower ≠ [] := by
      rw [← List.length_pos_iff, hlower, List.length_take]
      omega
    rw [hsplit] at hpath hroll
    obtain ⟨happend, hpairs⟩ := rollUp_append hash x lower upper j
    rw [happend] at hroll
    have hnode := rollUp_sound hclimbs hinj htree hupper_length
      (fun p hp => hpath p (hpairs p hp)) hroll
    obtain ⟨p, hp, hpx⟩ := exists_pair_of_rollUp hash x j hlower_ne
    exact hrow p (hpath p (pathPairs_append_left x lower upper j hp)) _
      (List.mem_of_getElem? hnode) hpx

/-- Trees of one height have one root exactly when their rows, written out to full
length, are equal. -/
theorem root_eq_iff {row' : List α} {r' : α} (hclimbs : Climbs hash k row r)
    (hclimbs' : Climbs hash k row' r')
    (hinj : {p | p ∈ treePairs hash k row ∨ p ∈ treePairs hash k row'}.InjOn hash) :
    r = r' ↔ ∀ j < 2 ^ k, row[wrap k row.length j]? = row'[wrap k row'.length j]? := by
  constructor
  · rintro rfl j -
    obtain ⟨x, siblings, hx, hlength, hroll, hpath⟩ := exists_rollUp hclimbs j
    have hx' := rollUp_sound hclimbs' hinj (fun p hp => .inr hp) hlength
      (fun p hp => .inl (hpath p hp)) hroll
    rw [hx, hx']
  · intro hrows
    clear hinj
    induction hclimbs generalizing row' with
    | single r =>
        cases hclimbs' with
        | single r' => exact Option.some.inj (hrows 0 Nat.one_pos)
    | @step k row r hlength hup ih =>
        cases hclimbs' with
        | step hlength' hup' =>
            refine ih hup' fun j hj => ?_
            rw [length_up, length_up]
            set m := wrap k ((row.length + 1) / 2) j with hm
            set m' := wrap k ((row'.length + 1) / 2) j with hm'
            have hlt : m < (row.length + 1) / 2 := wrap_lt (by omega)
            have hlt' : m' < (row'.length + 1) / 2 := wrap_lt (by omega)
            obtain ⟨a, b, ha, hb, -, hab⟩ := getElem?_up hash hlt
            obtain ⟨a', b', ha', hb', -, hab'⟩ := getElem?_up hash hlt'
            have hpow : 2 ^ (k + 1) = 2 * 2 ^ k := Nat.pow_succ'
            have hleft := hrows (2 * j) (by omega)
            have hright := hrows (2 * j + 1) (by omega)
            rw [wrap, wrap, Nat.mul_div_cancel_left j Nat.two_pos, ← hm, ← hm', Nat.mul_mod_right,
              min_eq_left (by omega), min_eq_left (by omega)] at hleft
            rw [wrap, wrap, show (2 * j + 1) / 2 = j by omega, ← hm, ← hm',
              show (2 * j + 1) % 2 = 1 by omega] at hright
            obtain rfl : a = a' := Option.some.inj (ha.symm.trans (hleft.trans ha'))
            obtain rfl : b = b' := Option.some.inj (hb.symm.trans (hright.trans hb'))
            rw [hab, hab']

end Climbs

end Datasynth.Lib.MerkleTree
