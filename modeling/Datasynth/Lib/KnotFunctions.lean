import Mathlib.Algebra.Order.Field.Basic
import Mathlib.Data.List.Basic
import Mathlib.Tactic.FieldSimp
import Mathlib.Tactic.Linarith
import Mathlib.Tactic.Positivity
import Mathlib.Tactic.Ring

/-!
Functions given by their values at the knots of a grid and interpolated in between.  The place of
an argument is found by a binary search that may return any of equal knots.
-/

namespace Datasynth.Lib.KnotFunctions

section Search

variable {α : Type*} [LinearOrder α]

/-- The place of a value, or the place to insert it at, in a list in ascending order. -/
structure OrderedSearch (α : Type*) [LinearOrder α] where
  search : List α → α → Except ℕ ℕ
  found : ∀ {l v i}, l.Pairwise (· ≤ ·) → search l v = .ok i → l[i]? = some v
  insertion : ∀ {l v i}, l.Pairwise (· ≤ ·) → search l v = .error i →
    i ≤ l.length ∧ (∀ u ∈ l.take i, u < v) ∧ ∀ u ∈ l.drop i, v < u

theorem le_of_getElem? {l : List α} (hl : l.Pairwise (· ≤ ·)) {i j : ℕ} {a b : α}
    (ha : l[i]? = some a) (hb : l[j]? = some b) (hij : i ≤ j) : a ≤ b := by
  obtain ⟨hi, rfl⟩ := List.getElem?_eq_some_iff.mp ha
  obtain ⟨hj, rfl⟩ := List.getElem?_eq_some_iff.mp hb
  rcases hij.eq_or_lt with rfl | hlt
  · exact le_rfl
  · exact List.pairwise_iff_getElem.mp hl i j hi hj hlt

theorem index_lt_of_lt {l : List α} (hl : l.Pairwise (· ≤ ·)) {i j : ℕ} {a b : α}
    (ha : l[i]? = some a) (hb : l[j]? = some b) (hlt : a < b) : i < j := by
  by_contra hji
  exact absurd (le_of_getElem? hl hb ha (not_lt.mp hji)) (not_le.mpr hlt)

theorem getElem?_inj {l : List α} (hl : l.Pairwise (· < ·)) {i j : ℕ} {a : α}
    (hi : l[i]? = some a) (hj : l[j]? = some a) : i = j := by
  obtain ⟨hi', rfl⟩ := List.getElem?_eq_some_iff.mp hi
  obtain ⟨hj', heq⟩ := List.getElem?_eq_some_iff.mp hj
  rcases lt_trichotomy i j with hlt | heq' | hlt
  · exact absurd heq (List.pairwise_iff_getElem.mp hl i j hi' hj' hlt).ne'
  · exact heq'
  · exact absurd heq (List.pairwise_iff_getElem.mp hl j i hj' hi' hlt).ne

/-- The search for the first knot that is not less. -/
def OrderedSearch.first : OrderedSearch α where
  search l v :=
    if l[l.findIdx (v ≤ ·)]? = some v then .ok (l.findIdx (v ≤ ·))
    else .error (l.findIdx (v ≤ ·))
  found := by
    intro l v i _ hok
    split at hok
    · rename_i hget
      cases hok
      exact hget
    · cases hok
  insertion := by
    intro l v i hascending herror
    split at herror
    · cases herror
    · rename_i hget
      cases herror
      refine ⟨List.findIdx_le_length, ?_, ?_⟩
      · intro u hu
        obtain ⟨k, hk, rfl⟩ := List.mem_take_iff_getElem.mp hu
        simpa using List.not_of_lt_findIdx (lt_min_iff.mp hk).1
      · intro u hu
        obtain ⟨k, hk, rfl⟩ := List.mem_drop_iff_getElem.mp hu
        have hplace : l.findIdx (v ≤ ·) < l.length := by omega
        have hle : v ≤ l[l.findIdx (v ≤ ·)] := by
          simpa using List.findIdx_getElem (w := hplace)
        have hne : l[l.findIdx (v ≤ ·)] ≠ v := by
          simpa [List.getElem?_eq_getElem hplace] using hget
        exact (hle.lt_of_ne' hne).trans_le <|
          le_of_getElem? hascending (List.getElem?_eq_getElem hplace)
            (List.getElem?_eq_getElem (by omega)) (Nat.le_add_right _ _)

/-- Of equal values the first one is found. -/
theorem OrderedSearch.first_eq_ok {l : List α} {v : α} (hv : v ∈ l) (hl : l.Pairwise (· ≤ ·)) :
    OrderedSearch.first.search l v = .ok (l.findIdx (v ≤ ·)) := by
  have hlt : l.findIdx (v ≤ ·) < l.length := List.findIdx_lt_length.mpr ⟨v, hv, by simp⟩
  have hle : v ≤ l[l.findIdx (v ≤ ·)] := by simpa using List.findIdx_getElem (w := hlt)
  obtain ⟨k, hk, rfl⟩ := List.getElem_of_mem hv
  have hge : l[l.findIdx (l[k] ≤ ·)] ≤ l[k] := by
    have hidx : l.findIdx (l[k] ≤ ·) ≤ k := by
      by_contra hnot
      simpa using List.not_of_lt_findIdx (not_le.mp hnot)
    exact le_of_getElem? hl (List.getElem?_eq_getElem hlt) (List.getElem?_eq_getElem hk) hidx
  exact if_pos (by rw [List.getElem?_eq_getElem hlt, le_antisymm hge hle])

end Search

section Interpolation

variable {K : Type*} [Field K] [LinearOrder K] [IsStrictOrderedRing K]
variable {x₀ x₁ y₀ y₁ x x' : K}

/-- The line through two knots. -/
def interpolate (x₀ x₁ y₀ y₁ x : K) : K := y₀ + (y₁ - y₀) * (x - x₀) / (x₁ - x₀)

omit [LinearOrder K] [IsStrictOrderedRing K] in
theorem interpolate_left : interpolate x₀ x₁ y₀ y₁ x₀ = y₀ := by simp [interpolate]

theorem interpolate_right (hx : x₀ < x₁) : interpolate x₀ x₁ y₀ y₁ x₁ = y₁ := by
  have hne : x₁ - x₀ ≠ 0 := (sub_pos.mpr hx).ne'
  rw [interpolate, mul_div_assoc, div_self hne]
  ring

theorem interpolate_mono (hx : x₀ < x₁) (hy : y₀ ≤ y₁) (h : x ≤ x') :
    interpolate x₀ x₁ y₀ y₁ x ≤ interpolate x₀ x₁ y₀ y₁ x' := by
  have hwidth := sub_pos.mpr hx
  have hrise := sub_nonneg.mpr hy
  unfold interpolate
  gcongr

theorem interpolate_strictMono (hx : x₀ < x₁) (hy : y₀ < y₁) (h : x < x') :
    interpolate x₀ x₁ y₀ y₁ x < interpolate x₀ x₁ y₀ y₁ x' := by
  have hwidth := sub_pos.mpr hx
  have hrise := sub_pos.mpr hy
  unfold interpolate
  gcongr

theorem le_interpolate (hx : x₀ < x₁) (hy : y₀ ≤ y₁) (h : x₀ ≤ x) :
    y₀ ≤ interpolate x₀ x₁ y₀ y₁ x := by
  have hmono := interpolate_mono hx hy h
  rwa [interpolate_left] at hmono

theorem interpolate_le (hx : x₀ < x₁) (hy : y₀ ≤ y₁) (h : x ≤ x₁) :
    interpolate x₀ x₁ y₀ y₁ x ≤ y₁ := by
  have hmono := interpolate_mono hx hy h
  rwa [interpolate_right hx] at hmono

/-- The line back from the values to the arguments. -/
theorem interpolate_interpolate (hx : x₀ < x₁) (hy : y₀ < y₁) :
    interpolate y₀ y₁ x₀ x₁ (interpolate x₀ x₁ y₀ y₁ x) = x := by
  have hwidth : x₁ - x₀ ≠ 0 := (sub_pos.mpr hx).ne'
  have hrise : y₁ - y₀ ≠ 0 := (sub_pos.mpr hy).ne'
  unfold interpolate
  field_simp
  ring

end Interpolation

section Evaluation

variable {K : Type*} [Field K] [LinearOrder K]

/-- The value at a knot, the interpolation between two knots, and given values outside of them;
a read outside of a list has no result. -/
def evaluate (binary_search : OrderedSearch K) (xs ys : List K) (below above : Option K) (x : K) :
    Option K :=
  match binary_search.search xs x with
  | .ok i => ys[i]?
  | .error i =>
      if i = 0 then below
      else if xs.length ≤ i then above
      else do
        let x₀ ← xs[i - 1]?
        let x₁ ← xs[i]?
        let y₀ ← ys[i - 1]?
        let y₁ ← ys[i]?
        return interpolate x₀ x₁ y₀ y₁ x

/-- What an evaluation may return, whichever of equal knots the search finds. -/
inductive Value (xs ys : List K) (below above : K) (x : K) : K → Prop
  | knot {i : ℕ} {y : K} : xs[i]? = some x → ys[i]? = some y → Value xs ys below above x y
  | below : (∀ a ∈ xs, x < a) → Value xs ys below above x below
  | above : (∀ a ∈ xs, a < x) → xs ≠ [] → Value xs ys below above x above
  | between {i : ℕ} {x₀ x₁ y₀ y₁ : K} : xs[i]? = some x₀ → xs[i + 1]? = some x₁ →
      ys[i]? = some y₀ → ys[i + 1]? = some y₁ → x₀ < x → x < x₁ →
      Value xs ys below above x (interpolate x₀ x₁ y₀ y₁ x)

variable {xs ys : List K} {below above x x' y y' : K}

theorem exists_value (binary_search : OrderedSearch K) (hxs : xs.Pairwise (· ≤ ·))
    (hlen : xs.length = ys.length) (below above x : K) :
    ∃ y, evaluate binary_search xs ys (some below) (some above) x = some y ∧
      Value xs ys below above x y := by
  rw [evaluate]
  split
  · rename_i i hok
    have hknot := binary_search.found hxs hok
    obtain ⟨hi, -⟩ := List.getElem?_eq_some_iff.mp hknot
    have hget := List.getElem?_eq_getElem (l := ys) (by omega : i < ys.length)
    exact ⟨_, hget, .knot hknot hget⟩
  · rename_i i herror
    obtain ⟨hle, hbelow, habove⟩ := binary_search.insertion hxs herror
    split
    · rename_i hzero
      subst hzero
      exact ⟨below, rfl, .below habove⟩
    · rename_i hpos
      split
      · rename_i hend
        have hall : ∀ a ∈ xs, a < x := by
          rwa [List.take_of_length_le hend] at hbelow
        refine ⟨above, rfl, .above hall ?_⟩
        rintro rfl
        exact hpos (Nat.le_zero.mp hle)
      · rename_i hend
        obtain ⟨i, rfl⟩ := Nat.exists_eq_succ_of_ne_zero hpos
        have hx₀ := List.getElem?_eq_getElem (l := xs) (by omega : i < xs.length)
        have hx₁ := List.getElem?_eq_getElem (l := xs) (by omega : i + 1 < xs.length)
        have hy₀ := List.getElem?_eq_getElem (l := ys) (by omega : i < ys.length)
        have hy₁ := List.getElem?_eq_getElem (l := ys) (by omega : i + 1 < ys.length)
        refine ⟨_, ?_, .between hx₀ hx₁ hy₀ hy₁ (hbelow _ ?_) (habove _ ?_)⟩
        · simp only [Nat.succ_eq_add_one, Nat.add_sub_cancel, hx₀, hx₁, hy₀, hy₁]
          rfl
        · exact List.mem_take_iff_getElem.mpr ⟨i, by omega, rfl⟩
        · exact List.mem_drop_iff_getElem.mpr ⟨0, by omega, by simp⟩

section Order

variable [IsStrictOrderedRing K]

theorem below_le (hys : ys.Pairwise (· ≤ ·)) (hbelow : ∀ a ∈ ys, below ≤ a)
    (hends : below ≤ above) (h : Value xs ys below above x y) : below ≤ y := by
  cases h with
  | knot _ hy => exact hbelow _ (List.mem_of_getElem? hy)
  | below _ => exact le_rfl
  | above _ _ => exact hends
  | between hx₀ hx₁ hy₀ hy₁ hleft hright =>
      refine (hbelow _ (List.mem_of_getElem? hy₀)).trans ?_
      have hrise := le_of_getElem? hys hy₀ hy₁ (Nat.le_succ _)
      exact le_interpolate (hleft.trans hright) hrise hleft.le

theorem le_above (hys : ys.Pairwise (· ≤ ·)) (habove : ∀ a ∈ ys, a ≤ above)
    (hends : below ≤ above) (h : Value xs ys below above x y) : y ≤ above := by
  cases h with
  | knot _ hy => exact habove _ (List.mem_of_getElem? hy)
  | below _ => exact hends
  | above _ _ => exact le_rfl
  | between hx₀ hx₁ hy₀ hy₁ hleft hright =>
      refine le_trans ?_ (habove _ (List.mem_of_getElem? hy₁))
      have hrise := le_of_getElem? hys hy₀ hy₁ (Nat.le_succ _)
      exact interpolate_le (hleft.trans hright) hrise hright.le

/-- The values of an ascending function ascend. -/
theorem value_mono (hxs : xs.Pairwise (· ≤ ·)) (hys : ys.Pairwise (· ≤ ·))
    (hbelow : ∀ a ∈ ys, below ≤ a) (habove : ∀ a ∈ ys, a ≤ above) (hends : below ≤ above)
    (h : Value xs ys below above x y) (h' : Value xs ys below above x' y') (hlt : x < x') :
    y ≤ y' := by
  have hleast : below ≤ y' := below_le hys hbelow hends h'
  have hmost : y ≤ above := le_above hys habove hends h
  cases h with
  | below _ => exact hleast
  | above hall hne =>
      -- an argument above all knots leaves no other place for a larger one
      cases h' with
      | above _ _ => exact le_rfl
      | knot hx' _ => exact absurd (hall _ (List.mem_of_getElem? hx')) hlt.not_gt
      | below hall' =>
          obtain ⟨a, ha⟩ := List.exists_mem_of_ne_nil xs hne
          exact absurd ((hall a ha).trans hlt) (hall' a ha).not_gt
      | between _ hx₁ _ _ _ hright =>
          exact absurd (hall _ (List.mem_of_getElem? hx₁)) (hlt.trans hright).not_gt
  | knot hx hy =>
      cases h' with
      | above _ _ => exact hmost
      | below hall' => exact absurd (hall' _ (List.mem_of_getElem? hx)) hlt.not_gt
      | knot hx' hy' => exact le_of_getElem? hys hy hy' (index_lt_of_lt hxs hx hx' hlt).le
      | between hx₀ hx₁ hy₀ hy₁ hleft hright =>
          have hplace := index_lt_of_lt hxs hx hx₁ (hlt.trans hright)
          exact (le_of_getElem? hys hy hy₀ (Nat.lt_succ_iff.mp hplace)).trans
            (le_interpolate (hleft.trans hright)
              (le_of_getElem? hys hy₀ hy₁ (Nat.le_succ _)) hleft.le)
  | between hx₀ hx₁ hy₀ hy₁ hleft hright =>
      have hrise := le_of_getElem? hys hy₀ hy₁ (Nat.le_succ _)
      cases h' with
      | above _ _ => exact hmost
      | below hall' =>
          exact absurd (hall' _ (List.mem_of_getElem? hx₀)) (hleft.trans hlt).not_gt
      | knot hx' hy' =>
          have hplace := index_lt_of_lt hxs hx₀ hx' (hleft.trans hlt)
          exact (interpolate_le (hleft.trans hright) hrise hright.le).trans
            (le_of_getElem? hys hy₁ hy' hplace)
      | between hx₀' hx₁' hy₀' hy₁' hleft' hright' =>
          have hplace := index_lt_of_lt hxs hx₀ hx₁' (hleft.trans (hlt.trans hright'))
          rcases (Nat.lt_succ_iff.mp hplace).eq_or_lt with rfl | hnext
          · -- both arguments lie between the same two knots
            cases hx₀.symm.trans hx₀'
            cases hx₁.symm.trans hx₁'
            cases hy₀.symm.trans hy₀'
            cases hy₁.symm.trans hy₁'
            exact interpolate_mono (hleft.trans hright) hrise hlt.le
          · have hrise' := le_of_getElem? hys hy₀' hy₁' (Nat.le_succ _)
            exact ((interpolate_le (hleft.trans hright) hrise hright.le).trans
              (le_of_getElem? hys hy₁ hy₀' hnext)).trans
                (le_interpolate (hleft'.trans hright') hrise' hleft'.le)

theorem evaluate_mono (binary_search : OrderedSearch K) (hxs : xs.Pairwise (· ≤ ·))
    (hys : ys.Pairwise (· ≤ ·)) (hlen : xs.length = ys.length) (hbelow : ∀ a ∈ ys, below ≤ a)
    (habove : ∀ a ∈ ys, a ≤ above) (hends : below ≤ above) (hle : x ≤ x') :
    ∃ y y', evaluate binary_search xs ys (some below) (some above) x = some y ∧
      evaluate binary_search xs ys (some below) (some above) x' = some y' ∧ y ≤ y' := by
  obtain ⟨y, hy, hvalue⟩ := exists_value binary_search hxs hlen below above x
  obtain ⟨y', hy', hvalue'⟩ := exists_value binary_search hxs hlen below above x'
  refine ⟨y, y', hy, hy', ?_⟩
  rcases hle.eq_or_lt with rfl | hlt
  · exact (Option.some.inj (hy.symm.trans hy')).le
  · exact value_mono hxs hys hbelow habove hends hvalue hvalue' hlt

/-- Between the first and the last knot the exchanged function leads back, if values strictly
ascend. -/
theorem value_value {left right z : K} (hys : ys.Pairwise (· < ·))
    (h : Value xs ys below above x y) (hinside : ∃ a ∈ xs, a ≤ x) (hinside' : ∃ a ∈ xs, x ≤ a)
    (h' : Value ys xs left right y z) : z = x := by
  have hys' : ys.Pairwise (· ≤ ·) := hys.imp le_of_lt
  cases h with
  | below hall =>
      obtain ⟨a, ha, hle⟩ := hinside
      exact absurd (hall a ha) hle.not_gt
  | above hall _ =>
      obtain ⟨a, ha, hle⟩ := hinside'
      exact absurd (hall a ha) hle.not_gt
  | knot hx hy =>
      have hmem := List.mem_of_getElem? hy
      cases h' with
      | below hall => exact absurd (hall _ hmem) (lt_irrefl _)
      | above hall _ => exact absurd (hall _ hmem) (lt_irrefl _)
      | knot hy' hz =>
          rw [getElem?_inj hys hy hy'] at hx
          exact Option.some.inj (hz.symm.trans hx)
      | between hy₀ hy₁ _ _ hleft hright =>
          have hfirst := index_lt_of_lt hys' hy₀ hy hleft
          have hsecond := index_lt_of_lt hys' hy hy₁ hright
          omega
  | @between i x₀ x₁ y₀ y₁ hx₀ hx₁ hy₀ hy₁ hleft hright =>
      have hwidth := hleft.trans hright
      have hrise : y₀ < y₁ := by
        obtain ⟨hi, rfl⟩ := List.getElem?_eq_some_iff.mp hy₀
        obtain ⟨hi', rfl⟩ := List.getElem?_eq_some_iff.mp hy₁
        exact List.pairwise_iff_getElem.mp hys _ _ hi hi' (Nat.lt_succ_self _)
      have hlow := interpolate_strictMono hwidth hrise hleft
      have hhigh := interpolate_strictMono hwidth hrise hright
      rw [interpolate_left] at hlow
      rw [interpolate_right hwidth] at hhigh
      cases h' with
      | below hall => exact absurd (hall _ (List.mem_of_getElem? hy₀)) hlow.not_gt
      | above hall _ => exact absurd (hall _ (List.mem_of_getElem? hy₁)) hhigh.not_gt
      | knot hy _ =>
          have hfirst := index_lt_of_lt hys' hy₀ hy hlow
          have hsecond := index_lt_of_lt hys' hy hy₁ hhigh
          omega
      | @between j _ _ _ _ hy₀' hy₁' hx₀' hx₁' hleft' hright' =>
          have hfirst := index_lt_of_lt hys' hy₀ hy₁' (hlow.trans hright')
          have hsecond := index_lt_of_lt hys' hy₀' hy₁ (hleft'.trans hhigh)
          obtain rfl : i = j := by omega
          cases hx₀.symm.trans hx₀'
          cases hx₁.symm.trans hx₁'
          cases hy₀.symm.trans hy₀'
          cases hy₁.symm.trans hy₁'
          exact interpolate_interpolate hwidth hrise

end Order

end Evaluation

end Datasynth.Lib.KnotFunctions
