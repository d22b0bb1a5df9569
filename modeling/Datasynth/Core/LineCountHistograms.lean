import Datasynth.Lib.DoubleValues
import Mathlib.Algebra.Field.Rat
import Mathlib.Algebra.Order.Ring.Rat
import Mathlib.Tactic.FieldSimp
import Mathlib.Tactic.Linarith
import Mathlib.Tactic.LinearCombination
import Mathlib.Tactic.Positivity
import Mathlib.Tactic.Ring

/-!
The priors a document flow draws from: how many lines an entry of a source has, and which
accounts the lines of a source carry.  The random source answers with the numbers it draws.
-/

namespace Datasynth.Core.BehavioralPriors

open Datasynth.Lib.DoubleValues

class Rng (ρ : Type) where
  /-- A number of the half-open interval between two bounds. -/
  random_range : ℚ → ℚ → ρ → ℚ × ρ

/-- A record of numbers between zero and one, drawn in its order. -/
instance : Rng (List ℚ) where
  random_range lo hi record := (lo + record.headD 0 * (hi - lo), record.tail)

variable {ρ : Type} [Rng ρ]

/-- The position of the first number whose cumulative sum reaches a bound. -/
def reaching (bound : ℚ) : ℚ → List ℚ → Option ℕ
  | _, [] => none
  | cum, p :: ps =>
      let cum := nearest (cum + p)
      if bound ≤ cum then some 0 else (reaching bound cum ps).map (· + 1)

section Histograms

/-- Every bucket has its probability. -/
structure LineCountHistogram where
  buckets : List ℕ
  probabilities : List ℚ
  length_probabilities : probabilities.length = buckets.length

def sample_within_bucket (lo hi : ℕ) (rng : ρ) : ℕ × ρ :=
  if hi = lo then (lo, rng)
  else
    let weights := (List.range (hi - lo + 1)).map fun i => ((1 : ℚ) / 2) ^ i
    let total := roundedSum weights
    let (r, rng) := Rng.random_range 0 1 rng
    (((reaching r 0 (weights.map fun w => nearest (w / total))).map (lo + ·)).getD hi, rng)

def sample_target_lines_geometric (hist : LineCountHistogram) (rng : ρ) : ℕ × ρ :=
  if hist.buckets = [] then (0, rng)
  else
    let (r, rng) := Rng.random_range 0 1 rng
    let chosen_idx := (reaching r 0 hist.probabilities).getD (hist.buckets.length - 1)
    let lo := hist.buckets.getD chosen_idx 0
    -- the last bucket is a single number
    let hi_exclusive := hist.buckets.getD (chosen_idx + 1) lo
    sample_within_bucket lo (if lo < hi_exclusive then hi_exclusive - 1 else lo) rng

end Histograms

section Categories

/-- The values are in ascending order. -/
structure CategoricalDistribution where
  probabilities : List (String × ℚ)

def CategoricalDistribution.sample (d : CategoricalDistribution) (rng : ρ) : Option String × ρ :=
  let total := roundedSum (d.probabilities.map Prod.snd)
  if d.probabilities = [] ∨ total ≤ 0 then (none, rng)
  else
    let (r, rng) := Rng.random_range 0 1 rng
    let i := (reaching r 0 (d.probabilities.map fun p => nearest (p.2 / total))).getD
      (d.probabilities.length - 1)
    (d.probabilities[i]?.map Prod.fst, rng)

abbrev Conditionals := List (String × List (String × CategoricalDistribution))

structure LoadedPriors where
  lines_per_je : LineCountHistogram
  lines_per_je_by_source : List (String × LineCountHistogram)
  per_source_attribute : Option Conditionals
  source_role_gl : Option Conditionals

namespace LoadedPriors

def sample_conditional (conditionals : Option Conditionals) (source key : String) (rng : ρ) :
    Option String × ρ :=
  match conditionals.bind fun by_source => (by_source.lookup source).bind (List.lookup key) with
  | some distribution => distribution.sample rng
  | none => (none, rng)

def sample_attribute_for_source (priors : LoadedPriors) (source attr : String) (rng : ρ) :
    Option String × ρ :=
  sample_conditional priors.per_source_attribute source attr rng

def sample_gl_for_source_role (priors : LoadedPriors) (source role : String) (rng : ρ) :
    Option String × ρ :=
  sample_conditional priors.source_role_gl source role rng

/-- An account of the role, else one of the source. -/
def sample_gl (priors : LoadedPriors) (source role : String) (rng : ρ) : Option String × ρ :=
  match priors.sample_gl_for_source_role source role rng with
  | (some gl, rng) => (some gl, rng)
  | (none, rng) => priors.sample_attribute_for_source source "gl_account" rng

def sample_target_lines (priors : LoadedPriors) (source : String) (rng : ρ) : ℕ × ρ :=
  sample_target_lines_geometric
    ((priors.lines_per_je_by_source.lookup source).getD priors.lines_per_je) rng

end LoadedPriors

end Categories

end Datasynth.Core.BehavioralPriors

/-!
Histograms over a grid of buckets, with 64-bit floats as exact rationals.  The binary search of the
standard library is known by its documented result only, for it may find any of equal elements.
-/

namespace Datasynth.Core.LineCountHistograms

section Search

/-- The place of a number, or the place to insert it at, in a list in ascending order. -/
structure BinarySearch where
  search : List ℕ → ℕ → Except ℕ ℕ
  found : ∀ {l v i}, l.Pairwise (· ≤ ·) → search l v = .ok i → l[i]? = some v
  insertion : ∀ {l v i}, l.Pairwise (· ≤ ·) → search l v = .error i →
    i ≤ l.length ∧ (∀ u ∈ l.take i, u < v) ∧ ∀ u ∈ l.drop i, v < u

/-- The search for the first number that is not less. -/
def BinarySearch.first : BinarySearch where
  search l v :=
    if l[l.findIdx (v ≤ ·)]? = some v then .ok (l.findIdx (v ≤ ·))
    else .error (l.findIdx (v ≤ ·))
  found := by
    intro l v i _ hok
    split at hok
    · rename_i hget
      cases hok
      exact hget
    · cases hok
  insertion := by
    intro l v i hascending herror
    split at herror
    · cases herror
    · rename_i hget
      cases herror
      refine ⟨List.findIdx_le_length, ?_, ?_⟩
      · intro u hu
        obtain ⟨k, hk, rfl⟩ := List.mem_take_iff_getElem.mp hu
        simpa using List.not_of_lt_findIdx (lt_min_iff.mp hk).1
      · intro u hu
        obtain ⟨k, hk, rfl⟩ := List.mem_drop_iff_getElem.mp hu
        have hplace : l.findIdx (v ≤ ·) < l.length := by omega
        have hle : v ≤ l[l.findIdx (v ≤ ·)] := by
          simpa using List.findIdx_getElem (w := hplace)
        have hne : l[l.findIdx (v ≤ ·)] ≠ v := by
          simpa [List.getElem?_eq_getElem hplace] using hget
        refine (hle.lt_of_ne' hne).trans_le ?_
        rcases Nat.eq_zero_or_pos k with rfl | hpos
        · exact le_rfl
        · exact List.pairwise_iff_getElem.mp hascending _ _ hplace (by omega) (by omega)

end Search

section Model

/-- A read or write outside of a list, or a failed assertion, has no result. -/
structure LineCountHistogram where
  buckets : List ℕ
  probabilities : List ℚ
  n : ℕ

def LineCountHistogram.default : LineCountHistogram := ⟨[], [], 0⟩

variable (binary_search : BinarySearch)

def bucket_index (buckets : List ℕ) (v : ℕ) : ℕ :=
  match binary_search.search buckets v with
  | .ok i => i
  | .error i => i - 1

/-- One value counts for its bucket, or is dropped. -/
def tally (buckets : List ℕ) (least : ℕ) (counts : List ℕ × ℕ) (v : ℕ) : Option (List ℕ × ℕ) :=
  if v < least then some (counts.1, counts.2 + 1)
  else if bucket_index binary_search buckets v < counts.1.length then
    some (counts.1.modify (bucket_index binary_search buckets v) (· + 1), counts.2)
  else none

def LineCountHistogram.build (values buckets : List ℕ) : Option (LineCountHistogram × ℕ) :=
  match buckets with
  | [] => none
  | least :: _ =>
      (values.foldlM (tally binary_search buckets least)
          (List.replicate buckets.length 0, 0)).map fun counts =>
        let total := counts.1.sum
        let probabilities : List ℚ :=
          if total = 0 then List.replicate buckets.length 0
          else counts.1.map fun c : ℕ => (c : ℚ) / total
        (⟨buckets, probabilities, values.length⟩, counts.2)

def LineCountHistogram.pool (self other : LineCountHistogram) : Option LineCountHistogram :=
  if self.buckets ≠ other.buckets then none
  else
    let total_n := self.n + other.n
    if total_n = 0 then
      some ⟨self.buckets, List.replicate self.buckets.length 0, 0⟩
    else
      some
        { buckets := self.buckets
          probabilities := List.zipWith (fun pa pb => (pa * self.n + pb * other.n) / total_n)
            self.probabilities other.probabilities
          n := total_n }

end Model

section Counts

variable (binary_search : BinarySearch) (grid : List ℕ)

/-- A value that the grid has a bucket for. -/
def Keeps (v : ℕ) : Bool := ∀ least ∈ grid.head?, least ≤ v

def kept (values : List ℕ) : ℕ := values.countP (Keeps grid)

/-- How many of the values are in a bucket. -/
def countAt (i : ℕ) (values : List ℕ) : ℕ :=
  values.countP fun v => Keeps grid v && bucket_index binary_search grid v == i

variable {binary_search grid}

theorem kept_append (xs ys : List ℕ) : kept grid (xs ++ ys) = kept grid xs + kept grid ys :=
  List.countP_append

theorem countAt_append (i : ℕ) (xs ys : List ℕ) : countAt binary_search grid i (xs ++ ys) =
    countAt binary_search grid i xs + countAt binary_search grid i ys :=
  List.countP_append

theorem countAt_le_kept (i : ℕ) (values : List ℕ) :
    countAt binary_search grid i values ≤ kept grid values :=
  List.countP_mono_left fun _ _ h => (Bool.and_eq_true_iff.mp h).1

/-- The values of the grid are counted in some bucket of it. -/
theorem bucket_index_lt (hgrid : grid ≠ []) (hascending : grid.Pairwise (· ≤ ·)) (v : ℕ) :
    bucket_index binary_search grid v < grid.length := by
  have hpos := List.length_pos_iff.mpr hgrid
  rw [bucket_index]
  split
  · rename_i i hok
    exact (List.getElem?_eq_some_iff.mp (binary_search.found hascending hok)).1
  · rename_i i herror
    have hle := (binary_search.insertion hascending herror).1
    omega

theorem exists_countAt_pos (hgrid : grid ≠ []) (hascending : grid.Pairwise (· ≤ ·))
    {values : List ℕ} (h : 0 < kept grid values) :
    ∃ i < grid.length, 0 < countAt binary_search grid i values := by
  obtain ⟨v, hv, hkeeps⟩ := List.countP_pos_iff.mp h
  refine ⟨bucket_index binary_search grid v, bucket_index_lt hgrid hascending v, ?_⟩
  exact List.countP_pos_iff.mpr ⟨v, hv, by simp [hkeeps]⟩

theorem sum_modify_succ {counts : List ℕ} {i : ℕ} (h : i < counts.length) :
    (counts.modify i (· + 1)).sum = counts.sum + 1 := by
  induction counts generalizing i with
  | nil => cases h
  | cons c counts ih =>
      cases i with
      | zero => simp only [List.modify_zero_cons, List.sum_cons]; omega
      | succ i =>
          rw [List.modify_succ_cons, List.sum_cons, List.sum_cons,
            ih (Nat.lt_of_succ_lt_succ h), add_assoc]

theorem keeps_cons {least v : ℕ} {grid : List ℕ} : Keeps (least :: grid) v = true ↔ least ≤ v := by
  simp [Keeps]

variable (binary_search) in
/-- The values are counted bucket by bucket; those below the grid are dropped. -/
theorem foldlM_tally {least : ℕ} (hascending : (least :: grid).Pairwise (· ≤ ·))
    (values counts : List ℕ) (dropped : ℕ) (hlength : counts.length = (least :: grid).length) :
    ∃ counts', values.foldlM (tally binary_search (least :: grid) least) (counts, dropped) =
        some (counts', dropped + values.countP fun v => !Keeps (least :: grid) v) ∧
      counts' = counts.mapIdx
        (fun i c => c + countAt binary_search (least :: grid) i values) ∧
      counts'.sum = counts.sum + kept (least :: grid) values := by
  induction values generalizing counts dropped with
  | nil =>
      refine ⟨counts, rfl, ?_, rfl⟩
      exact List.ext_getElem (by simp) fun i h h' => by simp [countAt]
  | cons v values ih =>
      rw [List.foldlM_cons, tally]
      split
      · rename_i hbelow
        have hkeeps : Keeps (least :: grid) v = false :=
          Bool.eq_false_iff.mpr fun h => hbelow.not_ge (keeps_cons.mp h)
        obtain ⟨counts', hrun, hcounts, hsum⟩ := ih counts (dropped + 1) hlength
        refine ⟨counts', ?_, ?_, ?_⟩
        · rw [Option.bind_eq_bind, Option.bind_some, hrun, List.countP_cons, hkeeps]
          simp only [Bool.not_false, if_true]
          rw [Nat.add_right_comm, add_assoc]
        · simpa [countAt, List.countP_cons, hkeeps] using hcounts
        · simpa [kept, List.countP_cons, hkeeps] using hsum
      · rename_i habove
        have hkeeps : Keeps (least :: grid) v = true := keeps_cons.mpr (not_lt.mp habove)
        have hplace : bucket_index binary_search (least :: grid) v < counts.length := by
          rw [hlength]
          exact bucket_index_lt (List.cons_ne_nil _ _) hascending v
        rw [if_pos hplace]
        obtain ⟨counts', hrun, hcounts, hsum⟩ := ih
          (counts.modify (bucket_index binary_search (least :: grid) v) (· + 1)) dropped
          (by rw [List.length_modify, hlength])
        refine ⟨counts', ?_, ?_, ?_⟩
        · rw [Option.bind_eq_bind, Option.bind_some, hrun, List.countP_cons, hkeeps]
          simp
        · rw [hcounts]
          apply List.ext_getElem (by simp)
          intro i h h'
          simp only [List.getElem_mapIdx, List.getElem_modify, countAt, List.countP_cons, hkeeps,
            Bool.true_and, beq_iff_eq]
          split
          · omega
          · omega
        · rw [hsum, sum_modify_succ hplace, kept, kept, List.countP_cons, hkeeps]
          simp only [if_true]
          omega

/-- The histogram of some values. -/
def histogramOf (binary_search : BinarySearch) (grid values : List ℕ) : LineCountHistogram where
  buckets := grid
  probabilities := (List.range grid.length).map fun i =>
    (countAt binary_search grid i values : ℚ) / kept grid values
  n := values.length

theorem build_eq (hgrid : grid ≠ []) (hascending : grid.Pairwise (· ≤ ·)) (values : List ℕ) :
    LineCountHistogram.build binary_search values grid =
      some (histogramOf binary_search grid values,
        values.countP fun v => !Keeps grid v) := by
  cases grid with
  | nil => exact absurd rfl hgrid
  | cons least grid =>
      obtain ⟨counts, hrun, hcounts, hsum⟩ := foldlM_tally binary_search
        hascending values (List.replicate (least :: grid).length 0) 0 (by simp)
      have hrange : counts = (List.range (least :: grid).length).map fun i =>
          countAt binary_search (least :: grid) i values := by
        rw [hcounts]
        exact List.ext_getElem (by simp) fun i h h' => by simp
      have htotal : counts.sum = kept (least :: grid) values := by
        simpa using hsum
      rw [LineCountHistogram.build, hrun, Option.map_some, htotal, histogramOf, zero_add]
      simp only
      split
      · rename_i hnone
        rw [hnone, Nat.cast_zero]
        simp only [div_zero, List.map_const', List.length_range]
      · rw [hrange, List.map_map]
        rfl

end Counts

section Pooling

variable (binary_search : BinarySearch) (grid : List ℕ)

/-- The grid keeps the same share of two lists of values, or it spreads alike over its buckets what
it keeps of them. -/
def Agree (xs ys : List ℕ) : Prop :=
  xs.length * kept grid ys = ys.length * kept grid xs ∨
    ((kept grid xs = 0 ↔ kept grid ys = 0) ∧
      ∀ i < grid.length, countAt binary_search grid i xs * kept grid ys =
        countAt binary_search grid i ys * kept grid xs)

/-- What pooling says of one bucket, if it says the same as all values together. -/
def PoolsAt (xs ys : List ℕ) (i : ℕ) : Prop :=
  ((countAt binary_search grid i xs : ℚ) / kept grid xs * xs.length +
      (countAt binary_search grid i ys : ℚ) / kept grid ys * ys.length) /
        (xs.length + ys.length) =
    ((countAt binary_search grid i xs : ℚ) + countAt binary_search grid i ys) /
      (kept grid xs + kept grid ys)

variable {binary_search grid} {xs ys : List ℕ} {i : ℕ}

theorem agree_comm : Agree binary_search grid xs ys ↔ Agree binary_search grid ys xs := by
  rw [Agree, Agree, eq_comm, iff_comm (a := kept grid xs = 0)]
  simp only [eq_comm (a := countAt binary_search grid _ ys * _)]

theorem poolsAt_comm : PoolsAt binary_search grid xs ys i ↔ PoolsAt binary_search grid ys xs i := by
  rw [PoolsAt, PoolsAt, add_comm (_ / _ * _), add_comm (xs.length : ℚ),
    add_comm (countAt binary_search grid i xs : ℚ), add_comm (kept grid xs : ℚ)]

theorem kept_le_length (values : List ℕ) : kept grid values ≤ values.length := List.countP_le_length

/-- Where values of both lists are kept, the equation of a bucket is one of two products. -/
theorem poolsAt_iff_of_pos (hxs : 0 < kept grid xs) (hys : 0 < kept grid ys) :
    PoolsAt binary_search grid xs ys i ↔
      xs.length * kept grid ys = ys.length * kept grid xs ∨
        countAt binary_search grid i xs * kept grid ys =
          countAt binary_search grid i ys * kept grid xs := by
  have hlength : 0 < xs.length := hxs.trans_le (kept_le_length xs)
  have hx : (0 : ℚ) < kept grid xs := Nat.cast_pos.mpr hxs
  have hy : (0 : ℚ) < kept grid ys := Nat.cast_pos.mpr hys
  have hn : (0 : ℚ) < xs.length + ys.length := by positivity
  have hproducts : PoolsAt binary_search grid xs ys i ↔
      ((xs.length : ℚ) * kept grid ys - ys.length * kept grid xs) *
        (countAt binary_search grid i xs * kept grid ys -
          countAt binary_search grid i ys * kept grid xs) = 0 := by
    rw [PoolsAt, div_eq_div_iff hn.ne' (add_pos hx hy).ne']
    constructor
    · intro h
      field_simp at h
      linear_combination h
    · intro h
      field_simp
      linear_combination h
  rw [hproducts, mul_eq_zero, sub_eq_zero, sub_eq_zero]
  norm_cast

/-- Where no value of one list is kept, pooling weighs the other one with both. -/
theorem poolsAt_of_kept_eq_zero (hxs : kept grid xs = 0) (hys : 0 < kept grid ys)
    (hcount : 0 < countAt binary_search grid i ys) :
    PoolsAt binary_search grid xs ys i ↔ xs.length = 0 := by
  have hnone : countAt binary_search grid i xs = 0 :=
    Nat.eq_zero_of_le_zero ((countAt_le_kept i xs).trans_eq hxs)
  have hlength : 0 < ys.length := hys.trans_le (kept_le_length ys)
  have hy : (0 : ℚ) < kept grid ys := Nat.cast_pos.mpr hys
  have hc : (0 : ℚ) < countAt binary_search grid i ys := Nat.cast_pos.mpr hcount
  have hn : (0 : ℚ) < xs.length + ys.length := by positivity
  rw [PoolsAt, hnone, hxs, Nat.cast_zero, div_zero, zero_mul, zero_add, zero_add, zero_add,
    div_eq_div_iff hn.ne' hy.ne', ← Nat.cast_eq_zero (R := ℚ)]
  constructor
  · intro h
    field_simp at h
    linarith
  · intro h
    field_simp
    linarith

theorem poolsAt_iff (hgrid : grid ≠ []) (hascending : grid.Pairwise (· ≤ ·)) (xs ys : List ℕ) :
    (∀ i < grid.length, PoolsAt binary_search grid xs ys i) ↔
      Agree binary_search grid xs ys := by
  -- A list of which nothing is kept has to be empty, if something of the other one is kept.
  have hone : ∀ xs ys, kept grid xs = 0 → 0 < kept grid ys →
      ((∀ i < grid.length, PoolsAt binary_search grid xs ys i) ↔
        Agree binary_search grid xs ys) := by
    intro xs ys hxs hys
    have hagree : Agree binary_search grid xs ys ↔ xs.length = 0 := by
      rw [Agree, hxs, mul_zero, Nat.mul_eq_zero, or_iff_left hys.ne']
      simp [hys.ne']
    rw [hagree]
    constructor
    · intro h
      obtain ⟨i, hi, hcount⟩ := exists_countAt_pos hgrid hascending hys
      exact (poolsAt_of_kept_eq_zero hxs hys hcount).mp (h i hi)
    · intro hempty i _
      rcases Nat.eq_zero_or_pos (countAt binary_search grid i ys) with hnone | hcount
      · have hnone' : countAt binary_search grid i xs = 0 :=
          Nat.eq_zero_of_le_zero ((countAt_le_kept i xs).trans_eq hxs)
        simp [PoolsAt, hnone, hnone']
      · exact (poolsAt_of_kept_eq_zero hxs hys hcount).mpr hempty
  rcases Nat.eq_zero_or_pos (kept grid xs) with hxs | hxs
  · rcases Nat.eq_zero_or_pos (kept grid ys) with hys | hys
    · refine iff_of_true (fun i _ => ?_) (.inl (by rw [hxs, hys, mul_zero, mul_zero]))
      have hnone : ∀ values, kept grid values = 0 → countAt binary_search grid i values = 0 :=
        fun values h => Nat.eq_zero_of_le_zero ((countAt_le_kept i values).trans_eq h)
      simp [PoolsAt, hnone xs hxs, hnone ys hys]
    · exact hone xs ys hxs hys
  · rcases Nat.eq_zero_or_pos (kept grid ys) with hys | hys
    · rw [agree_comm, ← hone ys xs hys hxs]
      exact forall₂_congr fun i _ => poolsAt_comm
    · rw [Agree, forall₂_congr fun i _ => poolsAt_iff_of_pos hxs hys]
      constructor
      · intro h
        refine or_iff_not_imp_left.mpr fun hshare => ?_
        exact ⟨iff_of_false hxs.ne' hys.ne', fun i hi => (h i hi).resolve_left hshare⟩
      · rintro (hshare | ⟨-, hcounts⟩) i hi
        · exact .inl hshare
        · exact .inr (hcounts i hi)

theorem pool_histogramOf_iff (hgrid : grid ≠ []) (hascending : grid.Pairwise (· ≤ ·))
    (xs ys : List ℕ) :
    (histogramOf binary_search grid xs).pool (histogramOf binary_search grid ys) =
        some (histogramOf binary_search grid (xs ++ ys)) ↔
      Agree binary_search grid xs ys := by
  have hsame : ¬(histogramOf binary_search grid xs).buckets ≠
      (histogramOf binary_search grid ys).buckets := fun h => h rfl
  rw [← poolsAt_iff hgrid hascending, LineCountHistogram.pool, if_neg hsame]
  simp only [histogramOf, List.length_append, kept_append, countAt_append, Nat.cast_add]
  split
  · rename_i hnone
    obtain ⟨hxs, hys⟩ := Nat.add_eq_zero_iff.mp hnone
    obtain rfl := List.eq_nil_of_length_eq_zero hxs
    obtain rfl := List.eq_nil_of_length_eq_zero hys
    simp [PoolsAt, kept, countAt]
  · rw [List.zipWith_map, List.zipWith_self, Option.some.injEq, LineCountHistogram.mk.injEq]
    simp only [true_and, and_true, List.map_inj_left, List.mem_range]
    rfl

end Pooling

section Clients

variable (binary_search : BinarySearch) (grid : List ℕ)

def built (values : List ℕ) : Option LineCountHistogram :=
  (LineCountHistogram.build binary_search values grid).map Prod.fst

def poolBuilt (pooled built : Option LineCountHistogram) : Option LineCountHistogram :=
  pooled.bind fun pooled => built.bind pooled.pool

/-- The histograms of the clients' values, pooled one after the other. -/
def poolClients : List (List ℕ) → Option LineCountHistogram
  | [] => none
  | values :: clients =>
      clients.foldl (fun pooled values => poolBuilt pooled (built binary_search grid values))
        (built binary_search grid values)

/-- There is a histogram, and it is that of the values. -/
def Represents (pooled : Option LineCountHistogram) (values : List ℕ) : Prop :=
  ∃ h, built binary_search grid values = some h ∧ pooled = some h

variable {binary_search grid}

theorem represents_iff (hgrid : grid ≠ []) (hascending : grid.Pairwise (· ≤ ·))
    {pooled : Option LineCountHistogram} {values : List ℕ} :
    Represents binary_search grid pooled values ↔
      pooled = some (histogramOf binary_search grid values) := by
  rw [Represents, built, build_eq hgrid hascending, Option.map_some]
  constructor
  · rintro ⟨h, hbuilt, hpooled⟩
    rw [hpooled, ← hbuilt]
  · exact fun hpooled => ⟨_, rfl, hpooled⟩

theorem histogramOf_perm {values values' : List ℕ} (h : values.Perm values') :
    histogramOf binary_search grid values = histogramOf binary_search grid values' := by
  simp only [histogramOf, countAt, kept, h.countP_eq, h.length_eq]

theorem poolClients_append {before : List (List ℕ)} (hbefore : before ≠ []) (next : List ℕ) :
    poolClients binary_search grid (before ++ [next]) =
      poolBuilt (poolClients binary_search grid before) (built binary_search grid next) := by
  cases before with
  | nil => exact absurd rfl hbefore
  | cons values clients => rw [List.cons_append, poolClients, List.foldl_append]; rfl

/-- One more client, behind clients that are pooled to the histogram of their values. -/
theorem represents_append_iff (hgrid : grid ≠ []) (hascending : grid.Pairwise (· ≤ ·))
    {pooled : Option LineCountHistogram} {values : List ℕ}
    (hpooled : Represents binary_search grid pooled values) (next : List ℕ) :
    Represents binary_search grid (poolBuilt pooled (built binary_search grid next))
        (values ++ next) ↔
      Agree binary_search grid values next := by
  rw [represents_iff hgrid hascending] at hpooled ⊢
  rw [hpooled, built, build_eq hgrid hascending]
  exact pool_histogramOf_iff hgrid hascending values next

/-- Clients are pooled to the histogram of all their values, first to last, exactly if each of them
agrees with the values of those before it. -/
theorem represents_clients_iff (hgrid : grid ≠ []) (hascending : grid.Pairwise (· ≤ ·))
    (clients : List (List ℕ)) :
    (∀ pooled, pooled <+: clients → pooled ≠ [] →
        Represents binary_search grid (poolClients binary_search grid pooled) pooled.flatten) ↔
      ∀ before next, before ≠ [] → before ++ [next] <+: clients →
        Agree binary_search grid before.flatten next := by
  have hflatten : ∀ (before : List (List ℕ)) (next : List ℕ),
      (before ++ [next]).flatten = before.flatten ++ next := by simp
  constructor
  · intro h before next hbefore hprefix
    have hnow := h before ((List.prefix_append _ _).trans hprefix) hbefore
    rw [← represents_append_iff hgrid hascending hnow next, ← poolClients_append hbefore,
      ← hflatten]
    exact h _ hprefix (List.concat_ne_nil next before)
  · intro h pooled
    induction pooled using List.reverseRecOn with
    | nil => exact fun _ hne => absurd rfl hne
    | append_singleton before next ih =>
        intro hprefix _
        by_cases hbefore : before = []
        · subst hbefore
          rw [represents_iff hgrid hascending, List.nil_append, poolClients, List.foldl_nil, built,
            build_eq hgrid hascending]
          simp
        · have hnow := ih ((List.prefix_append _ _).trans hprefix) hbefore
          rw [hflatten, poolClients_append hbefore, represents_append_iff hgrid hascending hnow]
          exact h before next hbefore hprefix

/-- Pooled histograms are the histogram of all values, in whatever order these and the clients are,
exactly if the clients agree with those before them. -/
theorem pool_build_iff (binary_search : BinarySearch) {grid : List ℕ} (hgrid : grid ≠ [])
    (hascending : grid.Pairwise (· ≤ ·)) :
    (∀ xs ys, Represents binary_search grid
        (poolBuilt (built binary_search grid xs) (built binary_search grid ys)) (xs ++ ys) ↔
      Agree binary_search grid xs ys) ∧
    ∀ clients : List (List ℕ),
      (∀ order, order.Perm clients → ∀ pooled, pooled <+: order → pooled ≠ [] →
          ∀ values, values.Perm pooled.flatten →
            Represents binary_search grid (poolClients binary_search grid pooled) values) ↔
        ∀ order, order.Perm clients → ∀ before next, before ≠ [] → before ++ [next] <+: order →
          Agree binary_search grid before.flatten next := by
  constructor
  · intro xs ys
    apply represents_append_iff hgrid hascending
    rw [represents_iff hgrid hascending, built, build_eq hgrid hascending, Option.map_some]
  · intro clients
    refine forall₂_congr fun order _ => ?_
    rw [← represents_clients_iff hgrid hascending]
    refine forall₃_congr fun pooled _ _ => ?_
    constructor
    · exact fun h => h _ (.refl _)
    · intro h values hvalues
      rw [represents_iff hgrid hascending] at h ⊢
      rw [h, histogramOf_perm hvalues]

theorem represents_same_share : Represents .first [1, 2, 4]
    (poolBuilt (built .first [1, 2, 4] [0, 1]) (built .first [1, 2, 4] [0, 5])) [0, 1, 0, 5] :=
  ((pool_build_iff .first (by decide) (by decide)).1 [0, 1] [0, 5]).mpr (.inl (by decide))

/-- Two of three values lie below the grid. -/
theorem dropped_values_weigh : ¬ ∀ (binary_search : BinarySearch) (grid xs ys : List ℕ),
    grid ≠ [] → grid.Pairwise (· ≤ ·) → Represents binary_search grid
      (poolBuilt (built binary_search grid xs) (built binary_search grid ys)) (xs ++ ys) := by
  intro h
  have hgrid : ([1, 2, 4] : List ℕ) ≠ [] := by decide
  have hascending : ([1, 2, 4] : List ℕ).Pairwise (· ≤ ·) := by decide
  have hpooled := h .first [1, 2, 4] [0, 0, 1] [2] hgrid hascending
  rw [represents_iff hgrid hascending, built, built, build_eq hgrid hascending,
    build_eq hgrid hascending] at hpooled
  have hagree : Agree .first [1, 2, 4] [0, 0, 1] [2] :=
    (pool_histogramOf_iff hgrid hascending _ _).mp hpooled
  revert hagree
  rw [Agree]
  decide

end Clients

end Datasynth.Core.LineCountHistograms
