import Datasynth.Lib.ExceptRuns
import Datasynth.Lib.Grouping
import Datasynth.Lib.KnotFunctions
import Mathlib.Algebra.Order.Ring.Rat
import Mathlib.Data.String.Basic
import Mathlib.Tactic.NormNum

/-!
Empirical distribution functions and the aggregates of them, with 64-bit floats as exact rationals.
The square root of the mathematical library is a parameter.
-/

namespace Datasynth.Fingerprints.EmpiricalCdfs

open Datasynth.Lib.ExceptRuns
open Datasynth.Lib.Grouping
open Datasynth.Lib.KnotFunctions
open Datasynth.Lib.SortedEntries

section Model

structure EmpiricalCdf where
  column : String
  values : List ℚ
  probabilities : List ℚ

/-- The fractions from `1 / n` to `n / n`. -/
def fractions (n : ℕ) : List ℚ := (List.range' 1 n).map fun i : ℕ => (i : ℚ) / n

def EmpiricalCdf.from_sorted_values (column : String) (values : List ℚ) : EmpiricalCdf :=
  ⟨column, values, fractions values.length⟩

variable (binary_search : OrderedSearch ℚ)

def EmpiricalCdf.cdf (self : EmpiricalCdf) (x : ℚ) : Option ℚ :=
  evaluate binary_search self.values self.probabilities (some 0) (some 1) x

def EmpiricalCdf.quantile (self : EmpiricalCdf) (p : ℚ) : Option ℚ :=
  if p ≤ 0 then some (self.values.head?.getD 0)
  else if 1 ≤ p then some (self.values.getLast?.getD 0)
  else evaluate binary_search self.probabilities self.values self.values[0]?
    (some (self.values.getLast?.getD 0)) p

end Model

section Aggregation

structure LognormalParams where
  mu : ℚ
  sigma : ℚ

structure IetSummary where
  n : ℕ
  empirical_cdf_days : EmpiricalCdf
  lognormal_fit : Option LognormalParams
  lag1_autocorr : ℚ

structure PerSourceIetPrior where
  by_source : OrderedMap String IetSummary

structure LagSummary where
  empirical_cdf_days : EmpiricalCdf
  mean : ℚ
  stddev : ℚ
  n : ℕ

structure PostingLagPrior where
  by_source : OrderedMap String LagSummary

def AGGREGATED_CDF_KNOTS : ℕ := 256

variable (binary_search : OrderedSearch ℚ)

def quantize_cdf (cdf : EmpiricalCdf) (n_knots : ℕ) : Option EmpiricalCdf :=
  if cdf.values.length ≤ n_knots then some cdf
  else ((fractions n_knots).mapM (cdf.quantile binary_search)).map fun values =>
    ⟨cdf.column, values, fractions n_knots⟩

/-- The values of a source over all clients, with what else is added up on the way. -/
def pooled {ν β : Type} (values : ν → List ℚ) (rest : β → ν → β) (start : β)
    (l : List (String × ν)) : OrderedMap String (List ℚ × β) :=
  l.foldl (fun pooled e => pooled.upsert e.1 fun entry =>
    ((entry.getD ([], start)).1 ++ values e.2, rest (entry.getD ([], start)).2 e.2)) .empty

/-- The summaries of the sources, unless one of them fails. -/
def summaries {μ ν : Type} (summary : String → μ → Option ν) (entries : List (String × μ)) :
    Option (OrderedMap String ν) :=
  (entries.mapM fun e => (summary e.1 e.2).map fun s => (e.1, s)).map .ofList

/-- The values, the autocorrelations by their weights and the counts of a source. -/
def pooled_knots (inputs : List PerSourceIetPrior) : OrderedMap String (List ℚ × ℚ × ℕ) :=
  pooled (fun summ => summ.empirical_cdf_days.values)
    (fun sums summ => (sums.1 + summ.lag1_autocorr * summ.n, sums.2 + summ.n)) (0, 0)
    (inputs.flatMap fun client => client.by_source.entries)

def iet_summary (src : String) (entry : List ℚ × ℚ × ℕ) : Option IetSummary := do
  let (values, auto_sum, n) := entry
  let values := values.mergeSort (· ≤ ·)
  let full_cdf := EmpiricalCdf.from_sorted_values ("iet_" ++ src ++ "_agg") values
  let cdf ← quantize_cdf binary_search full_cdf AGGREGATED_CDF_KNOTS
  return ⟨n, cdf, none, if 0 < n then auto_sum / n else 0⟩

def aggregate_per_source_iet (inputs : List PerSourceIetPrior) : Option PerSourceIetPrior :=
  if inputs = [] then some ⟨.empty⟩
  else
    let pooled := (pooled_knots inputs).entries.filter fun e => e.2.1 ≠ []
    (summaries (iet_summary binary_search) pooled).map PerSourceIetPrior.mk

/-- The samples of a source and its counts. -/
def pooled_lags (inputs : List PostingLagPrior) : OrderedMap String (List ℚ × ℕ) :=
  pooled (fun summ => summ.empirical_cdf_days.values) (fun n summ => n + summ.n) 0
    (inputs.flatMap fun client => client.by_source.entries)

variable (sqrt : ℚ → ℚ)

def lag_summary (src : String) (entry : List ℚ × ℕ) : Option LagSummary := do
  let (samples, n) := entry
  let samples := samples.mergeSort (· ≤ ·)
  let total := samples.length
  let mean : ℚ := if 0 < total then samples.sum / total else 0
  let var : ℚ := if 0 < total then (samples.map fun x => (x - mean) ^ 2).sum / total else 0
  let full_cdf := EmpiricalCdf.from_sorted_values ("lag_" ++ src ++ "_agg") samples
  let cdf ← quantize_cdf binary_search full_cdf AGGREGATED_CDF_KNOTS
  return ⟨cdf, mean, sqrt var, n⟩

/-- There is no prior without sources, and no result if a quantile is out of bounds. -/
def aggregate_posting_lag (inputs : List PostingLagPrior) : Option (Option PostingLagPrior) :=
  if inputs = [] then some none
  else if (pooled_lags inputs).entries = [] then some none
  else
    (summaries (lag_summary binary_search sqrt) (pooled_lags inputs).entries).map fun by_source =>
      some ⟨by_source⟩

end Aggregation

section Laws

variable {binary_search : OrderedSearch ℚ}

theorem length_fractions (n : ℕ) : (fractions n).length = n := by simp [fractions]

theorem getElem?_fractions {n i : ℕ} {p : ℚ} :
    (fractions n)[i]? = some p ↔ i < n ∧ p = ((i + 1 : ℕ) : ℚ) / n := by
  rw [fractions, List.getElem?_map, Option.map_eq_some_iff]
  constructor
  · rintro ⟨k, hk, rfl⟩
    obtain ⟨hi, rfl⟩ := List.getElem?_eq_some_iff.mp hk
    rw [List.length_range'] at hi
    refine ⟨hi, ?_⟩
    rw [List.getElem_range', one_mul, Nat.add_comm]
  · rintro ⟨hi, rfl⟩
    refine ⟨i + 1, ?_, rfl⟩
    rw [List.getElem?_eq_some_iff]
    exact ⟨by simpa using hi, by simp [Nat.add_comm]⟩

theorem fractions_ascending (n : ℕ) : (fractions n).Pairwise (· < ·) := by
  rw [List.pairwise_iff_getElem]
  intro i j hi hj hlt
  obtain ⟨hin, hpi⟩ := getElem?_fractions.mp (List.getElem?_eq_getElem hi)
  obtain ⟨-, hpj⟩ := getElem?_fractions.mp (List.getElem?_eq_getElem hj)
  rw [hpi, hpj]
  have hn : (0 : ℚ) < n := by exact_mod_cast (Nat.zero_le i).trans_lt hin
  gcongr

theorem fraction_pos {n : ℕ} {p : ℚ} (hp : p ∈ fractions n) : 0 < p ∧ p ≤ 1 := by
  obtain ⟨i, hi⟩ := List.mem_iff_getElem?.mp hp
  obtain ⟨hin, rfl⟩ := getElem?_fractions.mp hi
  have hn : (0 : ℚ) < n := by exact_mod_cast (Nat.zero_le i).trans_lt hin
  refine ⟨by positivity, ?_⟩
  rw [div_le_one hn]
  exact_mod_cast hin

variable {column : String} {values : List ℚ} {first last : ℚ}

variable (binary_search column) in
/-- The quantiles are those of the knots, also where the fractions end. -/
theorem exists_quantile (hfirst : values.head? = some first) (hlast : values.getLast? = some last)
    (p : ℚ) : ∃ a, (EmpiricalCdf.from_sorted_values column values).quantile binary_search p =
      some a ∧ Value (fractions values.length) values first last p a := by
  have hne : values ≠ [] := by
    rintro rfl
    cases hfirst
  have hpos : 0 < values.length := List.length_pos_iff.mpr hne
  rw [EmpiricalCdf.quantile, EmpiricalCdf.from_sorted_values]
  split
  · rename_i hp
    refine ⟨first, by rw [hfirst]; rfl, .below ?_⟩
    intro q hq
    exact hp.trans_lt (fraction_pos hq).1
  · split
    · rename_i hp
      refine ⟨last, by rw [hlast]; rfl, ?_⟩
      rcases hp.eq_or_lt with rfl | hlt
      · refine .knot (i := values.length - 1) ?_ ?_
        · rw [getElem?_fractions, Nat.sub_add_cancel hpos, div_self (by positivity)]
          exact ⟨Nat.sub_lt hpos Nat.one_pos, rfl⟩
        · rw [← List.getLast?_eq_getElem?, hlast]
      · refine .above ?_ ?_
        · intro q hq
          exact (fraction_pos hq).2.trans_lt hlt
        · exact List.ne_nil_of_length_pos (by rwa [length_fractions])
    · rw [← List.head?_eq_getElem?, hfirst, hlast]
      exact exists_value binary_search ((fractions_ascending _).imp le_of_lt)
        (length_fractions _) first last p

theorem countP_take (hsorted : values.Pairwise (· ≤ ·)) {i : ℕ} {v : ℚ}
    (hi : values[i]? = some v) : (values.take (i + 1)).countP (· ≤ v) = i + 1 := by
  obtain ⟨hlt, -⟩ := List.getElem?_eq_some_iff.mp hi
  have hlen : (values.take (i + 1)).length = i + 1 := by
    rw [List.length_take]
    omega
  conv_rhs => rw [← hlen]
  rw [List.countP_eq_length]
  intro a ha
  obtain ⟨k, hk, rfl⟩ := List.mem_take_iff_getElem.mp ha
  exact decide_eq_true (le_of_getElem? hsorted (List.getElem?_eq_getElem (by omega)) hi (by omega))

theorem le_countP_of_getElem? (hsorted : values.Pairwise (· ≤ ·)) {i : ℕ} {v : ℚ}
    (hi : values[i]? = some v) : i + 1 ≤ values.countP (· ≤ v) := by
  rw [← countP_take hsorted hi]
  exact (List.take_sublist _ _).countP_le

theorem countP_le_of_getElem? (hstrict : values.Pairwise (· < ·)) {i : ℕ} {v : ℚ}
    (hi : values[i]? = some v) : values.countP (· ≤ v) = i + 1 := by
  have hdrop : (values.drop (i + 1)).countP (· ≤ v) = 0 := by
    obtain ⟨hlt, rfl⟩ := List.getElem?_eq_some_iff.mp hi
    rw [List.countP_eq_zero]
    intro a ha
    obtain ⟨k, hk, rfl⟩ := List.mem_drop_iff_getElem.mp ha
    simpa using List.pairwise_iff_getElem.mp hstrict i (i + 1 + k) hlt (by omega) (by omega)
  calc values.countP (· ≤ v)
      = (values.take (i + 1) ++ values.drop (i + 1)).countP (· ≤ v) := by
        rw [List.take_append_drop]
    _ = i + 1 := by
        rw [List.countP_append, countP_take (hstrict.imp le_of_lt) hi, hdrop, Nat.add_zero]

variable (binary_search) in
/-- What a distribution function and its inverse are expected to satisfy. -/
structure Laws (dist : EmpiricalCdf) : Prop where
  cdf_mono : ∀ x y, x ≤ y →
    ∃ u v, dist.cdf binary_search x = some u ∧ dist.cdf binary_search y = some v ∧ u ≤ v
  quantile_mono : ∀ p q, p ≤ q →
    ∃ a b, dist.quantile binary_search p = some a ∧ dist.quantile binary_search q = some b ∧ a ≤ b
  cdf_knot : ∀ v ∈ dist.values,
    dist.cdf binary_search v = some ((dist.values.countP (· ≤ v) : ℚ) / dist.values.length)
  quantile_cdf : ∀ first ∈ dist.values.head?, ∀ last ∈ dist.values.getLast?, ∀ x,
    first ≤ x → x ≤ last →
      (dist.cdf binary_search x).bind (dist.quantile binary_search) = some x

variable (binary_search column) in
theorem cdf_value (hsorted : values.Pairwise (· ≤ ·)) (x : ℚ) :
    ∃ u, (EmpiricalCdf.from_sorted_values column values).cdf binary_search x = some u ∧
      Value values (fractions values.length) 0 1 x u :=
  exists_value binary_search hsorted (length_fractions _).symm 0 1 x

/-- The fraction of the values up to a knot is returned, if no two knots are equal. -/
theorem cdf_knot (hstrict : values.Pairwise (· < ·)) {v : ℚ} (hv : v ∈ values) :
    (EmpiricalCdf.from_sorted_values column values).cdf binary_search v =
      some ((values.countP (· ≤ v) : ℚ) / values.length) := by
  have hsorted := hstrict.imp le_of_lt
  obtain ⟨k, hk⟩ := List.mem_iff_getElem?.mp hv
  obtain ⟨u, hu, hvalue⟩ := cdf_value binary_search column hsorted v
  rw [hu]
  cases hvalue with
  | below hall => exact absurd (hall v hv) (lt_irrefl v)
  | above hall _ => exact absurd (hall v hv) (lt_irrefl v)
  | knot hx hy => rw [countP_le_of_getElem? hstrict hx, (getElem?_fractions.mp hy).2]
  | between hx₀ hx₁ _ _ hleft hright =>
      have hfirst := index_lt_of_lt hsorted hx₀ hk hleft
      have hsecond := index_lt_of_lt hsorted hk hx₁ hright
      omega

theorem first_le (hsorted : values.Pairwise (· ≤ ·)) (hfirst : values.head? = some first) :
    ∀ a ∈ values, first ≤ a := by
  intro a ha
  obtain ⟨i, hi⟩ := List.mem_iff_getElem?.mp ha
  rw [List.head?_eq_getElem?] at hfirst
  exact le_of_getElem? hsorted hfirst hi (Nat.zero_le i)

theorem le_last (hsorted : values.Pairwise (· ≤ ·)) (hlast : values.getLast? = some last) :
    ∀ a ∈ values, a ≤ last := by
  intro a ha
  obtain ⟨i, hi⟩ := List.mem_iff_getElem?.mp ha
  rw [List.getLast?_eq_getElem?] at hlast
  obtain ⟨hlt, -⟩ := List.getElem?_eq_some_iff.mp hi
  exact le_of_getElem? hsorted hi hlast (by omega)

/-- With ties only the law on the knots is in question. -/
theorem laws_of_knots (hne : values ≠ []) (hsorted : values.Pairwise (· ≤ ·))
    (hknot : ∀ v ∈ values, (EmpiricalCdf.from_sorted_values column values).cdf binary_search v =
      some ((values.countP (· ≤ v) : ℚ) / values.length)) :
    Laws binary_search (EmpiricalCdf.from_sorted_values column values) where
  cdf_mono := by
    intro x y hle
    exact evaluate_mono binary_search hsorted ((fractions_ascending _).imp le_of_lt)
      (length_fractions _).symm (fun p hp => (fraction_pos hp).1.le)
      (fun p hp => (fraction_pos hp).2) zero_le_one hle
  quantile_mono := by
    intro p q hle
    obtain ⟨first, hfirst⟩ := Option.isSome_iff_exists.mp (List.isSome_head?.mpr hne)
    obtain ⟨last, hlast⟩ := Option.isSome_iff_exists.mp (List.getLast?_isSome.mpr hne)
    obtain ⟨a, ha, hvalue⟩ := exists_quantile binary_search column hfirst hlast p
    obtain ⟨b, hb, hvalue'⟩ := exists_quantile binary_search column hfirst hlast q
    refine ⟨a, b, ha, hb, ?_⟩
    rcases hle.eq_or_lt with rfl | hlt
    · exact (Option.some.inj (ha.symm.trans hb)).le
    · exact value_mono ((fractions_ascending _).imp le_of_lt) hsorted (first_le hsorted hfirst)
        (le_last hsorted hlast) (first_le hsorted hfirst _ (List.mem_of_getLast? hlast))
        hvalue hvalue' hlt
  cdf_knot := hknot
  quantile_cdf := by
    intro first hfirst last hlast x hleft hright
    obtain ⟨u, hu, hvalue⟩ := cdf_value binary_search column hsorted x
    have hhead : values.head? = some first := hfirst
    obtain ⟨z, hz, hback⟩ := exists_quantile binary_search column hhead hlast u
    rw [hu, Option.bind_some, hz]
    have hinside : ∃ a ∈ values, a ≤ x := ⟨first, List.mem_of_head? hfirst, hleft⟩
    have hinside' : ∃ a ∈ values, x ≤ a := ⟨last, List.mem_of_getLast? hlast, hright⟩
    rw [value_value (fractions_ascending _) hvalue hinside hinside' hback]

/-- The first of no values is read. -/
theorem quantile_nil {p : ℚ} (hpos : 0 < p) (hlt : p < 1) :
    (EmpiricalCdf.from_sorted_values column []).quantile binary_search p = none := by
  rw [EmpiricalCdf.quantile, if_neg hpos.not_ge, if_neg hlt.not_ge, evaluate]
  split
  · rfl
  · rename_i i herror
    have hle := (binary_search.insertion List.Pairwise.nil herror).1
    rw [if_pos (Nat.le_zero.mp hle)]
    rfl

theorem not_laws_nil : ¬Laws binary_search (EmpiricalCdf.from_sorted_values column []) := by
  intro h
  obtain ⟨a, -, ha, -⟩ := h.quantile_mono (1 / 2) (1 / 2) le_rfl
  rw [quantile_nil (by norm_num) (by norm_num)] at ha
  cases ha

/-- A search that finds the first of two equal values misses the second one. -/
theorem ascending_of_laws (hsorted : values.Pairwise (· ≤ ·))
    (h : Laws OrderedSearch.first (EmpiricalCdf.from_sorted_values column values)) :
    values.Pairwise (· < ·) := by
  rw [List.pairwise_iff_getElem]
  intro i j hi hj hij
  refine (List.pairwise_iff_getElem.mp hsorted i j hi hj hij).lt_of_ne ?_
  intro heq
  have hknot := h.cdf_knot values[j] (List.getElem_mem hj)
  have hcount := le_countP_of_getElem? hsorted (List.getElem?_eq_getElem hj)
  have hfound : values.findIdx (values[j] ≤ ·) ≤ i := by
    by_contra hnot
    have hbelow := List.not_of_lt_findIdx (not_le.mp hnot)
    simp [heq] at hbelow
  rw [EmpiricalCdf.cdf, evaluate, EmpiricalCdf.from_sorted_values,
    OrderedSearch.first_eq_ok (List.getElem_mem hj) hsorted] at hknot
  obtain ⟨-, hfraction⟩ := getElem?_fractions.mp hknot
  have hlen : (values.length : ℚ) ≠ 0 := by
    exact_mod_cast (List.length_pos_of_mem (List.getElem_mem hj)).ne'
  rw [div_left_inj' hlen] at hfraction
  have hcount' : values.countP (· ≤ values[j]) = values.findIdx (values[j] ≤ ·) + 1 := by
    exact_mod_cast hfraction
  omega

theorem laws_iff (column : String) (hsorted : values.Pairwise (· ≤ ·)) :
    (∀ binary_search, Laws binary_search (EmpiricalCdf.from_sorted_values column values)) ↔
      values ≠ [] ∧ values.Pairwise (· < ·) := by
  constructor
  · intro h
    refine ⟨?_, ascending_of_laws hsorted (h _)⟩
    rintro rfl
    exact not_laws_nil (h OrderedSearch.first)
  · rintro ⟨hne, hstrict⟩ binary_search
    exact laws_of_knots hne hsorted fun v hv => cdf_knot hstrict hv

end Laws

section Stored

variable {binary_search : OrderedSearch ℚ} {sqrt : ℚ → ℚ}

variable (binary_search) in
def InBounds (dist : EmpiricalCdf) : Prop := ∀ p, ∃ a, dist.quantile binary_search p = some a

theorem inBounds_of_knots {dist : EmpiricalCdf} (hne : dist.values ≠ [])
    (hsorted : dist.probabilities.Pairwise (· ≤ ·))
    (hlen : dist.probabilities.length = dist.values.length) : InBounds binary_search dist := by
  intro p
  obtain ⟨first, hfirst⟩ := Option.isSome_iff_exists.mp (List.isSome_head?.mpr hne)
  rw [EmpiricalCdf.quantile]
  split
  · exact ⟨_, rfl⟩
  · split
    · exact ⟨_, rfl⟩
    · rw [← List.head?_eq_getElem?, hfirst]
      obtain ⟨a, ha, -⟩ := exists_value binary_search hsorted hlen first _ p
      exact ⟨a, ha⟩

theorem inBounds_from_sorted_values_iff {column : String} {values : List ℚ} :
    InBounds binary_search (EmpiricalCdf.from_sorted_values column values) ↔ values ≠ [] := by
  constructor
  · rintro h rfl
    obtain ⟨a, ha⟩ := h (1 / 2)
    rw [quantile_nil (by norm_num) (by norm_num)] at ha
    cases ha
  · intro hne
    exact inBounds_of_knots hne ((fractions_ascending _).imp le_of_lt) (length_fractions _)

variable (binary_search) in
theorem exists_quantize_cdf (column : String) (values : List ℚ) :
    ∃ cdf, quantize_cdf binary_search (.from_sorted_values column values) AGGREGATED_CDF_KNOTS =
      some cdf ∧ (InBounds binary_search cdf ↔ values ≠ []) := by
  rw [quantize_cdf]
  split
  · exact ⟨_, rfl, inBounds_from_sorted_values_iff⟩
  · rename_i hlong
    have hne : values ≠ [] := by
      rintro rfl
      exact hlong (Nat.zero_le _)
    obtain ⟨knots, hknots⟩ := exists_mapM (l := fractions AGGREGATED_CDF_KNOTS)
      fun p _ => inBounds_from_sorted_values_iff.mpr hne p
    refine ⟨_, by rw [hknots]; rfl, iff_of_true ?_ hne⟩
    have hlen := congrArg List.length (mapM_eq_some_iff.mp hknots)
    rw [List.length_map, List.length_map] at hlen
    refine inBounds_of_knots ?_ ((fractions_ascending _).imp le_of_lt) hlen
    rintro rfl
    rw [length_fractions] at hlen
    cases hlen

theorem exists_summaries {μ ν : Type} {summary : String → μ → Option ν}
    {l : List (String × μ)} (hl : (l.map Prod.fst).Nodup)
    (h : ∀ e ∈ l, ∃ s, summary e.1 e.2 = some s) :
    ∃ m, summaries summary l = some m ∧
      ∀ e, e ∈ m.entries ↔ ∃ a ∈ l, a.1 = e.1 ∧ summary a.1 a.2 = some e.2 := by
  obtain ⟨r, hr⟩ := exists_mapM (f := fun e => (summary e.1 e.2).map fun s => (e.1, s)) fun e he =>
    (h e he).imp' (fun s => (e.1, s)) fun s hs => by rw [hs]; rfl
  have hmap := mapM_eq_some_iff.mp hr
  have hmem : ∀ e, e ∈ r ↔ ∃ a ∈ l, a.1 = e.1 ∧ summary a.1 a.2 = some e.2 := by
    intro e
    have hiff : e ∈ r ↔ some e ∈ r.map some := by simp
    rw [hiff, ← hmap, List.mem_map]
    refine exists_congr fun a => and_congr_right fun _ => ?_
    rw [Option.map_eq_some_iff]
    constructor
    · rintro ⟨s, hs, rfl⟩
      exact ⟨rfl, hs⟩
    · rintro ⟨hkey, hs⟩
      exact ⟨e.2, hs, by rw [hkey]⟩
  have hkeys : r.map Prod.fst = l.map Prod.fst := by
    have hsome : (l.map fun e => ((summary e.1 e.2).map fun s => (e.1, s)).map Prod.fst) =
        l.map fun e => some e.1 := by
      refine List.map_congr_left fun a ha => ?_
      obtain ⟨s, hs⟩ := h a ha
      rw [hs]
      rfl
    have hboth := congrArg (List.map (Option.map Prod.fst)) hmap
    rw [List.map_map, List.map_map] at hboth
    refine List.map_injective_iff.mpr (Option.some_injective String) ?_
    rw [List.map_map, List.map_map]
    exact hboth.symm.trans hsome
  refine ⟨.ofList r, by rw [summaries, hr]; rfl, ?_⟩
  intro e
  rw [OrderedMap.mem_entries_iff, ← hmem]
  constructor
  · exact OrderedMap.mem_of_find?_ofList
  · exact OrderedMap.find?_ofList_eq_some_of_nodup (hkeys ▸ hl)

theorem fst_foldl_append {α β γ : Type*} (values : α → List γ) (rest : β → α → β) (l : List α)
    (start : List γ × β) :
    (l.foldl (fun acc a => (acc.1 ++ values a, rest acc.2 a)) start).1 =
      start.1 ++ l.flatMap values := by
  induction l generalizing start with
  | nil => simp
  | cons a l ih => rw [List.foldl_cons, ih, List.flatMap_cons, List.append_assoc]

section Pooled

variable {ν β : Type} {values : ν → List ℚ} {rest : β → ν → β} {start : β} {l : List (String × ν)}

variable (values rest start) in
theorem find?_pooled {k : String} {e : String × ν} (he : e ∈ l) (hk : e.1 = k) :
    ∃ entry, (pooled values rest start l).find? k = some entry ∧
      entry.1 = (l.filter (·.1 = k)).flatMap fun e => values e.2 := by
  have hne : l.filter (·.1 = k) ≠ [] :=
    List.ne_nil_of_mem (List.mem_filter.mpr ⟨he, decide_eq_true hk⟩)
  refine ⟨(l.filter (·.1 = k)).foldl (fun acc e => (acc.1 ++ values e.2, rest acc.2 e.2))
    ([], start), ?_, ?_⟩
  · rw [pooled, find?_foldl_upsert Prod.fst]
    exact foldl_getD (fun acc e => (acc.1 ++ values e.2, rest acc.2 e.2)) _ hne none
  · exact fst_foldl_append (fun e : String × ν => values e.2) (fun b e => rest b e.2) _ _

theorem mem_of_find?_pooled {k : String} {entry : List ℚ × β}
    (h : (pooled values rest start l).find? k = some entry) : ∃ e ∈ l, e.1 = k := by
  rw [pooled, find?_foldl_upsert Prod.fst] at h
  rcases eq_or_ne (l.filter (·.1 = k)) [] with hnil | hne
  · rw [hnil] at h
    cases h
  · obtain ⟨e, he⟩ := List.exists_mem_of_ne_nil _ hne
    rw [List.mem_filter, decide_eq_true_eq] at he
    exact ⟨e, he⟩

/-- No key is left without values, just if every key that occurs has one somewhere. -/
theorem pooled_ne_nil_iff : (∀ e ∈ (pooled values rest start l).entries, e.2.1 ≠ []) ↔
    ∀ e ∈ l, ∃ e' ∈ l, e'.1 = e.1 ∧ values e'.2 ≠ [] := by
  constructor
  · intro h e he
    obtain ⟨entry, hfind, hvalues⟩ :=
      find?_pooled values rest start he rfl
    have hne := h (e.1, entry) ((OrderedMap.mem_entries_iff _).mpr hfind)
    rw [hvalues] at hne
    obtain ⟨v, hv⟩ := List.exists_mem_of_ne_nil _ hne
    obtain ⟨e', he', hv'⟩ := List.mem_flatMap.mp hv
    rw [List.mem_filter, decide_eq_true_eq] at he'
    exact ⟨e', he'.1, he'.2, List.ne_nil_of_mem hv'⟩
  · intro h e he
    have hfind := (OrderedMap.mem_entries_iff _).mp he
    obtain ⟨a, ha, hkey⟩ := mem_of_find?_pooled hfind
    obtain ⟨entry, hfind', hvalues⟩ :=
      find?_pooled values rest start ha hkey
    obtain rfl := Option.some.inj (hfind.symm.trans hfind')
    obtain ⟨a', ha', hkey', hne⟩ := h a ha
    rw [hvalues]
    obtain ⟨v, hv⟩ := List.exists_mem_of_ne_nil _ hne
    refine List.ne_nil_of_mem (List.mem_flatMap.mpr ⟨a', List.mem_filter.mpr ⟨ha', ?_⟩, hv⟩)
    exact decide_eq_true (hkey'.trans hkey)

end Pooled

theorem mergeSort_ne_nil_iff {values : List ℚ} : values.mergeSort (· ≤ ·) ≠ [] ↔ values ≠ [] := by
  rw [ne_eq, ← List.length_eq_zero_iff, List.length_mergeSort, List.length_eq_zero_iff]

variable (binary_search sqrt) in
theorem exists_lag_summary (src : String) (entry : List ℚ × ℕ) :
    ∃ summary, lag_summary binary_search sqrt src entry = some summary ∧
      (InBounds binary_search summary.empirical_cdf_days ↔ entry.1 ≠ []) := by
  obtain ⟨cdf, hcdf, hbounds⟩ := exists_quantize_cdf binary_search
    ("lag_" ++ src ++ "_agg") (entry.1.mergeSort (· ≤ ·))
  exact ⟨_, by simp only [lag_summary, hcdf]; rfl, hbounds.trans mergeSort_ne_nil_iff⟩

variable (binary_search) in
theorem exists_iet_summary (src : String) (entry : List ℚ × ℚ × ℕ) :
    ∃ summary, iet_summary binary_search src entry = some summary ∧
      (InBounds binary_search summary.empirical_cdf_days ↔ entry.1 ≠ []) := by
  obtain ⟨cdf, hcdf, hbounds⟩ := exists_quantize_cdf binary_search
    ("iet_" ++ src ++ "_agg") (entry.1.mergeSort (· ≤ ·))
  exact ⟨_, by simp only [iet_summary, hcdf]; rfl, hbounds.trans mergeSort_ne_nil_iff⟩

/-- A source has a sample from some client. -/
def Sampled (inputs : List PostingLagPrior) (src : String) : Prop :=
  ∃ client ∈ inputs, ∃ e ∈ client.by_source.entries,
    e.1 = src ∧ e.2.empirical_cdf_days.values ≠ []

variable (binary_search) in
/-- The priors are stored, and no quantile of them is out of bounds. -/
def StoredIets (inputs : List PerSourceIetPrior) : Prop :=
  ∃ prior, aggregate_per_source_iet binary_search inputs = some prior ∧
    ∀ e ∈ prior.by_source.entries, InBounds binary_search e.2.empirical_cdf_days

variable (binary_search sqrt) in
def StoredLags (inputs : List PostingLagPrior) : Prop :=
  ∃ stored, aggregate_posting_lag binary_search sqrt inputs = some stored ∧
    ∀ prior ∈ stored, ∀ e ∈ prior.by_source.entries, InBounds binary_search e.2.empirical_cdf_days

/-- Sources without values are not stored. -/
theorem storedIets (inputs : List PerSourceIetPrior) : StoredIets binary_search inputs := by
  rw [StoredIets, aggregate_per_source_iet]
  split
  · exact ⟨_, rfl, List.forall_mem_nil _⟩
  · have hkeys : (((pooled_knots inputs).entries.filter fun e => e.2.1 ≠ []).map Prod.fst).Nodup :=
      (pooled_knots inputs).keys_nodup.sublist (List.filter_sublist.map _)
    obtain ⟨m, hm, hmem⟩ := exists_summaries hkeys
      fun e _ => (exists_iet_summary binary_search e.1 e.2).imp fun _ h => h.1
    refine ⟨⟨m⟩, congrArg (Option.map PerSourceIetPrior.mk) hm, ?_⟩
    intro e he
    obtain ⟨a, ha, -, hsummary⟩ := (hmem e).mp he
    obtain ⟨summary, hsummary', hbounds⟩ := exists_iet_summary binary_search a.1 a.2
    obtain rfl := Option.some.inj (hsummary.symm.trans hsummary')
    exact hbounds.mpr (of_decide_eq_true (List.mem_filter.mp ha).2)

theorem storedLags_iff_pooled (inputs : List PostingLagPrior) :
    StoredLags binary_search sqrt inputs ↔ ∀ e ∈ (pooled_lags inputs).entries, e.2.1 ≠ [] := by
  rw [StoredLags, aggregate_posting_lag]
  split
  · rename_i hnil
    subst hnil
    exact iff_of_true ⟨none, rfl, by rintro _ ⟨⟩⟩ (List.forall_mem_nil _)
  · split
    · rename_i hnil
      rw [hnil]
      exact iff_of_true ⟨none, rfl, by rintro _ ⟨⟩⟩ (List.forall_mem_nil _)
    · obtain ⟨m, hm, hmem⟩ := exists_summaries (pooled_lags inputs).keys_nodup
        fun e _ => (exists_lag_summary binary_search sqrt e.1 e.2).imp fun _ h => h.1
      rw [hm]
      constructor
      · rintro ⟨stored, hstored, hbounds⟩ e he
        cases hstored
        obtain ⟨summary, hsummary, hiff⟩ := exists_lag_summary binary_search sqrt e.1 e.2
        exact hiff.mp (hbounds _ rfl (e.1, summary) ((hmem _).mpr ⟨e, he, rfl, hsummary⟩))
      · intro h
        refine ⟨some ⟨m⟩, rfl, ?_⟩
        rintro prior hprior e he
        cases hprior
        obtain ⟨a, ha, -, hsummary⟩ := (hmem e).mp he
        obtain ⟨summary, hsummary', hiff⟩ := exists_lag_summary binary_search sqrt a.1 a.2
        obtain rfl := Option.some.inj (hsummary.symm.trans hsummary')
        exact hiff.mpr (h a ha)

theorem storedLags_iff {inputs : List PostingLagPrior} : StoredLags binary_search sqrt inputs ↔
    ∀ client ∈ inputs, ∀ e ∈ client.by_source.entries, Sampled inputs e.1 := by
  rw [storedLags_iff_pooled, pooled_lags, pooled_ne_nil_iff]
  simp only [List.mem_flatMap, Sampled]
  constructor
  · intro h client hclient e he
    obtain ⟨e', ⟨client', hclient', he'⟩, hkey, hne⟩ := h e ⟨client, hclient, he⟩
    exact ⟨client', hclient', e', he', hkey, hne⟩
  · rintro h e ⟨client, hclient, he⟩
    obtain ⟨client', hclient', e', he', hkey, hne⟩ := h client hclient e he
    exact ⟨e', ⟨client', hclient', he'⟩, hkey, hne⟩

end Stored

section Result

/-- The laws hold whatever the search returns, and no stored quantile is out of bounds, if values
do not repeat and every source with a lag has a sample. -/
theorem laws_and_bounds_iff (sqrt : ℚ → ℚ) (column : String) {values : List ℚ}
    (hsorted : values.Pairwise (· ≤ ·)) (iets : List PerSourceIetPrior)
    (lags : List PostingLagPrior) :
    (∀ binary_search, Laws binary_search (EmpiricalCdf.from_sorted_values column values) ∧
        StoredIets binary_search iets ∧ StoredLags binary_search sqrt lags) ↔
      (values ≠ [] ∧ values.Pairwise (· < ·)) ∧
        ∀ client ∈ lags, ∀ e ∈ client.by_source.entries, Sampled lags e.1 := by
  rw [← laws_iff column hsorted]
  constructor
  · intro h
    exact ⟨fun binary_search => (h binary_search).1,
      storedLags_iff.mp (h OrderedSearch.first).2.2⟩
  · rintro ⟨hlaws, hsampled⟩ binary_search
    exact ⟨hlaws binary_search, storedIets iets, storedLags_iff.mpr hsampled⟩

theorem laws_and_bounds_two_values :
    Laws OrderedSearch.first (EmpiricalCdf.from_sorted_values "days" [1, 2]) ∧
      StoredLags OrderedSearch.first id
        [⟨.ofList [("KR", ⟨EmpiricalCdf.from_sorted_values "days" [1, 2], 3 / 2, 1 / 2, 2⟩)]⟩] := by
  have h := (laws_and_bounds_iff id "days" (show List.Pairwise (· ≤ ·) [(1 : ℚ), 2] by norm_num) []
    [⟨.ofList [("KR", ⟨EmpiricalCdf.from_sorted_values "days" [1, 2], 3 / 2, 1 / 2, 2⟩)]⟩]).mpr
      ⟨⟨List.cons_ne_nil _ _, by norm_num⟩, by
        intro client hclient e he
        cases List.mem_singleton.mp hclient
        cases List.mem_singleton.mp he
        exact ⟨_, List.mem_singleton_self _, _, List.mem_singleton_self _, rfl,
          List.cons_ne_nil _ _⟩⟩
  exact ⟨(h _).1, (h _).2.2⟩

/-- Of two equal values the first one is found, and a source without samples is stored. -/
theorem tied_values_and_missing_samples :
    ¬Laws OrderedSearch.first (EmpiricalCdf.from_sorted_values "days" [1, 1]) ∧
      ¬StoredLags OrderedSearch.first id
        [⟨.ofList [("KR", ⟨EmpiricalCdf.from_sorted_values "days" [], 0, 0, 0⟩)]⟩] := by
  constructor
  · intro h
    exact absurd (ascending_of_laws (by norm_num) h) (by norm_num)
  · rw [storedLags_iff]
    intro h
    obtain ⟨client, hclient, e, he, -, hne⟩ := h _ (List.mem_singleton_self _)
      ("KR", ⟨EmpiricalCdf.from_sorted_values "days" [], 0, 0, 0⟩) (List.mem_singleton_self _)
    cases List.mem_singleton.mp hclient
    cases List.mem_singleton.mp he
    exact hne rfl

end Result

end Datasynth.Fingerprints.EmpiricalCdfs
