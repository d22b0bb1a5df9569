import Mathlib.Algebra.BigOperators.Ring.Finset
import Mathlib.Data.List.MinMax
import Mathlib.Data.List.Sort
import Datasynth.Fingerprints.FederatedProtocol
import Datasynth.Lib.WeightedMeans

/-!
What an aggregated fingerprint says of the partial ones: in bounds, in no particular order, and
column by column between the values that the sources supply.
-/

namespace Datasynth.Fingerprints.FederatedAggregation

open Datasynth.Fingerprints.FederatedProtocol
open Datasynth.Lib.WeightedMeans

section Validation

variable {config : FederatedConfig} {partials : List PartialFingerprint}
  {expected : List String}

/-- What the sources have to be for an aggregate. -/
structure Accepted (config : FederatedConfig) (partials : List PartialFingerprint) : Prop where
  enough : config.min_sources ≤ partials.length
  records : ∀ p ∈ partials, p.record_count ≠ 0
  budgets : ∀ p ∈ partials, p.local_epsilon ≤ config.max_epsilon_per_source
  columns : ∀ p ∈ partials, ∀ q ∈ partials, p.column_names = q.column_names

theorem check_partials_eq_ok_iff : check_partials config partials = .ok () ↔
    (∀ p ∈ partials, p.record_count ≠ 0) ∧
      ∀ p ∈ partials, p.local_epsilon ≤ config.max_epsilon_per_source := by
  induction partials with
  | nil => simp [check_partials]
  | cons p partials ih =>
      rw [check_partials, List.forall_mem_cons, List.forall_mem_cons]
      split
      · rename_i hzero
        simp [hzero]
      · rename_i hrecords
        split
        · rename_i hover
          simp [hover]
        · rename_i hbudget
          rw [ih]
          simp [hrecords, not_lt.mp hbudget]

/-- Names in the places of the expected ones are compared without a read outside of these. -/
theorem check_names_cases (source_id : String) {i : ℕ} {names : List String}
    (hlength : names.length = (expected.drop i).length) :
    ∃ checked, check_names expected source_id i names = some checked ∧
      (checked = .ok () ↔ names = expected.drop i) := by
  induction names generalizing i with
  | nil => exact ⟨_, rfl, iff_of_true rfl (List.eq_nil_of_length_eq_zero hlength.symm).symm⟩
  | cons name names ih =>
      have hi : i < expected.length := by
        rw [List.length_cons, List.length_drop] at hlength
        omega
      rw [List.drop_eq_getElem_cons hi] at hlength ⊢
      rw [check_names, List.getElem?_eq_getElem hi, Option.bind_some, List.cons.injEq]
      split
      · rename_i hname
        exact ⟨_, rfl, iff_of_false nofun fun h => hname h.1⟩
      · rename_i hname
        obtain ⟨checked, hchecked, hok⟩ := ih (Nat.succ.inj hlength)
        exact ⟨checked, hchecked, hok.trans (and_iff_right (not_not.mp hname)).symm⟩

theorem check_columns_cases (expected : List String) (partials : List PartialFingerprint) :
    ∃ checked, check_columns expected partials = some checked ∧
      (checked = .ok () ↔ ∀ p ∈ partials, p.column_names = expected) := by
  induction partials with
  | nil => exact ⟨_, rfl, iff_of_true rfl (List.forall_mem_nil _)⟩
  | cons p partials ih =>
      rw [check_columns, List.forall_mem_cons]
      split
      · rename_i hlength
        exact ⟨_, rfl, iff_of_false nofun fun h => hlength (congrArg List.length h.1)⟩
      · rename_i hlength
        obtain ⟨checked, hchecked, hok⟩ :
            ∃ checked, check_names expected p.source_id 0 p.column_names = some checked ∧
              (checked = .ok () ↔ p.column_names = expected.drop 0) :=
          check_names_cases p.source_id (not_not.mp hlength)
        rw [hchecked]
        cases checked with
        | error e => exact ⟨_, rfl, iff_of_false nofun fun h => nomatch hok.mpr h.1⟩
        | ok _ =>
            obtain ⟨rest, hrest, hrestOk⟩ := ih
            exact ⟨rest, hrest, hrestOk.trans (and_iff_right (hok.mp rfl)).symm⟩

end Validation

section Statistics

variable {values : List ℚ}

/-- The median is read inside of the values. -/
theorem compute_median_cases (values : List ℚ) :
    ∃ m, compute_median values = some m ∧ (values ≠ [] → Within values m) := by
  rw [compute_median]
  split
  · rename_i hnil
    exact ⟨0, rfl, fun hne => absurd hnil hne⟩
  · rename_i hne
    have hpos : 0 < values.length := List.length_pos_iff.mpr hne
    simp only
    have hmid : values.length / 2 < values.length := by omega
    have hbefore : values.length / 2 - 1 < values.length := by omega
    rw [List.getElem?_eq_getElem hmid, List.getElem?_eq_getElem hbefore]
    split
    · exact ⟨_, rfl, fun _ => within_average (List.getElem_mem _) (List.getElem_mem _)⟩
    · exact ⟨_, rfl, fun _ => within_of_mem (List.getElem_mem _)⟩

theorem trimmed_mean_cases (values : List ℚ) (count : ℕ) :
    ∃ m, trimmed_mean values count = some m ∧ (values ≠ [] → Within values m) := by
  have htrim : ∃ trimmed, trim_slice values count = some trimmed ∧
      (∀ x ∈ trimmed, x ∈ values) ∧ (values ≠ [] → trimmed ≠ []) := by
    rw [trim_slice]
    split
    · exact ⟨values, rfl, fun _ h => h, id⟩
    · rename_i hlong
      rw [if_neg (by omega)]
      refine ⟨_, rfl, fun x hx => List.mem_of_mem_drop (List.mem_of_mem_take hx), fun _ => ?_⟩
      rw [← List.length_pos_iff, List.length_take, List.length_drop]
      omega
  obtain ⟨trimmed, htrimmed, hsub, hne⟩ := htrim
  rw [trimmed_mean, htrimmed]
  refine ⟨_, rfl, ?_⟩
  intro hvalues
  simp only [if_neg (hne hvalues)]
  exact (within_mean (hne hvalues)).mono hsub

end Statistics

section Columns

variable {partials partials' : List PartialFingerprint} (n_cols i : ℕ)

/-- The extremes of the sources that supply a finite one. -/
def bounds (field : PartialFingerprint → List (Option ℚ)) (partials : List PartialFingerprint)
    (i : ℕ) : List ℚ :=
  partials.filterMap fun p => (field p)[i]?.join

theorem lower_some (bound : WithTop ℚ) (x : ℚ) : lower bound (some x) = min ↑x bound :=
  (min_def_lt _ _).symm

theorem raise_some (bound : WithBot ℚ) (x : ℚ) : raise bound (some x) = max bound ↑x :=
  (max_def_lt _ _).symm

theorem foldl_lower (partials : List PartialFingerprint) (bound : WithTop ℚ) :
    partials.foldl (fun bound p => lower bound p.mins[i]?.join) bound =
      min bound (bounds PartialFingerprint.mins partials i).minimum := by
  induction partials generalizing bound with
  | nil => exact (min_eq_left le_top).symm
  | cons p partials ih =>
      rw [List.foldl_cons, ih, bounds, bounds, List.filterMap_cons]
      cases p.mins[i]?.join with
      | none => rfl
      | some x => rw [List.minimum_cons, lower_some, min_comm (x : WithTop ℚ) bound, min_assoc]

theorem foldl_raise (partials : List PartialFingerprint) (bound : WithBot ℚ) :
    partials.foldl (fun bound p => raise bound p.maxs[i]?.join) bound =
      max bound (bounds PartialFingerprint.maxs partials i).maximum := by
  induction partials generalizing bound with
  | nil => exact (max_eq_left bot_le).symm
  | cons p partials ih =>
      rw [List.foldl_cons, ih, bounds, bounds, List.filterMap_cons]
      cases p.maxs[i]?.join with
      | none => rfl
      | some x => rw [List.maximum_cons, raise_some, max_assoc]

theorem agg_mins_eq (partials : List PartialFingerprint) : agg_mins n_cols partials =
    (List.range n_cols).map fun i => (bounds PartialFingerprint.mins partials i).minimum := by
  rw [agg_mins, foldl_mapIdx, mapIdx_replicate]
  apply List.map_congr_left
  intro i _
  rw [foldl_lower, min_eq_right le_top]

theorem agg_maxs_eq (partials : List PartialFingerprint) : agg_maxs n_cols partials =
    (List.range n_cols).map fun i => (bounds PartialFingerprint.maxs partials i).maximum := by
  rw [agg_maxs, foldl_mapIdx, mapIdx_replicate]
  apply List.map_congr_left
  intro i _
  rw [foldl_raise, max_eq_right bot_le]

/-- The weight of a source. -/
def records (p : PartialFingerprint) : ℚ := p.record_count

def recordTotal (partials : List PartialFingerprint) : ℕ := (partials.map (·.record_count)).sum

theorem recordTotal_cast (partials : List PartialFingerprint) :
    (recordTotal partials : ℚ) = (partials.map records).sum := by
  rw [recordTotal, Nat.cast_list_sum, List.map_map]
  rfl

theorem add_weighted_eq (weight : ℚ) (values sums : List ℚ) : add_weighted weight values sums =
    sums.mapIdx fun i sum => sum + (values[i]?.map fun x => weight * x).getD 0 := by
  rw [add_weighted]
  congr 1
  funext i sum
  cases values[i]? with
  | none => exact (add_zero sum).symm
  | some x => rfl

/-- Place by place, the values of the sources are averaged by their records. -/
theorem foldl_add_weighted (values : PartialFingerprint → List ℚ) (n : ℕ)
    (partials : List PartialFingerprint) :
    partials.foldl (fun sums p =>
        add_weighted ((p.record_count : ℚ) / recordTotal partials) (values p) sums)
        (List.replicate n 0) =
      (List.range n).map fun i => weightedMean records (fun p => (values p)[i]?) partials := by
  simp only [add_weighted_eq, recordTotal_cast]
  rw [foldl_mapIdx, mapIdx_replicate]
  apply List.map_congr_left
  intro i _
  exact (foldl_add_sum _ partials 0).trans (zero_add _)

theorem weighted_eq (partials : List PartialFingerprint)
    (values : PartialFingerprint → List ℚ) :
    weighted partials n_cols (recordTotal partials) values =
      (List.range n_cols).map fun i => weightedMean records (fun p => (values p)[i]?) partials :=
  foldl_add_weighted values n_cols partials

theorem foldlM_add_correlations (total : ℕ) {corr : List ℚ}
    (hlength : ∀ p ∈ partials, p.correlations.length = corr.length) :
    partials.foldlM (add_correlations total) corr =
      some (partials.foldl (fun corr p =>
        add_weighted ((p.record_count : ℚ) / total) p.correlations corr) corr) := by
  induction partials generalizing corr with
  | nil => rfl
  | cons p partials ih =>
      rw [List.forall_mem_cons] at hlength
      rw [List.foldlM_cons, List.foldl_cons, add_correlations, if_neg hlength.1.not_gt]
      apply ih
      intro q hq
      rw [hlength.2 q hq, add_weighted, List.length_mapIdx]

end Columns

section Combination

variable (method : AggregationMethod) (partials : List PartialFingerprint)

/-- What is reported of a column, by the method. -/
def combined (values : PartialFingerprint → List ℚ) (i : ℕ) : ℚ :=
  match method with
  | .weightedAverage => weightedMean records (fun p => (values p)[i]?) partials
  | .median => (compute_median (sorted (column values partials i))).getD 0
  | .trimmedMean =>
      (trimmed_mean (sorted (column values partials i)) (trim_count partials.length)).getD 0

def combinedCorrelations (n_cols : ℕ) : List ℚ :=
  match method with
  | .weightedAverage =>
      if (partials.all fun p => p.correlations.length = n_cols * n_cols) ∧ 0 < n_cols * n_cols then
        (List.range (n_cols * n_cols)).map
          (combined .weightedAverage partials PartialFingerprint.correlations)
      else []
  | .median => []
  | .trimmedMean => []

/-- The aggregate of sources with columns of these names. -/
def combination (column_names : List String) : AggregatedFingerprint where
  column_names := column_names
  means := (List.range column_names.length).map
    (combined method partials PartialFingerprint.means)
  stds := (List.range column_names.length).map (combined method partials PartialFingerprint.stds)
  mins := (List.range column_names.length).map fun i =>
    (bounds PartialFingerprint.mins partials i).minimum
  maxs := (List.range column_names.length).map fun i =>
    (bounds PartialFingerprint.maxs partials i).maximum
  correlations := combinedCorrelations method partials column_names.length
  total_record_count := recordTotal partials
  total_epsilon := (partials.map (·.local_epsilon)).sum
  source_count := partials.length

theorem weighted_correlations_eq (n_cols : ℕ) :
    weighted_correlations partials n_cols (recordTotal partials) =
      some (combinedCorrelations .weightedAverage partials n_cols) := by
  rw [weighted_correlations, combinedCorrelations]
  split
  · rename_i hall
    have hlength : ∀ p ∈ partials,
        p.correlations.length = (List.replicate (n_cols * n_cols) (0 : ℚ)).length := by
      intro p hp
      rw [List.length_replicate]
      exact of_decide_eq_true (List.all_eq_true.mp hall.1 p hp)
    rw [foldlM_add_correlations _ hlength, foldl_add_weighted]
    rfl
  · rfl

/-- A statistic that is always there is that of each column. -/
theorem mapM_statistic {statistic : List ℚ → Option ℚ}
    (hstatistic : ∀ values, ∃ m, statistic values = some m)
    (values : PartialFingerprint → List ℚ) (n_cols : ℕ) :
    (List.range n_cols).mapM (fun i => statistic (sorted (column values partials i))) =
      some ((List.range n_cols).map fun i =>
        (statistic (sorted (column values partials i))).getD 0) := by
  have hsome : (fun i => statistic (sorted (column values partials i))) =
      fun i => pure ((statistic (sorted (column values partials i))).getD 0) := by
    funext i
    obtain ⟨m, hm⟩ := hstatistic (sorted (column values partials i))
    rw [hm]
    rfl
  rw [hsome]
  exact List.mapM_pure

theorem aggregate_columns_eq {statistic : List ℚ → Option ℚ}
    (hstatistic : ∀ values, ∃ m, statistic values = some m) (n_cols total_record_count : ℕ)
    (total_epsilon : ℚ) :
    aggregate_columns partials n_cols total_record_count total_epsilon statistic =
      partials.head?.map fun first => .ok
        { column_names := first.column_names
          means := (List.range n_cols).map fun i =>
            (statistic (sorted (column PartialFingerprint.means partials i))).getD 0
          stds := (List.range n_cols).map fun i =>
            (statistic (sorted (column PartialFingerprint.stds partials i))).getD 0
          mins := (List.range n_cols).map fun i =>
            (bounds PartialFingerprint.mins partials i).minimum
          maxs := (List.range n_cols).map fun i =>
            (bounds PartialFingerprint.maxs partials i).maximum
          correlations := []
          total_record_count := total_record_count
          total_epsilon := total_epsilon
          source_count := partials.length } := by
  rw [aggregate_columns, mapM_statistic partials hstatistic, mapM_statistic partials hstatistic,
    agg_mins_eq, agg_maxs_eq]
  rfl

variable {config : FederatedConfig} {partials}

theorem aggregate_eq (h : Accepted config partials) {p : PartialFingerprint} (hp : p ∈ partials) :
    aggregate config partials =
      some (.ok (combination config.aggregation_method partials p.column_names)) := by
  cases partials with
  | nil => cases hp
  | cons first rest =>
      have hchecked := check_partials_eq_ok_iff.mpr ⟨h.records, h.budgets⟩
      obtain ⟨checked, hcolumns, hok⟩ := check_columns_cases first.column_names rest
      obtain rfl : checked = .ok () := hok.mpr fun q hq =>
        h.columns q (List.mem_cons_of_mem first hq) first List.mem_cons_self
      have hrecords : recordTotal (first :: rest) ≠ 0 := by
        intro hzero
        refine h.records first List.mem_cons_self ?_
        exact List.sum_eq_zero_iff.mp hzero _ (List.mem_map_of_mem List.mem_cons_self)
      rw [aggregate, if_neg h.enough.not_gt, hchecked, h.columns p hp first List.mem_cons_self]
      simp only [List.head?_cons, Option.bind_some, List.tail_cons, hcolumns]
      split
      · rename_i hmethod
        rw [hmethod, ← recordTotal, aggregate_weighted, if_neg hrecords,
          weighted_correlations_eq, weighted_eq, weighted_eq, agg_mins_eq, agg_maxs_eq]
        rfl
      · rename_i hmethod
        rw [hmethod, aggregate_median,
          aggregate_columns_eq _ fun values => (compute_median_cases values).imp fun _ h => h.1]
        rfl
      · rename_i hmethod
        rw [hmethod, aggregate_trimmed_mean,
          aggregate_columns_eq _ fun values => (trimmed_mean_cases values _).imp fun _ h => h.1]
        rfl

theorem aggregate_rejected (h : ¬Accepted config partials)
    (hread : partials = [] → config.min_sources ≠ 0) :
    ∃ e, aggregate config partials = some (.error e) := by
  rw [aggregate]
  split
  · exact ⟨_, rfl⟩
  · rename_i henough
    split
    · exact ⟨_, rfl⟩
    · rename_i hchecked
      obtain ⟨hrecords, hbudgets⟩ := check_partials_eq_ok_iff.mp hchecked
      cases partials with
      | nil => exact absurd (Nat.eq_zero_of_le_zero (not_lt.mp henough)) (hread rfl)
      | cons first rest =>
          obtain ⟨checked, hcolumns, hok⟩ := check_columns_cases first.column_names rest
          rw [List.head?_cons, Option.bind_some, List.tail_cons, hcolumns, Option.bind_some]
          cases checked with
          | error e => exact ⟨e, rfl⟩
          | ok _ =>
              have hfirst : ∀ p ∈ first :: rest, p.column_names = first.column_names :=
                List.forall_mem_cons.mpr ⟨rfl, hok.mp rfl⟩
              refine absurd ⟨not_lt.mp henough, hrecords, hbudgets, ?_⟩ h
              intro p hp q hq
              rw [hfirst p hp, hfirst q hq]

/-- Without a source there is nothing to read the column names of. -/
theorem aggregate_nil_eq_none (hread : config.min_sources = 0) : aggregate config [] = none := by
  rw [aggregate, if_neg (by simp [hread])]
  rfl

end Combination

section Permutations

variable {config : FederatedConfig} {partials partials' : List PartialFingerprint}

theorem Accepted.perm (h : Accepted config partials) (hperm : partials'.Perm partials) :
    Accepted config partials' where
  enough := h.enough.trans_eq hperm.length_eq.symm
  records p hp := h.records p (hperm.subset hp)
  budgets p hp := h.budgets p (hperm.subset hp)
  columns p hp q hq := h.columns p (hperm.subset hp) q (hperm.subset hq)

theorem sorted_perm {values values' : List ℚ} (h : values.Perm values') :
    sorted values = sorted values' := by
  have hpairwise : ∀ values : List ℚ, (sorted values).Pairwise (· ≤ ·) := fun values =>
    List.pairwise_mergeSort' (· ≤ ·) values
  refine List.Perm.eq_of_pairwise' (hpairwise values) (hpairwise values') ?_
  exact (List.mergeSort_perm _ _).trans (h.trans (List.mergeSort_perm _ _).symm)

theorem recordTotal_perm (h : partials'.Perm partials) :
    recordTotal partials' = recordTotal partials :=
  (h.map _).sum_eq

theorem combined_perm (method : AggregationMethod) (h : partials'.Perm partials)
    (values : PartialFingerprint → List ℚ) :
    combined method partials' values = combined method partials values := by
  funext i
  have hsorted : sorted (column values partials' i) = sorted (column values partials i) :=
    sorted_perm (h.filterMap _)
  cases method with
  | weightedAverage =>
      rw [combined, combined, weightedMean, weightedMean, (h.map records).sum_eq]
      exact (h.map _).sum_eq
  | median => rw [combined, combined, hsorted]
  | trimmedMean => rw [combined, combined, hsorted, h.length_eq]

theorem combination_perm (method : AggregationMethod) (h : partials'.Perm partials)
    (column_names : List String) :
    combination method partials' column_names = combination method partials column_names := by
  have hmins : ∀ i, (bounds PartialFingerprint.mins partials' i).minimum =
      (bounds PartialFingerprint.mins partials i).minimum := fun i => (h.filterMap _).minimum_eq
  have hmaxs : ∀ i, (bounds PartialFingerprint.maxs partials' i).maximum =
      (bounds PartialFingerprint.maxs partials i).maximum := fun i => (h.filterMap _).maximum_eq
  have hcorrelations : combinedCorrelations method partials' column_names.length =
      combinedCorrelations method partials column_names.length := by
    cases method with
    | weightedAverage =>
        rw [combinedCorrelations, combinedCorrelations, combined_perm _ h, h.all_eq]
    | median => rfl
    | trimmedMean => rfl
  rw [combination, combination, combined_perm method h, combined_perm method h, hcorrelations,
    recordTotal_perm h, h.length_eq, (h.map _).sum_eq]
  simp only [hmins, hmaxs]

end Permutations

section Averages

variable {partials : List PartialFingerprint} (i : ℕ)

/-- The weighted average is over the records of all sources. -/
theorem within_combined_iff (hrecords : recordTotal partials ≠ 0) :
    Within (column PartialFingerprint.means partials i)
        (combined .weightedAverage partials PartialFingerprint.means i) ↔
      Balanced records (fun p => p.means[i]?) partials := by
  have htotal : (0 : ℚ) < (partials.map records).sum := by
    rw [← recordTotal_cast]
    exact Nat.cast_pos.mpr (Nat.pos_of_ne_zero hrecords)
  exact within_weightedMean_iff htotal

/-- A statistic of the sorted values that is always among these. -/
theorem within_statistic {statistic : List ℚ → Option ℚ}
    (hcases : ∀ values, ∃ m, statistic values = some m ∧ (values ≠ [] → Within values m))
    {values : List ℚ} (hvalues : values ≠ []) :
    Within values ((statistic (sorted values)).getD 0) := by
  have hperm : (sorted values).Perm values := List.mergeSort_perm _ _
  obtain ⟨m, hm, hwithin⟩ := hcases (sorted values)
  rw [hm]
  apply (hwithin _).mono fun x hx => hperm.subset hx
  intro hnil
  rw [hnil] at hperm
  exact hvalues (List.nil_perm.mp hperm)

/-- The other methods leave out the sources without a mean. -/
theorem within_combined {method : AggregationMethod} (hmethod : method ≠ .weightedAverage)
    (hcolumn : column PartialFingerprint.means partials i ≠ []) :
    Within (column PartialFingerprint.means partials i)
      (combined method partials PartialFingerprint.means i) := by
  cases method with
  | weightedAverage => exact absurd rfl hmethod
  | median => exact within_statistic compute_median_cases hcolumn
  | trimmedMean =>
      exact within_statistic (fun values => trimmed_mean_cases values _) hcolumn

end Averages

section Soundness

variable (config : FederatedConfig) (partials : List PartialFingerprint)

/-- What an aggregate reports of a column with supplied means. -/
structure ColumnSound (aggregated : AggregatedFingerprint) (i : ℕ) : Prop where
  mean : ∃ m, aggregated.means[i]? = some m ∧
    Within (column PartialFingerprint.means partials i) m
  min : aggregated.mins[i]? = some (bounds PartialFingerprint.mins partials i).minimum
  max : aggregated.maxs[i]? = some (bounds PartialFingerprint.maxs partials i).maximum

structure Sound : Prop where
  in_bounds : aggregate config partials ≠ none
  rejects_nil : partials = [] → ∃ e, aggregate config partials = some (.error e)
  order_free : ∀ aggregated, aggregate config partials = some (.ok aggregated) →
    ∀ partials', partials'.Perm partials → aggregate config partials' = some (.ok aggregated)
  columns : ∀ aggregated, aggregate config partials = some (.ok aggregated) →
    ∀ i < aggregated.column_names.length,
      column PartialFingerprint.means partials i ≠ [] → ColumnSound partials aggregated i

variable {config partials}

theorem columnSound_combination (method : AggregationMethod) {column_names : List String} {i : ℕ}
    (hi : i < column_names.length) :
    ColumnSound partials (combination method partials column_names) i ↔
      Within (column PartialFingerprint.means partials i)
        (combined method partials PartialFingerprint.means i) := by
  have hget : ∀ {α : Type} (f : ℕ → α), ((List.range column_names.length).map f)[i]? =
      some (f i) := by
    intro α f
    rw [List.getElem?_map, List.getElem?_range hi, Option.map_some]
  constructor
  · rintro ⟨⟨m, hm, hwithin⟩, -, -⟩
    rw [combination, hget, Option.some.injEq] at hm
    rwa [hm]
  · intro h
    exact ⟨⟨_, hget _, h⟩, hget _, hget _⟩

/-- Sources are averaged soundly exactly if there are some, or none are let through, and the
sources without a mean of a column do not move its weighted average away. -/
theorem sound_aggregate_iff (config : FederatedConfig) (partials : List PartialFingerprint) :
    Sound config partials ↔
      (partials = [] → config.min_sources ≠ 0) ∧
        (config.aggregation_method = .weightedAverage → Accepted config partials →
          ∀ p ∈ partials, ∀ i < p.column_names.length,
            column PartialFingerprint.means partials i ≠ [] →
              Balanced records (fun p => p.means[i]?) partials) := by
  have hrecords : Accepted config partials → ∀ p ∈ partials, recordTotal partials ≠ 0 := by
    intro h p hp hzero
    exact h.records p hp (List.sum_eq_zero_iff.mp hzero _ (List.mem_map_of_mem hp))
  constructor
  · intro h
    constructor
    · rintro rfl hread
      exact h.in_bounds (aggregate_nil_eq_none hread)
    · intro hmethod haccepted p hp i hi hcolumn
      have hsound := h.columns _ (aggregate_eq haccepted hp) i hi hcolumn
      rw [columnSound_combination _ hi, hmethod] at hsound
      exact (within_combined_iff i (hrecords haccepted p hp)).mp hsound
  · rintro ⟨hread, hbalanced⟩
    by_cases haccepted : Accepted config partials
    · have hne : partials ≠ [] := by
        rintro rfl
        exact hread rfl (Nat.eq_zero_of_le_zero haccepted.enough)
      obtain ⟨p, hp⟩ := List.exists_mem_of_ne_nil _ hne
      have heq := aggregate_eq haccepted hp
      constructor
      · rw [heq]
        exact nofun
      · exact fun hnil => absurd hnil hne
      · intro aggregated hok partials' hperm
        rw [← hok, heq, aggregate_eq (haccepted.perm hperm) (hperm.mem_iff.mpr hp),
          combination_perm _ hperm]
      · intro aggregated hok i hi hcolumn
        obtain rfl : combination config.aggregation_method partials p.column_names = aggregated :=
          Except.ok.inj (Option.some.inj (heq.symm.trans hok))
        have hlength : i < p.column_names.length := hi
        rw [columnSound_combination _ hlength]
        by_cases hmethod : config.aggregation_method = .weightedAverage
        · rw [hmethod, within_combined_iff i (hrecords haccepted p hp)]
          exact hbalanced hmethod haccepted p hp i hlength hcolumn
        · exact within_combined i hmethod hcolumn
    · obtain ⟨e, he⟩ := aggregate_rejected haccepted hread
      constructor
      · rw [he]
        exact nofun
      · exact fun _ => ⟨e, he⟩
      · intro aggregated hok
        rw [he] at hok
        cases hok
      · intro aggregated hok
        rw [he] at hok
        cases hok

/-- One of two equal sources has a mean of 100 for its column, the other none. -/
theorem missing_mean_counts_as_zero :
    ¬ ∀ (config : FederatedConfig) (partials : List PartialFingerprint), Sound config partials := by
  intro h
  let source : List ℚ → PartialFingerprint := fun means =>
    ⟨"plant", 1, 10, ["amount"], means, [], [], [], []⟩
  have haccepted : Accepted .default [source [100], source []] := by
    constructor
    · decide
    · simp [source]
    · simp [source, FederatedConfig.default]
    · simp [source]
  have hcolumn : column PartialFingerprint.means [source [100], source []] 0 = [100] := rfl
  have hsound := (h .default [source [100], source []]).columns _
    (aggregate_eq haccepted List.mem_cons_self) 0 Nat.zero_lt_one (by simp [hcolumn])
  have hfirst : 0 < ["amount"].length := Nat.zero_lt_one
  have hwithin := (columnSound_combination .weightedAverage hfirst).mp hsound
  obtain ⟨x, hx, hle⟩ := ((within_combined_iff 0 (by decide)).mp hwithin).above
  obtain rfl : x = 100 := List.mem_singleton.mp hx
  revert hle
  simp [missing, excess, records, source]

end Soundness

end Datasynth.Fingerprints.FederatedAggregation
