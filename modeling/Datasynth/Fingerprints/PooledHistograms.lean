import Datasynth.Core.LineCountHistograms
import Datasynth.Lib.Grouping
import Mathlib.Algebra.BigOperators.Group.List.Basic
import Mathlib.Data.String.Basic

/-!
The aggregation of the clients' histograms of lines, lifetimes, segments and fan-outs, and which of
their observations it keeps.
-/

namespace Datasynth.Fingerprints.PooledHistograms

open Datasynth.Core.LineCountHistograms
open Datasynth.Lib.CountedValues
open Datasynth.Lib.SortedEntries

universe u

section Model

abbrev Histograms := OrderedMap String LineCountHistogram

structure LinesPerJePrior where
  overall : LineCountHistogram
  by_source : Histograms
  min_jes_per_source : ℕ

def LinesPerJePrior.default : LinesPerJePrior := ⟨.default, OrderedMap.empty, 0⟩

structure ActiveLifetimePrior where
  by_source : Histograms
  overall : LineCountHistogram

def ActiveLifetimePrior.default : ActiveLifetimePrior := ⟨OrderedMap.empty, .default⟩

structure SourceSegmentSummary where
  segment_count_histogram : LineCountHistogram
  segment_length_histogram : LineCountHistogram
  gap_length_histogram : LineCountHistogram

structure ActiveSegmentsPrior where
  by_source : OrderedMap String SourceSegmentSummary

def ActiveSegmentsPrior.default : ActiveSegmentsPrior := ⟨OrderedMap.empty⟩

structure FanoutPrior where
  by_attribute : Histograms

def FanoutPrior.default : FanoutPrior := ⟨OrderedMap.empty⟩

/-- A client with another grid is left out. -/
def pool_overall (first : LineCountHistogram) (clients : List LineCountHistogram) :
    LineCountHistogram :=
  clients.foldl (fun overall client =>
    match overall.pool client with
    | some pooled => pooled
    | none => overall) first

/-- A histogram with another grid takes the place of the one there is. -/
def merged (existing : Option LineCountHistogram) (hist : LineCountHistogram) :
    LineCountHistogram :=
  match existing with
  | some existing => (existing.pool hist).getD hist
  | none => hist

def merged_summary (existing : Option SourceSegmentSummary) (summ : SourceSegmentSummary) :
    SourceSegmentSummary :=
  match existing with
  | some existing =>
      { segment_count_histogram :=
          (existing.segment_count_histogram.pool summ.segment_count_histogram).getD
            summ.segment_count_histogram
        segment_length_histogram :=
          (existing.segment_length_histogram.pool summ.segment_length_histogram).getD
            summ.segment_length_histogram
        gap_length_histogram :=
          (existing.gap_length_histogram.pool summ.gap_length_histogram).getD
            summ.gap_length_histogram }
  | none => summ

/-- The entries of all clients, those of one key merged one after the other. -/
def merge_by_key {ν : Type u} (merge : Option ν → ν → ν) (inputs : List (OrderedMap String ν)) :
    OrderedMap String ν :=
  inputs.foldl (fun by_key client =>
    client.entries.foldl (fun by_key e => by_key.upsert e.1 fun existing => merge existing e.2)
      by_key) .empty

def aggregate_lines_per_je (inputs : List LinesPerJePrior) : LinesPerJePrior :=
  match inputs with
  | [] => .default
  | first :: rest =>
      { overall := pool_overall first.overall (rest.map LinesPerJePrior.overall)
        by_source := merge_by_key merged (inputs.map LinesPerJePrior.by_source)
        min_jes_per_source := first.min_jes_per_source }

def aggregate_active_lifetime (inputs : List ActiveLifetimePrior) : ActiveLifetimePrior :=
  match inputs with
  | [] => .default
  | first :: rest =>
      { overall := pool_overall first.overall (rest.map ActiveLifetimePrior.overall)
        by_source := merge_by_key merged (inputs.map ActiveLifetimePrior.by_source) }

def aggregate_active_segments (inputs : List ActiveSegmentsPrior) : ActiveSegmentsPrior :=
  if inputs = [] then .default
  else ⟨merge_by_key merged_summary (inputs.map ActiveSegmentsPrior.by_source)⟩

def aggregate_fanout (inputs : List FanoutPrior) : FanoutPrior :=
  if inputs = [] then .default
  else ⟨merge_by_key merged (inputs.map FanoutPrior.by_attribute)⟩

end Model

section Pooling

variable {self other : LineCountHistogram}

theorem pool_eq_none (h : self.buckets ≠ other.buckets) : self.pool other = none := by
  rw [LineCountHistogram.pool, if_pos h]

theorem exists_pool (h : self.buckets = other.buckets) :
    ∃ pooled, self.pool other = some pooled ∧ pooled.buckets = self.buckets ∧
      pooled.n = self.n + other.n := by
  rw [LineCountHistogram.pool, if_neg (not_not.mpr h)]
  simp only
  split
  · rename_i hnone
    exact ⟨_, rfl, rfl, hnone.symm⟩
  · exact ⟨_, rfl, rfl, rfl⟩

/-- Of the overall histograms, those over the first grid are counted. -/
theorem n_pool_overall (first : LineCountHistogram) (clients : List LineCountHistogram) :
    (pool_overall first clients).n = first.n +
      ((clients.filter fun client => client.buckets = first.buckets).map
        LineCountHistogram.n).sum := by
  rw [pool_overall]
  induction clients generalizing first with
  | nil => rfl
  | cons client clients ih =>
      rw [List.foldl_cons, List.filter_cons]
      by_cases hgrid : client.buckets = first.buckets
      · obtain ⟨pooled, hpool, hbuckets, hn⟩ := exists_pool hgrid.symm
        rw [hpool, if_pos (decide_eq_true hgrid), List.map_cons, List.sum_cons, ← add_assoc, ← hn,
          ← hbuckets]
        exact ih pooled
      · rw [pool_eq_none (Ne.symm hgrid), if_neg (by simpa using hgrid)]
        exact ih first

/-- What is merged under one key. -/
def mergeAll (existing : LineCountHistogram) (hists : List LineCountHistogram) :
    LineCountHistogram :=
  hists.foldl (fun existing hist => merged (some existing) hist) existing

theorem merged_of_eq (h : self.buckets = other.buckets) :
    (merged (some self) other).buckets = self.buckets ∧
      (merged (some self) other).n = self.n + other.n := by
  obtain ⟨pooled, hpool, hbuckets, hn⟩ := exists_pool h
  rw [merged, hpool]
  exact ⟨hbuckets, hn⟩

theorem merged_of_ne (h : self.buckets ≠ other.buckets) : merged (some self) other = other := by
  rw [merged, pool_eq_none h]
  rfl

theorem n_mergeAll_le (existing : LineCountHistogram) (hists : List LineCountHistogram) :
    (mergeAll existing hists).n ≤ existing.n + (hists.map LineCountHistogram.n).sum := by
  induction hists generalizing existing with
  | nil => exact le_rfl
  | cons hist hists ih =>
      rw [mergeAll, List.foldl_cons, List.map_cons, List.sum_cons]
      refine (ih (merged (some existing) hist)).trans ?_
      by_cases hgrid : existing.buckets = hist.buckets
      · rw [(merged_of_eq hgrid).2, add_assoc]
      · rw [merged_of_ne hgrid]
        exact Nat.le_add_left _ _

/-- Nothing was observed over the one grid, or the other one is the same. -/
def Poolable (hist later : LineCountHistogram) : Prop :=
  hist.n = 0 ∨ hist.buckets = later.buckets

theorem n_mergeAll_eq_iff (existing : LineCountHistogram) (hists : List LineCountHistogram) :
    (mergeAll existing hists).n = existing.n + (hists.map LineCountHistogram.n).sum ↔
      (existing :: hists).Pairwise Poolable := by
  induction hists generalizing existing with
  | nil => exact iff_of_true rfl (List.pairwise_singleton _ _)
  | cons hist hists ih =>
      rw [mergeAll, List.foldl_cons, ← mergeAll, List.map_cons, List.sum_cons]
      by_cases hgrid : existing.buckets = hist.buckets
      · obtain ⟨hbuckets, hn⟩ := merged_of_eq hgrid
        rw [← add_assoc, ← hn, ih, List.pairwise_cons, List.pairwise_cons, List.pairwise_cons,
          List.forall_mem_cons, and_iff_right (show Poolable existing hist from .inr hgrid),
          ← and_assoc]
        refine and_congr_left fun _ => ?_
        rw [← forall₂_and]
        refine forall₂_congr fun later _ => ?_
        rw [Poolable, Poolable, Poolable, hn, hbuckets, Nat.add_eq_zero_iff, hgrid, and_or_right]
      · have hle := n_mergeAll_le hist hists
        rw [merged_of_ne hgrid, List.pairwise_cons, List.forall_mem_cons, ← ih]
        constructor
        · intro h
          have hnone : existing.n = 0 := by omega
          exact ⟨⟨.inl hnone, fun later _ => .inl hnone⟩, by omega⟩
        · rintro ⟨⟨hfirst, -⟩, hrest⟩
          have hnone : existing.n = 0 := hfirst.resolve_right hgrid
          omega

/-- The overall histograms that are not over the first grid have no observations. -/
def FirstGrid (hists : List LineCountHistogram) : Prop :=
  ∀ first ∈ hists.head?, ∀ hist ∈ hists, hist.n = 0 ∨ hist.buckets = first.buckets

theorem sum_filter_eq_iff (buckets : List ℕ) (clients : List LineCountHistogram) :
    ((clients.filter fun client => client.buckets = buckets).map LineCountHistogram.n).sum =
        (clients.map LineCountHistogram.n).sum ↔
      ∀ client ∈ clients, client.n = 0 ∨ client.buckets = buckets := by
  induction clients with
  | nil => exact iff_of_true rfl (List.forall_mem_nil _)
  | cons client clients ih =>
      have hle : ((clients.filter fun client => client.buckets = buckets).map
          LineCountHistogram.n).sum ≤ (clients.map LineCountHistogram.n).sum :=
        (List.filter_sublist.map _).sum_le_sum fun _ _ => Nat.zero_le _
      rw [List.forall_mem_cons, List.filter_cons, List.map_cons, List.sum_cons]
      split
      · rename_i hsame
        rw [List.map_cons, List.sum_cons, Nat.add_left_cancel_iff, ih,
          and_iff_right (.inr (of_decide_eq_true hsame))]
      · rename_i hother
        rw [or_iff_left fun h => hother (decide_eq_true h)]
        constructor
        · intro h
          exact ⟨by omega, ih.mp (by omega)⟩
        · rintro ⟨hnone, hrest⟩
          rw [hnone, zero_add]
          exact ih.mpr hrest

theorem n_pool_overall_eq_iff (first : LineCountHistogram) (clients : List LineCountHistogram) :
    (pool_overall first clients).n = ((first :: clients).map LineCountHistogram.n).sum ↔
      FirstGrid (first :: clients) := by
  rw [n_pool_overall, List.map_cons, List.sum_cons, Nat.add_left_cancel_iff, sum_filter_eq_iff]
  simp [FirstGrid]

end Pooling

section ByKey

variable {ν : Type u} (merge : Option ν → ν → ν) (field : ν → LineCountHistogram)

/-- What the clients have under a key is merged in their order. -/
theorem find?_merge_by_key (inputs : List (OrderedMap String ν)) (key : String) :
    (merge_by_key merge inputs).find? key =
      (inputs.filterMap (·.find? key)).foldl (fun existing v => some (merge existing v)) none := by
  have hrun : ∀ (inputs : List (OrderedMap String ν)) (by_key : OrderedMap String ν),
      (inputs.foldl (fun by_key client => client.entries.foldl (fun by_key e =>
          by_key.upsert e.1 fun existing => merge existing e.2) by_key) by_key).find? key =
        (inputs.filterMap (·.find? key)).foldl (fun existing v => some (merge existing v))
          (by_key.find? key) := by
    intro inputs
    induction inputs with
    | nil => exact fun _ => rfl
    | cons client inputs ih =>
        intro by_key
        rw [List.foldl_cons, ih, find?_foldl_entries_upsert, List.filterMap_cons]
        cases client.find? key with
        | none => rfl
        | some v => rfl
  exact hrun inputs .empty

def observed (by_key : OrderedMap String ν) (key : String) : ℕ :=
  ((by_key.find? key).map fun v => (field v).n).getD 0

/-- Under each key the observations of all clients. -/
def KeepsAll (result : OrderedMap String ν) (clients : List (OrderedMap String ν)) : Prop :=
  ∀ key, observed field result key = (clients.map fun client => observed field client key).sum

/-- Under each key, only histograms without observations come before one over another grid. -/
def AllPoolable (clients : List (OrderedMap String ν)) : Prop :=
  ∀ key, ((clients.filterMap (·.find? key)).map field).Pairwise Poolable

theorem sum_observed (clients : List (OrderedMap String ν)) (key : String) :
    (clients.map fun client => observed field client key).sum =
      (((clients.filterMap (·.find? key)).map field).map LineCountHistogram.n).sum := by
  induction clients with
  | nil => rfl
  | cons client clients ih =>
      rw [List.map_cons, List.sum_cons, ih, observed, List.filterMap_cons]
      cases client.find? key with
      | none => exact zero_add _
      | some v => rfl

variable {merge field}

/-- A histogram that is merged as such is the merged histogram of its key. -/
theorem map_foldl_merge (hmerge : ∀ existing v,
      field (merge existing v) = merged (existing.map field) (field v)) (vs : List ν) :
    (vs.foldl (fun existing v => some (merge existing v)) none).map field =
      match vs.map field with
      | [] => none
      | hist :: hists => some (mergeAll hist hists) := by
  have hrun : ∀ (vs : List ν) (existing : ν),
      (vs.foldl (fun existing v => some (merge existing v)) (some existing)).map field =
        some (mergeAll (field existing) (vs.map field)) := by
    intro vs
    induction vs with
    | nil => exact fun _ => rfl
    | cons v vs ih =>
        intro existing
        rw [List.foldl_cons, ih, hmerge]
        rfl
  cases vs with
  | nil => rfl
  | cons v vs =>
      rw [List.foldl_cons, hrun, hmerge]
      rfl

theorem keepsAll_merge_by_key (hmerge : ∀ existing v,
      field (merge existing v) = merged (existing.map field) (field v))
    (clients : List (OrderedMap String ν)) :
    KeepsAll field (merge_by_key merge clients) clients ↔ AllPoolable field clients := by
  refine forall_congr' fun key => ?_
  have hfield := map_foldl_merge hmerge (clients.filterMap (·.find? key))
  rw [← find?_merge_by_key] at hfield
  have hobserved : observed field (merge_by_key merge clients) key =
      ((((merge_by_key merge clients).find? key).map field).map LineCountHistogram.n).getD 0 := by
    rw [Option.map_map]
    rfl
  rw [hobserved, hfield, sum_observed]
  cases (clients.filterMap (·.find? key)).map field with
  | nil => exact iff_of_true rfl .nil
  | cons hist hists => exact n_mergeAll_eq_iff hist hists

end ByKey

section Observations

theorem by_attribute_aggregate (inputs : List FanoutPrior) :
    (aggregate_fanout inputs).by_attribute =
      merge_by_key merged (inputs.map FanoutPrior.by_attribute) := by
  rw [aggregate_fanout]
  split
  · rename_i hnil
    rw [hnil]
    rfl
  · rfl

theorem by_source_aggregate (inputs : List ActiveSegmentsPrior) :
    (aggregate_active_segments inputs).by_source =
      merge_by_key merged_summary (inputs.map ActiveSegmentsPrior.by_source) := by
  rw [aggregate_active_segments]
  split
  · rename_i hnil
    rw [hnil]
    rfl
  · rfl

def LinesKept (inputs : List LinesPerJePrior) : Prop :=
  (aggregate_lines_per_je inputs).overall.n =
      ((inputs.map LinesPerJePrior.overall).map LineCountHistogram.n).sum ∧
    KeepsAll id (aggregate_lines_per_je inputs).by_source (inputs.map LinesPerJePrior.by_source)

def LifetimesKept (inputs : List ActiveLifetimePrior) : Prop :=
  (aggregate_active_lifetime inputs).overall.n =
      ((inputs.map ActiveLifetimePrior.overall).map LineCountHistogram.n).sum ∧
    KeepsAll id (aggregate_active_lifetime inputs).by_source
      (inputs.map ActiveLifetimePrior.by_source)

def SegmentsKept (inputs : List ActiveSegmentsPrior) : Prop :=
  ∀ field ∈ [SourceSegmentSummary.segment_count_histogram,
      SourceSegmentSummary.segment_length_histogram, SourceSegmentSummary.gap_length_histogram],
    KeepsAll field (aggregate_active_segments inputs).by_source
      (inputs.map ActiveSegmentsPrior.by_source)

def FanoutKept (inputs : List FanoutPrior) : Prop :=
  KeepsAll id (aggregate_fanout inputs).by_attribute (inputs.map FanoutPrior.by_attribute)

theorem merged_id (existing : Option LineCountHistogram) (hist : LineCountHistogram) :
    id (merged existing hist) = merged (existing.map id) (id hist) := by
  rw [Option.map_id]
  rfl

theorem linesKept_iff (inputs : List LinesPerJePrior) : LinesKept inputs ↔
    FirstGrid (inputs.map LinesPerJePrior.overall) ∧
      AllPoolable id (inputs.map LinesPerJePrior.by_source) := by
  cases inputs with
  | nil => exact iff_of_true ⟨rfl, fun _ => rfl⟩ ⟨nofun, fun _ => .nil⟩
  | cons first rest =>
      exact and_congr (n_pool_overall_eq_iff _ _) (keepsAll_merge_by_key merged_id _)

theorem lifetimesKept_iff (inputs : List ActiveLifetimePrior) : LifetimesKept inputs ↔
    FirstGrid (inputs.map ActiveLifetimePrior.overall) ∧
      AllPoolable id (inputs.map ActiveLifetimePrior.by_source) := by
  cases inputs with
  | nil => exact iff_of_true ⟨rfl, fun _ => rfl⟩ ⟨nofun, fun _ => .nil⟩
  | cons first rest =>
      exact and_congr (n_pool_overall_eq_iff _ _) (keepsAll_merge_by_key merged_id _)

theorem segmentsKept_iff (inputs : List ActiveSegmentsPrior) : SegmentsKept inputs ↔
    ∀ field ∈ [SourceSegmentSummary.segment_count_histogram,
        SourceSegmentSummary.segment_length_histogram, SourceSegmentSummary.gap_length_histogram],
      AllPoolable field (inputs.map ActiveSegmentsPrior.by_source) := by
  refine forall₂_congr fun field hfield => ?_
  rw [by_source_aggregate]
  apply keepsAll_merge_by_key
  intro existing summ
  simp only [List.mem_cons, List.not_mem_nil, or_false] at hfield
  rcases hfield with rfl | rfl | rfl
  all_goals
    cases existing with
    | none => rfl
    | some existing => rfl

/-- The histograms of all clients are counted exactly if those over the grids that are not kept have
no observations. -/
theorem observations_kept_iff (lines : List LinesPerJePrior) (lifetimes : List ActiveLifetimePrior)
    (segments : List ActiveSegmentsPrior) (fanouts : List FanoutPrior) :
    (LinesKept lines ↔
      FirstGrid (lines.map LinesPerJePrior.overall) ∧
        AllPoolable id (lines.map LinesPerJePrior.by_source)) ∧
    (LifetimesKept lifetimes ↔
      FirstGrid (lifetimes.map ActiveLifetimePrior.overall) ∧
        AllPoolable id (lifetimes.map ActiveLifetimePrior.by_source)) ∧
    (SegmentsKept segments ↔
      ∀ field ∈ [SourceSegmentSummary.segment_count_histogram,
          SourceSegmentSummary.segment_length_histogram,
          SourceSegmentSummary.gap_length_histogram],
        AllPoolable field (segments.map ActiveSegmentsPrior.by_source)) ∧
    (FanoutKept fanouts ↔ AllPoolable id (fanouts.map FanoutPrior.by_attribute)) := by
  refine ⟨linesKept_iff lines, lifetimesKept_iff lifetimes, segmentsKept_iff segments, ?_⟩
  rw [FanoutKept, by_attribute_aggregate]
  exact keepsAll_merge_by_key merged_id _

/-- The client of a legacy bundle comes before one with five observations. -/
theorem legacy_grid_drops_observations :
    ¬ ∀ lines : List LinesPerJePrior, LinesKept lines := by
  intro h
  have hkept := (h [⟨.default, OrderedMap.empty, 500⟩, ⟨⟨[1], [1], 5⟩, OrderedMap.empty, 500⟩]).1
  revert hkept
  decide

end Observations

end Datasynth.Fingerprints.PooledHistograms
