import Mathlib.Algebra.Order.Field.Rat
import Mathlib.Data.Rat.Floor
import Mathlib.Order.WithBot

/-!
The aggregation of partial fingerprints of several sources, with 64-bit floats as exact rationals.
A read outside of a list has no result.
-/

namespace Datasynth.Fingerprints.FederatedProtocol

section Model

/-- A minimum or maximum is missing where it is not a finite number. -/
structure PartialFingerprint where
  source_id : String
  local_epsilon : ℚ
  record_count : ℕ
  column_names : List String
  means : List ℚ
  stds : List ℚ
  mins : List (Option ℚ)
  maxs : List (Option ℚ)
  correlations : List ℚ

inductive AggregationMethod where
  | weightedAverage
  | median
  | trimmedMean
deriving DecidableEq, Repr

def AggregationMethod.default : AggregationMethod := .weightedAverage

structure FederatedConfig where
  min_sources : ℕ
  max_epsilon_per_source : ℚ
  aggregation_method : AggregationMethod

def FederatedConfig.default : FederatedConfig := ⟨2, 5, .default⟩

/-- Without a finite minimum or maximum the aggregated one is infinite. -/
structure AggregatedFingerprint where
  column_names : List String
  means : List ℚ
  stds : List ℚ
  mins : List (WithTop ℚ)
  maxs : List (WithBot ℚ)
  correlations : List ℚ
  total_record_count : ℕ
  total_epsilon : ℚ
  source_count : ℕ

inductive AggregationError where
  | tooFewSources (needed got : ℕ)
  | zeroRecords (source_id : String)
  | epsilonExceeded (source_id : String) (epsilon max : ℚ)
  | columnCount (source_id : String) (got expected : ℕ)
  | columnName (index : ℕ) (source_id got expected : String)
  | zeroTotal

/-- The text of an error, by the text of a float. -/
def AggregationError.message (float : ℚ → String) : AggregationError → String
  | tooFewSources needed got =>
      "Need at least " ++ toString needed ++ " sources, got " ++ toString got
  | zeroRecords source_id => "Source '" ++ source_id ++ "' has zero records"
  | epsilonExceeded source_id epsilon max =>
      "Source '" ++ source_id ++ "' epsilon " ++ float epsilon ++ " exceeds max " ++ float max
  | columnCount source_id got expected =>
      "Column count mismatch: source '" ++ source_id ++ "' has " ++ toString got ++
        " columns, expected " ++ toString expected
  | columnName index source_id got expected =>
      "Column name mismatch at index " ++ toString index ++ ": source '" ++ source_id ++
        "' has '" ++ got ++ "', expected '" ++ expected ++ "'"
  | zeroTotal => "Cannot aggregate fingerprints: total record count is zero"

abbrev Checked (α : Type) := Except AggregationError α

end Model

section Validation

variable (config : FederatedConfig)

def check_partials : List PartialFingerprint → Checked Unit
  | [] => .ok ()
  | p :: partials =>
      if p.record_count = 0 then .error (.zeroRecords p.source_id)
      else if config.max_epsilon_per_source < p.local_epsilon then
        .error (.epsilonExceeded p.source_id p.local_epsilon config.max_epsilon_per_source)
      else check_partials partials

/-- The names from an index on. -/
def check_names (expected : List String) (source_id : String) :
    ℕ → List String → Option (Checked Unit)
  | _, [] => some (.ok ())
  | i, name :: names =>
      expected[i]?.bind fun expected_name =>
        if name ≠ expected_name then some (.error (.columnName i source_id name expected_name))
        else check_names expected source_id (i + 1) names

def check_columns (expected : List String) : List PartialFingerprint → Option (Checked Unit)
  | [] => some (.ok ())
  | p :: partials =>
      if p.column_names.length ≠ expected.length then
        some (.error (.columnCount p.source_id p.column_names.length expected.length))
      else
        match check_names expected p.source_id 0 p.column_names with
        | some (.ok ()) => check_columns expected partials
        | stopped => stopped

end Validation

section Columns

/-- The columns have one mean, or standard deviation, for each source that supplies it. -/
def column (field : PartialFingerprint → List ℚ) (partials : List PartialFingerprint) (i : ℕ) :
    List ℚ :=
  partials.filterMap fun p => (field p)[i]?

def sorted (values : List ℚ) : List ℚ := values.mergeSort fun a b => a ≤ b

def lower (bound : WithTop ℚ) (value : Option ℚ) : WithTop ℚ :=
  match value with
  | some x => if (x : WithTop ℚ) < bound then x else bound
  | none => bound

def raise (bound : WithBot ℚ) (value : Option ℚ) : WithBot ℚ :=
  match value with
  | some x => if bound < (x : WithBot ℚ) then x else bound
  | none => bound

def agg_mins (n_cols : ℕ) (partials : List PartialFingerprint) : List (WithTop ℚ) :=
  partials.foldl (fun mins p => mins.mapIdx fun i bound => lower bound (p.mins[i]?.join))
    (List.replicate n_cols ⊤)

def agg_maxs (n_cols : ℕ) (partials : List PartialFingerprint) : List (WithBot ℚ) :=
  partials.foldl (fun maxs p => maxs.mapIdx fun i bound => raise bound (p.maxs[i]?.join))
    (List.replicate n_cols ⊥)

def compute_median (values : List ℚ) : Option ℚ :=
  if values = [] then some 0
  else
    let mid := values.length / 2
    if values.length % 2 = 0 then
      values[mid - 1]?.bind fun a => values[mid]?.map fun b => (a + b) / 2
    else values[mid]?

def trim_slice (values : List ℚ) (count : ℕ) : Option (List ℚ) :=
  if values.length ≤ count * 2 then some values
  else if values.length - count < count then none
  else some ((values.drop count).take (values.length - count - count))

def trimmed_mean (values : List ℚ) (count : ℕ) : Option ℚ :=
  (trim_slice values count).map fun trimmed =>
    if trimmed = [] then 0 else trimmed.sum / trimmed.length

end Columns

section Aggregation

variable (partials : List PartialFingerprint) (n_cols total_record_count : ℕ)
  (total_epsilon : ℚ)

/-- The values of one source, by its weight. -/
def add_weighted (weight : ℚ) (values sums : List ℚ) : List ℚ :=
  sums.mapIdx fun i sum =>
    match values[i]? with
    | some x => sum + weight * x
    | none => sum

def weighted (field : PartialFingerprint → List ℚ) : List ℚ :=
  partials.foldl (fun sums p =>
    add_weighted ((p.record_count : ℚ) / total_record_count) (field p) sums)
    (List.replicate n_cols 0)

/-- All correlations of one source; there may be no more than there are places for. -/
def add_correlations (corr : List ℚ) (p : PartialFingerprint) : Option (List ℚ) :=
  if corr.length < p.correlations.length then none
  else some (add_weighted ((p.record_count : ℚ) / total_record_count) p.correlations corr)

def weighted_correlations : Option (List ℚ) :=
  let corr_len := n_cols * n_cols
  if (partials.all fun p => p.correlations.length = corr_len) ∧ 0 < corr_len then
    partials.foldlM (add_correlations total_record_count) (List.replicate corr_len 0)
  else some []

def aggregate_weighted : Option (Checked AggregatedFingerprint) :=
  if total_record_count = 0 then some (.error .zeroTotal)
  else
    (weighted_correlations partials n_cols total_record_count).bind fun correlations =>
      partials.head?.map fun first => .ok
        { column_names := first.column_names
          means := weighted partials n_cols total_record_count PartialFingerprint.means
          stds := weighted partials n_cols total_record_count PartialFingerprint.stds
          mins := agg_mins n_cols partials
          maxs := agg_maxs n_cols partials
          correlations := correlations
          total_record_count := total_record_count
          total_epsilon := total_epsilon
          source_count := partials.length }

/-- Column by column, with a statistic of the sorted values of the column. -/
def aggregate_columns (statistic : List ℚ → Option ℚ) : Option (Checked AggregatedFingerprint) :=
  ((List.range n_cols).mapM fun i =>
      statistic (sorted (column PartialFingerprint.means partials i))).bind fun means =>
    ((List.range n_cols).mapM fun i =>
        statistic (sorted (column PartialFingerprint.stds partials i))).bind fun stds =>
      partials.head?.map fun first => .ok
        { column_names := first.column_names
          means := means
          stds := stds
          mins := agg_mins n_cols partials
          maxs := agg_maxs n_cols partials
          correlations := []
          total_record_count := total_record_count
          total_epsilon := total_epsilon
          source_count := partials.length }

def aggregate_median : Option (Checked AggregatedFingerprint) :=
  aggregate_columns partials n_cols total_record_count total_epsilon compute_median

/-- Of every ten sources, one is left out at either end. -/
def trim_count (n : ℕ) : ℕ := ⌊(n : ℚ) * (1 / 10)⌋.toNat

def aggregate_trimmed_mean : Option (Checked AggregatedFingerprint) :=
  aggregate_columns partials n_cols total_record_count total_epsilon fun values =>
    trimmed_mean values (trim_count partials.length)

end Aggregation

def aggregate (config : FederatedConfig) (partials : List PartialFingerprint) :
    Option (Checked AggregatedFingerprint) :=
  if partials.length < config.min_sources then
    some (.error (.tooFewSources config.min_sources partials.length))
  else
    match check_partials config partials with
    | .error e => some (.error e)
    | .ok () =>
        partials.head?.bind fun first =>
          (check_columns first.column_names partials.tail).bind fun checked =>
            match checked with
            | .error e => some (.error e)
            | .ok () =>
                let n_cols := first.column_names.length
                let total_record_count := (partials.map (·.record_count)).sum
                let total_epsilon := (partials.map (·.local_epsilon)).sum
                match config.aggregation_method with
                | .weightedAverage =>
                    aggregate_weighted partials n_cols total_record_count total_epsilon
                | .median => aggregate_median partials n_cols total_record_count total_epsilon
                | .trimmedMean =>
                    aggregate_trimmed_mean partials n_cols total_record_count total_epsilon

end Datasynth.Fingerprints.FederatedProtocol
