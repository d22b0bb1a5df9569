import Datasynth.Runtime.CausalEngine
import Datasynth.Runtime.ConfigPaths

/-!
The counterfactual configuration: the changes of all months are collected by path, written
into the document of the base configuration in hash order, and the document is read back.
The result is the same in all runs exactly when the changed paths part from each other or
carry the same value.
-/

namespace Datasynth.Runtime.ConfigMutator

open Datasynth.Core.CausalDag
open Datasynth.Core.CountryPacks
open Datasynth.Core.Interventions
open Datasynth.Lib.HashIteration
open Datasynth.Lib.PathWrites
open Datasynth.Lib.SortedEntries
open Datasynth.Runtime.CausalEngine
open Datasynth.Runtime.ConfigPaths

inductive MutationError
  | pathNotFound (path : String)
  | typeMismatch (path expected actual : String)
  | constraintViolation (text : String)
  | serializationError (text : String)

def MutationError.message : MutationError → String
  | .pathNotFound path => "path not found: " ++ path
  | .typeMismatch path expected actual =>
      "type mismatch at path '" ++ path ++ "': expected " ++ expected ++ ", got " ++ actual
  | .constraintViolation text => "constraint violation: " ++ text
  | .serializationError text => "serialization error: " ++ text

section Changes

/-- No result is a panic while the path is parsed. -/
def apply_at_path (value : Json) (path : String) (new_value : Json) :
    Option (Except MutationError Json) :=
  (parse_path path).map fun segments =>
    (applyAt new_value segments value).elim (.error (.pathNotFound path)) .ok

/-- The latest value for each path. -/
def latest_changes (propagated : List (UInt32 × List ConfigChange)) : OrderedMap String ℚ :=
  .ofList ((propagated.flatMap Prod.snd).map fun change => (change.path, change.value))

def apply_changes : List (String × ℚ) → Json → Option (Except MutationError Json)
  | [], json => some (.ok json)
  | (path, value) :: changes, json =>
      (apply_at_path json path (.number value)).bind fun applied =>
        match applied with
        | .ok json => apply_changes changes json
        | .error e => some (.error e)

/-- The document that the new configuration is read from. -/
def mutated_json (order : HashOrder) (json : Json)
    (propagated : List (UInt32 × List ConfigChange)) : Option (Except MutationError Json) :=
  (apply_changes (order.iter (latest_changes propagated).entries) json).map fun applied =>
    applied.map strip_nulls

end Changes

section Configurations

structure ConfigDocument where
  json : Json
  sorted : SortedFields json

/-- A bound of a constraint, with its text. -/
structure DecimalBound where
  value : ℚ
  text : String

structure CustomConstraint where
  config_path : String
  min : Option DecimalBound
  max : Option DecimalBound

structure ScenarioConstraints where
  preserve_document_chains : Bool
  preserve_balance_coherence : Bool
  custom : List CustomConstraint

/-- The type of configurations: how they are written and read, and what is checked of them. -/
structure ConfigType (C : Type) where
  to_value : C → Except String ConfigDocument
  from_value : Json → Except String C
  generate_document_references : C → Bool
  validate_balance_equation : C → Bool
  generate_trial_balances : C → Bool
  show_f64 : ℚ → String

variable {C : Type} (configs : ConfigType C)

def checkCustom (config : C) (constraint : CustomConstraint) :
    Option (Except MutationError Unit) :=
  match configs.to_value config with
  | .error text => some (.error (.serializationError text))
  | .ok document =>
      (parse_path constraint.config_path).map fun segments =>
        match (places.valueAt segments (some document.json)).bind asF64 with
        | none => .ok ()
        | some val =>
            match constraint.min.filter fun min => decide (val < min.value) with
            | some min =>
                .error (.constraintViolation (constraint.config_path ++ ": value " ++
                  configs.show_f64 val ++ " below minimum " ++ min.text))
            | none =>
                match constraint.max.filter fun max => decide (max.value < val) with
                | some max =>
                    .error (.constraintViolation (constraint.config_path ++ ": value " ++
                      configs.show_f64 val ++ " above maximum " ++ max.text))
                | none => .ok ()

def checkCustoms (config : C) : List CustomConstraint → Option (Except MutationError Unit)
  | [] => some (.ok ())
  | constraint :: rest =>
      (checkCustom configs config constraint).bind fun checked =>
        match checked with
        | .ok () => checkCustoms config rest
        | .error e => some (.error e)

def validate_constraints (config : C) (constraints : ScenarioConstraints) :
    Option (Except MutationError Unit) :=
  if constraints.preserve_document_chains && !configs.generate_document_references config then
    some (.error (.constraintViolation
      "preserve_document_chains requires document_flows.generate_document_references=true"))
  else if constraints.preserve_balance_coherence && !configs.validate_balance_equation config then
    some (.error (.constraintViolation
      "preserve_balance_coherence requires balance.validate_balance_equation=true"))
  else if constraints.preserve_balance_coherence && !configs.generate_trial_balances config then
    some (.error (.constraintViolation
      "preserve_balance_coherence requires balance.generate_trial_balances=true"))
  else checkCustoms configs config constraints.custom

/-- The configuration is read from the document and checked. -/
def read_back (json : Json) (constraints : ScenarioConstraints) :
    Option (Except MutationError C) :=
  match configs.from_value json with
  | .error text => some (.error (.serializationError text))
  | .ok config =>
      (validate_constraints configs config constraints).map fun checked =>
        checked.map fun _ => config

/-- The changes are written in the order in which their hash map is iterated. -/
def apply (order : HashOrder) (base : C) (propagated : List (UInt32 × List ConfigChange))
    (constraints : ScenarioConstraints) : Option (Except MutationError C) :=
  match configs.to_value base with
  | .error text => some (.error (.serializationError text))
  | .ok document =>
      (mutated_json order document.json propagated).bind fun mutated =>
        match mutated with
        | .error e => some (.error e)
        | .ok json => read_back configs json constraints

end Configurations

section Paths

/-- The place that a path leads to. -/
def target? (path : String) : Option (List PathSegment) :=
  (parse_path path).filter fun segments => decide (segments ≠ [])

/-- A change at the path succeeds. -/
def Resolves (json : Json) (path : String) : Prop :=
  ∃ segments ∈ target? path, places.Resolves segments json

def Holds (json : Json) (path : String) (value : ℚ) : Prop :=
  ∃ segments ∈ target? path, places.valueAt segments (some json) = some (.number value)

end Paths

section Runs

variable (profile : Profile) (trig : Trigonometry) (dag : BoundDAG) (fns : RealFunctions ℚ)
  (interventions : List ValidatedIntervention) (period_months : UInt32)

/-- The configuration that is built in a run, if one is. -/
def counterfactual {C : Type} (configs : ConfigType C) (base : C)
    (constraints : ScenarioConstraints) (orders : IterationOrders) : Option C :=
  (propagate profile trig dag fns orders interventions period_months).bind fun propagated =>
    (apply configs orders.writes base propagated constraints).bind Except.toOption

/-- The document of a run, if the run gets that far. -/
def document? (base : ConfigDocument) (orders : IterationOrders) : Option Json :=
  (propagate profile trig dag fns orders interventions period_months).bind fun propagated =>
    (mutated_json orders.writes base.json propagated).bind Except.toOption

/-- A node that has left its baseline gives the value to the path in the month. -/
def GivenIn (order : HashOrder) (month : UInt32) (path : String) (value : ℚ) : Prop :=
  ∃ values ∈ propagatedValues profile trig dag fns order interventions month,
    ∃ e ∈ values.entries, ∃ node ∈ dag.find_node e.1,
      epsilon ≤ |e.2 - node.baseline_value| ∧ path ∈ node.config_bindings ∧ e.2 = value

/-- The value is given to the path in the latest month that changes it. -/
def Given (order : HashOrder) (path : String) (value : ℚ) : Prop :=
  ∃ month ∈ months period_months,
    GivenIn profile trig dag fns interventions order month path value ∧
    ∀ later ∈ months period_months, month < later →
      ∀ other, ¬ GivenIn profile trig dag fns interventions order later path other

/-- All runs from configurations with this document build the same configuration, and the
values of the latest months are in force in it. -/
structure Reproducible (base : ConfigDocument) : Prop where
  same : ∀ (C : Type) (configs : ConfigType C) (config : C) (constraints : ScenarioConstraints),
    configs.to_value config = .ok base → ∀ orders orders',
      counterfactual profile trig dag fns interventions period_months configs config constraints
          orders =
        counterfactual profile trig dag fns interventions period_months configs config
          constraints orders'
  latest : ∀ orders json,
    document? profile trig dag fns interventions period_months base orders = some json →
      ∀ path value,
        Given profile trig dag fns interventions period_months orders.overrides path value →
          Holds json path value

/-- No month panics, and every changed path leads to a place of the document. -/
structure Builds (base : ConfigDocument) (order : HashOrder) : Prop where
  propagates : ∀ month ∈ months period_months,
    (propagatedValues profile trig dag fns order interventions month).isSome
  resolves : ∀ path value, Given profile trig dag fns interventions period_months order path value →
    Resolves base.json path

/-- Changed paths lead to different branches, or to one place with one value; what only some
orders of the overrides change holds the value already. -/
structure Unambiguous (base : ConfigDocument) : Prop where
  builds : ∀ order, Builds profile trig dag fns interventions period_months base order
  agree : ∀ order order' path path' value value',
    Given profile trig dag fns interventions period_months order path value →
      Given profile trig dag fns interventions period_months order' path' value' →
        ∀ segments ∈ target? path, ∀ segments' ∈ target? path',
          (segments, value) = (segments', value') ∨ Places.Apart segments segments'
  covered : ∀ order order' path value,
    Given profile trig dag fns interventions period_months order path value →
      (∃ path' value', target? path' = target? path ∧
        Given profile trig dag fns interventions period_months order' path' value') ∨
      Holds base.json path value

end Runs

section Writes

/-- The writes that changes stand for. -/
def writesOf (changes : List (String × ℚ)) : List (List PathSegment × Json) :=
  changes.map fun change => ((target? change.1).getD [], .number change.2)

variable {json json' : Json} {changes : List (String × ℚ)}

theorem mem_writesOf {path : String} {value : ℚ} {segments : List PathSegment}
    (h : (path, value) ∈ changes) (htarget : target? path = some segments) :
    (segments, Json.number value) ∈ writesOf changes := by
  refine List.mem_map.mpr ⟨_, h, ?_⟩
  rw [htarget]
  rfl

theorem leaf_of_mem_writesOf : ∀ a ∈ writesOf changes, places.Leaf a.2 := by
  rw [writesOf, List.forall_mem_map]
  exact fun change _ => leaf_number change.2

theorem sortedFields_of_mem_writesOf : ∀ a ∈ writesOf changes, places.Canonical a.2 := by
  rw [writesOf, List.forall_mem_map]
  exact fun change _ => .number change.2

theorem apply_at_path_toOption (path : String) (value : Json) :
    (apply_at_path json path value).bind Except.toOption =
      (target? path).bind fun segments => places.writeAt segments value (some json) := by
  rw [apply_at_path, target?]
  cases parse_path path with
  | none => rfl
  | some segments =>
      by_cases hsegments : segments = []
      · subst hsegments
        rfl
      · rw [Option.map_some, Option.filter_some_pos (by simpa using hsegments), Option.bind_some,
          Option.bind_some, applyAt_eq_writeAt hsegments]
        cases places.writeAt segments value (some json) <;> rfl

theorem apply_changes_cons_toOption (path : String) (value : ℚ) :
    (apply_changes ((path, value) :: changes) json).bind Except.toOption =
      ((apply_at_path json path (.number value)).bind Except.toOption).bind fun json =>
        (apply_changes changes json).bind Except.toOption := by
  rw [apply_changes]
  obtain _ | _ | json' := apply_at_path json path (.number value) <;> rfl

/-- The changes are a run of writes if all their paths lead somewhere. -/
theorem apply_changes_toOption (htargets : ∀ change ∈ changes, (target? change.1).isSome) :
    (apply_changes changes json).bind Except.toOption =
      places.writeAll (writesOf changes) json := by
  induction changes generalizing json with
  | nil => rfl
  | cons change changes ih =>
      rw [List.forall_mem_cons] at htargets
      obtain ⟨segments, hsegments⟩ := Option.isSome_iff_exists.mp htargets.1
      rw [apply_changes_cons_toOption, apply_at_path_toOption, writesOf, List.map_cons,
        Places.writeAll, hsegments, Option.bind_some, Option.getD_some]
      congr 1
      funext json
      exact ih htargets.2

theorem targets_of_apply_changes
    (h : (apply_changes changes json).bind Except.toOption = some json') :
    ∀ change ∈ changes, (target? change.1).isSome := by
  induction changes generalizing json with
  | nil => exact nofun
  | cons change changes ih =>
      rw [apply_changes_cons_toOption, apply_at_path_toOption] at h
      obtain ⟨middle, hmiddle, hrest⟩ := Option.bind_eq_some_iff.mp h
      obtain ⟨segments, hsegments, -⟩ := Option.bind_eq_some_iff.mp hmiddle
      exact List.forall_mem_cons.mpr
        ⟨by rw [hsegments, Option.isSome_some], ih hrest⟩

end Writes

section Latest

variable {profile : Profile} {trig : Trigonometry} {dag : BoundDAG} {fns : RealFunctions ℚ}
  {interventions : List ValidatedIntervention} {period_months : UInt32}
  {orders : IterationOrders}

theorem mem_changesOf_iff (direct : OrderedMap String ℚ) {e : String × ℚ} {path : String}
    {value : ℚ} :
    (∃ change ∈ changesOf dag direct e, (change.path, change.value) = (path, value)) ↔
      ∃ node ∈ dag.find_node e.1,
        epsilon ≤ |e.2 - node.baseline_value| ∧ path ∈ node.config_bindings ∧ e.2 = value := by
  rw [changesOf]
  cases dag.find_node e.1 with
  | none => simp
  | some node =>
      by_cases hbaseline : |e.2 - node.baseline_value| < Core.CausalDag.epsilon
      · simp [hbaseline, hbaseline.not_ge]
      · simp [hbaseline, not_lt.mp hbaseline]

theorem mem_monthChanges_iff {month : UInt32} {changes : List ConfigChange}
    (h : monthChanges profile trig dag fns orders interventions month = some changes)
    {path : String} {value : ℚ} :
    (path, value) ∈ changes.map (fun change => (change.path, change.value)) ↔
      GivenIn profile trig dag fns interventions orders.overrides month path value := by
  obtain ⟨direct, -, hmap⟩ := Option.bind_eq_some_iff.mp h
  obtain ⟨values, hvalues, rfl⟩ := Option.map_eq_some_iff.mp hmap
  rw [GivenIn, hvalues]
  simp only [List.mem_map, List.mem_flatMap, Option.mem_some_iff, exists_eq_left',
    ((orders.values month).perm values.entries).mem_iff, ← mem_changesOf_iff direct]
  constructor
  · rintro ⟨change, ⟨e, he, hchange⟩, heq⟩
    exact ⟨e, he, change, hchange, heq⟩
  · rintro ⟨e, he, change, hchange, heq⟩
    exact ⟨change, ⟨e, he, hchange⟩, heq⟩

theorem isSome_propagateMonths_iff {l : List UInt32} :
    (propagateMonths profile trig dag fns orders interventions l).isSome ↔
      ∀ month ∈ l,
        (propagatedValues profile trig dag fns orders.overrides interventions month).isSome := by
  induction l with
  | nil => simp [propagateMonths]
  | cons month l ih =>
      have hmonth : (monthChanges profile trig dag fns orders interventions month).isSome =
          (propagatedValues profile trig dag fns orders.overrides interventions month).isSome := by
        rw [monthChanges, propagatedValues]
        cases compute_direct_effects profile trig dag orders.overrides interventions month with
        | none => rfl
        | some direct => rw [Option.bind_some, Option.bind_some, Option.isSome_map]
      rw [List.forall_mem_cons, ← ih, ← hmonth, propagateMonths]
      cases monthChanges profile trig dag fns orders interventions month with
      | none => simp
      | some changes => simp

theorem find?_latest_changes_cons {month : UInt32} {changes : List ConfigChange}
    {later : List (UInt32 × List ConfigChange)} {path : String} :
    (latest_changes ((month, changes) :: later)).find? path =
      ((latest_changes later).find? path).or
        ((OrderedMap.ofList (changes.map fun change => (change.path, change.value))).find?
          path) := by
  rw [latest_changes, latest_changes, List.flatMap_cons, List.map_append,
    OrderedMap.find?_ofList, OrderedMap.find?_ofList, OrderedMap.find?_ofList,
    List.reverse_append, List.find?_append, Option.map_or]

/-- The order of the writes plays no part before the changes are written. -/
theorem propagateMonths_writes (writes : HashOrder) (l : List UInt32) :
    propagateMonths profile trig dag fns { orders with writes := writes } interventions l =
      propagateMonths profile trig dag fns orders interventions l := by
  induction l with
  | nil => rfl
  | cons month l ih =>
      rw [propagateMonths, propagateMonths, ih]
      rfl

/-- The entries of the table of changes: of the latest month that changes a path. -/
theorem latest_of_propagateMonths {l : List UInt32} (hl : l.Pairwise (· < ·))
    {propagated : List (UInt32 × List ConfigChange)}
    (h : propagateMonths profile trig dag fns orders interventions l = some propagated)
    {path : String} :
    (∀ value, (latest_changes propagated).find? path = some value →
      ∃ month ∈ l,
        GivenIn profile trig dag fns interventions orders.overrides month path value ∧
        ∀ later ∈ l, month < later →
          ∀ other, ¬ GivenIn profile trig dag fns interventions orders.overrides later path other) ∧
    ∀ month ∈ l, ∀ value,
      GivenIn profile trig dag fns interventions orders.overrides month path value →
        ((latest_changes propagated).find? path).isSome := by
  induction l generalizing propagated with
  | nil =>
      cases h
      exact ⟨nofun, nofun⟩
  | cons month l ih =>
      obtain ⟨hmonth, hl⟩ := List.pairwise_cons.mp hl
      obtain ⟨changes, hchanges, hrest⟩ := Option.bind_eq_some_iff.mp h
      obtain ⟨later, hlater, heq⟩ := Option.map_eq_some_iff.mp hrest
      have hgiven : ∀ value,
          (path, value) ∈ changes.map (fun change => (change.path, change.value)) ↔
            GivenIn profile trig dag fns interventions orders.overrides month path value :=
        fun _ => mem_monthChanges_iff hchanges
      obtain ⟨hfound, hsome⟩ := ih hl hlater
      have hfind : (latest_changes propagated).find? path =
          ((latest_changes later).find? path).or
            ((OrderedMap.ofList (changes.map fun change => (change.path, change.value))).find?
              path) := by
        rw [← heq]
        split_ifs with hempty
        · rw [List.isEmpty_iff.mp hempty, List.map_nil, OrderedMap.ofList, List.foldl_nil,
            OrderedMap.find?_empty, Option.or_none]
        · exact find?_latest_changes_cons
      rw [hfind]
      constructor
      · intro value hvalue
        rcases Option.or_eq_some_iff.mp hvalue with hvalue | ⟨hnone, hvalue⟩
        · obtain ⟨m, hm, hin, hlatest⟩ := hfound value hvalue
          refine ⟨m, List.mem_cons_of_mem month hm, hin, ?_⟩
          refine List.forall_mem_cons.mpr ⟨fun hlt => ?_, hlatest⟩
          exact absurd hlt (UInt32.lt_asymm (hmonth m hm))
        · refine ⟨month, List.mem_cons_self .., (hgiven value).mp
            (OrderedMap.mem_of_find?_ofList hvalue), ?_⟩
          refine List.forall_mem_cons.mpr ⟨fun hlt => absurd hlt (UInt32.lt_irrefl month), ?_⟩
          intro m hm _ other hother
          have := hsome m hm other hother
          rw [hnone] at this
          cases this
      · rw [List.forall_mem_cons]
        constructor
        · intro value hvalue
          rw [Option.isSome_or, Bool.or_eq_true, OrderedMap.find?_ofList, Option.isSome_map,
            List.find?_isSome]
          exact .inr ⟨(path, value), List.mem_reverse.mpr ((hgiven value).mpr hvalue), by simp⟩
        · intro m hm value hvalue
          rw [Option.isSome_or, hsome m hm value hvalue, Bool.true_or]

theorem months_sorted : (months period_months).Pairwise (· < ·) := by
  rw [months, List.pairwise_map]
  refine List.pairwise_lt_range.imp_of_mem fun {i j} hi hj hlt => ?_
  have hperiod := period_months.toNat_lt
  rw [List.mem_range] at hi hj
  rw [UInt32.lt_iff_toNat_lt, UInt32.toNat_ofNat', UInt32.toNat_ofNat', Nat.mod_eq_of_lt,
    Nat.mod_eq_of_lt] <;> omega

variable {propagated : List (UInt32 × List ConfigChange)}

theorem given_of_find? {path : String} {value : ℚ}
    (h : propagate profile trig dag fns orders interventions period_months = some propagated)
    (hfind : (latest_changes propagated).find? path = some value) :
    Given profile trig dag fns interventions period_months orders.overrides path value :=
  (latest_of_propagateMonths months_sorted h).1 value hfind

theorem find?_of_given {path : String} {value : ℚ}
    (h : propagate profile trig dag fns orders interventions period_months = some propagated)
    (hgiven : Given profile trig dag fns interventions period_months orders.overrides path
      value) :
    ∃ other, (latest_changes propagated).find? path = some other := by
  obtain ⟨month, hmonth, hin, -⟩ := hgiven
  exact Option.isSome_iff_exists.mp
    ((latest_of_propagateMonths months_sorted h).2 month hmonth value hin)

end Latest

section Documents

variable {profile : Profile} {trig : Trigonometry} {dag : BoundDAG} {fns : RealFunctions ℚ}
  {interventions : List ValidatedIntervention} {period_months : UInt32}
  {orders : IterationOrders} {base : ConfigDocument} {json : Json}

/-- Runs differ in their configurations only as far as they differ in their documents. -/
theorem counterfactual_eq {C : Type} {configs : ConfigType C} {config : C}
    {constraints : ScenarioConstraints} (hbase : configs.to_value config = .ok base) :
    counterfactual profile trig dag fns interventions period_months configs config constraints
        orders =
      (document? profile trig dag fns interventions period_months base orders).bind fun json =>
        (read_back configs json constraints).bind Except.toOption := by
  rw [counterfactual, document?, Option.bind_assoc]
  congr 1
  funext propagated
  simp only [apply, hbase]
  obtain _ | _ | json := mutated_json orders.writes base.json propagated <;> rfl

theorem mutated_json_toOption {order : HashOrder} {propagated : List (UInt32 × List ConfigChange)} :
    (mutated_json order json propagated).bind Except.toOption =
      ((apply_changes (order.iter (latest_changes propagated).entries) json).bind
        Except.toOption).map strip_nulls := by
  rw [mutated_json]
  obtain _ | _ | written := apply_changes (order.iter (latest_changes propagated).entries) json <;>
    rfl

theorem document?_eq_some_iff :
    document? profile trig dag fns interventions period_months base orders = some json ↔
      ∃ propagated,
        propagate profile trig dag fns orders interventions period_months = some propagated ∧
        ∃ written, (apply_changes (orders.writes.iter (latest_changes propagated).entries)
            base.json).bind Except.toOption = some written ∧ strip_nulls written = json := by
  rw [document?, Option.bind_eq_some_iff]
  refine exists_congr fun propagated => and_congr_right fun _ => ?_
  rw [mutated_json_toOption, Option.map_eq_some_iff]

theorem target?_of_resolves {path : String} (h : Resolves json path) :
    (target? path).isSome := by
  obtain ⟨segments, hsegments, -⟩ := h
  rw [hsegments, Option.isSome_some]

/-- The configuration is built in some order of the writes if all changed paths resolve. -/
theorem exists_document {order : HashOrder}
    (hbuilds : Builds profile trig dag fns interventions period_months base order) :
    ∃ orders json, orders.overrides = order ∧
      document? profile trig dag fns interventions period_months base orders = some json := by
  let orders : IterationOrders := ⟨order, fun _ => .insertion, .insertion⟩
  obtain ⟨propagated, hpropagated⟩ :
      ∃ propagated,
        propagate profile trig dag fns orders interventions period_months = some propagated := by
    apply Option.isSome_iff_exists.mp
    exact isSome_propagateMonths_iff.mpr hbuilds.propagates
  have hresolves : ∀ change ∈ (latest_changes propagated).entries,
      Resolves base.json change.1 := by
    intro change hchange
    exact hbuilds.resolves _ _
      (given_of_find? hpropagated ((OrderedMap.mem_entries_iff _).mp hchange))
  obtain ⟨changes, hperm, hsome⟩ := places.exists_perm_isSome_writeAll
    (fun change : String × ℚ => ((target? change.1).getD [], Json.number change.2))
    (fun change _ => leaf_number change.2) fun change hchange => by
      obtain ⟨segments, hsegments, hplace⟩ := hresolves change hchange
      rw [hsegments]
      exact hplace
  obtain ⟨writes, hwrites⟩ := HashOrder.exists_iter_eq hperm
  obtain ⟨written, hwritten⟩ := Option.isSome_iff_exists.mp hsome
  refine ⟨{ orders with writes := writes }, strip_nulls written, rfl,
    document?_eq_some_iff.mpr ⟨propagated, ?_, written, ?_, rfl⟩⟩
  · exact (propagateMonths_writes writes _).trans hpropagated
  · rw [hwrites, apply_changes_toOption, ← hwritten]
    · rfl
    · intro change hchange
      exact target?_of_resolves (hresolves change (hperm.mem_iff.mp hchange))

theorem builds_of_document
    (h : document? profile trig dag fns interventions period_months base orders = some json) :
    Builds profile trig dag fns interventions period_months base orders.overrides := by
  obtain ⟨propagated, hpropagated, written, hwritten, -⟩ := document?_eq_some_iff.mp h
  constructor
  · apply isSome_propagateMonths_iff.mp
    rw [← propagate, hpropagated, Option.isSome_some]
  · intro path value hgiven
    obtain ⟨other, hother⟩ := find?_of_given hpropagated hgiven
    have hmem := (orders.writes.perm _).mem_iff.mpr ((OrderedMap.mem_entries_iff _).mpr hother)
    have htargets := targets_of_apply_changes hwritten
    obtain ⟨segments, hsegments⟩ := Option.isSome_iff_exists.mp (htargets _ hmem)
    rw [apply_changes_toOption htargets] at hwritten
    exact ⟨segments, hsegments, Places.resolves_of_writeAll leaf_of_mem_writesOf hwritten _
      (mem_writesOf hmem hsegments)⟩

/-- What a run has written before the nulls are removed. -/
theorem exists_written (hbuilds : Builds profile trig dag fns interventions period_months base
      orders.overrides)
    {propagated : List (UInt32 × List ConfigChange)}
    (h : propagate profile trig dag fns orders interventions period_months = some propagated) :
    (apply_changes (orders.writes.iter (latest_changes propagated).entries) base.json).bind
        Except.toOption =
      places.writeAll (writesOf (orders.writes.iter (latest_changes propagated).entries))
        base.json := by
  apply apply_changes_toOption
  intro change hchange
  have hfind := (OrderedMap.mem_entries_iff _).mp
    ((orders.writes.perm _).mem_iff.mp hchange)
  exact target?_of_resolves (hbuilds.resolves _ _ (given_of_find? h hfind))

end Documents

section Reproducible

variable {profile : Profile} {trig : Trigonometry} {dag : BoundDAG} {fns : RealFunctions ℚ}
  {interventions : List ValidatedIntervention} {period_months : UInt32}
  {orders orders' : IterationOrders} {base : ConfigDocument} {json : Json}
  {propagated propagated' : List (UInt32 × List ConfigChange)}

theorem exists_given_of_mem_writesOf
    (h : propagate profile trig dag fns orders interventions period_months = some propagated)
    (hbuilds : Builds profile trig dag fns interventions period_months base orders.overrides)
    {a : List PathSegment × Json}
    (ha : a ∈ writesOf (orders.writes.iter (latest_changes propagated).entries)) :
    ∃ path value, target? path = some a.1 ∧ a.2 = .number value ∧
      Given profile trig dag fns interventions period_months orders.overrides path value := by
  obtain ⟨⟨path, value⟩, hchange, rfl⟩ := List.mem_map.mp ha
  have hgiven := given_of_find? h ((OrderedMap.mem_entries_iff _).mp
    ((orders.writes.perm _).mem_iff.mp hchange))
  obtain ⟨segments, hsegments, -⟩ := hbuilds.resolves path value hgiven
  exact ⟨path, value, by rw [hsegments, Option.getD_some], rfl, hgiven⟩

theorem mem_writesOf_of_given
    (h : propagate profile trig dag fns orders interventions period_months = some propagated)
    (hunambiguous : Unambiguous profile trig dag fns interventions period_months base)
    {path : String} {value : ℚ} {segments : List PathSegment}
    (hsegments : target? path = some segments)
    (hgiven : Given profile trig dag fns interventions period_months orders.overrides path
      value) :
    (segments, Json.number value) ∈
      writesOf (orders.writes.iter (latest_changes propagated).entries) := by
  obtain ⟨other, hother⟩ := find?_of_given h hgiven
  rcases hunambiguous.agree _ _ _ _ _ _ hgiven (given_of_find? h hother) segments hsegments
    segments hsegments with heq | hapart
  · cases heq
    exact mem_writesOf ((orders.writes.perm _).mem_iff.mpr
      ((OrderedMap.mem_entries_iff _).mpr hother)) hsegments
  · exact absurd (List.prefix_refl segments) hapart.not_prefix

theorem compatible_of_unambiguous
    (h : propagate profile trig dag fns orders interventions period_months = some propagated)
    (h' : propagate profile trig dag fns orders' interventions period_months = some propagated')
    (hunambiguous : Unambiguous profile trig dag fns interventions period_months base)
    {a b : List PathSegment × Json}
    (ha : a ∈ writesOf (orders.writes.iter (latest_changes propagated).entries))
    (hb : b ∈ writesOf (orders'.writes.iter (latest_changes propagated').entries)) :
    Places.Compatible a b := by
  obtain ⟨path, value, hsegments, hvalue, hgiven⟩ :=
    exists_given_of_mem_writesOf h (hunambiguous.builds _) ha
  obtain ⟨path', value', hsegments', hvalue', hgiven'⟩ :=
    exists_given_of_mem_writesOf h' (hunambiguous.builds _) hb
  apply (hunambiguous.agree _ _ _ _ _ _ hgiven hgiven' a.1 hsegments b.1 hsegments').imp_left
  intro heq
  obtain ⟨hfst, rfl⟩ := Prod.ext_iff.mp heq
  exact Prod.ext hfst (hvalue.trans hvalue'.symm)

/-- Writing what another run writes changes nothing. -/
theorem idle_of_unambiguous
    (h : propagate profile trig dag fns orders interventions period_months = some propagated)
    (h' : propagate profile trig dag fns orders' interventions period_months = some propagated')
    (hunambiguous : Unambiguous profile trig dag fns interventions period_months base) :
    places.writeAll (writesOf (orders.writes.iter (latest_changes propagated).entries) ++
        writesOf (orders'.writes.iter (latest_changes propagated').entries)) base.json =
      places.writeAll (writesOf (orders.writes.iter (latest_changes propagated).entries))
        base.json := by
  apply Places.writeAll_append_eq_self base.sorted
  · intro a ha b hb
    rw [List.mem_append] at ha hb
    rcases ha with ha | ha <;> rcases hb with hb | hb
    · exact compatible_of_unambiguous h h hunambiguous ha hb
    · exact compatible_of_unambiguous h h' hunambiguous ha hb
    · exact compatible_of_unambiguous h' h hunambiguous ha hb
    · exact compatible_of_unambiguous h' h' hunambiguous ha hb
  · intro a ha
    obtain ⟨path, value, hsegments, hvalue, hgiven⟩ :=
      exists_given_of_mem_writesOf h' (hunambiguous.builds _) ha
    rcases hunambiguous.covered _ orders.overrides _ _ hgiven with
      ⟨path', value', htarget, hgiven'⟩ | ⟨segments, hother, hholds⟩
    · rw [hsegments] at htarget
      rcases hunambiguous.agree _ _ _ _ _ _ hgiven hgiven' a.1 hsegments a.1 htarget with
        heq | hapart
      · obtain rfl : value = value' := (Prod.ext_iff.mp heq).2
        have hmem := mem_writesOf_of_given h hunambiguous htarget hgiven'
        rw [← hvalue] at hmem
        exact .inl hmem
      · exact absurd (List.prefix_refl a.1) hapart.not_prefix
    · rw [hsegments] at hother
      cases hother
      exact .inr (hholds.trans (congrArg some hvalue.symm))

theorem document?_eq_of_unambiguous
    (hunambiguous : Unambiguous profile trig dag fns interventions period_months base) :
    document? profile trig dag fns interventions period_months base orders =
      document? profile trig dag fns interventions period_months base orders' := by
  have hruns : ∀ orders, ∃ propagated,
      propagate profile trig dag fns orders interventions period_months = some propagated := by
    intro orders
    apply Option.isSome_iff_exists.mp
    exact isSome_propagateMonths_iff.mpr (hunambiguous.builds orders.overrides).propagates
  obtain ⟨propagated, h⟩ := hruns orders
  obtain ⟨propagated', h'⟩ := hruns orders'
  rw [document?, document?, h, h', Option.bind_some, Option.bind_some, mutated_json_toOption,
    mutated_json_toOption, exists_written (hunambiguous.builds _) h,
    exists_written (hunambiguous.builds _) h', ← idle_of_unambiguous h h' hunambiguous,
    ← idle_of_unambiguous h' h hunambiguous]
  congr 1
  apply Places.writeAll_perm List.perm_append_comm
  intro a ha b hb
  rw [List.mem_append] at ha hb
  rcases ha with ha | ha <;> rcases hb with hb | hb
  · exact compatible_of_unambiguous h h hunambiguous ha hb
  · exact compatible_of_unambiguous h h' hunambiguous ha hb
  · exact compatible_of_unambiguous h' h hunambiguous ha hb
  · exact compatible_of_unambiguous h' h' hunambiguous ha hb

theorem holds_of_unambiguous
    (hunambiguous : Unambiguous profile trig dag fns interventions period_months base)
    (h : document? profile trig dag fns interventions period_months base orders = some json)
    {path : String} {value : ℚ}
    (hgiven : Given profile trig dag fns interventions period_months orders.overrides path
      value) : Holds json path value := by
  obtain ⟨propagated, hpropagated, written, hwritten, rfl⟩ := document?_eq_some_iff.mp h
  rw [exists_written (hunambiguous.builds _) hpropagated] at hwritten
  obtain ⟨segments, hsegments, -⟩ := (hunambiguous.builds _).resolves path value hgiven
  refine ⟨segments, hsegments, ?_⟩
  have hsorted : SortedFields written :=
    Places.canonical_writeAll hwritten base.sorted sortedFields_of_mem_writesOf
  rw [valueAt_strip_nulls hsorted]
  apply Places.valueAt_writeAll _ hwritten
  · exact mem_writesOf_of_given hpropagated hunambiguous hsegments hgiven
  · exact fun a ha b hb => compatible_of_unambiguous hpropagated hpropagated hunambiguous ha hb

/-- Configurations that are documents, of which nothing is checked. -/
def plainDocuments (base : ConfigDocument) : ConfigType Json where
  to_value _ := .ok base
  from_value := .ok
  generate_document_references _ := true
  validate_balance_equation _ := true
  generate_trial_balances _ := true
  show_f64 _ := ""

theorem document?_eq_of_reproducible
    (h : Reproducible profile trig dag fns interventions period_months base)
    (orders orders' : IterationOrders) :
    document? profile trig dag fns interventions period_months base orders =
      document? profile trig dag fns interventions period_months base orders' := by
  have hsame := h.same Json (plainDocuments base) .null ⟨false, false, []⟩ rfl orders orders'
  rw [counterfactual_eq rfl, counterfactual_eq rfl] at hsame
  have hread : ∀ json, (read_back (plainDocuments base) json ⟨false, false, []⟩).bind
      Except.toOption = some json := fun json => rfl
  simp only [hread, Option.bind_fun_some] at hsame
  exact hsame

/-- There is no place below a number. -/
theorem eq_nil_of_valueAt_append {segments rest : List PathSegment} {value value' : ℚ}
    (h : places.valueAt segments (some json) = some (.number value))
    (h' : places.valueAt (segments ++ rest) (some json) = some (.number value')) :
    rest = [] ∧ value = value' := by
  rw [Places.valueAt_append, h] at h'
  by_cases hrest : rest = []
  · subst hrest
    cases h'
    exact ⟨rfl, rfl⟩
  · rw [Places.valueAt_leaf (leaf_number value) hrest] at h'
    cases h'

theorem eq_or_apart_of_holds {path path' : String} {value value' : ℚ}
    (h : Holds json path value) (h' : Holds json path' value')
    {segments segments' : List PathSegment} (hsegments : target? path = some segments)
    (hsegments' : target? path' = some segments') :
    (segments, value) = (segments', value') ∨ Places.Apart segments segments' := by
  obtain ⟨_, heq, hvalue⟩ := h
  obtain ⟨_, heq', hvalue'⟩ := h'
  cases hsegments.symm.trans heq
  cases hsegments'.symm.trans heq'
  obtain ⟨rest, rfl⟩ | ⟨rest, rfl⟩ | hapart := Places.prefix_or_apart segments segments'
  · obtain ⟨rfl, rfl⟩ := eq_nil_of_valueAt_append hvalue hvalue'
    rw [List.append_nil]
    exact .inl rfl
  · obtain ⟨rfl, rfl⟩ := eq_nil_of_valueAt_append hvalue' hvalue
    rw [List.append_nil]
    exact .inl rfl
  · exact .inr hapart

/-- A value that a run does not write was there before. -/
theorem holds_base_of_holds
    (h : document? profile trig dag fns interventions period_months base orders = some json)
    {path : String} {value : ℚ} (hholds : Holds json path value)
    (hunchanged : ¬ ∃ path' value', target? path' = target? path ∧
      Given profile trig dag fns interventions period_months orders.overrides path' value') :
    Holds base.json path value := by
  have hbuilds := builds_of_document h
  obtain ⟨propagated, hpropagated, written, hwritten, rfl⟩ := document?_eq_some_iff.mp h
  rw [exists_written hbuilds hpropagated] at hwritten
  have hsorted : SortedFields written :=
    Places.canonical_writeAll hwritten base.sorted sortedFields_of_mem_writesOf
  obtain ⟨segments, hsegments, hvalue⟩ := hholds
  rw [valueAt_strip_nulls hsorted] at hvalue
  refine ⟨segments, hsegments, ?_⟩
  apply Places.valueAt_of_valueAt_writeAll leaf_of_mem_writesOf (leaf_number value) hwritten _
    hvalue
  intro a ha heq
  obtain ⟨path', value', htarget, -, hgiven⟩ :=
    exists_given_of_mem_writesOf hpropagated hbuilds ha
  exact hunchanged ⟨path', value', by rw [htarget, heq, hsegments], hgiven⟩

theorem reproducible_iff :
    Reproducible profile trig dag fns interventions period_months base ↔
      (∀ order, ¬ Builds profile trig dag fns interventions period_months base order) ∨
        Unambiguous profile trig dag fns interventions period_months base := by
  constructor
  · intro h
    by_cases hnever : ∀ order,
        ¬ Builds profile trig dag fns interventions period_months base order
    · exact .inl hnever
    · push Not at hnever
      obtain ⟨order, hbuilds⟩ := hnever
      obtain ⟨orders, json, -, hjson⟩ := exists_document hbuilds
      have hdocument : ∀ orders',
          document? profile trig dag fns interventions period_months base orders' = some json :=
        fun orders' => (document?_eq_of_reproducible h orders' orders).trans hjson
      have hholds : ∀ order path value,
          Given profile trig dag fns interventions period_months order path value →
            Holds json path value :=
        fun order path value =>
          h.latest ⟨order, fun _ => .insertion, .insertion⟩ json (hdocument _) path value
      refine .inr ⟨fun order => ?_, ?_, ?_⟩
      · exact builds_of_document (hdocument ⟨order, fun _ => .insertion, .insertion⟩)
      · intro order order' path path' value value' hgiven hgiven' segments hsegments segments'
          hsegments'
        exact eq_or_apart_of_holds (hholds _ _ _ hgiven) (hholds _ _ _ hgiven') hsegments
          hsegments'
      · intro order order' path value hgiven
        rw [or_iff_not_imp_left]
        exact holds_base_of_holds (hdocument ⟨order', fun _ => .insertion, .insertion⟩)
          (hholds _ _ _ hgiven)
  · rintro (hnever | hunambiguous)
    · have hnone : ∀ orders,
          document? profile trig dag fns interventions period_months base orders = none := by
        intro orders
        rw [Option.eq_none_iff_forall_ne_some]
        exact fun json hjson => hnever _ (builds_of_document hjson)
      refine ⟨fun C configs config constraints hbase orders orders' => ?_, ?_⟩
      · rw [counterfactual_eq hbase, counterfactual_eq hbase, hnone, hnone]
      · intro orders json hjson
        rw [hnone] at hjson
        cases hjson
    · refine ⟨fun C configs config constraints hbase orders orders' => ?_, ?_⟩
      · rw [counterfactual_eq hbase, counterfactual_eq hbase,
          document?_eq_of_unambiguous hunambiguous]
      · exact fun orders json hjson path value => holds_of_unambiguous hunambiguous hjson

end Reproducible

section SharedPath

/-- Two nodes that are bound to one path. -/
def sharedDAG : BoundDAG :=
  ⟨[⟨⟨"gdp_growth", 0, none⟩, ["transactions.volume_multiplier"]⟩,
    ⟨⟨"unemployment_rate", 0, none⟩, ["transactions.volume_multiplier"]⟩],
    [], ["gdp_growth", "unemployment_rate"]⟩

def volumeDocument : ConfigDocument where
  json := .object [("transactions", .object [("volume_multiplier", .number 1)])]
  sorted := by
    refine .object (List.pairwise_singleton _ _) (List.forall_mem_singleton.mpr ?_)
    exact .object (List.pairwise_singleton _ _) (List.forall_mem_singleton.mpr (.number 1))

def mildRecession : ValidatedIntervention :=
  ⟨⟨.macroShock ⟨.recession, 1, .empty⟩, ⟨1, none, .sudden, none⟩, 1⟩,
    ["distributions.drift.economic_cycle.amplitude", "transactions.volume_multiplier"]⟩

/-- The node that is visited last has its value in the configuration. -/
theorem shared_path_depends_on_order :
    ¬ Reproducible .release ⟨0, fun _ => 0⟩ sharedDAG ⟨id, fun x _ => x⟩ [mildRecession] 1
      volumeDocument := by
  intro h
  have hsame := congrArg
    (fun document => document.bind fun json =>
      (places.valueAt [.key "transactions", .key "volume_multiplier"] (some json)).bind asF64)
    (document?_eq_of_reproducible h ⟨.insertion, fun _ => .insertion, .insertion⟩
      ⟨.insertion, fun _ => ⟨List.reverse, List.reverse_perm⟩, .insertion⟩)
  revert hsame
  decide +kernel

end SharedPath

end Datasynth.Runtime.ConfigMutator
