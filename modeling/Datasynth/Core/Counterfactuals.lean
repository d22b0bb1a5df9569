import Datasynth.Core.CausalGraphs
import Datasynth.Lib.OrderedEvaluation

/-!
What a record of a causal model would have been with another value of one variable: the noise of
every variable is read off the record, the variable is set, and what is downstream of it is
computed again.
-/

namespace Datasynth.Core.Counterfactuals

open Datasynth.Core.CausalGraphs
open Datasynth.Lib.OrderedEvaluation
open Datasynth.Lib.SortedEntries
open Datasynth.Lib.TopologicalOrder

universe u

variable {K : Type u}

/-- The errors of the two engines on a causal model. -/
inductive SynthError where
  | validation (message : String)
  | generation (message : String)
deriving DecidableEq, Repr

/-- A model whose graph passed validation. -/
structure StructuralCausalModel (K : Type u) where
  graph : CausalGraph K
  valid : graph.validate = .ok ()

def StructuralCausalModel.new (graph : CausalGraph K) : Except String (StructuralCausalModel K) :=
  match h : graph.validate with
  | .ok () => .ok ⟨graph, h⟩
  | .error message => .error message

/-- What the parents of a variable add to it, a missing parent counting as zero. -/
def parentContribution [Zero K] [Add K] [Mul K] (apply : CausalMechanism K → K → K)
    (graph : CausalGraph K) (values : String → Option K) (name : String) : K :=
  sumOf ((graph.parent_edges name).map fun edge =>
    apply edge.mechanism ((values edge.from_var).getD 0) * edge.strength)

section Arithmetic

variable [Zero K] [Add K] [Sub K] [Mul K] (apply : CausalMechanism K → K → K)

/-- The noise that explains the observed value of a variable. -/
def noiseOf (graph : CausalGraph K) (factual : String → Option K) (name : String) : K :=
  (factual name).getD 0 - parentContribution apply graph factual name

def abduce_noise (factual : OrderedMap String K) (graph : CausalGraph K) (order : List String) :
    OrderedMap String K :=
  order.foldl (fun noise name => noise.insert name (noiseOf apply graph factual.find? name)) .empty

end Arithmetic

/-- A variable is marked when a parent of it is. -/
def markDownstream (graph : CausalGraph K) (downstream : Finset String) (name : String) :
    Finset String :=
  if name ∈ downstream then downstream
  else if (graph.parent_edges name).any fun edge => edge.from_var ∈ downstream then
    insert name downstream
  else downstream

def find_downstream_variables (graph : CausalGraph K) (name : String) (order : List String) :
    Finset String :=
  (order.foldl (markDownstream graph) {name}).erase name

section Counterfactual

variable [Zero K] [Add K] [Sub K] [Mul K] (apply : CausalMechanism K → K → K)

/-- The prediction: what is downstream is computed again, along the order. -/
def regenerate (graph : CausalGraph K) (noise : OrderedMap String K) (downstream : Finset String)
    (intervention_var : String) : List String → OrderedMap String K → OrderedMap String K
  | [], counterfactual => counterfactual
  | name :: names, counterfactual =>
      if name = intervention_var ∨ name ∉ downstream then
        regenerate graph noise downstream intervention_var names counterfactual
      else
        regenerate graph noise downstream intervention_var names
          (counterfactual.insert name ((noise.find? name).getD 0 +
            parentContribution apply graph counterfactual.find? name))

def generate_counterfactual (scm : StructuralCausalModel K) (factual : OrderedMap String K)
    (intervention_var : String) (new_value : K) : Except SynthError (OrderedMap String K) :=
  match scm.graph.get_variable intervention_var with
  | none => .error (.generation
      ("Intervention variable '" ++ intervention_var ++ "' not found in causal graph"))
  | some _ =>
      match scm.graph.topological_order with
      | .error message => .error (.generation message)
      | .ok order =>
          .ok (regenerate apply scm.graph (abduce_noise apply factual scm.graph order)
            (find_downstream_variables scm.graph intervention_var order) intervention_var order
            (factual.insert intervention_var new_value))

end Counterfactual

/-- A path of edges leads from the one variable to the other. -/
def Downstream (graph : CausalGraph K) : String → String → Prop :=
  Relation.TransGen fun u w => (u, w) ∈ graph.ends

section Graph

variable {scm : StructuralCausalModel K} {order : List String}

theorem known_of_valid (scm : StructuralCausalModel K) : ∀ e ∈ scm.graph.edges,
    e.from_var ∈ scm.graph.variable_names ∧ e.to_var ∈ scm.graph.variable_names :=
  (CausalGraph.validate_eq_ok_iff.mp scm.valid).1

theorem acyclic_of_valid (scm : StructuralCausalModel K) : Acyclic scm.graph.ends :=
  (CausalGraph.validate_eq_ok_iff.mp scm.valid).2

theorem exists_topological_order (scm : StructuralCausalModel K) :
    ∃ order, scm.graph.topological_order = .ok order :=
  ⟨_, CausalGraph.topological_order_eq_ok_iff.mpr ⟨acyclic_of_valid scm, rfl⟩⟩

theorem mem_ends_of_parent_edge {name : String} {edge : CausalEdge K}
    (h : edge ∈ scm.graph.parent_edges name) : (edge.from_var, name) ∈ scm.graph.ends := by
  rw [CausalGraph.parent_edges, List.mem_filter, decide_eq_true_eq] at h
  obtain ⟨he, rfl⟩ := h
  obtain ⟨hfrom, hto⟩ := known_of_valid scm edge he
  exact CausalGraph.mem_ends_iff.mpr ⟨hfrom, hto, edge, he, rfl, rfl⟩

theorem mem_names_of_downstream {x v : String} (h : Downstream scm.graph x v) :
    v ∈ scm.graph.variable_names := by
  obtain ⟨u, -, hends⟩ := Relation.TransGen.tail'_iff.mp h
  exact (CausalGraph.mem_ends_iff.mp hends).2.1

theorem any_parent_edge_iff {name : String} {marked : Finset String} :
    ((scm.graph.parent_edges name).any fun edge => edge.from_var ∈ marked) = true ↔
      ∃ u ∈ marked, (u, name) ∈ scm.graph.ends := by
  rw [List.any_eq_true]
  constructor
  · rintro ⟨edge, hedge, hmarked⟩
    exact ⟨edge.from_var, of_decide_eq_true hmarked, mem_ends_of_parent_edge hedge⟩
  · rintro ⟨u, hu, hends⟩
    obtain ⟨-, -, edge, hedge, rfl, rfl⟩ := CausalGraph.mem_ends_iff.mp hends
    exact ⟨edge, List.mem_filter.mpr ⟨hedge, decide_eq_true rfl⟩, decide_eq_true hu⟩

theorem mem_markDownstream_iff {name v : String} {marked : Finset String} :
    v ∈ markDownstream scm.graph marked name ↔
      v ∈ marked ∨ v = name ∧ ∃ u ∈ marked, (u, name) ∈ scm.graph.ends := by
  rw [markDownstream]
  split
  · rename_i hname
    exact ⟨.inl, fun h => h.elim id fun h => h.1 ▸ hname⟩
  · split
    · rename_i hparent
      rw [Finset.mem_insert]
      exact ⟨fun h => h.elim (fun h => .inr ⟨h, any_parent_edge_iff.mp hparent⟩) .inl,
        fun h => h.elim .inr fun h => .inl h.1⟩
    · rename_i hparent
      exact ⟨.inl, fun h => h.elim id fun h => absurd (any_parent_edge_iff.mpr h.2) hparent⟩

theorem subset_foldl_mark (names : List String) (marked : Finset String) :
    marked ⊆ names.foldl (markDownstream scm.graph) marked := by
  induction names generalizing marked with
  | nil => exact Finset.Subset.refl marked
  | cons name names ih =>
      intro v hv
      exact ih _ (mem_markDownstream_iff.mpr (.inl hv))

theorem mem_of_mem_foldl_mark {names : List String} {marked : Finset String} {v : String}
    (h : v ∈ names.foldl (markDownstream scm.graph) marked) : v ∈ marked ∨ v ∈ names := by
  induction names generalizing marked with
  | nil => exact .inl h
  | cons name names ih =>
      rcases ih h with hv | hv
      · rcases mem_markDownstream_iff.mp hv with hv | ⟨rfl, -⟩
        · exact .inl hv
        · exact .inr List.mem_cons_self
      · exact .inr (List.mem_cons_of_mem name hv)

theorem foldl_mark_sound {x : String} {names : List String} {marked : Finset String}
    (hmarked : ∀ v ∈ marked, v = x ∨ Downstream scm.graph x v) :
    ∀ v ∈ names.foldl (markDownstream scm.graph) marked, v = x ∨ Downstream scm.graph x v := by
  induction names generalizing marked with
  | nil => exact hmarked
  | cons name names ih =>
      apply ih
      intro v hv
      rcases mem_markDownstream_iff.mp hv with hv | ⟨rfl, u, hu, hends⟩
      · exact hmarked v hv
      · rcases hmarked u hu with rfl | hpath
        · exact .inr (.single hends)
        · exact .inr (hpath.tail hends)

/-- The walk along the order finds everything downstream, and nothing else. -/
theorem mem_find_downstream_iff (hnodup : scm.graph.variable_names.Nodup)
    (horder : scm.graph.topological_order = .ok order) {x v : String} :
    v ∈ find_downstream_variables scm.graph x order ↔ Downstream scm.graph x v := by
  have hschedule := CausalGraph.schedule_of_topological_order horder hnodup
  have hperm := CausalGraph.perm_of_topological_order horder
  rw [find_downstream_variables, Finset.mem_erase]
  constructor
  · rintro ⟨hne, hv⟩
    refine (foldl_mark_sound ?_ v hv).resolve_left hne
    exact fun w hw => .inl (Finset.mem_singleton.mp hw)
  · intro hpath
    refine ⟨fun heq => acyclic_of_valid scm x (heq ▸ hpath), ?_⟩
    -- What is marked at the end was marked before its children were looked at.
    have hclosed : ∀ {u w}, u ∈ order.foldl (markDownstream scm.graph) {x} →
        (u, w) ∈ scm.graph.ends → w ∈ order.foldl (markDownstream scm.graph) {x} := by
      intro u w hu hends
      have hw := hperm.mem_iff.mpr (CausalGraph.mem_ends_iff.mp hends).2.1
      obtain ⟨pre, post, hsplit⟩ := List.append_of_mem hw
      have hupre := hschedule.precedes pre w post hsplit u hends
      have hlate : u ∉ w :: post := by
        have hnodup' := hschedule.nodup
        rw [hsplit, List.nodup_append] at hnodup'
        exact fun hlate => hnodup'.2.2 u hupre u hlate rfl
      rw [hsplit, List.foldl_append] at hu ⊢
      have hearly := (mem_of_mem_foldl_mark hu).resolve_right hlate
      rw [List.foldl_cons]
      exact subset_foldl_mark post _ (mem_markDownstream_iff.mpr (.inr ⟨rfl, u, hearly, hends⟩))
    induction hpath with
    | single hends =>
        exact hclosed (subset_foldl_mark order {x} (Finset.mem_singleton_self x)) hends
    | tail _ hends ih => exact hclosed ih hends

end Graph

/-- Some variables are set, others are computed from a noise and their parents' values, and the
others have what they had. -/
structure Solves [Zero K] [Add K] [Mul K] (apply : CausalMechanism K → K → K)
    (graph : CausalGraph K) (noise : String → K) (set : String → Option K)
    (computed : String → Prop) (old record : String → Option K) : Prop where
  of_set : ∀ v value, set v = some value → record v = some value
  of_computed : ∀ v, set v = none → computed v →
    record v = some (noise v + parentContribution apply graph record v)
  of_kept : ∀ v, set v = none → ¬ computed v → record v = old v

section Solutions

variable [Zero K] [Add K] [Mul K] {apply : CausalMechanism K → K → K}
  {scm : StructuralCausalModel K} {order : List String}

theorem parentContribution_congr {values values' : String → Option K} {name : String}
    (h : ∀ u, (u, name) ∈ scm.graph.ends → values u = values' u) :
    parentContribution apply scm.graph values name =
      parentContribution apply scm.graph values' name := by
  rw [parentContribution, parentContribution]
  congr 1
  apply List.map_congr_left
  intro edge hedge
  rw [h edge.from_var (mem_ends_of_parent_edge hedge)]

/-- The equations of a graph without cycles have one solution. -/
theorem Solves.eq (hnodup : scm.graph.variable_names.Nodup) {noise : String → K}
    {set : String → Option K} {computed : String → Prop}
    (hcomputed : ∀ v, computed v → v ∈ scm.graph.variable_names)
    {old record record' : String → Option K}
    (h : Solves apply scm.graph noise set computed old record)
    (h' : Solves apply scm.graph noise set computed old record') : record = record' := by
  obtain ⟨order, horder⟩ := exists_topological_order scm
  have hschedule := CausalGraph.schedule_of_topological_order horder hnodup
  have hperm := CausalGraph.perm_of_topological_order horder
  have hother : ∀ v, ¬ computed v → record v = record' v := by
    intro v hv
    cases hset : set v with
    | some value => rw [h.of_set v value hset, h'.of_set v value hset]
    | none => rw [h.of_kept v hset hv, h'.of_kept v hset hv]
  have hlisted : ∀ v ∈ order, record v = record' v := by
    intro v hv
    refine hschedule.induction (p := fun v => record v = record' v) (fun v _ ih => ?_) hv
    by_cases hv : computed v
    · cases hset : set v with
      | some value => rw [h.of_set v value hset, h'.of_set v value hset]
      | none =>
          rw [h.of_computed v hset hv, h'.of_computed v hset hv, parentContribution_congr ih]
    · exact hother v hv
  funext v
  by_cases hv : v ∈ order
  · exact hlisted v hv
  · exact hother v fun hc => hv (hperm.mem_iff.mpr (hcomputed v hc))

/-- What the loop of the prediction does with each variable. -/
def predictionRule (apply : CausalMechanism K → K → K) (graph : CausalGraph K)
    (noise : OrderedMap String K) (downstream : Finset String) (x : String)
    (start : String → Option K) (v : String) (values : String → Option K) : Option (Option K) :=
  some (if v = x ∨ v ∉ downstream then start v
    else some ((noise.find? v).getD 0 + parentContribution apply graph values v))

variable (apply scm) in
theorem map_regenerate [Sub K] (noise : OrderedMap String K) (downstream : Finset String)
    (x : String) {start : String → Option K} {names : List String} (hnodup : names.Nodup)
    (values : OrderedMap String K) (hstart : ∀ v ∈ names, values.find? v = start v) :
    evaluate (predictionRule apply scm.graph noise downstream x start) names values.find? =
      some (regenerate apply scm.graph noise downstream x names values).find? := by
  induction names generalizing values with
  | nil => rfl
  | cons name names ih =>
      rw [List.nodup_cons] at hnodup
      rw [List.forall_mem_cons] at hstart
      rw [evaluate, predictionRule, Option.bind_some, regenerate]
      split
      · rw [← hstart.1, Function.update_eq_self]
        exact ih hnodup.2 values hstart.2
      · have hupdate : ∀ value, Function.update values.find? name (some value) =
            (values.insert name value).find? := by
          intro value
          funext k
          rw [OrderedMap.find?_insert, Function.update_apply]
        rw [hupdate]
        apply ih hnodup.2
        intro v hv
        rw [OrderedMap.find?_insert, if_neg (ne_of_mem_of_not_mem hv hnodup.1)]
        exact hstart.2 v hv

end Solutions

section Results

variable [Zero K] [Add K] [Sub K] [Mul K] {apply : CausalMechanism K → K → K}
  {scm : StructuralCausalModel K} {factual : OrderedMap String K} {x : String} {value : K}

theorem find?_abduce_noise {graph : CausalGraph K} {names : List String} {v : String}
    (hv : v ∈ names) :
    (abduce_noise apply factual graph names).find? v =
      some (noiseOf apply graph factual.find? v) := by
  have hfold : ∀ (names : List String) (m : OrderedMap String K),
      (names.foldl (fun noise name => noise.insert name (noiseOf apply graph factual.find? name))
        m).find? v = if v ∈ names then some (noiseOf apply graph factual.find? v)
          else m.find? v := by
    intro names
    induction names with
    | nil => exact fun m => rfl
    | cons name names ih =>
        intro m
        rw [List.foldl_cons, ih, OrderedMap.find?_insert]
        by_cases hmem : v ∈ names
        · rw [if_pos hmem, if_pos (List.mem_cons_of_mem _ hmem)]
        · rw [if_neg hmem]
          by_cases hname : v = name
          · rw [if_pos hname, if_pos (hname ▸ List.mem_cons_self), hname]
          · rw [if_neg hname, if_neg (by simp [hname, hmem])]
  rw [abduce_noise, hfold, if_pos hv]

/-- The record with one variable set: what is downstream of it keeps its noise. -/
abbrev IsCounterfactual (apply : CausalMechanism K → K → K) (graph : CausalGraph K)
    (factual : String → Option K) (x : String) (value : K) (record : String → Option K) : Prop :=
  Solves apply graph (noiseOf apply graph factual) (fun v => if v = x then some value else none)
    (Downstream graph x) factual record

theorem isCounterfactual_of_generate (hnodup : scm.graph.variable_names.Nodup)
    {record : OrderedMap String K}
    (h : generate_counterfactual apply scm factual x value = .ok record) :
    IsCounterfactual apply scm.graph factual.find? x value record.find? := by
  rw [generate_counterfactual] at h
  split at h
  · cases h
  · rename_i var hvar
    split at h
    · cases h
    · rename_i order horder
      cases h
      have hschedule := CausalGraph.schedule_of_topological_order horder hnodup
      have hperm := CausalGraph.perm_of_topological_order horder
      have hmap := map_regenerate apply scm (abduce_noise apply factual scm.graph order)
        (find_downstream_variables scm.graph x order) x hschedule.nodup (factual.insert x value)
        fun v _ => rfl
      have hlocal : Local (fun u v => (u, v) ∈ scm.graph.ends)
          (predictionRule apply scm.graph (abduce_noise apply factual scm.graph order)
            (find_downstream_variables scm.graph x order) x (factual.insert x value).find?) := by
        intro v σ τ hσ
        rw [predictionRule, predictionRule, parentContribution_congr hσ]
      rw [evaluate_eq_some_iff hlocal hschedule.nodup
        (respects_of_precedes hschedule.nodup hschedule.precedes)] at hmap
      obtain ⟨hkept, hrules⟩ := hmap
      generalize (regenerate apply scm.graph _ _ x order (factual.insert x value)).find? = result
        at hkept hrules ⊢
      have hstart : ∀ v, v = x ∨ ¬ Downstream scm.graph x v →
          result v = (factual.insert x value).find? v := by
        intro v hv
        by_cases hmem : v ∈ order
        · have hrule := hrules v hmem
          have hunmarked := hv.imp_right fun h hmark =>
            h ((mem_find_downstream_iff hnodup horder).mp hmark)
          rw [predictionRule, if_pos hunmarked] at hrule
          exact (Option.some.inj hrule).symm
        · exact hkept v hmem
      refine ⟨fun v value' hset => ?_, fun v hset hv => ?_, fun v hset hv => ?_⟩
      · split at hset
        · rename_i hv
          cases hset
          rw [hstart v (.inl hv), OrderedMap.find?_insert, if_pos hv]
        · cases hset
      · split at hset
        · cases hset
        · rename_i hne
          have hmem := hperm.mem_iff.mpr (mem_names_of_downstream hv)
          have hrule := hrules v hmem
          have hmark := (mem_find_downstream_iff hnodup horder).mpr hv
          rw [predictionRule, if_neg (by simp [hne, hmark]), find?_abduce_noise hmem] at hrule
          exact (Option.some.inj hrule).symm
      · split at hset
        · cases hset
        · rename_i hne
          rw [hstart v (.inr hv), OrderedMap.find?_insert, if_neg hne]

theorem exists_generate_counterfactual (apply : CausalMechanism K → K → K)
    (factual : OrderedMap String K) (value : K) (hx : x ∈ scm.graph.variable_names) :
    ∃ record, generate_counterfactual apply scm factual x value = .ok record := by
  obtain ⟨order, horder⟩ := exists_topological_order scm
  rw [generate_counterfactual]
  split
  · rename_i hnone
    obtain ⟨var, hvar, rfl⟩ := List.mem_map.mp hx
    have := List.find?_eq_none.mp hnone var hvar
    simp at this
  · rw [horder]
    exact ⟨_, rfl⟩

/-- The counterfactual is the one record in which the variable has the new value, each variable
downstream of it the value that its mechanisms give with the noise of the observed record, and
every other variable the observed value.  The arithmetic may round. -/
theorem generate_counterfactual_unique (apply : CausalMechanism K → K → K)
    (scm : StructuralCausalModel K) (factual : OrderedMap String K) (x : String) (value : K)
    (hnodup : scm.graph.variable_names.Nodup) (hx : x ∈ scm.graph.variable_names) :
    ∃ counterfactual, generate_counterfactual apply scm factual x value = .ok counterfactual ∧
      ∀ record : OrderedMap String K,
        IsCounterfactual apply scm.graph factual.find? x value record.find? ↔
          record = counterfactual := by
  obtain ⟨counterfactual, hok⟩ := exists_generate_counterfactual apply factual value hx
  have hsolves := isCounterfactual_of_generate hnodup hok
  refine ⟨counterfactual, hok, fun record => ⟨fun h => ?_, fun h => h ▸ hsolves⟩⟩
  have heq := Solves.eq hnodup (fun v hv => mem_names_of_downstream hv) h hsolves
  exact OrderedMap.ext_find? fun k => congrFun heq k

end Results

def fraudModel : StructuralCausalModel ℚ :=
  ⟨CausalGraph.fraud_detection_template, CausalGraph.fraud_detection_template_valid⟩

/-- Its mechanisms, none of which needs the exponential function. -/
def fraudMechanism : CausalMechanism ℚ → ℚ → ℚ := CausalMechanism.apply fun _ => 1

def fraudRecord : OrderedMap String ℚ :=
  .ofList [("transaction_amount", 400), ("merchant_risk", 1 / 5), ("transaction_frequency", 9),
    ("fraud_probability", 121), ("is_fraud", 1)]

theorem fraud_counterfactual_unique :
    ∃ counterfactual,
      generate_counterfactual fraudMechanism fraudModel fraudRecord "merchant_risk" (4 / 5) =
          .ok counterfactual ∧
        ∀ record : OrderedMap String ℚ,
          IsCounterfactual fraudMechanism fraudModel.graph fraudRecord.find? "merchant_risk" (4 / 5)
              record.find? ↔ record = counterfactual :=
  generate_counterfactual_unique fraudMechanism fraudModel fraudRecord "merchant_risk" (4 / 5)
    CausalGraph.nodup_fraud_detection_template (by decide)

section Laws

variable [AddGroup K] [Mul K] {apply : CausalMechanism K → K → K}
  {scm : StructuralCausalModel K} {factual : String → Option K} {x : String} {value : K}
  {record : String → Option K}

/-- In exact arithmetic only the variable that is set has another noise afterwards. -/
theorem noiseOf_counterfactual (h : IsCounterfactual apply scm.graph factual x value record)
    {v : String} (hv : v ≠ x) :
    noiseOf apply scm.graph record v = noiseOf apply scm.graph factual v := by
  have hset : (if v = x then some value else none) = none := if_neg hv
  rw [noiseOf]
  by_cases hdown : Downstream scm.graph x v
  · rw [h.of_computed v hset hdown, Option.getD_some, add_sub_cancel_right]
  · rw [h.of_kept v hset hdown, noiseOf]
    congr 1
    apply parentContribution_congr
    intro u hends
    have hu : u ≠ x := by
      rintro rfl
      exact hdown (.single hends)
    exact h.of_kept u (if_neg hu) fun hpath => hdown (hpath.tail hends)

/-- Setting a variable again overwrites the first value. -/
theorem IsCounterfactual.overwrite {value' : K} {record' : String → Option K}
    (h : IsCounterfactual apply scm.graph factual x value record)
    (h' : IsCounterfactual apply scm.graph record x value' record') :
    IsCounterfactual apply scm.graph factual x value' record' := by
  refine ⟨h'.of_set, fun v hset hv => ?_, fun v hset hv => ?_⟩
  · have hne : v ≠ x := fun heq => by simp [heq] at hset
    rw [h'.of_computed v hset hv, noiseOf_counterfactual h hne]
  · have hne : v ≠ x := fun heq => by simp [heq] at hset
    rw [h'.of_kept v hset hv, h.of_kept v (if_neg hne) hv]

/-- Setting a variable to the value that it has changes nothing. -/
theorem isCounterfactual_self (hx : factual x = some value)
    (hdown : ∀ v, Downstream scm.graph x v → ∃ observed, factual v = some observed) :
    IsCounterfactual apply scm.graph factual x value factual := by
  refine ⟨fun v value' hset => ?_, fun v _ hv => ?_, fun v _ _ => rfl⟩
  · split at hset
    · rename_i hv
      rw [hv, hx, hset]
    · cases hset
  · obtain ⟨observed, hobserved⟩ := hdown v hv
    rw [noiseOf, hobserved, Option.getD_some, sub_add_cancel]

end Laws

/-- In exact arithmetic: the factual value gives back the record, and of two values for one
variable the second one counts. -/
theorem counterfactual_laws [AddGroup K] [Mul K] (apply : CausalMechanism K → K → K)
    (scm : StructuralCausalModel K) (factual : OrderedMap String K) (x : String)
    (hnodup : scm.graph.variable_names.Nodup) (hx : x ∈ scm.graph.variable_names) :
    (∀ value, factual.find? x = some value →
      (∀ v, Downstream scm.graph x v → (factual.find? v).isSome) →
        generate_counterfactual apply scm factual x value = .ok factual) ∧
      ∀ value value' record, generate_counterfactual apply scm factual x value = .ok record →
        generate_counterfactual apply scm record x value' =
          generate_counterfactual apply scm factual x value' := by
  have hunique : ∀ {record : OrderedMap String K} {value : K},
      IsCounterfactual apply scm.graph factual.find? x value record.find? →
        generate_counterfactual apply scm factual x value = .ok record := by
    intro record value h
    obtain ⟨counterfactual, hok⟩ := exists_generate_counterfactual apply factual value hx
    rw [hok]
    have heq := Solves.eq hnodup (fun v hv => mem_names_of_downstream hv)
      (isCounterfactual_of_generate hnodup hok) h
    rw [OrderedMap.ext_find? fun k => congrFun heq k]
  refine ⟨fun value hvalue hdown => ?_, fun value value' record hrecord => ?_⟩
  · apply hunique
    exact isCounterfactual_self hvalue fun v hv => Option.isSome_iff_exists.mp (hdown v hv)
  · obtain ⟨again, hagain⟩ := exists_generate_counterfactual apply record value' hx
    rw [hagain, hunique ((isCounterfactual_of_generate hnodup hrecord).overwrite
      (isCounterfactual_of_generate hnodup hagain))]

theorem fraud_counterfactual_laws :
    generate_counterfactual fraudMechanism fraudModel fraudRecord "merchant_risk" (1 / 5) =
      .ok fraudRecord := by
  refine (counterfactual_laws fraudMechanism fraudModel fraudRecord "merchant_risk"
    CausalGraph.nodup_fraud_detection_template (by decide)).1 (1 / 5) (by decide +kernel)
    fun v hv => ?_
  have hall : ∀ v ∈ fraudModel.graph.variable_names, (fraudRecord.find? v).isSome := by decide
  exact hall v (mem_names_of_downstream hv)

end Datasynth.Core.Counterfactuals
