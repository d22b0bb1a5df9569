import Mathlib
import Datasynth.Lib.ExceptRuns
import Datasynth.Runtime.CausalEngine

/-!
The validation of interventions, and what it does not ensure: the bounds of what is
bundled in a composite, that the higher priority wins, and that the months of an
intervention can be counted in 32 bits.
-/

namespace Datasynth.Runtime.InterventionManager

open Datasynth.Core.CausalDag
open Datasynth.Core.CountryPacks
open Datasynth.Core.Interventions
open Datasynth.Lib.ExceptRuns
open Datasynth.Lib.HashIteration
open Datasynth.Lib.SortedEntries
open Datasynth.Runtime.CausalEngine

inductive InterventionError
  | invalidTarget (text : String)
  | timingOutOfRange (start period : UInt32)
  | timingInvalid (start : UInt32)
  | conflictDetected (priority : UInt32) (path : String)
  | boundsViolation (text : String)

def InterventionError.message : InterventionError → String
  | .invalidTarget text => "invalid target: " ++ text
  | .timingOutOfRange start period =>
      "timing out of range: intervention start_month " ++ start.toNat.repr ++
        " exceeds period_months " ++ period.toNat.repr
  | .timingInvalid start =>
      "timing invalid: start_month must be >= 1, got " ++ start.toNat.repr
  | .conflictDetected priority path =>
      "conflict detected: interventions at priority " ++ priority.toNat.repr ++
        " overlap on path '" ++ path ++ "'"
  | .boundsViolation text => "bounds violation: " ++ text

def validate_timing (timing : InterventionTiming) (period_months : UInt32) :
    Except InterventionError Unit :=
  if timing.start_month < 1 then .error (.timingInvalid timing.start_month)
  else if period_months < timing.start_month then
    .error (.timingOutOfRange timing.start_month period_months)
  else .ok ()

/-- `show_f64` is the text of a float. -/
def validate_bounds (show_f64 : ℚ → String) : InterventionType → Except InterventionError Unit
  | .controlFailure cf =>
      if ¬ (0 ≤ cf.severity ∧ cf.severity ≤ 1) then
        .error (.boundsViolation
          ("control failure severity must be between 0.0 and 1.0, got " ++ show_f64 cf.severity))
      else .ok ()
  | .macroShock ms =>
      if ms.severity < 0 then
        .error (.boundsViolation
          ("macro shock severity must be >= 0.0, got " ++ show_f64 ms.severity))
      else .ok ()
  | _ => .ok ()

def entityEventPaths : InterventionEntityEvent → List String
  | .vendorDefault => ["vendor_network.dependencies.max_single_vendor_concentration"]
  | .customerChurn => ["customer_segmentation.lifecycle.churned_rate"]
  | .employeeDeparture | .keyPersonRisk =>
      ["internal_controls.exception_rate", "internal_controls.sod_violation_rate"]
  | .newVendorOnboarding =>
      ["vendor_network.tiers.tier1.count_max", "vendor_network.clusters.standard_operational"]
  | .mergerAcquisition => ["companies", "intercompany.relationship_density"]
  | .vendorCollusion =>
      ["fraud.enabled", "fraud.fraud_type_distribution.suspense_account_abuse",
        "vendor_network.clusters.problematic"]
  | .customerConsolidation =>
      ["customer_segmentation.value_segments.enterprise.customer_share",
        "customer_segmentation.value_segments.smb.customer_share"]

/-- `Vec::dedup`. -/
def dedup : List String → List String
  | a :: b :: rest => if a = b then dedup (b :: rest) else a :: dedup (b :: rest)
  | paths => paths

mutual

def resolve_config_paths (order : HashOrder) : InterventionType → List String
  | .parameterShift ps => [ps.target]
  | .controlFailure _ =>
      ["internal_controls.exception_rate", "internal_controls.sod_violation_rate"]
  | .macroShock _ =>
      ["distributions.drift.economic_cycle.amplitude", "transactions.volume_multiplier"]
  | .entityEvent ee => entityEventPaths ee.subtype
  | .processChange _ => ["approval.thresholds"]
  | .regulatoryChange _ => ["accounting_standards"]
  | .custom ci => (order.iter ci.config_overrides.entries).map Prod.fst
  | .composite children => dedup (childrenPaths order children).mergeSort

def childrenPaths (order : HashOrder) : List InterventionType → List String
  | [] => []
  | child :: children => resolve_config_paths order child ++ childrenPaths order children

end

section Validate

variable (profile : Profile)

def endMonth (timing : InterventionTiming) : Option UInt32 :=
  addU32 profile timing.start_month
    (timing.duration_months.getD (UInt32.ofNat (2 ^ 32 - 1) - timing.start_month))

def timing_overlaps (a b : InterventionTiming) : Option Bool :=
  (endMonth profile a).bind fun a_end => (endMonth profile b).map fun b_end =>
    decide (a.start_month < b_end ∧ b.start_month < a_end)

def checkPaths (a b : Intervention) :
    List (String × String) → Option (Except InterventionError Unit)
  | [] => some (.ok ())
  | (path_a, path_b) :: rest =>
      if path_a = path_b then
        (timing_overlaps profile a.timing b.timing).bind fun overlap =>
          if overlap ∧ a.priority = b.priority then
            some (.error (.conflictDetected a.priority path_a))
          -- Different priorities: higher wins, no error.
          else checkPaths a b rest
      else checkPaths a b rest

/-- The pairs of different places, the earlier place first. -/
def laterPairs {α : Type} : List α → List (α × α)
  | [] => []
  | a :: rest => rest.map (fun b => (a, b)) ++ laterPairs rest

def checkPairs :
    List (ValidatedIntervention × ValidatedIntervention) → Option (Except InterventionError Unit)
  | [] => some (.ok ())
  | (a, b) :: rest =>
      (checkPaths profile a.intervention b.intervention
        (a.affected_config_paths.flatMap fun path_a =>
          b.affected_config_paths.map fun path_b => (path_a, path_b))).bind fun checked =>
        match checked with
        | .ok () => checkPairs rest
        | .error e => some (.error e)

def check_conflicts (validated : List ValidatedIntervention) :
    Option (Except InterventionError Unit) :=
  checkPairs profile (laterPairs validated)

def validateOne (show_f64 : ℚ → String) (order : HashOrder) (period_months : UInt32)
    (intervention : Intervention) : Except InterventionError ValidatedIntervention :=
  (validate_timing intervention.timing period_months).bind fun _ =>
    (validate_bounds show_f64 intervention.intervention_type).bind fun _ =>
      .ok ⟨intervention, resolve_config_paths order intervention.intervention_type⟩

/-- No result is a panic of the check for conflicts. -/
def validate (show_f64 : ℚ → String) (order : HashOrder) (interventions : List Intervention)
    (period_months : UInt32) : Option (Except InterventionError (List ValidatedIntervention)) :=
  match traverseRun (validateOne show_f64 order period_months) interventions with
  | .error e => some (.error e)
  | .ok validated =>
      (check_conflicts profile validated).map fun checked => checked.map fun _ => validated

end Validate

mutual

/-- The interventions that are bundled in one, itself if it is no composite. -/
def contained : InterventionType → List InterventionType
  | .composite children => containedIn children
  | leaf => [leaf]

def containedIn : List InterventionType → List InterventionType
  | [] => []
  | child :: children => contained child ++ containedIn children

end

/-- The severities of what an intervention contains are within their bounds. -/
structure InBounds (intervention_type : InterventionType) : Prop where
  control_failure : ∀ cf, .controlFailure cf ∈ contained intervention_type →
    0 ≤ cf.severity ∧ cf.severity ≤ 1
  macro_shock : ∀ ms, .macroShock ms ∈ contained intervention_type → 0 ≤ ms.severity

/-- The months that an intervention is meant to be active in. -/
def Covers (timing : InterventionTiming) (month : UInt32) : Prop :=
  timing.start_month ≤ month ∧
    ∀ duration ∈ timing.duration_months, month.toNat < timing.start_month.toNat + duration.toNat

instance Covers.decidable (timing : InterventionTiming) (month : UInt32) :
    Decidable (Covers timing month) :=
  @instDecidableAnd _ _ _ (Option.decidableForallMem _)

/-- The value that an active intervention gives a node, with its priority. -/
structure Offer where
  value : ℚ
  priority : UInt32
deriving DecidableEq

section Enforced

variable (profile : Profile) (trig : Trigonometry) (dag : BoundDAG) (order : HashOrder)

/-- What an intervention alone sets a node to. -/
def valueAlone (validated : ValidatedIntervention) (month : UInt32) (node : String) : Option ℚ :=
  (map_intervention_to_nodes dag order validated.intervention.intervention_type
    (compute_onset_factor trig validated.intervention.timing month) .empty).find? node

def offers (validated : List ValidatedIntervention) (month : UInt32) (node : String) :
    List Offer :=
  validated.filterMap fun v =>
    if Covers v.intervention.timing month then
      (valueAlone trig dag order v month node).map fun value => ⟨value, v.intervention.priority⟩
    else none

/-- The months are counted right, the severities are in bounds, and the value of a node is
that of the intervention whose priority is above those of all others. -/
structure Enforced (validated : List ValidatedIntervention) (period_months : UInt32) : Prop where
  bounds : ∀ v ∈ validated, InBounds v.intervention.intervention_type
  counted : ∀ v ∈ validated, ∀ month ∈ months period_months,
    is_active profile v.intervention.timing month =
      some (decide (Covers v.intervention.timing month))
  priority : ∀ month ∈ months period_months, ∀ effects,
    compute_direct_effects profile trig dag order validated month = some effects →
      ∀ node pre offer post, offers trig dag order validated month node = pre ++ offer :: post →
        (∀ other ∈ pre ++ post, other.priority < offer.priority) →
          effects.find? node = some offer.value

/-- The accepted lists for which the checks suffice. -/
structure Suffices (show_f64 : ℚ → String) (validated : List ValidatedIntervention)
    (period_months : UInt32) : Prop where
  bundles : ∀ v ∈ validated, ∀ leaf ∈ contained v.intervention.intervention_type,
    validate_bounds show_f64 leaf = .ok ()
  no_overflow : ∀ v ∈ validated, ∀ duration ∈ v.intervention.timing.duration_months,
    v.intervention.timing.start_month.toNat + duration.toNat < 2 ^ 32
  last_prevails : ∀ month ∈ months period_months, ∀ node pre offer post,
    offers trig dag order validated month node = pre ++ offer :: post →
      (∀ other ∈ pre ++ post, other.priority < offer.priority) →
        ∀ last ∈ post.getLast?, last.value = offer.value

end Enforced

section Bounds

variable {show_f64 : ℚ → String}

theorem validate_bounds_controlFailure {cf : ControlFailureIntervention} :
    validate_bounds show_f64 (.controlFailure cf) = .ok () ↔ 0 ≤ cf.severity ∧ cf.severity ≤ 1 := by
  rw [validate_bounds]
  split
  · rename_i h
    exact iff_of_false (by simp) h
  · rename_i h
    exact iff_of_true rfl (not_not.mp h)

theorem validate_bounds_macroShock {ms : MacroShockIntervention} :
    validate_bounds show_f64 (.macroShock ms) = .ok () ↔ 0 ≤ ms.severity := by
  rw [validate_bounds]
  split
  · rename_i h
    exact iff_of_false (by simp) (not_le.mpr h)
  · rename_i h
    exact iff_of_true rfl (not_lt.mp h)

theorem inBounds_iff {t : InterventionType} :
    InBounds t ↔ ∀ leaf ∈ contained t, validate_bounds show_f64 leaf = .ok () := by
  constructor
  · rintro ⟨hcf, hms⟩ leaf hleaf
    cases leaf with
    | controlFailure cf => exact validate_bounds_controlFailure.mpr (hcf cf hleaf)
    | macroShock ms => exact validate_bounds_macroShock.mpr (hms ms hleaf)
    | entityEvent _ => rfl
    | parameterShift _ => rfl
    | processChange _ => rfl
    | regulatoryChange _ => rfl
    | composite _ => rfl
    | custom _ => rfl
  · intro h
    exact ⟨fun cf hcf => validate_bounds_controlFailure.mp (h _ hcf),
      fun ms hms => validate_bounds_macroShock.mp (h _ hms)⟩

end Bounds

section Months

variable {profile : Profile} {timing : InterventionTiming} {month period_months : UInt32}

theorem mem_months_iff : month ∈ months period_months ↔ 1 ≤ month ∧ month ≤ period_months := by
  rw [months, List.mem_map, UInt32.le_iff_toNat_le, UInt32.le_iff_toNat_le]
  have hone : (1 : UInt32).toNat = 1 := rfl
  have hperiod := period_months.toNat_lt
  constructor
  · rintro ⟨i, hi, rfl⟩
    rw [List.mem_range] at hi
    rw [UInt32.toNat_ofNat', Nat.mod_eq_of_lt (by omega)]
    omega
  · rintro ⟨hlow, hhigh⟩
    refine ⟨month.toNat - 1, ?_, ?_⟩
    · rw [List.mem_range]
      omega
    · rw [Nat.sub_add_cancel (by omega), UInt32.ofNat_toNat]

theorem is_active_of_lt (h : month < timing.start_month) :
    is_active profile timing month = some (decide (Covers timing month)) := by
  have hcovers : ¬ Covers timing month := fun hc => absurd hc.1 (UInt32.not_le.mpr h)
  rw [is_active, if_pos h, decide_eq_false hcovers]

theorem is_active_of_no_overflow
    (h : ∀ duration ∈ timing.duration_months,
      timing.start_month.toNat + duration.toNat < 2 ^ 32) :
    is_active profile timing month = some (decide (Covers timing month)) := by
  by_cases hlt : month < timing.start_month
  · exact is_active_of_lt hlt
  · have hstart := UInt32.not_lt.mp hlt
    rw [is_active, if_neg hlt]
    cases hduration : timing.duration_months with
    | none =>
        have hcovers : Covers timing month := ⟨hstart, by simp [hduration]⟩
        rw [decide_eq_true hcovers]
    | some duration =>
        have hsum := h duration hduration
        have hstop : addU32 profile timing.start_month duration =
            some (timing.start_month + duration) := by
          cases profile with
          | debug => exact if_pos hsum
          | release => rfl
        have hcovers : Covers timing month ↔ month < timing.start_month + duration := by
          rw [UInt32.lt_iff_toNat_lt, UInt32.toNat_add, Nat.mod_eq_of_lt hsum, Covers, hduration]
          simp [hstart]
        simp [hstop, hcovers]

/-- With an overflow the intervention is not active when it starts. -/
theorem is_active_start_of_overflow {duration : UInt32}
    (hduration : timing.duration_months = some duration)
    (h : 2 ^ 32 ≤ timing.start_month.toNat + duration.toNat) :
    is_active profile timing timing.start_month ≠
      some (decide (Covers timing timing.start_month)) := by
  have hlt := timing.start_month.toNat_lt
  have hlt' := duration.toNat_lt
  have hcovers : Covers timing timing.start_month := by
    refine ⟨UInt32.le_refl _, ?_⟩
    rintro d hd
    cases hduration.symm.trans hd
    omega
  have hwraps : ¬ timing.start_month < timing.start_month + duration := by
    rw [UInt32.lt_iff_toNat_lt, UInt32.toNat_add, Nat.mod_eq_sub_mod h,
      Nat.mod_eq_of_lt (by omega)]
    omega
  rw [is_active, if_neg (UInt32.lt_irrefl _), hduration, decide_eq_true hcovers]
  cases profile with
  | debug =>
      have hpanic : addU32 .debug timing.start_month duration = none :=
        if_neg (Nat.not_lt.mpr h)
      simp [hpanic]
  | release => simp [addU32, hwraps]

theorem counted_iff (hstart : timing.start_month ∈ months period_months) :
    (∀ month ∈ months period_months,
        is_active profile timing month = some (decide (Covers timing month))) ↔
      ∀ duration ∈ timing.duration_months,
        timing.start_month.toNat + duration.toNat < 2 ^ 32 := by
  constructor
  · intro h duration hduration
    by_contra hoverflow
    exact is_active_start_of_overflow hduration (not_lt.mp hoverflow) (h _ hstart)
  · intro h month _
    exact is_active_of_no_overflow h

end Months

section Effects

variable {trig : Trigonometry} {dag : BoundDAG} {order : HashOrder} {profile : Profile}

/-- The inserts of an intervention are laid over what is there. -/
theorem find?_map_intervention_to_nodes (t : InterventionType) (onset_factor : ℚ)
    (effects : OrderedMap String ℚ) (node : String) :
    (map_intervention_to_nodes dag order t onset_factor effects).find? node =
      ((map_intervention_to_nodes dag order t onset_factor .empty).find? node).or
        (effects.find? node) := by
  rw [map_intervention_to_nodes, map_intervention_to_nodes, OrderedMap.find?_foldl_insert,
    OrderedMap.find?_foldl_insert, OrderedMap.find?_empty, Option.or_none]

theorem offers_cons (v : ValidatedIntervention) (rest : List ValidatedIntervention)
    (month : UInt32) (node : String) :
    offers trig dag order (v :: rest) month node =
      (if Covers v.intervention.timing month then
        (valueAlone trig dag order v month node).map fun value => ⟨value, v.intervention.priority⟩
      else none).toList ++ offers trig dag order rest month node := by
  rw [offers, List.filterMap_cons, offers]
  generalize (if Covers v.intervention.timing month then
    (valueAlone trig dag order v month node).map fun value =>
      (⟨value, v.intervention.priority⟩ : Offer) else none) = offer
  cases offer <;> rfl

/-- The last offer is the one that is taken. -/
theorem effectsFrom_eq (trig : Trigonometry) (dag : BoundDAG)
    {validated : List ValidatedIntervention} {month : UInt32}
    (hcounted : ∀ v ∈ validated, is_active profile v.intervention.timing month =
      some (decide (Covers v.intervention.timing month))) (effects : OrderedMap String ℚ) :
    ∃ result, effectsFrom profile trig dag order month validated effects = some result ∧
      ∀ node, result.find? node =
        ((offers trig dag order validated month node).getLast?.map Offer.value).or
          (effects.find? node) := by
  induction validated generalizing effects with
  | nil => exact ⟨effects, rfl, fun node => rfl⟩
  | cons v rest ih =>
      rw [List.forall_mem_cons] at hcounted
      rw [effectsFrom, hcounted.1, Option.bind_some]
      by_cases hactive : Covers v.intervention.timing month
      · rw [decide_eq_true hactive, if_pos rfl]
        obtain ⟨result, hresult, hfind⟩ := ih hcounted.2 (map_intervention_to_nodes dag order
          v.intervention.intervention_type
          (compute_onset_factor trig v.intervention.timing month) effects)
        refine ⟨result, hresult, fun node => ?_⟩
        rw [hfind, find?_map_intervention_to_nodes, offers_cons, if_pos hactive,
          List.getLast?_append, Option.map_or, Option.or_assoc, ← valueAlone]
        cases valueAlone trig dag order v month node <;> rfl
      · rw [decide_eq_false hactive, if_neg (by simp)]
        obtain ⟨result, hresult, hfind⟩ := ih hcounted.2 effects
        refine ⟨result, hresult, fun node => ?_⟩
        rw [hfind, offers_cons, if_neg hactive]
        rfl

theorem last_value_eq_iff {pre post : List Offer} {offer : Offer} :
    (pre ++ offer :: post).getLast?.map Offer.value = some offer.value ↔
      ∀ last ∈ post.getLast?, last.value = offer.value := by
  rw [List.getLast?_append, List.getLast?_cons, Option.some_or, Option.map_some,
    Option.some.injEq]
  cases post.getLast? <;> simp

end Effects

section Accepted

variable {profile : Profile} {trig : Trigonometry} {dag : BoundDAG} {order : HashOrder}
  {show_f64 : ℚ → String} {interventions : List Intervention}
  {validated : List ValidatedIntervention} {period_months : UInt32}

/-- An accepted intervention starts within the period. -/
theorem start_mem_months
    (h : validate profile show_f64 order interventions period_months = some (.ok validated))
    {v : ValidatedIntervention} (hv : v ∈ validated) :
    v.intervention.timing.start_month ∈ months period_months := by
  rw [validate] at h
  split at h
  · cases h
  · rename_i validated' hrun
    obtain ⟨checked, -, hchecked⟩ := Option.map_eq_some_iff.mp h
    obtain rfl : validated' = validated := by
      cases checked with
      | error e => cases hchecked
      | ok _ => exact Except.ok.inj hchecked
    obtain ⟨intervention, -, hone⟩ := exists_of_mem_traverseRun hrun hv
    obtain ⟨_, htiming, hone⟩ := bind_eq_ok_iff.mp hone
    obtain ⟨_, -, hone⟩ := bind_eq_ok_iff.mp hone
    cases hone
    rw [validate_timing] at htiming
    split at htiming
    · cases htiming
    · rename_i hlow
      split at htiming
      · cases htiming
      · rename_i hhigh
        exact mem_months_iff.mpr ⟨UInt32.not_lt.mp hlow, UInt32.not_lt.mp hhigh⟩

/-- What was accepted is enforced exactly where the checks suffice. -/
theorem enforced_iff
    (h : validate profile show_f64 order interventions period_months = some (.ok validated)) :
    Enforced profile trig dag order validated period_months ↔
      Suffices trig dag order show_f64 validated period_months := by
  have htaken : (∀ v ∈ validated, ∀ month ∈ months period_months,
      is_active profile v.intervention.timing month =
        some (decide (Covers v.intervention.timing month))) →
      ∀ month ∈ months period_months, ∃ effects,
        compute_direct_effects profile trig dag order validated month = some effects ∧
          ∀ node, effects.find? node =
            (offers trig dag order validated month node).getLast?.map Offer.value := by
    intro hcounted month hmonth
    obtain ⟨effects, heffects, hfind⟩ := effectsFrom_eq trig dag
      (fun v hv => hcounted v hv month hmonth) .empty
    refine ⟨effects, heffects, fun node => ?_⟩
    rw [hfind, OrderedMap.find?_empty, Option.or_none]
  constructor
  · rintro ⟨hbounds, hcounted, hpriority⟩
    refine ⟨fun v hv => inBounds_iff.mp (hbounds v hv), fun v hv => ?_, ?_⟩
    · exact (counted_iff (start_mem_months h hv)).mp (hcounted v hv)
    · intro month hmonth node pre offer post hoffers hhighest last hlast
      obtain ⟨effects, heffects, hfind⟩ := htaken hcounted month hmonth
      have hvalue := hpriority month hmonth effects heffects node pre offer post hoffers hhighest
      rw [hfind, hoffers] at hvalue
      exact last_value_eq_iff.mp hvalue last hlast
  · rintro ⟨hbundles, hno, hlast⟩
    have hcounted : ∀ v ∈ validated, ∀ month ∈ months period_months,
        is_active profile v.intervention.timing month =
          some (decide (Covers v.intervention.timing month)) :=
      fun v hv => (counted_iff (start_mem_months h hv)).mpr (hno v hv)
    refine ⟨fun v hv => inBounds_iff.mpr (hbundles v hv), hcounted, ?_⟩
    intro month hmonth effects heffects node pre offer post hoffers hhighest
    obtain ⟨effects', heffects', hfind⟩ := htaken hcounted month hmonth
    cases heffects.symm.trans heffects'
    rw [hfind, hoffers]
    exact last_value_eq_iff.mpr (hlast month hmonth node pre offer post hoffers hhighest)

end Accepted

section TwoShocks

/-- A recession from the first month on. -/
def recession (severity : ℚ) (priority : UInt32) : Intervention where
  intervention_type := .macroShock ⟨.recession, severity, .empty⟩
  timing := ⟨1, none, .sudden, none⟩
  priority := priority

def growthNode : BoundNode :=
  { id := "gdp_growth", baseline_value := 0, bounds := none, config_bindings := [] }

def growthDAG : BoundDAG := ⟨[growthNode], [], ["gdp_growth"]⟩

def shockPaths : List String :=
  ["distributions.drift.economic_cycle.amplitude", "transactions.volume_multiplier"]

def noTrigonometry : Trigonometry := ⟨0, fun _ => 0⟩

theorem single_shock_enforced :
    Enforced .release noTrigonometry growthDAG .insertion [⟨recession 1 2, shockPaths⟩] 12 := by
  have haccepted : validate .release (fun _ => "") .insertion [recession 1 2] 12 =
      some (.ok [⟨recession 1 2, shockPaths⟩]) := rfl
  refine (enforced_iff haccepted).mpr ⟨?_, ?_, ?_⟩
  · rw [List.forall_mem_singleton]
    exact List.forall_mem_singleton.mpr (validate_bounds_macroShock.mpr (zero_le_one' ℚ))
  · rw [List.forall_mem_singleton]
    simp [recession]
  · intro month _ node pre offer post hoffers _ last hlast
    have hlength := List.length_filterMap_le (fun v : ValidatedIntervention =>
      if Covers v.intervention.timing month then
        (valueAlone noTrigonometry growthDAG .insertion v month node).map fun value =>
          (⟨value, v.intervention.priority⟩ : Offer)
      else none) [⟨recession 1 2, shockPaths⟩]
    rw [← offers, hoffers, List.length_append, List.length_cons, List.length_singleton] at hlength
    obtain rfl : post = [] := List.eq_nil_of_length_eq_zero (by omega)
    cases hlast

/-- A weaker shock of lower priority takes the place of one that comes before it. -/
theorem later_shock_prevails :
    validate .release (fun _ => "") .insertion [recession 3 2, recession 1 1] 12 =
        some (.ok [⟨recession 3 2, shockPaths⟩, ⟨recession 1 1, shockPaths⟩]) ∧
      ¬ Enforced .release noTrigonometry growthDAG .insertion
        [⟨recession 3 2, shockPaths⟩, ⟨recession 1 1, shockPaths⟩] 12 := by
  refine ⟨rfl, fun h => ?_⟩
  have hvalue := h.priority 1 (mem_months_iff.mpr ⟨by decide, by decide⟩) _ rfl "gdp_growth" []
    ⟨-6 / 100, 2⟩ [⟨-2 / 100, 1⟩] (by decide_cbv) (by simp)
  revert hvalue
  decide +kernel

end TwoShocks

end Datasynth.Runtime.InterventionManager
