import Datasynth.Group.OwnershipExpansion
import Datasynth.Lib.Charges
import Datasynth.Lib.ListRearrangement
import Mathlib
import Mathlib.Data.List.Sort

/-!
Resolution of the cash-generating-unit configuration: the definitions and the
goodwill allocations are validated and put in order.
-/

namespace Datasynth.Group.CguPlanning

open Datasynth.Core.CashGeneratingUnits
open Datasynth.Group.Config
open Datasynth.Group.OwnershipExpansion
open Datasynth.Lib.DecimalText
open Datasynth.Lib.ExceptRuns

structure CguPlan where
  cgus : List CashGeneratingUnit
  goodwill_allocations : List GoodwillAllocation
deriving DecidableEq

def CguPlan.default : CguPlan := ⟨[], []⟩

def checkMember (entity_codes : List String) (cgu_id : String) (_ : Unit) (member : String) :
    GroupResult Unit :=
  if member ∈ entity_codes then .ok ()
  else .error <| .config <|
    s!"cgu plan: cgu `{cgu_id}` references member entity `{member}` " ++
      "which is not present in the ownership graph"

def checkCgu (entity_codes : List String) (seen_cgu_ids : List String)
    (cgu : CguDefinitionEntry) : GroupResult (List String) :=
  if cgu.cgu_id ∈ seen_cgu_ids then
    .error <| .config <|
      s!"cgu plan: duplicate cgu_id `{cgu.cgu_id}` — every CGU must have a unique id"
  else if cgu.member_entity_codes.isEmpty then
    .error <| .config <|
      s!"cgu plan: cgu `{cgu.cgu_id}` has no member_entity_codes — " ++
        "a CGU must aggregate at least one entity's cash flows"
  else
    (foldRun (checkMember entity_codes cgu.cgu_id) () cgu.member_entity_codes).bind fun _ =>
      .ok (seen_cgu_ids ++ [cgu.cgu_id])

def checkAllocation (seen_cgu_ids : List String) (_ : Unit) (alloc : CguGoodwillAllocationEntry) :
    GroupResult Unit :=
  if alloc.cgu_id ∉ seen_cgu_ids then
    .error <| .config <|
      s!"cgu plan: goodwill allocation references cgu_id `{alloc.cgu_id}` " ++
        s!"(BC `{alloc.business_combination_id}`) which has no matching CGU definition"
  else if alloc.goodwill_amount < 0 then
    .error <| .config <|
      s!"cgu plan: goodwill allocation for cgu `{alloc.cgu_id}` " ++
        s!"(BC `{alloc.business_combination_id}`) has negative goodwill_amount `" ++
        decimalText alloc.goodwill_amount ++ "` — bargain purchases produce no allocation row"
  else .ok ()

def liftCgu (c : CguDefinitionEntry) : CashGeneratingUnit :=
  let cgu := CashGeneratingUnit.new c.cgu_id c.name c.member_entity_codes
  match c.segment_code with
  | some seg => cgu.with_segment seg
  | none => cgu

def liftAllocation (a : CguGoodwillAllocationEntry) : GoodwillAllocation :=
  ⟨a.cgu_id, a.business_combination_id, a.goodwill_amount, a.allocation_date⟩

/-- The order of allocations: by unit, then by business combination. -/
def allocationLe (a b : GoodwillAllocation) : Prop :=
  a.cgu_id < b.cgu_id ∨
    a.cgu_id = b.cgu_id ∧ a.business_combination_id ≤ b.business_combination_id

instance : DecidableRel allocationLe := fun a b => by unfold allocationLe; infer_instance

def build_cgu_plan (cfg : CguConfig) (entities : List ExpandedEntity) : GroupResult CguPlan :=
  if cfg.cgus.isEmpty && cfg.goodwill_allocations.isEmpty then .ok CguPlan.default
  else
    let entity_codes := entities.map (·.code)
    (foldRun (checkCgu entity_codes) [] cfg.cgus).bind fun seen_cgu_ids =>
      (foldRun (checkAllocation seen_cgu_ids) () cfg.goodwill_allocations).bind fun _ =>
        .ok
          { cgus := (cfg.cgus.map liftCgu).insertionSort fun a b => a.cgu_id ≤ b.cgu_id
            goodwill_allocations :=
              (cfg.goodwill_allocations.map liftAllocation).insertionSort allocationLe }

/-- What a plan that was built is known to satisfy. -/
structure CguPlan.Valid (plan : CguPlan) : Prop where
  goodwill_nonneg : ∀ a ∈ plan.goodwill_allocations, 0 ≤ a.goodwill_amount
  cgu_ids_nodup : (plan.cgus.map (·.cgu_id)).Nodup
  allocations_resolve : ∀ a ∈ plan.goodwill_allocations, a.cgu_id ∈ plan.cgus.map (·.cgu_id)

theorem checkCgu_eq_ok {entity_codes seen seen' : List String} {cgu : CguDefinitionEntry}
    (h : checkCgu entity_codes seen cgu = .ok seen') :
    cgu.cgu_id ∉ seen ∧ seen' = seen ++ [cgu.cgu_id] := by
  rw [checkCgu] at h
  split at h
  · cases h
  · rename_i hnew
    split at h
    · cases h
    · obtain ⟨-, -, heq⟩ := bind_eq_ok_iff.mp h
      cases heq
      exact ⟨hnew, rfl⟩

theorem checkAllocation_eq_ok {seen : List String} {u u' : Unit}
    {alloc : CguGoodwillAllocationEntry} (h : checkAllocation seen u alloc = .ok u') :
    alloc.cgu_id ∈ seen ∧ 0 ≤ alloc.goodwill_amount := by
  rw [checkAllocation] at h
  split at h
  · cases h
  · rename_i hseen
    split at h
    · cases h
    · rename_i hamount
      exact ⟨not_not.mp hseen, not_lt.mp hamount⟩

theorem checkCgus_eq_ok {entity_codes seen : List String} {cgus : List CguDefinitionEntry}
    (h : foldRun (checkCgu entity_codes) [] cgus = .ok seen) :
    seen = cgus.map (·.cgu_id) ∧ seen.Nodup := by
  have hinv := foldRun_invariant
    (fun (ids : List String) rest => ids ++ rest.map (·.cgu_id) = cgus.map (·.cgu_id) ∧ ids.Nodup)
    (fun ids cgu rest ids' hids hstep => by
      obtain ⟨hnew, rfl⟩ := checkCgu_eq_ok hstep
      refine ⟨by simpa using hids.1, List.nodup_append.mpr ⟨hids.2, List.nodup_singleton _, ?_⟩⟩
      intro a ha b hb hab
      rw [List.mem_singleton] at hb
      exact hnew (hb ▸ hab ▸ ha))
    ⟨rfl, List.nodup_nil⟩ h
  exact ⟨by simpa using hinv.1, hinv.2⟩

theorem checkAllocations_eq_ok {seen : List String} {allocs : List CguGoodwillAllocationEntry}
    {u : Unit} (h : foldRun (checkAllocation seen) () allocs = .ok u) :
    ∀ alloc ∈ allocs, alloc.cgu_id ∈ seen ∧ 0 ≤ alloc.goodwill_amount := by
  induction allocs with
  | nil => simp
  | cons alloc allocs ih =>
      obtain ⟨u', hfirst, hrest⟩ := bind_eq_ok_iff.mp h
      intro a ha
      rcases List.mem_cons.mp ha with rfl | ha
      · exact checkAllocation_eq_ok hfirst
      · exact ih hrest a ha

@[simp] theorem liftCgu_cgu_id (c : CguDefinitionEntry) : (liftCgu c).cgu_id = c.cgu_id := by
  rw [liftCgu]
  split <;> rfl

theorem build_cgu_plan_valid {cfg : CguConfig} {entities : List ExpandedEntity} {plan : CguPlan}
    (h : build_cgu_plan cfg entities = .ok plan) : plan.Valid := by
  rw [build_cgu_plan] at h
  split at h
  · cases h
    exact ⟨by simp [CguPlan.default], List.nodup_nil, by simp [CguPlan.default]⟩
  · obtain ⟨seen, hseen, h⟩ := bind_eq_ok_iff.mp h
    obtain ⟨u, hallocs, heq⟩ := bind_eq_ok_iff.mp h
    cases heq
    obtain ⟨hids, hnodup⟩ := checkCgus_eq_ok hseen
    have hperm : (((cfg.cgus.map liftCgu).insertionSort fun a b => a.cgu_id ≤ b.cgu_id).map
        (·.cgu_id)).Perm seen := by
      rw [hids]
      refine ((List.perm_insertionSort _ _).map _).trans ?_
      simp [Function.comp_def]
    have hmem : ∀ a ∈ (cfg.goodwill_allocations.map liftAllocation).insertionSort allocationLe,
        a.cgu_id ∈ seen ∧ 0 ≤ a.goodwill_amount := by
      intro a ha
      obtain ⟨alloc, halloc, rfl⟩ :=
        List.mem_map.mp ((List.perm_insertionSort _ _).mem_iff.mp ha)
      exact checkAllocations_eq_ok hallocs alloc halloc
    exact ⟨fun a ha => (hmem a ha).2, hperm.nodup_iff.mpr hnodup,
      fun a ha => hperm.mem_iff.mpr (hmem a ha).1⟩

end Datasynth.Group.CguPlanning

/-!
The impairment runner and what a chain of its runs posts against the goodwill of a
unit.  Every run starts from the goodwill of the plan.
-/

namespace Datasynth.Group.CguImpairment

open Datasynth.Core.CashGeneratingUnits
open Datasynth.Group.CguPlanning
open Datasynth.Group.Config
open Datasynth.Group.OwnershipExpansion
open Datasynth.Lib.CappedCharges
open Datasynth.Lib.CivilCalendar
open Datasynth.Lib.DecimalText
open Datasynth.Lib.ExceptRuns
open Datasynth.Lib.ListRearrangement
open Datasynth.Lib.SortedEntries

structure CguTestInputs where
  cgu_id : String
  other_carrying : Option ℚ
  fair_value_less_costs : Option ℚ
  value_in_use : Option ℚ
  recoverable_ratio : Option ℚ
deriving DecidableEq

section Tests

variable (cgu_plan : CguPlan)

def allocated_goodwill (cgu_id : String) : ℚ :=
  ((cgu_plan.goodwill_allocations.filter (·.cgu_id = cgu_id)).map (·.goodwill_amount)).sum

def members_net (entity_net_assets : OrderedMap String ℚ) (cgu : CashGeneratingUnit) : ℚ :=
  (cgu.member_entity_codes.map fun e => (entity_net_assets.find? e).getD 0).sum

/-- The carrying amount of the other assets, stated or derived from the members. -/
def other_carrying (entity_net_assets : OrderedMap String ℚ) (input : CguTestInputs)
    (cgu : CashGeneratingUnit) : ℚ :=
  match input.other_carrying with
  | some c => c
  | none => max (members_net entity_net_assets cgu - allocated_goodwill cgu_plan input.cgu_id) 0

def checkNonnegative (cgu_id : String) (_ : Unit) (labelled : String × ℚ) : GroupResult Unit :=
  if labelled.2 < 0 then
    .error <| .aggregate <|
      s!"cgu impairment: test input for cgu `{cgu_id}` has negative {labelled.1} `" ++
        decimalText labelled.2 ++ "`"
  else .ok ()

/-- The fair value less costs and the value in use handed to the test. -/
def recoverableComponents (input : CguTestInputs) (carrying : ℚ) : GroupResult (ℚ × ℚ) :=
  match input.recoverable_ratio with
  | some ratio =>
      if ratio < 0 then
        .error <| .aggregate <|
          s!"cgu impairment: cgu `{input.cgu_id}` has negative recoverable_ratio `" ++
            decimalText ratio ++ "`"
      else .ok (carrying * ratio, carrying * ratio)
  | none =>
      match input.fair_value_less_costs with
      | none => .error <| .aggregate <| s!"cgu impairment: cgu `{input.cgu_id}` needs " ++
          "fair_value_less_costs + value_in_use (or recoverable_ratio)"
      | some fvlc =>
          match input.value_in_use with
          | none => .error <| .aggregate <|
              s!"cgu impairment: cgu `{input.cgu_id}` needs value_in_use (or recoverable_ratio)"
          | some viu =>
              (foldRun (checkNonnegative input.cgu_id) ()
                [("fair_value_less_costs", fvlc), ("value_in_use", viu)]).bind fun _ =>
                  .ok (fvlc, viu)

variable (entity_net_assets : OrderedMap String ℚ) (test_date : Date) (currency : String)

def impairmentTest (input : CguTestInputs) : GroupResult CguImpairmentTest :=
  match cgu_plan.cgus.find? (·.cgu_id = input.cgu_id) with
  | none => .error <| .aggregate <| s!"cgu impairment: test input references cgu_id " ++
      s!"`{input.cgu_id}` which has no matching definition in the manifest plan"
  | some cgu =>
      let allocated_goodwill := allocated_goodwill cgu_plan input.cgu_id
      let other_carrying := other_carrying cgu_plan entity_net_assets input cgu
      if other_carrying < 0 then
        .error <| .aggregate <|
          s!"cgu impairment: cgu `{input.cgu_id}` has negative other_carrying `" ++
            decimalText other_carrying ++ "`"
      else
        (recoverableComponents input (allocated_goodwill + other_carrying)).bind
          fun (fair_value_less_costs, value_in_use) =>
            .ok
              { cgu_id := input.cgu_id
                test_date
                allocated_goodwill
                other_carrying
                fair_value_less_costs
                value_in_use
                currency }

def run_cgu_impairment_tests (test_inputs : List CguTestInputs) :
    GroupResult (List CguImpairmentResult) :=
  if test_inputs.isEmpty then .ok []
  else
    (traverseRun (impairmentTest cgu_plan entity_net_assets test_date currency) test_inputs).bind
      fun tests => .ok ((tests.map (·.run)).insertionSort fun a b => a.cgu_id ≤ b.cgu_id)

/-- The recoverable amount an input states for a carrying amount. -/
def statedRecoverable (input : CguTestInputs) (carrying : ℚ) : ℚ :=
  match input.recoverable_ratio with
  | some ratio => carrying * ratio
  | none => max (input.fair_value_less_costs.getD 0) (input.value_in_use.getD 0)

/-- By how much the carrying amount of an input exceeds its recoverable amount. -/
def inputShortfall (input : CguTestInputs) : ℚ :=
  match cgu_plan.cgus.find? (·.cgu_id = input.cgu_id) with
  | none => 0
  | some cgu =>
      let carrying := allocated_goodwill cgu_plan input.cgu_id +
        other_carrying cgu_plan entity_net_assets input cgu
      max (carrying - statedRecoverable input carrying) 0

end Tests

section Runs

variable {cgu_plan : CguPlan} {entity_net_assets : OrderedMap String ℚ} {test_date : Date}
  {currency : String}

theorem allocated_goodwill_nonneg (hplan : cgu_plan.Valid) (cgu_id : String) :
    0 ≤ allocated_goodwill cgu_plan cgu_id := by
  refine List.sum_nonneg fun x hx => ?_
  obtain ⟨a, ha, rfl⟩ := List.mem_map.mp hx
  exact hplan.goodwill_nonneg a (List.mem_of_mem_filter ha)

theorem inputShortfall_nonneg (input : CguTestInputs) :
    0 ≤ inputShortfall cgu_plan entity_net_assets input := by
  rw [inputShortfall]
  split
  · exact le_rfl
  · exact le_max_right _ _

theorem checkNonnegative_eq_ok {cgu_id : String} {u u' : Unit} {labelled : String × ℚ}
    (h : checkNonnegative cgu_id u labelled = .ok u') : 0 ≤ labelled.2 := by
  rw [checkNonnegative] at h
  split at h
  · cases h
  · rename_i hnonneg
    exact not_lt.mp hnonneg

theorem recoverableComponents_eq_ok {input : CguTestInputs} {carrying : ℚ} {c : ℚ × ℚ}
    (hcarrying : 0 ≤ carrying) (h : recoverableComponents input carrying = .ok c) :
    max c.1 c.2 = statedRecoverable input carrying ∧ 0 ≤ max c.1 c.2 := by
  rw [recoverableComponents] at h
  rw [statedRecoverable]
  cases hratio : input.recoverable_ratio with
  | some ratio =>
      simp only [hratio] at h
      split at h
      · cases h
      · rename_i hnonneg
        cases h
        rw [max_self]
        exact ⟨rfl, mul_nonneg hcarrying (not_lt.mp hnonneg)⟩
  | none =>
      simp only [hratio] at h
      cases hfvlc : input.fair_value_less_costs with
      | none => simp [hfvlc] at h
      | some fvlc =>
          cases hviu : input.value_in_use with
          | none => simp [hfvlc, hviu] at h
          | some viu =>
              simp only [hfvlc, hviu] at h
              obtain ⟨u, hchecks, heq⟩ := bind_eq_ok_iff.mp h
              cases heq
              obtain ⟨u', hfirst, -⟩ := bind_eq_ok_iff.mp hchecks
              exact ⟨rfl, (checkNonnegative_eq_ok hfirst).trans (le_max_left _ _)⟩

/-- A test that is set up charges the goodwill of the plan and the shortfall of its
input. -/
theorem impairmentTest_eq_ok (hplan : cgu_plan.Valid) {input : CguTestInputs}
    {test : CguImpairmentTest}
    (h : impairmentTest cgu_plan entity_net_assets test_date currency input = .ok test) :
    test.cgu_id = input.cgu_id ∧
      test.allocated_goodwill = allocated_goodwill cgu_plan input.cgu_id ∧
      test.shortfall = inputShortfall cgu_plan entity_net_assets input ∧ test.WellFormed := by
  rw [impairmentTest] at h
  rw [inputShortfall]
  cases hfind : cgu_plan.cgus.find? (·.cgu_id = input.cgu_id) with
  | none => simp [hfind] at h
  | some cgu =>
      simp only [hfind] at h ⊢
      split at h
      · cases h
      · rename_i hother
        obtain ⟨c, hcomponents, heq⟩ := bind_eq_ok_iff.mp h
        cases heq
        have hgoodwill := allocated_goodwill_nonneg hplan input.cgu_id
        obtain ⟨hstated, hrecoverable⟩ := recoverableComponents_eq_ok
          (add_nonneg hgoodwill (not_lt.mp hother)) hcomponents
        refine ⟨rfl, rfl, ?_, hgoodwill, not_lt.mp hother, hrecoverable⟩
        rw [← hstated]
        rfl

def goodwillCharge (cgu_id : String) (results : List CguImpairmentResult) : ℚ :=
  ((results.filter (·.cgu_id = cgu_id)).map (·.impairment_loss_to_goodwill)).sum

theorem goodwillCharge_perm (cgu_id : String) {results results' : List CguImpairmentResult}
    (h : results.Perm results') : goodwillCharge cgu_id results = goodwillCharge cgu_id results' :=
  ((h.filter _).map _).sum_eq

theorem goodwillCharge_tests (hplan : cgu_plan.Valid) (cgu_id : String)
    {inputs : List CguTestInputs} {tests : List CguImpairmentTest}
    (h : List.Forall₂ (fun input test => impairmentTest cgu_plan entity_net_assets test_date
      currency input = .ok test) inputs tests) :
    goodwillCharge cgu_id (tests.map (·.run)) =
      cappedSum (allocated_goodwill cgu_plan cgu_id)
        ((inputs.filter (·.cgu_id = cgu_id)).map (inputShortfall cgu_plan entity_net_assets)) := by
  induction h with
  | nil => rfl
  | @cons input test inputs tests htest _ ih =>
      obtain ⟨hid, hgoodwill, hshortfall, -⟩ := impairmentTest_eq_ok hplan htest
      have hrun : test.run.cgu_id = input.cgu_id := hid
      rw [List.map_cons]
      by_cases hcgu : input.cgu_id = cgu_id
      · rw [goodwillCharge, List.filter_cons_of_pos (by simpa [hrun] using hcgu), List.map_cons,
          List.sum_cons, List.filter_cons_of_pos (by simpa using hcgu), List.map_cons,
          cappedSum_cons, ← ih, run_impairment_loss_to_goodwill, hshortfall, hgoodwill, hcgu]
        rfl
      · rw [goodwillCharge, List.filter_cons_of_neg (by simpa [hrun] using hcgu),
          List.filter_cons_of_neg (by simpa using hcgu), ← ih]
        rfl

theorem run_cgu_impairment_tests_eq_ok {inputs : List CguTestInputs}
    {results : List CguImpairmentResult}
    (h : run_cgu_impairment_tests cgu_plan entity_net_assets test_date currency inputs =
      .ok results) :
    ∃ tests, List.Forall₂ (fun input test => impairmentTest cgu_plan entity_net_assets test_date
        currency input = .ok test) inputs tests ∧ results.Perm (tests.map (·.run)) := by
  rw [run_cgu_impairment_tests] at h
  split at h
  · rename_i hempty
    cases h
    rw [List.isEmpty_iff.mp hempty]
    exact ⟨[], .nil, .refl _⟩
  · obtain ⟨tests, htests, heq⟩ := bind_eq_ok_iff.mp h
    cases heq
    exact ⟨tests, traverseRun_eq_ok_iff.mp htests, List.perm_insertionSort _ _⟩

theorem goodwillCharge_run (hplan : cgu_plan.Valid) (cgu_id : String)
    {inputs : List CguTestInputs} {results : List CguImpairmentResult}
    (h : run_cgu_impairment_tests cgu_plan entity_net_assets test_date currency inputs =
      .ok results) :
    goodwillCharge cgu_id results =
      cappedSum (allocated_goodwill cgu_plan cgu_id)
        ((inputs.filter (·.cgu_id = cgu_id)).map (inputShortfall cgu_plan entity_net_assets)) := by
  obtain ⟨tests, htests, hperm⟩ := run_cgu_impairment_tests_eq_ok h
  rw [goodwillCharge_perm cgu_id hperm, goodwillCharge_tests hplan cgu_id htests]

/-- The loss split of a result, against the goodwill of the plan and the rest of the
carrying amount. -/
theorem splitsLoss_of_run (hplan : cgu_plan.Valid) {inputs : List CguTestInputs}
    {results : List CguImpairmentResult}
    (h : run_cgu_impairment_tests cgu_plan entity_net_assets test_date currency inputs =
      .ok results) :
    ∀ r ∈ results, SplitsLoss (allocated_goodwill cgu_plan r.cgu_id)
      (r.carrying_total - allocated_goodwill cgu_plan r.cgu_id) r := by
  obtain ⟨tests, htests, hperm⟩ := run_cgu_impairment_tests_eq_ok h
  intro r hr
  obtain ⟨test, htest, rfl⟩ := List.mem_map.mp (hperm.mem_iff.mp hr)
  obtain ⟨input, -, hinput⟩ := exists_left_of_forall₂ htests htest
  obtain ⟨hid, hgoodwill, -, hwell⟩ := impairmentTest_eq_ok hplan hinput
  have hgoodwill' : allocated_goodwill cgu_plan test.run.cgu_id = test.allocated_goodwill := by
    rw [hgoodwill, ← hid]
    rfl
  have hother : test.run.carrying_total - test.allocated_goodwill = test.other_carrying :=
    add_sub_cancel_left _ _
  rw [hgoodwill', hother]
  exact splitsLoss_run hwell

end Runs

structure TestPeriod where
  test_date : Date
  test_inputs : List CguTestInputs
  entity_net_assets : OrderedMap String ℚ

section Chains

variable (cgu_plan : CguPlan) (currency : String)

def impairmentChain (periods : List TestPeriod) : GroupResult (List (List CguImpairmentResult)) :=
  traverseRun (fun p => run_cgu_impairment_tests cgu_plan p.entity_net_assets p.test_date currency
    p.test_inputs) periods

def chainShortfalls (cgu_id : String) (periods : List TestPeriod) : List ℚ :=
  periods.flatMap fun p =>
    (p.test_inputs.filter (·.cgu_id = cgu_id)).map (inputShortfall cgu_plan p.entity_net_assets)

/-- At no point of the chain has more been charged to a unit's goodwill than was
allocated to it, and every result charges its loss to goodwill first and never more
than its carrying amount to the other assets. -/
structure ChainSound (cgu_id : String) (records : List (List CguImpairmentResult)) : Prop where
  within_goodwill : ∀ n,
    ((records.take n).map (goodwillCharge cgu_id)).sum ≤ allocated_goodwill cgu_plan cgu_id
  splits : ∀ results ∈ records, ∀ r ∈ results, r.cgu_id = cgu_id →
    SplitsLoss (allocated_goodwill cgu_plan cgu_id)
      (r.carrying_total - allocated_goodwill cgu_plan cgu_id) r

variable {cgu_plan currency}

theorem sum_goodwillCharge_chain (hplan : cgu_plan.Valid) (cgu_id : String)
    {periods : List TestPeriod} {records : List (List CguImpairmentResult)}
    (h : List.Forall₂ (fun p results => run_cgu_impairment_tests cgu_plan p.entity_net_assets
      p.test_date currency p.test_inputs = .ok results) periods records) :
    (records.map (goodwillCharge cgu_id)).sum =
      cappedSum (allocated_goodwill cgu_plan cgu_id) (chainShortfalls cgu_plan cgu_id periods) := by
  induction h with
  | nil => rfl
  | cons hrun _ ih =>
      rw [List.map_cons, List.sum_cons, ih, goodwillCharge_run hplan cgu_id hrun,
        ← cappedSum_append]
      rfl

theorem chainShortfalls_nonneg (cgu_id : String) (periods : List TestPeriod) :
    ∀ s ∈ chainShortfalls cgu_plan cgu_id periods, 0 ≤ s := by
  intro s hs
  obtain ⟨p, -, hs⟩ := List.mem_flatMap.mp hs
  obtain ⟨input, -, rfl⟩ := List.mem_map.mp hs
  exact inputShortfall_nonneg input

theorem sum_goodwillCharge_take_le (hplan : cgu_plan.Valid) (cgu_id : String)
    {periods : List TestPeriod} {records : List (List CguImpairmentResult)}
    (h : List.Forall₂ (fun p results => run_cgu_impairment_tests cgu_plan p.entity_net_assets
      p.test_date currency p.test_inputs = .ok results) periods records) (n : ℕ) :
    ((records.take n).map (goodwillCharge cgu_id)).sum ≤
      (records.map (goodwillCharge cgu_id)).sum := by
  have hlater : 0 ≤ ((records.drop n).map (goodwillCharge cgu_id)).sum := by
    rw [sum_goodwillCharge_chain hplan cgu_id (List.forall₂_drop n h)]
    exact cappedSum_nonneg (allocated_goodwill_nonneg hplan cgu_id)
      (chainShortfalls_nonneg cgu_id _)
  calc ((records.take n).map (goodwillCharge cgu_id)).sum
      ≤ ((records.take n).map (goodwillCharge cgu_id)).sum +
          ((records.drop n).map (goodwillCharge cgu_id)).sum := le_add_of_nonneg_right hlater
    _ = (records.map (goodwillCharge cgu_id)).sum := by
        rw [← List.sum_append, ← List.map_append, List.take_append_drop]

/-- A chain keeps within a unit's goodwill exactly when the shortfalls of its tests
do so together, or at most one of them is positive. -/
theorem chainSound_iff_absorbable {cfg : CguConfig} {entities : List ExpandedEntity}
    (hplan : build_cgu_plan cfg entities = .ok cgu_plan) {periods : List TestPeriod}
    {records : List (List CguImpairmentResult)}
    (hrun : impairmentChain cgu_plan currency periods = .ok records) (cgu_id : String) :
    ChainSound cgu_plan cgu_id records ↔
      Absorbable (allocated_goodwill cgu_plan cgu_id)
        (chainShortfalls cgu_plan cgu_id periods) := by
  have hvalid := build_cgu_plan_valid hplan
  have hruns := traverseRun_eq_ok_iff.mp hrun
  rw [← cappedSum_le_iff (allocated_goodwill_nonneg hvalid cgu_id)
    (chainShortfalls_nonneg cgu_id periods), ← sum_goodwillCharge_chain hvalid cgu_id hruns]
  constructor
  · intro hsound
    have hall := hsound.within_goodwill records.length
    rwa [List.take_length] at hall
  · intro hle
    refine ⟨fun n => (sum_goodwillCharge_take_le hvalid cgu_id hruns n).trans hle, ?_⟩
    intro results hresults r hr hid
    obtain ⟨p, -, hp⟩ := exists_left_of_forall₂ hruns hresults
    exact hid ▸ splitsLoss_of_run hvalid hp r hr

end Chains

def sampleCguConfig : CguConfig :=
  ⟨[⟨"CGU1", "Unit", ["E1"], none⟩], [⟨"CGU1", "BC1", 100, Date.ofYmd 2020 1 1⟩]⟩

def sampleCguPlan : CguPlan :=
  ⟨[⟨"CGU1", "Unit", ["E1"], none⟩], [⟨"CGU1", "BC1", 100, Date.ofYmd 2020 1 1⟩]⟩

theorem build_sampleCguPlan :
    build_cgu_plan sampleCguConfig [entityIn "E1" "significant"] = .ok sampleCguPlan := by
  decide

def yearEndTest (year : ℤ) (fair_value_less_costs : ℚ) : TestPeriod :=
  ⟨Date.ofYmd year 12 31, [⟨"CGU1", some 900, some fair_value_less_costs, some 0, none⟩],
    OrderedMap.empty⟩

theorem shortfalls_within_goodwill :
    ∃ records, impairmentChain sampleCguPlan "EUR" [yearEndTest 2024 960, yearEndTest 2025 940] =
        .ok records ∧ ChainSound sampleCguPlan "CGU1" records := by
  obtain ⟨records, hrun⟩ : ∃ records, impairmentChain sampleCguPlan "EUR"
      [yearEndTest 2024 960, yearEndTest 2025 940] = .ok records := ⟨_, rfl⟩
  refine ⟨records, hrun, (chainSound_iff_absorbable build_sampleCguPlan hrun "CGU1").mpr ?_⟩
  exact .inr (.inl (by decide_cbv))

/-- Two tests that each find 100 too much charge the goodwill of 100 twice. -/
theorem goodwill_written_off_twice :
    ∃ records, build_cgu_plan sampleCguConfig [entityIn "E1" "significant"] = .ok sampleCguPlan ∧
      impairmentChain sampleCguPlan "EUR" [yearEndTest 2024 900, yearEndTest 2025 900] =
        .ok records ∧ ¬ ChainSound sampleCguPlan "CGU1" records := by
  refine ⟨_, build_sampleCguPlan, rfl, fun hsound => ?_⟩
  exact absurd (hsound.within_goodwill 2) (by decide_cbv)

end Datasynth.Group.CguImpairment
