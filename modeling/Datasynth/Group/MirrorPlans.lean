import Mathlib.Data.List.Range
import Datasynth.Group.IcReconciliation
import Datasynth.Lib.CivilCalendar

/-!
The plans of the two sides of a relationship, derived apart: mirror images of each other,
with dates that run through the period.
-/

namespace Datasynth.Group.MirrorPlans

open Datasynth.Core.JournalEntries
open Datasynth.Group.Config
open Datasynth.Group.IcExpansion
open Datasynth.Group.IcInjection
open Datasynth.Group.IcPairing
open Datasynth.Group.IcPlanning
open Datasynth.Group.IcReconciliation
open Datasynth.Group.IcResolution
open Datasynth.Group.ManifestBuilder
open Datasynth.Group.OwnershipExpansion
open Datasynth.Group.ShardPlanning
open Datasynth.Lib.ByteEncoding
open Datasynth.Lib.CivilCalendar
open Datasynth.Lib.ExceptRuns

section Periods

theorem monthNumber_checkedAddMonths {d e : Date} {months : ℕ}
    (h : d.checkedAddMonths months = some e) : e.monthNumber = d.monthNumber + months := by
  rw [Date.checkedAddMonths] at h
  obtain ⟨-, heq⟩ := Option.ite_none_right_eq_some.mp h
  obtain rfl := Option.some.inj heq
  obtain ⟨hmonth, -⟩ := d.month_spec
  have hday := d.day_spec.1
  have hdays := le_daysInMonth ((d.year * 12 + (d.month - 1 : ℕ) + months) / 12)
    (((d.year * 12 + (d.month - 1 : ℕ) + months) % 12).toNat + 1)
  rw [monthNumber_ofYmd _ (by omega) (by omega), Date.monthNumber]
  omega

theorem lt_checkedAddMonths {d e : Date} {months : ℕ} (hmonths : 1 ≤ months)
    (h : d.checkedAddMonths months = some e) : d < e := by
  have hnumber := monthNumber_checkedAddMonths h
  have hnext : d < monthStart (d.monthNumber + 1) := d.month_spec.2.2
  exact hnext.trans_le (monthStart_le_iff.mpr (by omega))

/-- A computed period does not end before it starts. -/
theorem start_le_end_of_compute_period {cfg : PeriodConfig} {period : ManifestPeriod}
    (h : compute_period cfg = .ok period) : period.start ≤ period.end := by
  obtain ⟨hstart, next, hnext, hpred⟩ := compute_period_spec h
  obtain ⟨-, heq⟩ := Option.ite_none_right_eq_some.mp hpred
  have hlt : cfg.start_date.dayNumber < next.dayNumber :=
    lt_checkedAddMonths (by cases cfg.length <;> decide) hnext
  rw [hstart, ← Option.some.inj heq]
  show cfg.start_date.dayNumber ≤ next.dayNumber + -1
  omega

end Periods

section Dates

variable {start last : Date} {i j n : ℕ}

theorem saturating_mul_mono (a : ℕ) (h : i ≤ j) : saturating_mul a i ≤ saturating_mul a j :=
  min_le_min_right _ (Nat.mul_le_mul_left a h)

theorem spread_date_zero : spread_date start last 0 n = start := by
  rw [spread_date]
  split
  · rfl
  · simp [saturating_mul, Date.addDays]

theorem spread_date_mono (h : i ≤ j) : spread_date start last i n ≤ spread_date start last j n := by
  rw [spread_date, spread_date]
  split
  · exact le_rfl
  · rename_i hmany
    rw [not_or, not_le] at hmany
    have hproduct : (saturating_mul (start.daysUntil last).toNat i : ℤ) ≤
        saturating_mul (start.daysUntil last).toNat j :=
      Int.ofNat_le.mpr (saturating_mul_mono _ h)
    show start.dayNumber + _ ≤ start.dayNumber + _
    exact Int.add_le_add_left (Int.ediv_le_ediv (by omega) hproduct) _

/-- Saturation only brings a date forward, so none is past the end of the period. -/
theorem spread_date_le (hperiod : start ≤ last) (hi : i < n) :
    spread_date start last i n ≤ last := by
  rw [spread_date]
  split
  · exact hperiod
  · rename_i hmany
    rw [not_or, not_le] at hmany
    have hlength : ((start.daysUntil last).toNat : ℤ) = last.dayNumber - start.dayNumber :=
      Int.toNat_of_nonneg (sub_nonneg.mpr hperiod)
    have hproduct : (saturating_mul (start.daysUntil last).toNat i : ℤ) ≤
        (start.daysUntil last).toNat * (n - 1) := by
      have hle := (min_le_left _ u64Max).trans
        (Nat.mul_le_mul_left (start.daysUntil last).toNat (Nat.le_sub_one_of_lt hi))
      have hcast : ((n - 1 : ℕ) : ℤ) = n - 1 := by omega
      rw [← hcast]
      exact_mod_cast hle
    have hoffset := Int.ediv_le_of_le_mul (by omega) hproduct
    rw [hlength] at hoffset
    show start.dayNumber + _ ≤ last.dayNumber
    exact (Int.add_le_add_left hoffset _).trans_eq (add_sub_cancel _ _)

end Dates

section Mirrors

/-- The seller's and the buyer's side of one pair. -/
structure Mirrors (rel : ResolvedIcRelationship) (seller buyer : IcPairPlan) : Prop where
  pair_id : seller.pair_id = buyer.pair_id
  ic_relationship_id : seller.ic_relationship_id = buyer.ic_relationship_id
  transaction_type : seller.transaction_type = buyer.transaction_type
  amount : seller.amount = buyer.amount
  currency : ∀ ctx ctx', (build_je_for_plan seller ctx).header.currency =
    (build_je_for_plan buyer ctx').header.currency
  date : seller.date = buyer.date
  index : seller.index = buyer.index
  roles : seller.role = .seller ∧ buyer.role = .buyer
  partners : seller.partner_entity = rel.buyer ∧ buyer.partner_entity = rel.seller

/-- The dates of plans run through a period from its start. -/
structure SpreadOver (period : ManifestPeriod) (plans : List IcPairPlan) : Prop where
  sorted : plans.Pairwise fun plan plan' => plan.date ≤ plan'.date
  inside : ∀ plan ∈ plans, period.start ≤ plan.date ∧ plan.date ≤ period.end
  first : ∀ plan, plans.head? = some plan → plan.date = period.start

variable (blake3 : List Byte → Digest) (manifest : GroupManifest) (rel : ResolvedIcRelationship)

/-- Both shards have the pairs of a relationship among their plans, as mirror images. -/
structure MirrorImages : Prop where
  seller_plans : relationshipPlans blake3 manifest rel.seller rel <:+:
    derive_ic_pair_plans blake3 manifest rel.seller
  buyer_plans : relationshipPlans blake3 manifest rel.buyer rel <:+:
    derive_ic_pair_plans blake3 manifest rel.buyer
  mirrors : List.Forall₂ (Mirrors rel) (relationshipPlans blake3 manifest rel.seller rel)
    (relationshipPlans blake3 manifest rel.buyer rel)
  spread : SpreadOver manifest.period (relationshipPlans blake3 manifest rel.seller rel)

theorem mirrors_sidePlan (i : ℕ) :
    Mirrors rel (sidePlan blake3 manifest rel .seller i)
      (sidePlan blake3 manifest rel .buyer i) :=
  ⟨rfl, rfl, rfl, rfl, fun _ _ => rfl, rfl, rfl, ⟨rfl, rfl⟩, rfl, rfl⟩

theorem spreadOver_sidePlans (role : IcRole)
    (hperiod : manifest.period.start ≤ manifest.period.end) :
    SpreadOver manifest.period
      ((List.range (pairCount rel)).map (sidePlan blake3 manifest rel role)) where
  sorted := by
    rw [List.pairwise_map]
    apply List.pairwise_lt_range.imp
    exact fun h => spread_date_mono h.le
  inside := by
    rw [List.forall_mem_map]
    intro i hi
    rw [List.mem_range] at hi
    refine ⟨?_, spread_date_le hperiod hi⟩
    have hzero : spread_date manifest.period.start manifest.period.end 0 (pairCount rel) ≤
        spread_date manifest.period.start manifest.period.end i (pairCount rel) :=
      spread_date_mono (Nat.zero_le i)
    rwa [spread_date_zero] at hzero
  first := by
    intro plan hplan
    cases hcount : pairCount rel with
    | zero => simp [hcount] at hplan
    | succ n =>
        rw [hcount, List.range_succ_eq_map, List.map_cons, List.head?_cons] at hplan
        rw [← Option.some.inj hplan]
        exact spread_date_zero

theorem relationshipPlans_infix (hrel : rel ∈ manifest.ic_relationships) (code : String) :
    relationshipPlans blake3 manifest code rel <:+: derive_ic_pair_plans blake3 manifest code := by
  obtain ⟨before, after, hsplit⟩ := List.append_of_mem hrel
  refine ⟨before.flatMap (relationshipPlans blake3 manifest code),
    after.flatMap (relationshipPlans blake3 manifest code), ?_⟩
  rw [derive_ic_pair_plans, hsplit, List.flatMap_append, List.flatMap_cons, List.append_assoc]

theorem mirrorImages_of_ne (hrel : rel ∈ manifest.ic_relationships)
    (hne : rel.seller ≠ rel.buyer) (hperiod : manifest.period.start ≤ manifest.period.end) :
    MirrorImages blake3 manifest rel where
  seller_plans := relationshipPlans_infix blake3 manifest rel hrel rel.seller
  buyer_plans := relationshipPlans_infix blake3 manifest rel hrel rel.buyer
  mirrors := by
    rw [relationshipPlans_eq, relationshipPlans_eq, if_pos rfl, if_neg hne, if_pos rfl,
      List.forall₂_map_left_iff, List.forall₂_map_right_iff, List.forall₂_same]
    exact fun i _ => mirrors_sidePlan blake3 manifest rel i
  spread := by
    rw [relationshipPlans_eq, if_pos rfl]
    exact spreadOver_sidePlans blake3 manifest rel .seller hperiod

/-- The shards of a resolved relationship derive mirror images in every period. -/
theorem mirrorImages_of_resolved {ic : IntercompanyConfig} {entities : List ExpandedEntity}
    (hresolved : expand_ic_relationships blake3 ic entities manifest.group_seed =
      .ok manifest.ic_relationships)
    (hperiod : manifest.period.start ≤ manifest.period.end)
    (hrel : rel ∈ manifest.ic_relationships) : MirrorImages blake3 manifest rel := by
  obtain ⟨added, hadded⟩ := exists_resolved blake3 entities manifest.group_seed hresolved
  exact mirrorImages_of_ne blake3 manifest rel hrel
    (hadded.well_resolved rel hrel).seller_ne_buyer hperiod

end Mirrors

/-- The goods the parent sells to its subsidiary are planned alike in both shards. -/
theorem goods_from_parent_mirrored :
    MirrorImages sampleHash (tradingManifest [.explicit goodsFromParent])
      (resolvedExplicit sampleHash 42 goodsFromParent) := by
  have hresolved : expand_ic_relationships sampleHash
      (tradingConfig [.explicit goodsFromParent]).intercompany sampleEntities 42 =
      .ok (tradingManifest [.explicit goodsFromParent]).ic_relationships := by decide
  have hperiod : compute_period (tradingConfig [.explicit goodsFromParent]).period =
      .ok (tradingManifest [.explicit goodsFromParent]).period := by decide
  exact mirrorImages_of_resolved sampleHash (tradingManifest [.explicit goodsFromParent])
    (resolvedExplicit sampleHash 42 goodsFromParent) hresolved
    (start_le_end_of_compute_period hperiod) (by decide)

end Datasynth.Group.MirrorPlans
