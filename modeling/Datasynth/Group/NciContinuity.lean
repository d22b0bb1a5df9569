import Datasynth.Group.NciAggregation
import Datasynth.Lib.ExceptRuns

/-!
The chain of aggregate runs, as far as the non-controlling interests go: each period
reads the closing balances the previous one wrote and opens with them.
-/

namespace Datasynth.Group.NciContinuity

open Datasynth.Core.OwnershipChanges
open Datasynth.Group.Config
open Datasynth.Group.ManifestBuilder
open Datasynth.Group.NciAggregation
open Datasynth.Group.NciMeasurement
open Datasynth.Lib.CarryForward
open Datasynth.Lib.CivilCalendar
open Datasynth.Lib.ExceptRuns
open Datasynth.Lib.HalfEvenRounding
open Datasynth.Lib.ListRearrangement
open Datasynth.Lib.SortedEntries

def ingestRollforward (path : String) (map : OrderedMap String ℚ) (rf : NciRollforward) :
    GroupResult (OrderedMap String ℚ) :=
  if (map.find? rf.entity_code).isSome then
    .error <| .aggregate <|
      s!"ingest_opening_nci_balances: duplicate entity `{rf.entity_code}` in opening NCI file " ++
        s!"{path} — writer regression?"
  else .ok (map.insert rf.entity_code rf.closing_nci)

def ingest_opening_nci_balances (path : String) (rollforwards : List NciRollforward) :
    GroupResult (OrderedMap String ℚ) :=
  foldRun (ingestRollforward path) OrderedMap.empty rollforwards

/-- One period of the chain: what its aggregate run reads. -/
structure NciPeriod where
  manifest : GroupManifest
  translated_tbs : List TranslatedTb
  acquisition_fv_map : OrderedMap String ℚ
  ownership_changes_map : OrderedMap String (List OwnershipChangeEvent)
  prior_path : String

def openingBalances (prior : Option (List NciRollforward)) (p : NciPeriod) :
    GroupResult (OrderedMap String ℚ) :=
  match prior with
  | none => .ok OrderedMap.empty
  | some rollforwards => ingest_opening_nci_balances p.prior_path rollforwards

def nciPhase (prior : Option (List NciRollforward)) (p : NciPeriod) :
    GroupResult (List NciRollforward) :=
  (openingBalances prior p).bind fun opening_map =>
    build_nci_rollforwards p.manifest p.translated_tbs opening_map p.acquisition_fv_map
      p.ownership_changes_map

def run_aggregate_chain (prior : Option (List NciRollforward)) (periods : List NciPeriod) :
    GroupResult (List (List NciRollforward)) :=
  runPeriods nciPhase some prior periods

/-- Whether control of the entity was gained in the period. -/
def NciPeriod.gainsControl (p : NciPeriod) (code : String) : Bool :=
  (controlGained ((p.ownership_changes_map.find? code).getD [])).isSome

/-- The interests that were there before open with what they closed with. -/
def Continues (prior : Option (List NciRollforward)) (p : NciPeriod)
    (rolls : List NciRollforward) : Prop :=
  ∀ rollforwards, prior = some rollforwards → ∀ closed ∈ rollforwards, ∀ opened ∈ rolls,
    opened.entity_code = closed.entity_code → p.gainsControl opened.entity_code = false →
      opened.opening_nci = closed.closing_nci

/-- An interest that closed at zero is not one whose fair value at acquisition the
period still reads. -/
def NotReset (prior : Option (List NciRollforward)) (p : NciPeriod) : Prop :=
  ∀ rollforwards, prior = some rollforwards → ∀ closed ∈ rollforwards,
    ∀ entity ∈ p.manifest.ownership_graph.entities, isMeasured entity = true →
      entity.code = closed.entity_code → p.gainsControl entity.code = false →
        closed.closing_nci = 0 → ∀ fv ∈ p.acquisition_fv_map.find? entity.code, roundDp 2 fv = 0

def WholeCents (prior : Option (List NciRollforward)) : Prop :=
  ∀ rollforwards, prior = some rollforwards → ∀ closed ∈ rollforwards,
    roundDp 2 closed.closing_nci = closed.closing_nci

theorem ingestRollforward_eq_ok_iff {path : String} {map map' : OrderedMap String ℚ}
    {rf : NciRollforward} :
    ingestRollforward path map rf = .ok map' ↔
      map.find? rf.entity_code = none ∧ map.insert rf.entity_code rf.closing_nci = map' := by
  rw [ingestRollforward]
  cases map.find? rf.entity_code <;> simp

/-- A file that is read has one closing balance for each of its entities. -/
theorem find?_of_foldRun_ingestRollforward {path : String} {rollforwards : List NciRollforward}
    {map map' : OrderedMap String ℚ}
    (h : foldRun (ingestRollforward path) map rollforwards = .ok map') :
    (∀ code closing, map.find? code = some closing → map'.find? code = some closing) ∧
      ∀ rf ∈ rollforwards, map'.find? rf.entity_code = some rf.closing_nci := by
  induction rollforwards generalizing map with
  | nil =>
      cases h
      exact ⟨fun _ _ hfind => hfind, by simp⟩
  | cons rf rollforwards ih =>
      obtain ⟨mid, hmid, hrest⟩ := bind_eq_ok_iff.mp h
      obtain ⟨hnew, rfl⟩ := ingestRollforward_eq_ok_iff.mp hmid
      obtain ⟨hkeeps, hreads⟩ := ih hrest
      refine ⟨?_, List.forall_mem_cons.mpr ⟨hkeeps _ _ ?_, hreads⟩⟩
      · intro code closing hfind
        apply hkeeps
        rw [OrderedMap.find?_insert, if_neg, hfind]
        rintro rfl
        rw [hnew] at hfind
        cases hfind
      · rw [OrderedMap.find?_insert, if_pos rfl]

section Measurement

variable {manifest : GroupManifest} {translated_tbs : List TranslatedTb}
  {opening_map acquisition_fv_map : OrderedMap String ℚ}
  {ownership_changes_map : OrderedMap String (List OwnershipChangeEvent)}
  {entity : ManifestEntity} {roll : NciRollforward}

/-- The opening balance a measured entity is seeded with, unless control is gained. -/
def openingSeed (opening_map acquisition_fv_map : OrderedMap String ℚ) (code : String) : ℚ :=
  if (opening_map.find? code).getD 0 = 0 then (acquisition_fv_map.find? code).getD 0
  else (opening_map.find? code).getD 0

theorem seededOpening_nciInputs (translated : TranslatedTb) :
    seededOpening (nciInputs manifest opening_map acquisition_fv_map ownership_changes_map entity
      translated) = openingSeed opening_map acquisition_fv_map entity.code := by
  rw [seededOpening, openingSeed]
  cases hfv : acquisition_fv_map.find? entity.code with
  | some fv => simp [nciInputs, hfv]
  | none =>
      by_cases hzero : (opening_map.find? entity.code).getD 0 = 0
      · simp [nciInputs, hfv, hzero]
      · simp [nciInputs, hfv, hzero]

/-- What a successful measurement says of its rollforward. -/
theorem measureEntity_balances
    (h : measureEntity manifest translated_tbs opening_map acquisition_fv_map
      ownership_changes_map entity = .ok roll) :
    roll.entity_code = entity.code ∧ roundDp 2 roll.closing_nci = roll.closing_nci ∧
      (controlGained ((ownership_changes_map.find? entity.code).getD []) = none →
        roll.opening_nci =
          roundDp 2 (openingSeed opening_map acquisition_fv_map entity.code)) := by
  rw [measureEntity] at h
  split at h
  · cases h
  · rename_i translated htranslated
    obtain ⟨checked, -, h⟩ := bind_eq_ok_iff.mp h
    obtain ⟨walk, hwalk, h⟩ := bind_eq_ok_iff.mp h
    obtain ⟨effect, heffect, heq⟩ := bind_eq_ok_iff.mp h
    cases heq
    refine ⟨rfl, roundDp_roundDp 2 _, ?_⟩
    intro hgained
    have hwalked := foldRun_walkEvent_gained hwalk
    rw [EventWalk.start, Option.or_none] at hwalked
    change walk.control_gained_event =
      controlGained ((ownership_changes_map.find? entity.code).getD []) at hwalked
    rw [hwalked, hgained] at heffect
    cases heffect
    simp only [assembleRollforward, Option.getD_none, seededOpening_nciInputs]

end Measurement

section Step

variable {prior : Option (List NciRollforward)} {p : NciPeriod} {rolls : List NciRollforward}

theorem nciPhase_eq_ok_iff :
    nciPhase prior p = .ok rolls ↔ ∃ opening_map, openingBalances prior p = .ok opening_map ∧
      List.Forall₂ (fun entity roll => measureEntity p.manifest p.translated_tbs opening_map
        p.acquisition_fv_map p.ownership_changes_map entity = .ok roll)
        (p.manifest.ownership_graph.entities.filter (isMeasured ·)) rolls := by
  rw [nciPhase, bind_eq_ok_iff]
  exact exists_congr fun opening_map => and_congr_right fun _ => traverseRun_eq_ok_iff

theorem nciPhase_wholeCents (h : nciPhase prior p = .ok rolls) : WholeCents (some rolls) := by
  obtain ⟨opening_map, -, hruns⟩ := nciPhase_eq_ok_iff.mp h
  intro rolls' hrolls' roll hroll
  cases hrolls'
  obtain ⟨entity, -, hmeasure⟩ := exists_left_of_forall₂ hruns hroll
  exact (measureEntity_balances hmeasure).2.1

/-- The zero test cannot tell an interest that closed at zero from a new one. -/
theorem continues_iff_notReset (hcents : WholeCents prior) (h : nciPhase prior p = .ok rolls) :
    Continues prior p rolls ↔ NotReset prior p := by
  obtain ⟨opening_map, hopening, hruns⟩ := nciPhase_eq_ok_iff.mp h
  cases prior with
  | none => simp [Continues, NotReset]
  | some rollforwards =>
      have hread := (find?_of_foldRun_ingestRollforward hopening).2
      have hseed : ∀ closed ∈ rollforwards, openingSeed opening_map p.acquisition_fv_map
          closed.entity_code = if closed.closing_nci = 0 then
            (p.acquisition_fv_map.find? closed.entity_code).getD 0 else closed.closing_nci := by
        intro closed hclosed
        simp [openingSeed, hread closed hclosed]
      constructor
      · rintro hcontinues _ ⟨rfl⟩ closed hclosed entity hentity hmeasured hcode hgained hzero fv hfv
        obtain ⟨roll, hroll, hmeasure⟩ := exists_right_of_forall₂ hruns
          (List.mem_filter.mpr ⟨hentity, hmeasured⟩)
        obtain ⟨hrollCode, -, hrollOpening⟩ := measureEntity_balances hmeasure
        have hopens := hcontinues _ rfl closed hclosed roll hroll (hrollCode.trans hcode)
          (hrollCode ▸ hgained)
        rw [hrollOpening (by simpa [NciPeriod.gainsControl] using hgained), hcode,
          hseed closed hclosed, if_pos hzero, hzero, ← hcode, Option.mem_def.mp hfv] at hopens
        exact hopens
      · rintro hnotReset _ ⟨rfl⟩ closed hclosed roll hroll hcode hgained
        obtain ⟨entity, hentity, hmeasure⟩ := exists_left_of_forall₂ hruns hroll
        obtain ⟨hentity, hmeasured⟩ := List.mem_filter.mp hentity
        obtain ⟨hrollCode, -, hrollOpening⟩ := measureEntity_balances hmeasure
        rw [hrollCode] at hcode hgained
        rw [hrollOpening (by simpa [NciPeriod.gainsControl] using hgained), hcode,
          hseed closed hclosed]
        by_cases hzero : closed.closing_nci = 0
        · rw [if_pos hzero, hzero]
          cases hfv : p.acquisition_fv_map.find? closed.entity_code with
          | none => simp
          | some fv =>
              exact hnotReset _ rfl closed hclosed entity hentity hmeasured hcode hgained hzero fv
                (hcode ▸ hfv)
        · rw [if_neg hzero]
          exact hcents _ rfl closed hclosed

end Step

/-- Along a chain the interests continue exactly where none that closed at zero is
reset to its fair value at acquisition. -/
theorem run_aggregate_chain_continues_iff {prior : Option (List NciRollforward)}
    {periods : List NciPeriod} {runs : List (List NciRollforward)}
    (hrun : run_aggregate_chain prior periods = .ok runs) :
    EveryLaterPeriod some Continues periods runs ↔
      EveryLaterPeriod some (fun prior p _ => NotReset prior p) periods runs := by
  cases periods with
  | nil => exact Iff.rfl
  | cons first later =>
      obtain ⟨rolls, laterRuns, hfirst, hlater, rfl⟩ :=
        (runPeriods_cons_eq_ok_iff nciPhase some prior first later runs).mp hrun
      refine everyPeriod_congr ?_ (nciPhase_wholeCents hfirst) hlater
      intro prior p rolls hcents hphase
      exact ⟨nciPhase_wholeCents hphase, continues_iff_notReset hcents hphase⟩

def subsidiaryYear (lines : List TranslatedLine) : NciPeriod where
  manifest := { GroupManifest.bare year2024 with
    ownership_graph := ⟨"P", [{ ManifestEntity.bare "S" .full with
      parent_code := some "P"
      ownership_percent := some (4 / 5) }]⟩ }
  translated_tbs := [⟨"S", lines⟩]
  acquisition_fv_map := OrderedMap.ofList [("S", 100)]
  ownership_changes_map := OrderedMap.empty
  prior_path := "out/consolidated/nci_rollforward.json"

def subsidiaryRoll (opening profit closing : ℚ) : NciRollforward where
  entity_code := "S"
  parent_entity_code := "P"
  ownership_percent := 4 / 5
  nci_percent := 1 / 5
  opening_nci := opening
  nci_share_of_profit := profit
  nci_share_of_oci := 0
  nci_dividends := 0
  equity_transaction_adjustments := 0
  pl_remeasurement_gain_or_loss := 0
  closing_nci := closing
  period_end := Date.ofYmd 2024 12 31
  currency := "EUR"

theorem profitable_subsidiary_continues :
    EveryLaterPeriod some Continues
      [subsidiaryYear [⟨.credit, 50, .plRevenue⟩], subsidiaryYear []]
      [[subsidiaryRoll 100 10 110], [subsidiaryRoll 110 0 110]] := by
  refine (@run_aggregate_chain_continues_iff none _ _ ?_).mpr ⟨?_, trivial⟩
  · decide +kernel
  · rintro _ ⟨rfl⟩ closed hclosed entity - - - - hzero
    cases List.mem_singleton.mp hclosed
    exact absurd hzero (by decide)

/-- A loss that uses the interest up is followed by a second acquisition. -/
theorem exhausted_interest_is_reset :
    run_aggregate_chain none [subsidiaryYear [⟨.debit, 500, .plExpense⟩], subsidiaryYear []] =
        .ok [[subsidiaryRoll 100 (-100) 0], [subsidiaryRoll 100 0 100]] ∧
      ¬ EveryLaterPeriod some Continues
        [subsidiaryYear [⟨.debit, 500, .plExpense⟩], subsidiaryYear []]
        [[subsidiaryRoll 100 (-100) 0], [subsidiaryRoll 100 0 100]] := by
  refine ⟨by decide +kernel, ?_⟩
  rintro ⟨hcontinues, -⟩
  have hreset := hcontinues _ rfl _ (List.mem_singleton_self _) _ (List.mem_singleton_self _) rfl
    (by decide)
  exact absurd hreset (by decide)

end Datasynth.Group.NciContinuity
