import Mathlib.Algebra.BigOperators.Ring.List
import Mathlib.Algebra.Order.BigOperators.Group.List
import Datasynth.Fingerprints.PrivacyAccounting

/-!
The suppression of rare categories, with 64-bit floats as exact rationals, and when the
frequencies that it releases keep every group large enough.
-/

namespace Datasynth.Fingerprints.CategorySuppression

open Datasynth.Fingerprints.PrivacyAccounting

section Filter

structure KAnonymity where
  k : ℕ
  min_occurrence : ℕ

/-- The name under which the suppressed values are released together. -/
def OTHER : String := "__OTHER__"

/-- What the loop over the frequencies has collected. -/
structure Filtered where
  kept : List (String × ℚ)
  suppressed_count : ℕ
  suppressed_total : ℕ

namespace KAnonymity

variable (kanon : KAnonymity)

def threshold : ℕ := max kanon.k kanon.min_occurrence

def filter_value (total : ℕ) (filtered : Filtered) (category : String × ℕ) : Filtered :=
  if kanon.threshold ≤ category.2 then
    { filtered with kept := filtered.kept ++ [(category.1, (category.2 : ℚ) / total)] }
  else
    { filtered with
      suppressed_count := filtered.suppressed_count + 1
      suppressed_total := filtered.suppressed_total + category.2 }

/-- The values that are kept with their frequencies, and how many are suppressed. -/
def filter_frequencies (frequencies : List (String × ℕ)) (total : ℕ) : List (String × ℚ) × ℕ :=
  if total = 0 then ([], frequencies.length)
  else
    let filtered := frequencies.foldl (kanon.filter_value total) ⟨[], 0, 0⟩
    (if 0 < filtered.suppressed_total ∧ 0 < total then
        filtered.kept ++ [(OTHER, (filtered.suppressed_total : ℚ) / total)]
      else filtered.kept,
      filtered.suppressed_count)

end KAnonymity

/-- The engine records that values were suppressed; the minimum occurrence is that of its filter. -/
noncomputable def filter_categories {R : Type} (engine : PrivacyEngine R) (min_occurrence : ℕ)
    (frequencies : List (String × ℕ)) (total : ℕ) (target : String) :
    List (String × ℚ) × PrivacyEngine R :=
  let kanon : KAnonymity := ⟨engine.config.k_anonymity, min_occurrence⟩
  let (kept, suppressed) := kanon.filter_frequencies frequencies total
  let action : PrivacyAction :=
    { action_type := .suppression
      target := target
      epsilon_spent := none
      reason := "K-anonymity protection" }
  (kept,
    if 0 < suppressed then { engine with audit := engine.audit.record_action action } else engine)

/-- Suppression costs no budget. -/
theorem filter_categories_spends_nothing {R : Type} (engine : PrivacyEngine R)
    (min_occurrence : ℕ) (frequencies : List (String × ℕ)) (total : ℕ) (target : String) :
    (filter_categories engine min_occurrence frequencies total target).2.audit.total_epsilon_spent =
        engine.audit.total_epsilon_spent ∧
      (filter_categories engine min_occurrence frequencies total target).2.accountant =
        engine.accountant := by
  rw [filter_categories]
  simp only
  split
  · exact ⟨add_zero _, rfl⟩
  · exact ⟨rfl, rfl⟩

end Filter

section Groups

variable (kanon : KAnonymity) (frequencies : List (String × ℕ))

def common : List (String × ℕ) := frequencies.filter fun c => kanon.threshold ≤ c.2

def rare : List (String × ℕ) := frequencies.filter fun c => ¬kanon.threshold ≤ c.2

/-- The records of the rare values together. -/
def rareTotal : ℕ := ((rare kanon frequencies).map Prod.snd).sum

def recordTotal : ℕ := (frequencies.map Prod.snd).sum

/-- What is released of counts that cover all records. -/
def released : List (String × ℚ) :=
  (kanon.filter_frequencies frequencies (recordTotal frequencies)).1

/-- No frequency tells of a group below the threshold, and no name of a value in one. -/
structure Private : Prop where
  sums_to_one : ((released kanon frequencies).map Prod.snd).sum = 1
  large : ∀ e ∈ released kanon frequencies,
    (kanon.threshold : ℚ) ≤ e.2 * recordTotal frequencies
  unnamed : ∀ c ∈ rare kanon frequencies, c.1 ∉ (released kanon frequencies).map Prod.fst

/-- The rare values are none or enough together, and share no name that is released. -/
structure Grouped : Prop where
  enough : rareTotal kanon frequencies = 0 ∨ kanon.threshold ≤ rareTotal kanon frequencies
  names : ∀ c ∈ rare kanon frequencies, c.1 ∉ (common kanon frequencies).map Prod.fst
  label : rareTotal kanon frequencies = 0 ∨ ∀ c ∈ rare kanon frequencies, c.1 ≠ OTHER

/-- The common values have names of their own, and none that of the suppressed values. -/
structure Distinguished : Prop where
  names : ((common kanon frequencies).map Prod.fst).Nodup
  label : rareTotal kanon frequencies = 0 ∨ OTHER ∉ (common kanon frequencies).map Prod.fst

variable {kanon frequencies}

theorem common_cons (c : String × ℕ) (frequencies : List (String × ℕ)) :
    common kanon (c :: frequencies) =
      if kanon.threshold ≤ c.2 then c :: common kanon frequencies
      else common kanon frequencies := by
  simp [common, List.filter_cons]

theorem rare_cons (c : String × ℕ) (frequencies : List (String × ℕ)) :
    rare kanon (c :: frequencies) =
      if kanon.threshold ≤ c.2 then rare kanon frequencies else c :: rare kanon frequencies := by
  rw [rare, List.filter_cons]
  split
  · rename_i hrare
    rw [if_neg (of_decide_eq_true hrare), rare]
  · rename_i hcommon
    rw [if_pos (not_not.mp fun h => hcommon (decide_eq_true h)), rare]

theorem foldl_filter_value (total : ℕ) (filtered : Filtered) :
    frequencies.foldl (kanon.filter_value total) filtered =
      ⟨filtered.kept ++ (common kanon frequencies).map fun c => (c.1, (c.2 : ℚ) / total),
        filtered.suppressed_count + (rare kanon frequencies).length,
        filtered.suppressed_total + rareTotal kanon frequencies⟩ := by
  induction frequencies generalizing filtered with
  | nil => simp [common, rare, rareTotal]
  | cons c frequencies ih =>
      rw [List.foldl_cons, ih, KAnonymity.filter_value, common_cons, rareTotal, rareTotal,
        rare_cons]
      split
      · simp
      · simp [add_assoc, add_comm 1]

theorem recordTotal_eq (kanon : KAnonymity) (frequencies : List (String × ℕ)) :
    recordTotal frequencies =
      ((common kanon frequencies).map Prod.snd).sum + rareTotal kanon frequencies := by
  rw [recordTotal, rareTotal]
  induction frequencies with
  | nil => rfl
  | cons c frequencies ih =>
      rw [List.map_cons, List.sum_cons, ih, common_cons, rare_cons]
      split
      · rw [List.map_cons, List.sum_cons, add_assoc]
      · rw [List.map_cons, List.sum_cons, add_left_comm]

/-- The group of the suppressed values, if it is released. -/
def otherGroup (kanon : KAnonymity) (frequencies : List (String × ℕ)) : List (String × ℚ) :=
  if rareTotal kanon frequencies = 0 then []
  else [(OTHER, (rareTotal kanon frequencies : ℚ) / recordTotal frequencies)]

theorem released_eq (hrecords : 0 < recordTotal frequencies) :
    released kanon frequencies =
      (common kanon frequencies).map (fun c => (c.1, (c.2 : ℚ) / recordTotal frequencies)) ++
        otherGroup kanon frequencies := by
  rw [released, KAnonymity.filter_frequencies, if_neg hrecords.ne', foldl_filter_value, otherGroup]
  simp only [List.nil_append, zero_add, hrecords, and_true, Nat.pos_iff_ne_zero]
  by_cases hrare : rareTotal kanon frequencies = 0
  · simp [hrare]
  · simp [hrare]

theorem names_released (hrecords : 0 < recordTotal frequencies) :
    (released kanon frequencies).map Prod.fst =
      (common kanon frequencies).map Prod.fst ++
        if rareTotal kanon frequencies = 0 then [] else [OTHER] := by
  rw [released_eq hrecords, List.map_append, List.map_map, otherGroup]
  congr 1
  split
  · rfl
  · rfl

theorem sum_released (hrecords : 0 < recordTotal frequencies) :
    ((released kanon frequencies).map Prod.snd).sum = 1 := by
  have hother : ((otherGroup kanon frequencies).map Prod.snd).sum =
      (rareTotal kanon frequencies : ℚ) / recordTotal frequencies := by
    rw [otherGroup]
    split
    · rename_i hzero
      rw [hzero, Nat.cast_zero, zero_div]
      rfl
    · exact List.sum_singleton
  have hcommon : ((common kanon frequencies).map fun c =>
      (c.2 : ℚ) / recordTotal frequencies).sum =
        (((common kanon frequencies).map Prod.snd).sum : ℕ) / recordTotal frequencies := by
    simp only [div_eq_mul_inv]
    rw [List.sum_map_mul_right, Nat.cast_list_sum, List.map_map]
    rfl
  rw [released_eq hrecords, List.map_append, List.sum_append, List.map_map, hother]
  refine (congrArg (· + _) hcommon).trans ?_
  rw [← add_div, ← Nat.cast_add, ← recordTotal_eq, div_self]
  exact Nat.cast_ne_zero.mpr hrecords.ne'

/-- A released frequency stands for the records of its group. -/
theorem large_released_iff (hrecords : 0 < recordTotal frequencies) :
    (∀ e ∈ released kanon frequencies, (kanon.threshold : ℚ) ≤ e.2 * recordTotal frequencies) ↔
      rareTotal kanon frequencies = 0 ∨ kanon.threshold ≤ rareTotal kanon frequencies := by
  have hne : (recordTotal frequencies : ℚ) ≠ 0 := Nat.cast_ne_zero.mpr hrecords.ne'
  have hcommon : ∀ e ∈ (common kanon frequencies).map
      (fun c => (c.1, (c.2 : ℚ) / recordTotal frequencies)),
        (kanon.threshold : ℚ) ≤ e.2 * recordTotal frequencies := by
    intro e he
    obtain ⟨c, hc, rfl⟩ := List.mem_map.mp he
    rw [div_mul_cancel₀ _ hne, Nat.cast_le]
    exact of_decide_eq_true (List.mem_filter.mp hc).2
  rw [released_eq hrecords, List.forall_mem_append, and_iff_right hcommon, otherGroup]
  split
  · rename_i hzero
    exact iff_of_true (List.forall_mem_nil _) (.inl hzero)
  · rename_i hrare
    rw [List.forall_mem_singleton, div_mul_cancel₀ _ hne, Nat.cast_le, or_iff_right hrare]

theorem unnamed_iff (hrecords : 0 < recordTotal frequencies) :
    (∀ c ∈ rare kanon frequencies, c.1 ∉ (released kanon frequencies).map Prod.fst) ↔
      (∀ c ∈ rare kanon frequencies, c.1 ∉ (common kanon frequencies).map Prod.fst) ∧
        (rareTotal kanon frequencies = 0 ∨ ∀ c ∈ rare kanon frequencies, c.1 ≠ OTHER) := by
  rw [names_released hrecords]
  split
  · rename_i hzero
    rw [List.append_nil, and_iff_left (.inl hzero)]
  · rename_i hrare
    simp only [List.mem_append, List.mem_singleton, not_or, or_iff_right hrare, forall_and]

theorem private_iff (hrecords : 0 < recordTotal frequencies) :
    Private kanon frequencies ↔ Grouped kanon frequencies := by
  constructor
  · rintro ⟨-, hlarge, hunnamed⟩
    obtain ⟨hnames, hlabel⟩ := (unnamed_iff hrecords).mp hunnamed
    exact ⟨(large_released_iff hrecords).mp hlarge, hnames, hlabel⟩
  · rintro ⟨henough, hnames, hlabel⟩
    exact ⟨sum_released hrecords, (large_released_iff hrecords).mpr henough,
      (unnamed_iff hrecords).mpr ⟨hnames, hlabel⟩⟩

theorem nodup_released_iff (hrecords : 0 < recordTotal frequencies) :
    ((released kanon frequencies).map Prod.fst).Nodup ↔ Distinguished kanon frequencies := by
  rw [names_released hrecords]
  split
  · rename_i hzero
    rw [List.append_nil]
    exact ⟨fun hnames => ⟨hnames, .inl hzero⟩, Distinguished.names⟩
  · rename_i hrare
    rw [← List.concat_eq_append, List.nodup_concat]
    constructor
    · rintro ⟨hnames, hlabel⟩
      exact ⟨hlabel, .inr hnames⟩
    · intro h
      exact ⟨h.label.resolve_left hrare, h.names⟩

/-- What is released is private exactly if the rare values are grouped, and each released name
then stands for one group exactly if the common values are distinguished. -/
theorem filter_frequencies_private_iff (kanon : KAnonymity) (frequencies : List (String × ℕ))
    (hrecords : 0 < recordTotal frequencies) :
    (Private kanon frequencies ↔ Grouped kanon frequencies) ∧
      (Private kanon frequencies ∧ ((released kanon frequencies).map Prod.fst).Nodup ↔
        Grouped kanon frequencies ∧ Distinguished kanon frequencies) :=
  ⟨private_iff hrecords, and_congr (private_iff hrecords) (nodup_released_iff hrecords)⟩

theorem two_rare_values_private :
    Private ⟨5, 5⟩ [("A", 100), ("B", 50), ("C", 3), ("D", 2)] :=
  (filter_frequencies_private_iff ⟨5, 5⟩ [("A", 100), ("B", 50), ("C", 3), ("D", 2)]
    (by decide)).1.mpr ⟨by decide, by decide, by decide⟩

/-- A single rare value is released as the group of its two records. -/
theorem single_rare_value_released :
    ¬ ∀ (kanon : KAnonymity) (frequencies : List (String × ℕ)), 0 < recordTotal frequencies →
      Private kanon frequencies := by
  intro h
  have hgrouped := (private_iff (by decide)).mp
    (h ⟨5, 5⟩ [("A", 100), ("B", 2)] (by decide))
  have henough := hgrouped.enough
  revert henough
  decide

end Groups

end Datasynth.Fingerprints.CategorySuppression
