import Datasynth.Fingerprints.PrivacyAccounting
import Datasynth.Lib.Charges

/-!
Whether an engine stays within its budget: the sum of epsilons and the Renyi accountant do, the
zero-concentrated one exactly if its loss does not jump over the budget.
-/

namespace Datasynth.Fingerprints.PrivacyBudgets

open Datasynth.Fingerprints.PrivacyAccounting
open Datasynth.Lib.AdmittedCharges

section Steps

variable {R : Type} {random : R → ℝ × R} {engine : PrivacyEngine R} {query : Query}

variable (random query) in
/-- An answered query, with the engine it leaves. -/
theorem add_noise_of_can_spend (h : engine.can_spend (engine.config.epsilon / 100)) :
    ∃ noised laplace, engine.add_noise random query = (.ok noised,
      { engine with
        laplace := laplace
        accountant := engine.accountant.record_mechanism (.new (engine.config.epsilon / 100))
        audit := engine.audit.record_action
          { action_type := .laplaceNoise
            target := query.target
            epsilon_spent := some (engine.config.epsilon / 100)
            reason := "Differential privacy protection" } }) := by
  rw [PrivacyEngine.add_noise]
  exact ⟨_, _, if_neg (not_not_intro h)⟩

/-- A refused query leaves the engine as it was. -/
theorem add_noise_of_not_can_spend (h : ¬ engine.can_spend (engine.config.epsilon / 100)) :
    engine.add_noise random query =
      (.error ⟨engine.audit.total_epsilon_spent, engine.config.epsilon⟩, engine) := by
  rw [PrivacyEngine.add_noise]
  exact if_pos h

theorem can_spend_of_ok {x : ℝ} (h : (engine.add_noise random query).1 = .ok x) :
    engine.can_spend (engine.config.epsilon / 100) := by
  by_contra hspend
  rw [add_noise_of_not_can_spend hspend] at h
  cases h

theorem unchanged_of_error {e : PrivacyBudgetExhausted}
    (h : (engine.add_noise random query).1 = .error e) :
    (engine.add_noise random query).2 = engine := by
  by_cases hspend : engine.can_spend (engine.config.epsilon / 100)
  · obtain ⟨noised, laplace, heq⟩ := add_noise_of_can_spend random query hspend
    rw [heq] at h
    cases h
  · rw [add_noise_of_not_can_spend hspend]

/-- What every answered query keeps holds after any queries. -/
theorem runQueries_invariant {inv : PrivacyEngine R → Prop}
    (hstep : ∀ engine query, inv engine →
      engine.can_spend (engine.config.epsilon / 100) → inv (engine.add_noise random query).2)
    (queries : List Query) {engine : PrivacyEngine R} (h : inv engine) :
    inv (engine.runQueries random queries) := by
  induction queries generalizing engine with
  | nil => exact h
  | cons query queries ih =>
      apply ih
      by_cases hspend : engine.can_spend (engine.config.epsilon / 100)
      · exact hstep engine query h hspend
      · show inv (engine.add_noise random query).2
        rwa [add_noise_of_not_can_spend hspend]

end Steps

section Spending

variable {accountant : PrivacyAccountant} {charge : ℝ}

/-- A positive charge that fits what remains fits on top of the effective epsilon. -/
theorem effective_add_le (hcharge : 0 < charge)
    (h : (charge : EReal) ≤ accountant.remaining_budget) :
    accountant.effective_epsilon + charge ≤ accountant.total_budget := by
  rw [PrivacyAccountant.remaining_budget, le_max_iff] at h
  obtain h | h := h
  · rw [add_comm]
    exact EReal.add_le_of_le_sub h
  · exact absurd h (not_le.mpr (EReal.coe_pos.mpr hcharge))

theorem epsilon_to_rdp_le {epsilon : ℝ} (h : 0 < epsilon) (alpha : ℝ) :
    epsilon_to_rdp epsilon alpha ≤ epsilon := by
  rw [epsilon_to_rdp, if_neg (not_le.mpr h)]
  dsimp only
  split
  · rw [clamp]
    split
    · exact h.le
    · split
      · exact le_rfl
      · rename_i hhi
        exact not_lt.mp hhi
  · exact le_rfl

theorem foldl_min_le {values values' : List ℝ} {charge : ℝ}
    (h : List.Forall₂ (fun value value' => value' ≤ value + charge) values values')
    {best best' : EReal} (hbest : best' ≤ best + charge) :
    values'.foldl lesser best' ≤ values.foldl lesser best + charge := by
  induction h generalizing best best' with
  | nil => exact hbest
  | @cons value value' values values' hvalue _ ih =>
      apply ih
      have hcoe : (value' : EReal) ≤ value + charge := by
        rw [← EReal.coe_add]
        exact EReal.coe_le_coe_iff.mpr hvalue
      rw [lesser, lesser, ← min_add_add_right]
      exact min_le_min hbest hcoe

theorem least_le {values values' : List ℝ} {charge : ℝ}
    (h : List.Forall₂ (fun value value' => value' ≤ value + charge) values values') :
    least values' ≤ least values + charge :=
  foldl_min_le h (by rw [EReal.top_add_coe])

end Spending

section Sums

variable {R : Type} {random : R → ℝ × R} {config : PrivacyConfig}

/-- The naive accountant agrees with the audit. -/
structure Additive (config : PrivacyConfig) (engine : PrivacyEngine R) : Prop where
  config_eq : engine.config = config
  audit_budget : engine.audit.epsilon_budget = config.epsilon
  agrees : ∃ accountant, engine.accountant = .naive accountant ∧
    accountant.epsilon_spent = engine.audit.total_epsilon_spent

theorem Additive.add_noise {engine : PrivacyEngine R} (h : Additive config engine)
    (query : Query) (hspend : engine.can_spend (engine.config.epsilon / 100)) :
    Additive config (engine.add_noise random query).2 := by
  obtain ⟨hconfig, hbudget, accountant, haccountant, hagrees⟩ := h
  obtain ⟨noised, laplace, heq⟩ := add_noise_of_can_spend random query hspend
  rw [heq]
  refine ⟨hconfig, hbudget, accountant.record_mechanism (.new (engine.config.epsilon / 100)),
    ?_, ?_⟩
  · show engine.accountant.record_mechanism _ = _
    rw [haccountant]
    rfl
  · show accountant.epsilon_spent + _ = engine.audit.total_epsilon_spent + _
    rw [hagrees]
    rfl

/-- The sum of epsilons that the audit admits stays within the budget. -/
theorem additive_within {engine : PrivacyEngine R} {query : Query} (hepsilon : 0 < config.epsilon)
    (hmethod : config.composition_method = .naive ∨ config.composition_method = .advanced)
    (h : Additive config engine) (hspend : engine.can_spend (engine.config.epsilon / 100)) :
    (engine.add_noise random query).2.accountant.effective_epsilon ≤ (config.epsilon : EReal) := by
  obtain ⟨hconfig, hbudget, accountant, haccountant, hagrees⟩ := h
  have hroom : config.epsilon / 100 ≤ engine.audit.remaining_budget := by
    rw [PrivacyEngine.can_spend, hconfig] at hspend
    obtain hnaive | hadvanced := hmethod
    · rwa [hnaive] at hspend
    · rwa [hadvanced] at hspend
  have hsum : accountant.epsilon_spent + config.epsilon / 100 ≤ config.epsilon := by
    rw [PrivacyAudit.remaining_budget, hbudget, le_max_iff, ← hagrees] at hroom
    obtain hroom | hroom := hroom
    · linarith
    · linarith
  obtain ⟨noised, laplace, heq⟩ := add_noise_of_can_spend random query hspend
  rw [heq]
  show (engine.accountant.record_mechanism _).effective_epsilon ≤ _
  rw [haccountant, hconfig]
  exact EReal.coe_le_coe_iff.mpr hsum

end Sums

section Curves

variable {R : Type} {random : R → ℝ × R} {config : PrivacyConfig}

/-- The accountant of the engine is a Renyi accountant with the engine's budget. -/
structure Curved (config : PrivacyConfig) (engine : PrivacyEngine R) : Prop where
  config_eq : engine.config = config
  curved : ∃ accountant, engine.accountant = .renyi accountant ∧
    accountant.total_budget = config.epsilon ∧ accountant.target_delta = default_delta

theorem default_delta_pos : 0 < default_delta := by
  rw [default_delta]
  positivity

theorem zipWith_record_le {epsilon : ℝ} (hepsilon : 0 < epsilon) (shift : ℝ → ℝ)
    (alphas curve : List ℝ) :
    List.Forall₂ (fun value value' => value' ≤ value + epsilon)
      (List.zipWith (fun alpha rdp => rdp + shift alpha) alphas curve)
      (List.zipWith (fun alpha rdp => rdp + shift alpha) alphas
        (List.zipWith (fun alpha rdp => rdp + epsilon_to_rdp epsilon alpha) alphas curve)) := by
  induction alphas generalizing curve with
  | nil => exact .nil
  | cons alpha alphas ih =>
      cases curve with
      | nil => exact .nil
      | cons rdp curve =>
          refine .cons ?_ (ih curve)
          have hcost := epsilon_to_rdp_le hepsilon alpha
          linarith

/-- Recording a mechanism raises the effective epsilon by at most its own. -/
theorem effective_record_le {accountant : RenyiDPAccountant} {epsilon : ℝ}
    (hdelta : accountant.target_delta = default_delta) (hepsilon : 0 < epsilon) :
    (PrivacyAccountant.renyi (accountant.record_mechanism (.new epsilon))).effective_epsilon ≤
      (PrivacyAccountant.renyi accountant).effective_epsilon + epsilon := by
  have hpos : ¬ accountant.target_delta ≤ 0 := by
    rw [hdelta]
    exact not_le.mpr default_delta_pos
  have heffective : ∀ accountant : RenyiDPAccountant, ¬ accountant.target_delta ≤ 0 →
      (PrivacyAccountant.renyi accountant).effective_epsilon =
        least (List.zipWith
          (fun alpha rdp => rdp + Real.log (1 / accountant.target_delta) / (alpha - 1))
          RDP_ALPHA_ORDERS accountant.rdp_curve) := by
    intro accountant hpos
    rw [PrivacyAccountant.effective_epsilon, RenyiDPAccountant.rdp_to_dp, if_neg hpos]
  rw [heffective _ hpos, heffective _ (by exact hpos)]
  exact least_le (zipWith_record_le hepsilon _ _ _)

theorem Curved.add_noise {engine : PrivacyEngine R} (h : Curved config engine)
    (query : Query) (hspend : engine.can_spend (engine.config.epsilon / 100)) :
    Curved config (engine.add_noise random query).2 := by
  obtain ⟨hconfig, accountant, haccountant, hbudget, hdelta⟩ := h
  obtain ⟨noised, laplace, heq⟩ := add_noise_of_can_spend random query hspend
  rw [heq]
  refine ⟨hconfig, accountant.record_mechanism (.new (engine.config.epsilon / 100)), ?_,
    hbudget, hdelta⟩
  show engine.accountant.record_mechanism _ = _
  rw [haccountant]
  rfl

theorem curved_within {engine : PrivacyEngine R} {query : Query} (hepsilon : 0 < config.epsilon)
    (hmethod : config.composition_method = .renyiDP)
    (h : Curved config engine) (hspend : engine.can_spend (engine.config.epsilon / 100)) :
    (engine.add_noise random query).2.accountant.effective_epsilon ≤ (config.epsilon : EReal) := by
  obtain ⟨hconfig, accountant, haccountant, hbudget, hdelta⟩ := h
  have hcharge : 0 < config.epsilon / 100 := by positivity
  have hroom : ((config.epsilon / 100 : ℝ) : EReal) ≤
      (PrivacyAccountant.renyi accountant).remaining_budget := by
    rw [PrivacyEngine.can_spend, hconfig, hmethod, haccountant] at hspend
    exact hspend
  obtain ⟨noised, laplace, heq⟩ := add_noise_of_can_spend random query hspend
  rw [heq]
  show (engine.accountant.record_mechanism _).effective_epsilon ≤ _
  rw [haccountant, hconfig]
  calc (PrivacyAccountant.renyi (accountant.record_mechanism
        (.new (config.epsilon / 100)))).effective_epsilon
      ≤ (PrivacyAccountant.renyi accountant).effective_epsilon + (config.epsilon / 100 : ℝ) :=
        effective_record_le hdelta hcharge
    _ ≤ accountant.total_budget := effective_add_le hcharge hroom
    _ = config.epsilon := by rw [hbudget]

end Curves

section Concentrated

variable {R : Type} {random : R → ℝ × R} {config : PrivacyConfig}

/-- The loss of some mechanisms of one epsilon, composed. -/
noncomputable def zcdpLoss (epsilon : ℝ) (mechanisms : ℕ) : ℝ :=
  mechanisms * epsilon_to_rho epsilon +
    (2 : ℕ) * √(mechanisms * epsilon_to_rho epsilon * Real.log (1 / default_delta))

theorem epsilon_to_rho_pos {epsilon : ℝ} (h : 0 < epsilon) : 0 < epsilon_to_rho epsilon := by
  rw [epsilon_to_rho]
  positivity

theorem log_default_delta_nonneg : 0 ≤ Real.log (1 / default_delta) := by
  apply Real.log_nonneg
  rw [default_delta]
  norm_num

theorem zcdpLoss_monotone {epsilon : ℝ} (h : 0 < epsilon) : Monotone (zcdpLoss epsilon) := by
  intro m n hmn
  have hrho : (m : ℝ) * epsilon_to_rho epsilon ≤ n * epsilon_to_rho epsilon :=
    mul_le_mul_of_nonneg_right (Nat.cast_le.mpr hmn) (epsilon_to_rho_pos h).le
  have hroot : √(m * epsilon_to_rho epsilon * Real.log (1 / default_delta)) ≤
      √(n * epsilon_to_rho epsilon * Real.log (1 / default_delta)) :=
    Real.sqrt_le_sqrt (mul_le_mul_of_nonneg_right hrho log_default_delta_nonneg)
  rw [zcdpLoss, zcdpLoss, Nat.cast_ofNat]
  linarith

/-- The accountant of the engine has recorded some mechanisms of the engine's epsilon. -/
structure Concentrated (config : PrivacyConfig) (mechanisms : ℕ) (engine : PrivacyEngine R) :
    Prop where
  config_eq : engine.config = config
  concentrated : ∃ accountant, engine.accountant = .zero accountant ∧
    accountant.total_budget = config.epsilon ∧ accountant.target_delta = default_delta ∧
    accountant.total_rho = mechanisms * epsilon_to_rho (config.epsilon / 100)

theorem Concentrated.effective_epsilon {mechanisms : ℕ} {engine : PrivacyEngine R}
    (hepsilon : 0 < config.epsilon) (h : Concentrated config mechanisms engine) :
    engine.accountant.effective_epsilon = (zcdpLoss (config.epsilon / 100) mechanisms : ℝ) := by
  obtain ⟨-, accountant, haccountant, -, hdelta, hrho⟩ := h
  have hpos := epsilon_to_rho_pos (show 0 < config.epsilon / 100 by positivity)
  rw [haccountant, PrivacyAccountant.effective_epsilon, ZeroCDPAccountant.rho_to_dp, hrho, hdelta,
    if_neg (not_le.mpr default_delta_pos), zcdpLoss, Nat.cast_ofNat]
  split
  · rename_i hzero
    have hnone : (mechanisms : ℝ) * epsilon_to_rho (config.epsilon / 100) = 0 :=
      le_antisymm hzero (mul_nonneg (Nat.cast_nonneg _) hpos.le)
    rw [hnone, zero_mul, Real.sqrt_zero, mul_zero, add_zero]
    rfl
  · rfl

theorem Concentrated.can_spend_iff {mechanisms : ℕ} {engine : PrivacyEngine R}
    (hepsilon : 0 < config.epsilon) (hmethod : config.composition_method = .zeroCDP)
    (h : Concentrated config mechanisms engine) :
    engine.can_spend (engine.config.epsilon / 100) ↔
      zcdpLoss (config.epsilon / 100) mechanisms + config.epsilon / 100 ≤ config.epsilon := by
  have hcharge : 0 < config.epsilon / 100 := by positivity
  have heffective := h.effective_epsilon hepsilon
  obtain ⟨hconfig, accountant, haccountant, hbudget, -, -⟩ := h
  have htotal : engine.accountant.total_budget = config.epsilon := by
    rw [haccountant]
    exact hbudget
  rw [PrivacyEngine.can_spend, hconfig, hmethod]
  show ((config.epsilon / 100 : ℝ) : EReal) ≤ engine.accountant.remaining_budget ↔ _
  rw [PrivacyAccountant.remaining_budget, heffective, htotal, ← EReal.coe_sub, ← EReal.coe_zero,
    le_max_iff, EReal.coe_le_coe_iff, EReal.coe_le_coe_iff]
  constructor
  · rintro (hroom | hroom)
    · linarith
    · linarith
  · intro hroom
    left
    linarith

theorem Concentrated.add_noise {mechanisms : ℕ} {engine : PrivacyEngine R}
    (h : Concentrated config mechanisms engine) (query : Query)
    (hspend : engine.can_spend (engine.config.epsilon / 100)) :
    Concentrated config (mechanisms + 1) (engine.add_noise random query).2 := by
  obtain ⟨hconfig, accountant, haccountant, hbudget, hdelta, hrho⟩ := h
  obtain ⟨noised, laplace, heq⟩ := add_noise_of_can_spend random query hspend
  rw [heq]
  refine ⟨hconfig, accountant.record_mechanism (.new (engine.config.epsilon / 100)), ?_,
    hbudget, hdelta, ?_⟩
  · show engine.accountant.record_mechanism _ = _
    rw [haccountant]
    rfl
  · show accountant.total_rho + epsilon_to_rho (engine.config.epsilon / 100) = _
    rw [hrho, hconfig, Nat.cast_add_one, add_mul, one_mul]

variable (random) in
/-- After some queries the accountant has recorded the admitted ones. -/
theorem concentrated_runQueries (hepsilon : 0 < config.epsilon)
    (hmethod : config.composition_method = .zeroCDP) {engine : PrivacyEngine R}
    (h : Concentrated config 0 engine) (queries : List Query) :
    Concentrated config
      (admitted (zcdpLoss (config.epsilon / 100)) config.epsilon (config.epsilon / 100)
        queries.length)
      (engine.runQueries random queries) := by
  induction queries using List.reverseRecOn with
  | nil => exact h
  | append_singleton queries query ih =>
      have hspend_iff := ih.can_spend_iff hepsilon hmethod
      rw [PrivacyEngine.runQueries, List.foldl_append, List.length_append]
      show Concentrated config _
        ((engine.runQueries random queries).add_noise random query).2
      by_cases hspend : (engine.runQueries random queries).can_spend
          ((engine.runQueries random queries).config.epsilon / 100)
      · rw [List.length_singleton, admitted_succ_of_le (hspend_iff.mp hspend)]
        exact ih.add_noise query hspend
      · rw [List.length_singleton, admitted_succ_of_not_le (mt hspend_iff.mpr hspend),
          add_noise_of_not_can_spend hspend]
        exact ih

end Concentrated

section Budgets

/-- After every answered query the effective epsilon is within the budget, and a refused query
changes neither the audit nor the accountant. -/
def KeepsBudget (config : PrivacyConfig) : Prop :=
  ∀ (R : Type) (random : R → ℝ × R) (rng : R) (queries : List Query) (query : Query),
    let engine := (PrivacyEngine.new config rng).runQueries random queries
    (∀ noised, (engine.add_noise random query).1 = .ok noised →
        (engine.add_noise random query).2.accountant.effective_epsilon ≤ config.epsilon) ∧
      ∀ exhausted, (engine.add_noise random query).1 = .error exhausted →
        (engine.add_noise random query).2.audit = engine.audit ∧
          (engine.add_noise random query).2.accountant = engine.accountant

/-- No mechanism that leaves room for its own epsilon takes the composed loss over the budget. -/
def NoOvershoot (config : PrivacyConfig) : Prop :=
  ∀ mechanisms,
    zcdpLoss (config.epsilon / (100 : ℕ)) mechanisms + config.epsilon / (100 : ℕ) ≤
        config.epsilon →
      zcdpLoss (config.epsilon / (100 : ℕ)) (mechanisms + 1) ≤ config.epsilon

theorem concentrated_new {config : PrivacyConfig} (hmethod : config.composition_method = .zeroCDP)
    {R : Type} (rng : R) : Concentrated config 0 (PrivacyEngine.new config rng) := by
  refine ⟨rfl, .new config.epsilon default_delta, ?_, rfl, rfl, ?_⟩
  · rw [PrivacyEngine.new, hmethod]
    rfl
  · rw [Nat.cast_zero, zero_mul]
    rfl

theorem keepsBudget_iff_of_zeroCDP {config : PrivacyConfig} (hepsilon : 0 < config.epsilon)
    (hmethod : config.composition_method = .zeroCDP) :
    KeepsBudget config ↔ NoOvershoot config := by
  have hcharge : 0 < config.epsilon / 100 := by positivity
  rw [NoOvershoot, Nat.cast_ofNat, ← keeps_budget_iff (zcdpLoss_monotone hcharge)]
  constructor
  · intro h k hroom
    obtain ⟨hwithin, -⟩ := h Unit (fun _ => (0, ())) () (List.replicate k ⟨0, 0, ""⟩) ⟨0, 0, ""⟩
    have hrun := concentrated_runQueries (fun _ => (0, ())) hepsilon hmethod
      (concentrated_new hmethod ()) (List.replicate k ⟨0, 0, ""⟩)
    rw [List.length_replicate] at hrun
    have hspend := (hrun.can_spend_iff hepsilon hmethod).mpr hroom
    obtain ⟨noised, laplace, heq⟩ := add_noise_of_can_spend (fun _ => (0, ())) ⟨0, 0, ""⟩ hspend
    have hle := hwithin noised (by rw [heq])
    rw [(hrun.add_noise ⟨0, 0, ""⟩ hspend).effective_epsilon hepsilon] at hle
    exact EReal.coe_le_coe_iff.mp hle
  · intro h R random rng queries query engine
    have hrun : Concentrated config _ engine :=
      concentrated_runQueries random hepsilon hmethod (concentrated_new hmethod rng) queries
    constructor
    · intro noised hok
      have hspend := can_spend_of_ok hok
      rw [(hrun.add_noise query hspend).effective_epsilon hepsilon]
      exact EReal.coe_le_coe_iff.mpr (h _ ((hrun.can_spend_iff hepsilon hmethod).mp hspend))
    · intro exhausted herror
      rw [unchanged_of_error herror]
      exact ⟨rfl, rfl⟩

/-- An engine keeps its budget if answering keeps an invariant under which the answer is within
the budget. -/
theorem keepsBudget_of_invariant {config : PrivacyConfig}
    (inv : ∀ {R : Type}, PrivacyEngine R → Prop)
    (hnew : ∀ {R : Type} (rng : R), inv (PrivacyEngine.new config rng))
    (hstep : ∀ {R : Type} (random : R → ℝ × R) (engine : PrivacyEngine R) (query : Query),
      inv engine → engine.can_spend (engine.config.epsilon / 100) →
      inv (engine.add_noise random query).2 ∧
        (engine.add_noise random query).2.accountant.effective_epsilon ≤ config.epsilon) :
    KeepsBudget config := by
  intro R random rng queries query engine
  have hrun : inv engine := runQueries_invariant
    (fun engine query h hspend => (hstep random engine query h hspend).1) queries (hnew rng)
  constructor
  · intro noised hok
    exact (hstep random engine query hrun (can_spend_of_ok hok)).2
  · intro exhausted herror
    rw [unchanged_of_error herror]
    exact ⟨rfl, rfl⟩

theorem keepsBudget_of_additive {config : PrivacyConfig} (hepsilon : 0 < config.epsilon)
    (hmethod : config.composition_method = .naive ∨ config.composition_method = .advanced) :
    KeepsBudget config := by
  apply keepsBudget_of_invariant (Additive config)
  · intro R rng
    refine ⟨rfl, rfl, .new config.epsilon, ?_, rfl⟩
    rw [PrivacyEngine.new]
    obtain hnaive | hadvanced := hmethod
    · rw [hnaive]
      rfl
    · rw [hadvanced]
      rfl
  · intro R random engine query h hspend
    exact ⟨h.add_noise query hspend, additive_within hepsilon hmethod h hspend⟩

theorem keepsBudget_of_renyiDP {config : PrivacyConfig} (hepsilon : 0 < config.epsilon)
    (hmethod : config.composition_method = .renyiDP) : KeepsBudget config := by
  apply keepsBudget_of_invariant (Curved config)
  · intro R rng
    refine ⟨rfl, .new config.epsilon default_delta, ?_, rfl, rfl⟩
    rw [PrivacyEngine.new, hmethod]
    rfl
  · intro R random engine query h hspend
    exact ⟨h.add_noise query hspend, curved_within hepsilon hmethod h hspend⟩

theorem keepsBudget_iff (config : PrivacyConfig) (hepsilon : 0 < config.epsilon) :
    KeepsBudget config ↔ (config.composition_method = .zeroCDP → NoOvershoot config) := by
  cases hmethod : config.composition_method with
  | naive =>
      apply iff_of_true (keepsBudget_of_additive hepsilon (.inl hmethod))
      rintro ⟨⟩
  | advanced =>
      apply iff_of_true (keepsBudget_of_additive hepsilon (.inr hmethod))
      rintro ⟨⟩
  | renyiDP =>
      apply iff_of_true (keepsBudget_of_renyiDP hepsilon hmethod)
      rintro ⟨⟩
  | zeroCDP =>
      rw [keepsBudget_iff_of_zeroCDP hepsilon hmethod]
      constructor
      · intro h _
        exact h
      · intro h
        exact h rfl

theorem keepsBudget_iff_standard :
    KeepsBudget ⟨1, 5, .naive⟩ ↔
      (CompositionMethod.naive = .zeroCDP → NoOvershoot ⟨1, 5, .naive⟩) :=
  keepsBudget_iff ⟨1, 5, .naive⟩ one_pos

/-- The first query of a large budget already exceeds it. -/
theorem not_keepsBudget_large :
    (0 : ℝ) < (PrivacyConfig.mk 20000 5 .zeroCDP).epsilon ∧
      ¬ KeepsBudget ⟨20000, 5, .zeroCDP⟩ := by
  refine ⟨by norm_num, ?_⟩
  rw [keepsBudget_iff_of_zeroCDP (by norm_num) rfl]
  intro h
  have hlog : 0 < Real.log (1 / default_delta) := by
    apply Real.log_pos
    rw [default_delta]
    norm_num
  have hroot : 0 < √(((0 + 1 : ℕ) : ℝ) * epsilon_to_rho (20000 / 100) *
      Real.log (1 / default_delta)) := by
    apply Real.sqrt_pos.mpr
    rw [epsilon_to_rho]
    positivity
  have hfirst := h 0 (by
    rw [zcdpLoss, Nat.cast_zero, zero_mul, zero_mul, Real.sqrt_zero]
    norm_num)
  rw [zcdpLoss, Nat.cast_ofNat] at hfirst
  have hrho : ((0 + 1 : ℕ) : ℝ) * epsilon_to_rho (20000 / 100) = 20000 := by
    rw [epsilon_to_rho]
    norm_num
  rw [hrho] at hfirst hroot
  linarith

end Budgets

end Datasynth.Fingerprints.PrivacyBudgets
