import Mathlib.Analysis.Real.Sqrt
import Mathlib.Analysis.SpecialFunctions.Log.Basic
import Mathlib.Data.EReal.Operations

/-!
Privacy accountants and the engine that spends their budget, in exact real arithmetic.  An
effective epsilon can be infinite.
-/

namespace Datasynth.Fingerprints.PrivacyAccounting

section Accountants

inductive CompositionMethod where
  | naive
  | advanced
  | renyiDP
  | zeroCDP
deriving DecidableEq

structure MechanismRecord where
  epsilon : ℝ
  delta : ℝ

def MechanismRecord.new (epsilon : ℝ) : MechanismRecord := ⟨epsilon, 0⟩

structure NaiveAccountant where
  total_budget : ℝ
  mechanisms : List MechanismRecord
  epsilon_spent : ℝ

def NaiveAccountant.new (total_budget : ℝ) : NaiveAccountant := ⟨total_budget, [], 0⟩

noncomputable def NaiveAccountant.record_mechanism (accountant : NaiveAccountant)
    (record : MechanismRecord) : NaiveAccountant :=
  { accountant with
    epsilon_spent := accountant.epsilon_spent + record.epsilon
    mechanisms := accountant.mechanisms ++ [record] }

def RDP_ALPHA_ORDERS : List ℝ := [2, 4, 8, 16, 32, 64, 128]

structure RenyiDPAccountant where
  total_budget : ℝ
  target_delta : ℝ
  rdp_curve : List ℝ
  mechanisms : List MechanismRecord

def RenyiDPAccountant.new (total_budget target_delta : ℝ) : RenyiDPAccountant :=
  ⟨total_budget, target_delta, List.replicate RDP_ALPHA_ORDERS.length 0, []⟩

noncomputable def clamp (lo hi x : ℝ) : ℝ := if x < lo then lo else if hi < x then hi else x

noncomputable def epsilon_to_rdp (epsilon alpha : ℝ) : ℝ :=
  if epsilon ≤ 0 then 0
  else
    let term1 := (alpha - 1) / (2 * alpha - 1) * Real.exp ((alpha - 1) * epsilon)
    let term2 := alpha / (2 * alpha - 1) * Real.exp (-alpha * epsilon)
    let sum := term1 + term2
    if 1 < alpha ∧ 0 < sum then clamp 0 epsilon (Real.log sum / (alpha - 1)) else epsilon

noncomputable def RenyiDPAccountant.record_mechanism (accountant : RenyiDPAccountant)
    (record : MechanismRecord) : RenyiDPAccountant :=
  { accountant with
    rdp_curve := List.zipWith (fun alpha rdp => rdp + epsilon_to_rdp record.epsilon alpha)
      RDP_ALPHA_ORDERS accountant.rdp_curve
    mechanisms := accountant.mechanisms ++ [record] }

noncomputable def lesser (best : EReal) (value : ℝ) : EReal := min best value

/-- The least of some values; infinity if there are none. -/
noncomputable def least (values : List ℝ) : EReal := values.foldl lesser ⊤

noncomputable def RenyiDPAccountant.rdp_to_dp (accountant : RenyiDPAccountant) : EReal × ℝ :=
  if accountant.target_delta ≤ 0 then (least accountant.rdp_curve, 0)
  else
    let ln_inv_delta := Real.log (1 / accountant.target_delta)
    (least (List.zipWith (fun alpha rdp => rdp + ln_inv_delta / (alpha - 1)) RDP_ALPHA_ORDERS
      accountant.rdp_curve), accountant.target_delta)

structure ZeroCDPAccountant where
  total_budget : ℝ
  target_delta : ℝ
  total_rho : ℝ
  mechanisms : List MechanismRecord

def ZeroCDPAccountant.new (total_budget target_delta : ℝ) : ZeroCDPAccountant :=
  ⟨total_budget, target_delta, 0, []⟩

noncomputable def epsilon_to_rho (epsilon : ℝ) : ℝ := epsilon * epsilon / 2

noncomputable def ZeroCDPAccountant.record_mechanism (accountant : ZeroCDPAccountant)
    (record : MechanismRecord) : ZeroCDPAccountant :=
  { accountant with
    total_rho := accountant.total_rho + epsilon_to_rho record.epsilon
    mechanisms := accountant.mechanisms ++ [record] }

noncomputable def ZeroCDPAccountant.rho_to_dp (accountant : ZeroCDPAccountant) : EReal × ℝ :=
  if accountant.total_rho ≤ 0 then (0, 0)
  else if accountant.target_delta ≤ 0 then (⊤, 0)
  else
    let ln_inv_delta := Real.log (1 / accountant.target_delta)
    let epsilon := accountant.total_rho + 2 * √(accountant.total_rho * ln_inv_delta)
    ((epsilon : EReal), accountant.target_delta)

inductive PrivacyAccountant where
  | naive (accountant : NaiveAccountant)
  | renyi (accountant : RenyiDPAccountant)
  | zero (accountant : ZeroCDPAccountant)

namespace PrivacyAccountant

noncomputable def record_mechanism (record : MechanismRecord) :
    PrivacyAccountant → PrivacyAccountant
  | naive accountant => naive (accountant.record_mechanism record)
  | renyi accountant => renyi (accountant.record_mechanism record)
  | zero accountant => zero (accountant.record_mechanism record)

noncomputable def effective_epsilon : PrivacyAccountant → EReal
  | naive accountant => accountant.epsilon_spent
  | renyi accountant => accountant.rdp_to_dp.1
  | zero accountant => accountant.rho_to_dp.1

def total_budget : PrivacyAccountant → ℝ
  | naive accountant => accountant.total_budget
  | renyi accountant => accountant.total_budget
  | zero accountant => accountant.total_budget

noncomputable def remaining_budget (accountant : PrivacyAccountant) : EReal :=
  max (accountant.total_budget - accountant.effective_epsilon) 0

end PrivacyAccountant

/-- The delta of the accountants that need one. -/
noncomputable def default_delta : ℝ := 1 / 10 ^ 5

noncomputable def create_accountant (method : CompositionMethod) (total_budget : ℝ) :
    PrivacyAccountant :=
  match method with
  | .naive | .advanced => .naive (.new total_budget)
  | .renyiDP => .renyi (.new total_budget default_delta)
  | .zeroCDP => .zero (.new total_budget default_delta)

end Accountants

section Engine

inductive PrivacyActionType where
  | laplaceNoise
  | suppression
  | generalization
  | winsorization
  | binning
  | rounding

structure PrivacyAction where
  action_type : PrivacyActionType
  target : String
  epsilon_spent : Option ℝ
  reason : String

structure PrivacySummary where
  noise_additions : ℕ
  suppressions : ℕ
  generalizations : ℕ
  winsorizations : ℕ
  binnings : ℕ
  roundings : ℕ

def PrivacySummary.count (summary : PrivacySummary) : PrivacyActionType → PrivacySummary
  | .laplaceNoise => { summary with noise_additions := summary.noise_additions + 1 }
  | .suppression => { summary with suppressions := summary.suppressions + 1 }
  | .generalization => { summary with generalizations := summary.generalizations + 1 }
  | .winsorization => { summary with winsorizations := summary.winsorizations + 1 }
  | .binning => { summary with binnings := summary.binnings + 1 }
  | .rounding => { summary with roundings := summary.roundings + 1 }

structure PrivacyAudit where
  epsilon_budget : ℝ
  total_epsilon_spent : ℝ
  k_anonymity : ℕ
  actions : List PrivacyAction
  summary : PrivacySummary

def PrivacyAudit.new (epsilon_budget : ℝ) (k_anonymity : ℕ) : PrivacyAudit :=
  ⟨epsilon_budget, 0, k_anonymity, [], ⟨0, 0, 0, 0, 0, 0⟩⟩

noncomputable def PrivacyAudit.record_action (audit : PrivacyAudit) (action : PrivacyAction) :
    PrivacyAudit :=
  { audit with
    total_epsilon_spent := audit.total_epsilon_spent + action.epsilon_spent.getD 0
    summary := audit.summary.count action.action_type
    actions := audit.actions ++ [action] }

noncomputable def PrivacyAudit.remaining_budget (audit : PrivacyAudit) : ℝ :=
  max (audit.epsilon_budget - audit.total_epsilon_spent) 0

structure PrivacyConfig where
  epsilon : ℝ
  k_anonymity : ℕ
  composition_method : CompositionMethod

/-- Laplace noise, with the state of its random numbers. -/
structure LaplaceMechanism (R : Type) where
  epsilon : ℝ
  rng : R

variable {R : Type} (random : R → ℝ × R)

noncomputable def LaplaceMechanism.sample_laplace (laplace : LaplaceMechanism R) (scale : ℝ) :
    ℝ × LaplaceMechanism R :=
  let u := (random laplace.rng).1
  let sign : ℝ := if u < 1 / 2 then -1 else 1
  (sign * scale * Real.log (1 - 2 * |u - 1 / 2|),
    { laplace with rng := (random laplace.rng).2 })

noncomputable def LaplaceMechanism.add_noise (laplace : LaplaceMechanism R)
    (value sensitivity epsilon : ℝ) : ℝ × LaplaceMechanism R :=
  let noise := laplace.sample_laplace random (sensitivity / epsilon)
  (value + noise.1, noise.2)

structure PrivacyEngine (R : Type) where
  config : PrivacyConfig
  audit : PrivacyAudit
  laplace : LaplaceMechanism R
  accountant : PrivacyAccountant

noncomputable def PrivacyEngine.new (config : PrivacyConfig) (rng : R) : PrivacyEngine R where
  config := config
  audit := .new config.epsilon config.k_anonymity
  laplace := ⟨config.epsilon, rng⟩
  accountant := create_accountant config.composition_method config.epsilon

def PrivacyEngine.can_spend (engine : PrivacyEngine R) (epsilon : ℝ) : Prop :=
  match engine.config.composition_method with
  | .naive | .advanced => epsilon ≤ engine.audit.remaining_budget
  | .renyiDP | .zeroCDP => (epsilon : EReal) ≤ engine.accountant.remaining_budget

structure PrivacyBudgetExhausted where
  spent : ℝ
  limit : ℝ

/-- A request for noise. -/
structure Query where
  value : ℝ
  sensitivity : ℝ
  target : String

open Classical in
noncomputable def PrivacyEngine.add_noise (engine : PrivacyEngine R) (query : Query) :
    Except PrivacyBudgetExhausted ℝ × PrivacyEngine R :=
  let epsilon_per_query := engine.config.epsilon / 100
  if ¬ engine.can_spend epsilon_per_query then
    (.error ⟨engine.audit.total_epsilon_spent, engine.config.epsilon⟩, engine)
  else
    let noised :=
      engine.laplace.add_noise random query.value query.sensitivity epsilon_per_query
    (.ok noised.1,
      { engine with
        laplace := noised.2
        accountant := engine.accountant.record_mechanism (.new epsilon_per_query)
        audit := engine.audit.record_action
          { action_type := .laplaceNoise
            target := query.target
            epsilon_spent := some epsilon_per_query
            reason := "Differential privacy protection" } })

/-- The engine after some queries, answered or refused. -/
noncomputable def PrivacyEngine.runQueries (engine : PrivacyEngine R) (queries : List Query) :
    PrivacyEngine R :=
  queries.foldl (fun engine query => (engine.add_noise random query).2) engine

end Engine

end Datasynth.Fingerprints.PrivacyAccounting
