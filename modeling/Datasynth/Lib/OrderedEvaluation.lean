import Mathlib.Data.List.Nodup
import Mathlib.Logic.Function.Basic

/-!
Nodes evaluated one after the other, each by a rule that may read the nodes it depends
on and may fail: any order that respects the dependencies gives the same.
-/

namespace Datasynth.Lib.OrderedEvaluation

variable {α V : Type*} [DecidableEq α]

def evaluate (rule : α → (α → V) → Option V) : List α → (α → V) → Option (α → V)
  | [], σ => some σ
  | v :: vs, σ => (rule v σ).bind fun x => evaluate rule vs (Function.update σ v x)

/-- The rule of a node reads only what is before it. -/
def Local (before : α → α → Prop) (rule : α → (α → V) → Option V) : Prop :=
  ∀ v σ τ, (∀ u, before u v → σ u = τ u) → rule v σ = rule v τ

/-- No node comes after one that depends on it. -/
def Respects (before : α → α → Prop) (vs : List α) : Prop :=
  ∀ pre v post, vs = pre ++ v :: post → ∀ u, before u v → u ∉ v :: post

variable {before : α → α → Prop} {rule : α → (α → V) → Option V} {vs : List α} {σ τ : α → V}

omit [DecidableEq α] in
theorem Respects.tail {v : α} (h : Respects before (v :: vs)) : Respects before vs := by
  intro pre w post heq
  exact h (v :: pre) w post (by rw [heq, List.cons_append])

/-- The evaluation succeeds with exactly the assignment that keeps the other nodes and in
which every node has the value of its rule. -/
theorem evaluate_eq_some_iff (hlocal : Local before rule) (hnodup : vs.Nodup)
    (hrespects : Respects before vs) :
    evaluate rule vs σ = some τ ↔ (∀ v ∉ vs, τ v = σ v) ∧ ∀ v ∈ vs, rule v τ = some (τ v) := by
  induction vs generalizing σ with
  | nil =>
      simp only [evaluate, Option.some.injEq, List.not_mem_nil, not_false_eq_true, true_implies,
        false_implies, implies_true, and_true]
      exact ⟨fun h v => (congrFun h v).symm, fun h => (funext h).symm⟩
  | cons v vs ih =>
      rw [List.nodup_cons] at hnodup
      have hsame : (∀ u ∉ v :: vs, τ u = σ u) → rule v σ = rule v τ := by
        intro hkept
        apply hlocal
        intro u hu
        exact (hkept u (hrespects [] v vs rfl u hu)).symm
      rw [evaluate, Option.bind_eq_some_iff]
      constructor
      · rintro ⟨x, hx, hrest⟩
        obtain ⟨hkept, hrules⟩ := (ih hnodup.2 hrespects.tail).mp hrest
        have hv : τ v = x := by rw [hkept v hnodup.1, Function.update_self]
        have hothers : ∀ u ∉ v :: vs, τ u = σ u := by
          intro u hu
          rw [List.mem_cons, not_or] at hu
          rw [hkept u hu.2, Function.update_of_ne hu.1]
        refine ⟨hothers, ?_⟩
        intro u hu
        rcases List.mem_cons.mp hu with rfl | hu
        · rw [← hsame hothers, hx, hv]
        · exact hrules u hu
      · rintro ⟨hothers, hrules⟩
        refine ⟨τ v, ?_, (ih hnodup.2 hrespects.tail).mpr ⟨?_, ?_⟩⟩
        · rw [hsame hothers]
          exact hrules v List.mem_cons_self
        · intro u hu
          rcases eq_or_ne u v with rfl | hne
          · rw [Function.update_self]
          · rw [Function.update_of_ne hne]
            exact hothers u (by simp [hne, hu])
        · intro u hu
          exact hrules u (List.mem_cons_of_mem _ hu)

/-- Two orders of the same nodes evaluate alike, also when they fail. -/
theorem evaluate_congr {vs' : List α} (hlocal : Local before rule) (hnodup : vs.Nodup)
    (hnodup' : vs'.Nodup) (hrespects : Respects before vs) (hrespects' : Respects before vs')
    (hmem : ∀ v, v ∈ vs ↔ v ∈ vs') : evaluate rule vs σ = evaluate rule vs' σ := by
  apply Option.ext
  intro τ
  rw [evaluate_eq_some_iff hlocal hnodup hrespects, evaluate_eq_some_iff hlocal hnodup' hrespects']
  simp only [hmem]

/-- The evaluation fails only if the rule of a node does. -/
theorem isSome_evaluate (h : ∀ v ∈ vs, ∀ σ, (rule v σ).isSome) (σ : α → V) :
    (evaluate rule vs σ).isSome := by
  induction vs generalizing σ with
  | nil => rfl
  | cons v vs ih =>
      rw [List.forall_mem_cons] at h
      obtain ⟨x, hx⟩ := Option.isSome_iff_exists.mp (h.1 σ)
      rw [evaluate, hx]
      exact ih h.2 _

omit [DecidableEq α] in
theorem respects_of_precedes (hnodup : vs.Nodup)
    (h : ∀ pre v post, vs = pre ++ v :: post → ∀ u, before u v → u ∈ pre) :
    Respects before vs := by
  intro pre v post heq u hu hlate
  rw [heq, List.nodup_append] at hnodup
  exact hnodup.2.2 u (h pre v post heq u hu) u hlate rfl

end Datasynth.Lib.OrderedEvaluation
