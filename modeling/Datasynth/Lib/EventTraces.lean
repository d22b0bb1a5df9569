import Mathlib.Data.List.Infix
import Mathlib.Order.Basic

/-!
Traces of events: paths of labelled steps, runs of one kind of event, times that do
not decrease, and events that come before others.
-/

namespace Datasynth.Lib.EventTraces

universe u v w

variable {S : Type u} {E : Type v} {T : Type w}

/-- A path of labelled steps from one state to another. -/
inductive Path (step : S → E → S → Prop) : S → List E → S → Prop where
  | nil (s : S) : Path step s [] s
  | cons {s s' t : S} {e : E} {es : List E} :
      step s e s' → Path step s' es t → Path step s (e :: es) t

/-- What every step keeps holds at the end of a path. -/
theorem Path.invariant {step : S → E → S → Prop} {inv : S → Prop}
    (hstep : ∀ s e s', inv s → step s e s' → inv s') {s t : S} {es : List E}
    (h : Path step s es t) (hs : inv s) : inv t := by
  induction h with
  | nil s => exact hs
  | cons hfirst _ ih => exact ih (hstep _ _ _ hs hfirst)

/-- Every run of events with `p` stays below the bound, counting `count` events that
come before the list. -/
def RunsBelow (p : E → Prop) [DecidablePred p] (bound : ℕ) : ℕ → List E → Prop
  | _, [] => True
  | count, e :: es =>
      if p e then count + 1 < bound ∧ RunsBelow p bound (count + 1) es
      else RunsBelow p bound 0 es

section Runs

variable {p : E → Prop} [DecidablePred p] {bound : ℕ}

theorem RunsBelow.cons_of_pos {count : ℕ} {e : E} {es : List E} (he : p e)
    (hlt : count + 1 < bound) (h : RunsBelow p bound (count + 1) es) :
    RunsBelow p bound count (e :: es) := by
  rw [RunsBelow, if_pos he]
  exact ⟨hlt, h⟩

theorem RunsBelow.cons_of_neg {count : ℕ} {e : E} {es : List E} (he : ¬ p e)
    (h : RunsBelow p bound 0 es) : RunsBelow p bound count (e :: es) := by
  rw [RunsBelow, if_neg he]
  exact h

theorem RunsBelow.exists_suffix {count : ℕ} {before es : List E}
    (h : RunsBelow p bound count (before ++ es)) : ∃ count', RunsBelow p bound count' es := by
  induction before generalizing count with
  | nil => exact ⟨count, h⟩
  | cons e before ih =>
      rw [List.cons_append, RunsBelow] at h
      split at h
      · exact ih h.2
      · exact ih h

theorem RunsBelow.count_add_length_lt {count : ℕ} {run after : List E}
    (h : RunsBelow p bound count (run ++ after)) (hne : run ≠ []) (hrun : ∀ e ∈ run, p e) :
    count + run.length < bound := by
  induction run generalizing count with
  | nil => exact absurd rfl hne
  | cons e run ih =>
      rw [List.forall_mem_cons] at hrun
      rw [List.cons_append, RunsBelow, if_pos hrun.1] at h
      cases run with
      | nil => exact h.1
      | cons e' run =>
          have hrest := ih h.2 (List.cons_ne_nil _ _) hrun.2
          rw [List.length_cons]
          omega

/-- A run anywhere in the list is shorter than the bound. -/
theorem RunsBelow.length_lt {count : ℕ} {run es : List E} (h : RunsBelow p bound count es)
    (hpart : run <:+: es) (hne : run ≠ []) (hrun : ∀ e ∈ run, p e) : run.length < bound := by
  obtain ⟨before, after, rfl⟩ := hpart
  rw [List.append_assoc] at h
  obtain ⟨count', hcount⟩ := h.exists_suffix
  have hlt := hcount.count_add_length_lt hne hrun
  omega

end Runs

/-- The events happen one after the other between two points in time. -/
def Timed [LE T] (time : E → T) : T → List E → T → Prop
  | t, [], t' => t ≤ t'
  | t, e :: es, t' => t ≤ time e ∧ Timed time (time e) es t'

section Times

variable [Preorder T] {time : E → T}

theorem Timed.le {t t' : T} {es : List E} (h : Timed time t es t') : t ≤ t' := by
  induction es generalizing t with
  | nil => exact h
  | cons e es ih => exact le_trans h.1 (ih h.2)

theorem Timed.weaken_left {s t t' : T} {es : List E} (hle : s ≤ t) (h : Timed time t es t') :
    Timed time s es t' := by
  cases es with
  | nil => exact le_trans hle h
  | cons e es => exact ⟨le_trans hle h.1, h.2⟩

theorem Timed.append {t t' t'' : T} {es es' : List E} (h : Timed time t es t')
    (h' : Timed time t' es' t'') : Timed time t (es ++ es') t'' := by
  induction es generalizing t with
  | nil => exact h'.weaken_left h
  | cons e es ih => exact ⟨h.1, ih h.2⟩

theorem Timed.forall_le {t t' : T} {es : List E} (h : Timed time t es t') :
    ∀ e ∈ es, t ≤ time e := by
  induction es generalizing t with
  | nil => simp
  | cons e es ih =>
      rw [List.forall_mem_cons]
      exact ⟨h.1, fun e' he' => le_trans h.1 (ih h.2 e' he')⟩

theorem Timed.pairwise {t t' : T} {es : List E} (h : Timed time t es t') :
    es.Pairwise fun e e' => time e ≤ time e' := by
  induction es generalizing t with
  | nil => exact List.Pairwise.nil
  | cons e es ih => exact List.pairwise_cons.mpr ⟨h.2.forall_le, ih h.2⟩

end Times

/-- All events with `p` come before all events with `q`. -/
def Before (p q : E → Prop) (log : List E) : Prop :=
  ∀ (i j : ℕ) (hi : i < log.length) (hj : j < log.length), p log[i] → q log[j] → i < j

theorem before_of_forall_not {p q : E → Prop} {log : List E} (h : ∀ e ∈ log, ¬ q e) :
    Before p q log := by
  intro i j hi hj _ hq
  exact absurd hq (h _ (List.getElem_mem hj))

theorem Before.append {p q : E → Prop} {log added : List E} (h : Before p q log)
    (hadded : ∀ e ∈ added, ¬ p e) : Before p q (log ++ added) := by
  intro i j hi hj hp hq
  by_cases hilog : i < log.length
  · rw [List.getElem_append_left hilog] at hp
    by_cases hjlog : j < log.length
    · rw [List.getElem_append_left hjlog] at hq
      exact h i j hilog hjlog hp hq
    · omega
  · rw [List.getElem_append_right (not_lt.mp hilog)] at hp
    exact absurd hp (hadded _ (List.getElem_mem _))

/-- The fold rule with an invariant about the part of the list that has been folded. -/
theorem foldl_prefix_invariant {α : Type u} {β : Type v} {f : β → α → β} (all : List α)
    (inv : List α → β → Prop)
    (hstep : ∀ done a rest b, all = done ++ a :: rest → inv done b → inv (done ++ [a]) (f b a))
    {b : β} (hb : inv [] b) : inv all (all.foldl f b) := by
  have hrest : ∀ rest done b, all = done ++ rest → inv done b → inv all (rest.foldl f b) := by
    intro rest
    induction rest with
    | nil =>
        intro done b heq hinv
        rw [List.append_nil] at heq
        rw [heq]
        exact hinv
    | cons a rest ih =>
        intro done b heq hinv
        refine ih (done ++ [a]) (f b a) ?_ (hstep done a rest b heq hinv)
        rw [heq, List.append_assoc, List.singleton_append]
  exact hrest all [] b rfl hb

end Datasynth.Lib.EventTraces
