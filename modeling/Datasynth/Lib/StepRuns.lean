import Mathlib.Data.List.Basic
import Mathlib.Data.List.Infix
import Mathlib.Data.Option.Basic
import Mathlib.Tactic.Common

/-!
Runs of a total step function over a list of events: what holds in every state that a run comes
through, and of every step that it takes.
-/

namespace Datasynth.Lib.StepRuns

universe u v

variable {S : Type u} {E : Type v}

/-- The property holds in every state of the run, the first and the last one included. -/
def AlongRun (step : S → E → S) (p : S → Prop) (s : S) (es : List E) : Prop :=
  ∀ before, before <+: es → p (before.foldl step s)

/-- The property holds of every event of the run, and the state in which it comes. -/
def EveryStep (step : S → E → S) (q : S → E → Prop) (s : S) (es : List E) : Prop :=
  ∀ before e, before ++ [e] <+: es → q (before.foldl step s) e

variable {step : S → E → S} {p : S → Prop} {q guard : S → E → Prop} {s : S} {e : E} {es : List E}

theorem AlongRun.start (h : AlongRun step p s es) : p s := h [] List.nil_prefix

theorem AlongRun.finish (h : AlongRun step p s es) : p (es.foldl step s) := h es List.prefix_rfl

theorem alongRun_nil : AlongRun step p s [] ↔ p s := by
  constructor
  · exact AlongRun.start
  · intro h before hbefore
    rw [List.prefix_nil.mp hbefore]
    exact h

theorem alongRun_cons : AlongRun step p s (e :: es) ↔ p s ∧ AlongRun step p (step s e) es := by
  constructor
  · intro h
    refine ⟨h.start, fun before hbefore => ?_⟩
    exact h (e :: before) (List.cons_prefix_cons.mpr ⟨rfl, hbefore⟩)
  · rintro ⟨hs, hrest⟩ before hbefore
    rcases List.prefix_cons_iff.mp hbefore with rfl | ⟨before, rfl, hshorter⟩
    · exact hs
    · exact hrest before hshorter

theorem everyStep_nil : EveryStep step q s [] := by
  intro before e h
  exact absurd (List.prefix_nil.mp h) (List.append_ne_nil_of_right_ne_nil _ (List.cons_ne_nil _ _))

theorem everyStep_cons : EveryStep step q s (e :: es) ↔ q s e ∧ EveryStep step q (step s e) es := by
  constructor
  · intro h
    refine ⟨h [] e (List.cons_prefix_cons.mpr ⟨rfl, List.nil_prefix⟩), fun before e' hbefore => ?_⟩
    exact h (e :: before) e' (List.cons_prefix_cons.mpr ⟨rfl, hbefore⟩)
  · rintro ⟨hfirst, hrest⟩ before e' hbefore
    cases before with
    | nil =>
        obtain ⟨rfl, -⟩ := List.cons_prefix_cons.mp hbefore
        exact hfirst
    | cons d before =>
        obtain ⟨rfl, hshorter⟩ := List.cons_prefix_cons.mp hbefore
        exact hrest before e' hshorter

/-- Where no event is admitted, the run has to be over. -/
theorem everyStep_iff_nil (h : ∀ e, ¬ q s e) : EveryStep step q s es ↔ es = [] := by
  constructor
  · intro hsteps
    cases es with
    | nil => rfl
    | cons e es => exact absurd (everyStep_cons.mp hsteps).1 (h e)
  · rintro rfl
    exact everyStep_nil

/-- Where steps do not change what is admitted, every event has to be admitted at the start. -/
theorem everyStep_iff_forall (hconst : ∀ s e e', guard (step s e) e' ↔ guard s e') :
    EveryStep step guard s es ↔ ∀ e ∈ es, guard s e := by
  induction es generalizing s with
  | nil => exact iff_of_true everyStep_nil (List.forall_mem_nil _)
  | cons e es ih =>
      rw [everyStep_cons, ih, List.forall_mem_cons]
      simp only [hconst]

/-- A run keeps to its laws exactly if it starts within them and every step is admitted, provided
that the admitted steps are those that stay within them. -/
theorem run_keeps_iff (hstep : ∀ s e, p s → (p (step s e) ∧ q s e ↔ guard s e)) :
    AlongRun step p s es ∧ EveryStep step q s es ↔ p s ∧ EveryStep step guard s es := by
  induction es generalizing s with
  | nil => rw [alongRun_nil, and_iff_left everyStep_nil, and_iff_left everyStep_nil]
  | cons e es ih =>
      rw [alongRun_cons, everyStep_cons, everyStep_cons]
      constructor
      · rintro ⟨⟨hs, hrest⟩, hfirst, hsteps⟩
        exact ⟨hs, (hstep s e hs).mp ⟨hrest.start, hfirst⟩, (ih.mp ⟨hrest, hsteps⟩).2⟩
      · rintro ⟨hs, hguard, hguards⟩
        obtain ⟨hnext, hfirst⟩ := (hstep s e hs).mpr hguard
        obtain ⟨hrest, hsteps⟩ := ih.mpr ⟨hnext, hguards⟩
        exact ⟨⟨hs, hrest⟩, hfirst, hsteps⟩

theorem alongRun_iff (hstep : ∀ s e, p s → (p (step s e) ↔ guard s e)) :
    AlongRun step p s es ↔ p s ∧ EveryStep step guard s es := by
  have hkeeps : AlongRun step p s es ∧ EveryStep step (fun _ _ => True) s es ↔
      p s ∧ EveryStep step guard s es :=
    run_keeps_iff fun s e hs => (and_iff_left trivial).trans (hstep s e hs)
  have hall : EveryStep step (fun _ _ => True) s es := fun _ _ _ => trivial
  rw [and_iff_left hall] at hkeeps
  exact hkeeps

theorem AlongRun.imp {p' : S → Prop} (h : AlongRun step p s es) (himp : ∀ s, p s → p' s) :
    AlongRun step p' s es :=
  fun before hbefore => himp _ (h before hbefore)

theorem EveryStep.imp {q' : S → E → Prop} (himp : ∀ s e, q s e → q' s e)
    (h : EveryStep step q s es) : EveryStep step q' s es :=
  fun before e hbefore => himp _ e (h before e hbefore)

/-- What every event keeps holds all along, and so does what it makes hold of every step. -/
theorem run_keeps (hs : p s) (hstep : ∀ s, ∀ e ∈ es, p s → p (step s e) ∧ q s e) :
    AlongRun step p s es ∧ EveryStep step q s es := by
  induction es generalizing s with
  | nil => exact ⟨alongRun_nil.mpr hs, everyStep_nil⟩
  | cons e es ih =>
      obtain ⟨hnext, hfirst⟩ := hstep s e List.mem_cons_self hs
      obtain ⟨hrest, hsteps⟩ := ih hnext fun s e he => hstep s e (List.mem_cons_of_mem _ he)
      exact ⟨alongRun_cons.mpr ⟨hs, hrest⟩, everyStep_cons.mpr ⟨hfirst, hsteps⟩⟩

end Datasynth.Lib.StepRuns

/-!
Runs of a partial step function over a list of events, and invariants of the runs whose
steps are all taken where a guard admits them.
-/

namespace Datasynth.Lib.GuardedRuns

universe u v

variable {S : Type u} {E : Type v} {step : S → E → Option S} {guard : S → E → Prop}

def replay (step : S → E → Option S) : S → List E → Option S
  | s, [] => some s
  | s, e :: es => (step s e).bind fun s' => replay step s' es

/-- The guard admits every step of the run. -/
def Guarded (step : S → E → Option S) (guard : S → E → Prop) : S → List E → Prop
  | _, [] => True
  | s, e :: es => guard s e ∧ (step s e).elim True fun s' => Guarded step guard s' es

instance decidableElim {p : S → Prop} [DecidablePred p] : (s : Option S) → Decidable (s.elim True p)
  | none => isTrue trivial
  | some s => inferInstanceAs (Decidable (p s))

instance decidableGuarded [∀ s e, Decidable (guard s e)] :
    (s : S) → (es : List E) → Decidable (Guarded step guard s es)
  | _, [] => isTrue trivial
  | s, e :: es =>
      have (s' : S) : Decidable (Guarded step guard s' es) := decidableGuarded s' es
      inferInstanceAs
        (Decidable (guard s e ∧ (step s e).elim True fun s' => Guarded step guard s' es))

theorem replay_cons_eq_some_iff {s t : S} {e : E} {es : List E} :
    replay step s (e :: es) = some t ↔ ∃ s', step s e = some s' ∧ replay step s' es = some t := by
  rw [replay, Option.bind_eq_some_iff]

theorem Guarded.tail {s s' : S} {e : E} {es : List E} (h : Guarded step guard s (e :: es))
    (hstep : step s e = some s') : Guarded step guard s' es := by
  have htail := h.2
  rw [hstep] at htail
  exact htail

/-- What every admitted step keeps holds at the end of a guarded run. -/
theorem replay_invariant {inv : S → Prop}
    (hstep : ∀ s e s', inv s → guard s e → step s e = some s' → inv s') {s t : S} {es : List E}
    (hrun : replay step s es = some t) (hguard : Guarded step guard s es) (hs : inv s) :
    inv t := by
  induction es generalizing s with
  | nil =>
      cases hrun
      exact hs
  | cons e es ih =>
      obtain ⟨s', hfirst, hrest⟩ := replay_cons_eq_some_iff.mp hrun
      exact ih hrest (hguard.tail hfirst) (hstep s e s' hs hguard.1 hfirst)

end Datasynth.Lib.GuardedRuns
