import Mathlib.Data.List.Basic
import Mathlib.Data.List.Perm.Basic
import Mathlib.Tactic.Common

/-!
Runs through a list of jobs that wait for no one: a job is taken if what it needs was done by
jobs taken before it, and passed over otherwise.  What is taken is the same for every order of
the list exactly when nothing with needs is ever taken.
-/

namespace Datasynth.Lib.PrerequisiteRuns

/-- Jobs that do tasks.  A task that is taken succeeds or not, and may end the run. -/
structure Workflow (E T : Type*) where
  task : E → T
  needs : E → List T
  applies : E → Bool
  succeeds : T → Bool
  stops : T → Bool
  not_succeeds_of_stops : ∀ t, stops t = true → succeeds t = false

namespace Workflow

variable {E T : Type*} (w : Workflow E T)

section Roots

/-- A job that needs nothing. -/
def isRoot (e : E) : Bool := w.applies e && (w.needs e).isEmpty

def available (es : List E) : List T :=
  ((es.filter w.isRoot).map w.task).filter w.succeeds

/-- A run over jobs all of which are taken. -/
def upToStop : List E → List E
  | [] => []
  | e :: es => if w.stops (w.task e) then [e] else e :: upToStop es

/-- No job with needs can ever be taken. -/
def RootsOnly (es : List E) : Prop :=
  ∀ e ∈ es, w.applies e = true → w.needs e ≠ [] → ∃ t ∈ w.needs e, t ∉ w.available es

/-- A job that ends every run it is taken in is the only one to be taken. -/
def StopsAlone (es : List E) : Prop :=
  ∀ f ∈ es, w.isRoot f = true → w.stops (w.task f) = true → ∀ g ∈ es, w.isRoot g = true → g = f

variable {w}

theorem isRoot_iff {e : E} : w.isRoot e = true ↔ w.applies e = true ∧ w.needs e = [] := by
  rw [isRoot, Bool.and_eq_true, List.isEmpty_iff]

theorem mem_available_iff {es : List E} {t : T} :
    t ∈ w.available es ↔ ∃ e ∈ es, w.isRoot e = true ∧ w.task e = t ∧ w.succeeds t = true := by
  rw [available, List.mem_filter, List.mem_map]
  constructor
  · rintro ⟨⟨e, he, rfl⟩, hsucceeds⟩
    rw [List.mem_filter] at he
    exact ⟨e, he.1, he.2, rfl, hsucceeds⟩
  · rintro ⟨e, he, hroot, rfl, hsucceeds⟩
    exact ⟨⟨e, List.mem_filter.mpr ⟨he, hroot⟩, rfl⟩, hsucceeds⟩

theorem mem_upToStop {es : List E} {e : E} (h : e ∈ w.upToStop es) : e ∈ es := by
  induction es with
  | nil => exact h
  | cons f es ih =>
      rw [upToStop] at h
      split at h
      · rw [List.mem_singleton] at h
        exact h ▸ List.mem_cons_self
      · rcases List.mem_cons.mp h with rfl | hrest
        · exact List.mem_cons_self
        · exact List.mem_cons_of_mem f (ih hrest)

theorem upToStop_of_not_stops {es : List E} (h : ∀ e ∈ es, w.stops (w.task e) = false) :
    w.upToStop es = es := by
  induction es with
  | nil => rfl
  | cons e es ih =>
      rw [upToStop, h e List.mem_cons_self, if_neg Bool.false_ne_true,
        ih fun e' he' => h e' (List.mem_cons_of_mem e he')]

/-- A stop that is alone cuts nothing off but copies of itself. -/
theorem mem_upToStop_iff {es : List E}
    (h : ∀ f ∈ es, w.stops (w.task f) = true → ∀ g ∈ es, g = f) {e : E} :
    e ∈ w.upToStop es ↔ e ∈ es := by
  refine ⟨mem_upToStop, ?_⟩
  intro he
  cases es with
  | nil => exact he
  | cons f es =>
      by_cases hall : ∀ g ∈ f :: es, w.stops (w.task g) = false
      · rwa [upToStop_of_not_stops hall]
      · push Not at hall
        obtain ⟨g, hg, hstops⟩ := hall
        rw [Bool.ne_false_iff] at hstops
        have hfirst : f = g := h g hg hstops f List.mem_cons_self
        rw [upToStop, if_pos (hfirst ▸ hstops), List.mem_singleton]
        exact (h g hg hstops e he).trans hfirst.symm

theorem rootsOnly_perm {es es' : List E} (hperm : es'.Perm es) (h : w.RootsOnly es) :
    w.RootsOnly es' := by
  intro e he happlies hneeds
  obtain ⟨t, ht, hmissing⟩ := h e (hperm.mem_iff.mp he) happlies hneeds
  refine ⟨t, ht, ?_⟩
  intro havailable
  apply hmissing
  obtain ⟨r, hr, hroot⟩ := mem_available_iff.mp havailable
  exact mem_available_iff.mpr ⟨r, hperm.mem_iff.mp hr, hroot⟩

theorem stopsAlone_perm {es es' : List E} (hperm : es'.Perm es) (h : w.StopsAlone es) :
    w.StopsAlone es' := by
  intro f hf hroot hstops g hg hgroot
  exact h f (hperm.mem_iff.mp hf) hroot hstops g (hperm.mem_iff.mp hg) hgroot

end Roots

section Runs

variable [DecidableEq T]

def ready (done : List T) (e : E) : Bool := w.applies e && (w.needs e).all (· ∈ done)

/-- The jobs a run takes, from the tasks that are done before it. -/
def taken : List T → List E → List E
  | _, [] => []
  | done, e :: es =>
      if w.ready done e then
        if w.stops (w.task e) then [e]
        else e :: taken (if w.succeeds (w.task e) then done ++ [w.task e] else done) es
      else taken done es

variable {w}

theorem ready_of_isRoot {e : E} (h : w.isRoot e = true) (done : List T) :
    w.ready done e = true := by
  obtain ⟨happlies, hneeds⟩ := isRoot_iff.mp h
  rw [ready, happlies, hneeds]
  rfl

/-- The run takes the jobs without needs, as long as no job with needs has them all met. -/
theorem taken_eq_upToStop {reach : List T} (es : List E) (done : List T)
    (hneeds : ∀ e ∈ es, w.applies e = true → w.needs e ≠ [] → ∃ t ∈ w.needs e, t ∉ reach)
    (hroots : ∀ e ∈ es, w.isRoot e = true → w.succeeds (w.task e) = true → w.task e ∈ reach)
    (hdone : ∀ t ∈ done, t ∈ reach) :
    w.taken done es = w.upToStop (es.filter w.isRoot) := by
  induction es generalizing done with
  | nil => rfl
  | cons e es ih =>
      have hneedsRest := fun e' he' => hneeds e' (List.mem_cons_of_mem e he')
      have hrootsRest := fun e' he' => hroots e' (List.mem_cons_of_mem e he')
      rw [taken]
      by_cases hroot : w.isRoot e = true
      · rw [if_pos (ready_of_isRoot hroot done), List.filter_cons_of_pos hroot, upToStop]
        by_cases hstops : w.stops (w.task e) = true
        · rw [if_pos hstops, if_pos hstops]
        · rw [if_neg hstops, if_neg hstops, ih _ hneedsRest hrootsRest]
          intro t ht
          split at ht
          · next hsucceeds =>
            rcases List.mem_append.mp ht with hbefore | hthis
            · exact hdone t hbefore
            · rw [List.mem_singleton.mp hthis]
              exact hroots e List.mem_cons_self hroot hsucceeds
          · exact hdone t ht
      · have hready : ¬ w.ready done e = true := by
          intro hready
          rw [ready, Bool.and_eq_true, List.all_eq_true] at hready
          have hnonempty : w.needs e ≠ [] := by
            intro hempty
            exact hroot (isRoot_iff.mpr ⟨hready.1, hempty⟩)
          obtain ⟨t, ht, hmissing⟩ := hneeds e List.mem_cons_self hready.1 hnonempty
          exact hmissing (hdone t (of_decide_eq_true (hready.2 t ht)))
        rw [if_neg hready, List.filter_cons_of_neg hroot, ih done hneedsRest hrootsRest hdone]

theorem taken_of_rootsOnly {es : List E} (h : w.RootsOnly es) :
    w.taken [] es = w.upToStop (es.filter w.isRoot) := by
  apply taken_eq_upToStop es [] h
  · intro e he hroot hsucceeds
    exact mem_available_iff.mpr ⟨e, he, hroot, rfl, hsucceeds⟩
  · intro t ht
    exact absurd ht List.not_mem_nil

theorem mem_taken_iff {es : List E} (h : w.RootsOnly es) (hstops : w.StopsAlone es) {e : E} :
    e ∈ w.taken [] es ↔ e ∈ es ∧ w.isRoot e = true := by
  rw [taken_of_rootsOnly h, mem_upToStop_iff, List.mem_filter]
  intro f hf hstop g hg
  rw [List.mem_filter] at hf hg
  exact hstops f hf.1 hf.2 hstop g hg.1 hg.2

end Runs

section Orders

variable [DecidableEq T]

/-- Which jobs are taken is the same for every order of the list. -/
def OrderFree (es : List E) : Prop :=
  ∀ es', es'.Perm es → ∀ e, e ∈ w.taken [] es' ↔ e ∈ w.taken [] es

variable {w}

/-- Jobs with needs that come first are passed over. -/
theorem taken_append_of_not_isRoot {es es' : List E} (h : ∀ e ∈ es, w.isRoot e = false) :
    w.taken [] (es ++ es') = w.taken [] es' := by
  induction es with
  | nil => rfl
  | cons e es ih =>
      have hready : ¬ w.ready [] e = true := by
        intro hready
        rw [ready, Bool.and_eq_true, List.all_eq_true] at hready
        have hempty : w.needs e = [] := by
          rw [List.eq_nil_iff_forall_not_mem]
          intro t ht
          exact absurd (of_decide_eq_true (hready.2 t ht)) List.not_mem_nil
        have hroot := isRoot_iff.mpr ⟨hready.1, hempty⟩
        rw [h e List.mem_cons_self] at hroot
        exact Bool.false_ne_true hroot
      rw [List.cons_append, taken, if_neg hready,
        ih fun e' he' => h e' (List.mem_cons_of_mem e he')]

/-- Jobs without needs that come first are taken, and what they do is done after them. -/
theorem taken_append_of_isRoot {es es' : List E} (hroots : ∀ e ∈ es, w.isRoot e = true)
    (hstops : ∀ e ∈ es, w.stops (w.task e) = false) (done : List T) :
    w.taken done (es ++ es') = es ++ w.taken (done ++ (es.map w.task).filter w.succeeds) es' := by
  induction es generalizing done with
  | nil => simp
  | cons e es ih =>
      have hready := ready_of_isRoot (hroots e List.mem_cons_self) done
      rw [List.cons_append, taken, if_pos hready, hstops e List.mem_cons_self,
        if_neg Bool.false_ne_true, ih (fun e' he' => hroots e' (List.mem_cons_of_mem e he'))
          (fun e' he' => hstops e' (List.mem_cons_of_mem e he')), List.map_cons, List.cons_append]
      by_cases hsucceeds : w.succeeds (w.task e) = true
      · rw [if_pos hsucceeds, List.filter_cons_of_pos hsucceeds, List.append_assoc]
        rfl
      · rw [if_neg hsucceeds, List.filter_cons_of_neg hsucceeds]

theorem stopsAlone_of_orderFree {es : List E} (h : w.OrderFree es) : w.StopsAlone es := by
  intro f hf hroot hstops g hg hgroot
  by_contra hne
  have hfirst : ∀ e ∈ es, w.isRoot e = true → ∃ es', (e :: es').Perm es := by
    intro e he _
    obtain ⟨l, l', rfl⟩ := List.append_of_mem he
    exact ⟨l ++ l', List.perm_middle.symm⟩
  obtain ⟨es₁, hperm₁⟩ := hfirst f hf hroot
  obtain ⟨es₂, hperm₂⟩ := hfirst g hg hgroot
  have htaken₁ : g ∉ w.taken [] (f :: es₁) := by
    rw [taken, if_pos (ready_of_isRoot hroot []), if_pos hstops, List.mem_singleton]
    exact hne
  have htaken₂ : g ∈ w.taken [] (g :: es₂) := by
    rw [taken, if_pos (ready_of_isRoot hgroot [])]
    split
    · exact List.mem_singleton_self g
    · exact List.mem_cons_self
  rw [h _ hperm₂ g, ← h _ hperm₁ g] at htaken₂
  exact htaken₁ htaken₂

theorem rootsOnly_of_orderFree {es : List E} (h : w.OrderFree es) : w.RootsOnly es := by
  intro e he happlies hneeds
  by_contra hmet
  push Not at hmet
  have hroot : w.isRoot e = false := by
    rw [Bool.eq_false_iff]
    intro hroot
    exact hneeds (isRoot_iff.mp hroot).2
  -- Some job without needs succeeds, so that no other one ends the run.
  have hstops : ∀ f ∈ es.filter w.isRoot, w.stops (w.task f) = false := by
    intro f hf
    rw [List.mem_filter] at hf
    rw [Bool.eq_false_iff]
    intro hstop
    obtain ⟨t, ht⟩ := List.exists_mem_of_ne_nil _ hneeds
    obtain ⟨r, hr, hrroot, rfl, hsucceeds⟩ := mem_available_iff.mp (hmet t ht)
    rw [stopsAlone_of_orderFree h f hf.1 hf.2 hstop r hr hrroot,
      w.not_succeeds_of_stops _ hstop] at hsucceeds
    exact Bool.false_ne_true hsucceeds
  obtain ⟨l, l', hsplit⟩ := List.append_of_mem
    (List.mem_filter.mpr ⟨he, by rw [hroot]; rfl⟩ : e ∈ es.filter fun e => !w.isRoot e)
  have hparts := List.filter_append_perm w.isRoot es
  have htaken : e ∈ w.taken [] (es.filter w.isRoot ++ (e :: (l ++ l'))) := by
    rw [taken_append_of_isRoot (fun e' he' => (List.mem_filter.mp he').2) hstops]
    apply List.mem_append_right
    have hready : w.ready ([] ++ ((es.filter w.isRoot).map w.task).filter w.succeeds) e =
        true := by
      rw [ready, happlies, Bool.true_and, List.all_eq_true]
      intro t ht
      exact decide_eq_true (hmet t ht)
    rw [taken, if_pos hready]
    split
    · exact List.mem_singleton_self e
    · exact List.mem_cons_self
  have hpassed : e ∉ w.taken [] ((es.filter fun e => !w.isRoot e) ++ es.filter w.isRoot) := by
    rw [taken_append_of_not_isRoot, ← List.append_nil (es.filter w.isRoot),
      taken_append_of_isRoot (fun e' he' => (List.mem_filter.mp he').2) hstops, taken,
      List.append_nil, List.mem_filter]
    · rintro ⟨-, htrue⟩
      rw [hroot] at htrue
      exact Bool.false_ne_true htrue
    · intro e' he'
      simpa using (List.mem_filter.mp he').2
  have hperm₁ : (es.filter w.isRoot ++ (e :: (l ++ l'))).Perm es := by
    refine List.Perm.trans (List.Perm.append_left _ ?_) hparts
    rw [hsplit]
    exact List.perm_middle.symm
  have hperm₂ : ((es.filter fun e => !w.isRoot e) ++ es.filter w.isRoot).Perm es :=
    List.perm_append_comm.trans hparts
  rw [h _ hperm₁ e, ← h _ hperm₂ e] at htaken
  exact hpassed htaken

theorem orderFree_iff {es : List E} : w.OrderFree es ↔ w.RootsOnly es ∧ w.StopsAlone es := by
  constructor
  · intro h
    exact ⟨rootsOnly_of_orderFree h, stopsAlone_of_orderFree h⟩
  · rintro ⟨hroots, hstops⟩ es' hperm e
    rw [mem_taken_iff (rootsOnly_perm hperm hroots) (stopsAlone_perm hperm hstops),
      mem_taken_iff hroots hstops, hperm.mem_iff]

end Orders

end Workflow

end Datasynth.Lib.PrerequisiteRuns
