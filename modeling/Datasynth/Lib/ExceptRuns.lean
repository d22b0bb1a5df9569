import Mathlib.Data.List.Basic
import Mathlib.Data.List.Forall2

/-!
Successful runs of fallible computations: sequencing, folds and traversals.
-/

namespace Datasynth.Lib.ExceptRuns

universe u v w

variable {ε : Type u} {α : Type v} {β : Type w}

theorem bind_eq_ok_iff {x : Except ε α} {f : α → Except ε β} {b : β} :
    x.bind f = .ok b ↔ ∃ a, x = .ok a ∧ f a = .ok b := by
  cases x with
  | error e => exact ⟨nofun, fun ⟨a, herror, _⟩ => nomatch herror⟩
  | ok a => exact ⟨fun h => ⟨a, rfl, h⟩, fun ⟨_, rfl, h⟩ => h⟩

theorem mapError_eq_ok_iff {ε' : Type*} {x : Except ε α} {f : ε → ε'} {a : α} :
    x.mapError f = .ok a ↔ x = .ok a := by
  cases x with
  | error e => simp [Except.mapError]
  | ok b => simp [Except.mapError]

theorem exists_ok_of_isOk {x : Except ε α} (h : x.isOk = true) : ∃ a, x = .ok a := by
  cases x with
  | error e => cases h
  | ok a => exact ⟨a, rfl⟩

theorem exists_ok_of_map {x : Except ε α} {f : α → β} {b : β} (h : x.map f = .ok b) :
    ∃ a, x = .ok a := by
  cases x with
  | error e => cases h
  | ok a => exact ⟨a, rfl⟩

/-- Fold a fallible step over a list; the first error stops the fold. -/
@[grind =] def foldRun (step : β → α → Except ε β) : β → List α → Except ε β
  | b, [] => .ok b
  | b, a :: as => (step b a).bind fun b' => foldRun step b' as

/-- Apply a fallible function to every element; the first error stops the traversal. -/
@[grind =] def traverseRun (f : α → Except ε β) : List α → Except ε (List β)
  | [] => .ok []
  | a :: as => (f a).bind fun b => (traverseRun f as).bind fun bs => .ok (b :: bs)

/-- The fold rule: an invariant that mentions the elements still to come. -/
theorem foldRun_invariant {step : β → α → Except ε β} (inv : β → List α → Prop)
    (hstep : ∀ b a as b', inv b (a :: as) → step b a = .ok b' → inv b' as)
    {as : List α} {b r : β} (hb : inv b as) (hrun : foldRun step b as = .ok r) : inv r [] := by
  induction as generalizing b with
  | nil =>
      cases hrun
      exact hb
  | cons a as ih =>
      obtain ⟨b', hb', hrest⟩ := bind_eq_ok_iff.mp hrun
      exact ih (hstep b a as b' hb hb') hrest

/-- An element on which the step always fails makes the fold fail. -/
theorem foldRun_ne_ok {step : β → α → Except ε β} {as : List α} {a : α} (ha : a ∈ as)
    (herror : ∀ b b', step b a ≠ .ok b') (b r : β) : foldRun step b as ≠ .ok r := by
  induction as generalizing b with
  | nil => cases ha
  | cons a' as ih =>
      intro hrun
      obtain ⟨b', hb', hrest⟩ := bind_eq_ok_iff.mp hrun
      rcases List.mem_cons.mp ha with rfl | ha
      · exact herror b b' hb'
      · exact ih ha b' hrest

/-- Every element is taken by one of the steps, and what comes after only extends it. -/
theorem exists_step_of_foldRun {step : β → α → Except ε β} (le : β → β → Prop)
    (hrefl : ∀ b, le b b) (htrans : ∀ b b' b'', le b b' → le b' b'' → le b b'')
    (hstep : ∀ b a b', step b a = .ok b' → le b b') {as : List α} {b r : β}
    (hrun : foldRun step b as = .ok r) :
    le b r ∧ ∀ a ∈ as, ∃ b₁ b₂, step b₁ a = .ok b₂ ∧ le b₂ r := by
  induction as generalizing b with
  | nil =>
      cases hrun
      exact ⟨hrefl r, List.forall_mem_nil _⟩
  | cons a as ih =>
      obtain ⟨b', hb', hrest⟩ := bind_eq_ok_iff.mp hrun
      obtain ⟨hle, hsteps⟩ := ih hrest
      exact ⟨htrans b b' r (hstep b a b' hb') hle,
        List.forall_mem_cons.mpr ⟨⟨b, b', hb', hle⟩, hsteps⟩⟩

/-- Elements on which the step goes the same way can be exchanged. -/
theorem foldRun_of_forall₂ {step : β → α → Except ε β} {R : α → α → Prop}
    (hstep : ∀ b a a' b', R a a' → step b a = .ok b' → step b a' = .ok b')
    {as as' : List α} (h : List.Forall₂ R as as') {b r : β}
    (hrun : foldRun step b as = .ok r) : foldRun step b as' = .ok r := by
  induction h generalizing b with
  | nil => exact hrun
  | @cons a a' as as' ha _ ih =>
      obtain ⟨b', hb', hrest⟩ := bind_eq_ok_iff.mp hrun
      exact bind_eq_ok_iff.mpr ⟨b', hstep b a a' b' ha hb', ih hrest⟩

theorem traverseRun_eq_ok_iff {f : α → Except ε β} {as : List α} {bs : List β} :
    traverseRun f as = .ok bs ↔ List.Forall₂ (fun a b => f a = .ok b) as bs := by
  induction as generalizing bs with
  | nil => cases bs <;> simp [traverseRun]
  | cons a as ih =>
      rw [traverseRun, bind_eq_ok_iff]
      constructor
      · rintro ⟨b, hb, hrest⟩
        obtain ⟨bs', hbs', heq⟩ := bind_eq_ok_iff.mp hrest
        cases heq
        exact .cons hb (ih.mp hbs')
      · intro h
        obtain ⟨b, bs', hb, hbs', rfl⟩ := List.forall₂_cons_left_iff.mp h
        exact ⟨b, hb, bind_eq_ok_iff.mpr ⟨bs', ih.mpr hbs', rfl⟩⟩

theorem exists_of_mem_traverseRun {f : α → Except ε β} {as : List α} {bs : List β}
    (h : traverseRun f as = .ok bs) {b : β} (hb : b ∈ bs) : ∃ a ∈ as, f a = .ok b := by
  induction as generalizing bs with
  | nil =>
      cases h
      cases hb
  | cons a as ih =>
      obtain ⟨b', hb', hrest⟩ := bind_eq_ok_iff.mp h
      obtain ⟨bs', hbs', heq⟩ := bind_eq_ok_iff.mp hrest
      cases heq
      rcases List.mem_cons.mp hb with rfl | hb
      · exact ⟨a, List.mem_cons_self, hb'⟩
      · obtain ⟨a', ha', hfa'⟩ := ih hbs' hb
        exact ⟨a', List.mem_cons_of_mem _ ha', hfa'⟩

theorem exists_traverseRun_iff {f : α → Except ε β} {as : List α} :
    (∃ bs, traverseRun f as = .ok bs) ↔ ∀ a ∈ as, ∃ b, f a = .ok b := by
  induction as with
  | nil => simp [traverseRun]
  | cons a as ih =>
      rw [List.forall_mem_cons, ← ih]
      constructor
      · rintro ⟨bs, hbs⟩
        obtain ⟨b, hb, hrest⟩ := bind_eq_ok_iff.mp hbs
        obtain ⟨bs', hbs', -⟩ := bind_eq_ok_iff.mp hrest
        exact ⟨⟨b, hb⟩, bs', hbs'⟩
      · rintro ⟨⟨b, hb⟩, bs, hbs⟩
        exact ⟨b :: bs, bind_eq_ok_iff.mpr ⟨b, hb, bind_eq_ok_iff.mpr ⟨bs, hbs, rfl⟩⟩⟩

theorem mapM_eq_some_iff {f : α → Option β} {l : List α} {r : List β} :
    l.mapM f = some r ↔ l.map f = r.map some := by
  induction l generalizing r with
  | nil =>
      constructor
      · intro h
        cases h
        rfl
      · intro h
        rw [List.map_eq_nil_iff.mp h.symm]
        rfl
  | cons a l ih =>
      rw [List.mapM_cons, List.map_cons]
      constructor
      · intro h
        obtain ⟨b, hb, h⟩ := Option.bind_eq_some_iff.mp h
        obtain ⟨bs, hbs, h⟩ := Option.bind_eq_some_iff.mp h
        cases h
        rw [hb, ih.mp hbs, List.map_cons]
      · intro h
        cases r with
        | nil => cases h
        | cons b r =>
            rw [List.map_cons, List.cons.injEq] at h
            rw [h.1, ih.mpr h.2]
            rfl

theorem mapM_congr_left {f g : α → Option β} {l : List α} (h : ∀ a ∈ l, f a = g a) :
    l.mapM f = l.mapM g := by
  have hmap := List.map_congr_left h
  apply Option.ext
  intro r
  rw [mapM_eq_some_iff, mapM_eq_some_iff, hmap]

theorem exists_mapM {f : α → Option β} {l : List α}
    (h : ∀ a ∈ l, ∃ b, f a = some b) : ∃ r, l.mapM f = some r := by
  induction l with
  | nil => exact ⟨[], rfl⟩
  | cons a l ih =>
      obtain ⟨b, hb⟩ := h a (List.mem_cons_self ..)
      obtain ⟨r, hr⟩ := ih fun a' ha' => h a' (List.mem_cons_of_mem _ ha')
      exact ⟨b :: r, by rw [List.mapM_cons, hb, hr]; rfl⟩

theorem exists_mapM_forall₂_iff {f : α → Option β} {R : α → β → Prop} {l : List α} :
    (∃ r, l.mapM f = some r ∧ List.Forall₂ R l r) ↔ ∀ a ∈ l, ∃ b, f a = some b ∧ R a b := by
  constructor
  · rintro ⟨r, hr, hall⟩
    have hmap := mapM_eq_some_iff.mp hr
    clear hr
    induction hall with
    | nil => exact List.forall_mem_nil _
    | cons hab _ ih =>
        rw [List.map_cons, List.map_cons, List.cons.injEq] at hmap
        exact List.forall_mem_cons.mpr ⟨⟨_, hmap.1, hab⟩, ih hmap.2⟩
  · intro h
    induction l with
    | nil => exact ⟨[], rfl, .nil⟩
    | cons a l ih =>
        obtain ⟨⟨b, hb, hab⟩, htail⟩ := List.forall_mem_cons.mp h
        obtain ⟨r, hr, hall⟩ := ih htail
        exact ⟨b :: r, by rw [List.mapM_cons, hb, hr]; rfl, .cons hab hall⟩

end Datasynth.Lib.ExceptRuns

/-!
Runs of a fallible period computation in which each period opens with what the
previous period's record carries forward.
-/

namespace Datasynth.Lib.CarryForward

universe u v w x

variable {ε : Type u} {σ : Type v} {ι : Type w} {ω : Type x}

/-- Run the periods in order; the first failing period stops the run. -/
@[grind =] def runPeriods (step : σ → ι → Except ε ω) (carry : ω → σ) : σ → List ι → Except ε (List ω)
  | _, [] => .ok []
  | s, i :: rest =>
      match step s i with
      | .error e => .error e
      | .ok r =>
          match runPeriods step carry (carry r) rest with
          | .error e => .error e
          | .ok rs => .ok (r :: rs)

/-- A property of each period of a run: its opening state, its input and its record. -/
@[grind =] def EveryPeriod (carry : ω → σ) (good : σ → ι → ω → Prop) : σ → List ι → List ω → Prop
  | _, [], [] => True
  | s, i :: is, r :: rs => good s i r ∧ EveryPeriod carry good (carry r) is rs
  | _, _, _ => False

/-- A property of each period but the first, whose opening state is the caller's. -/
@[grind =] def EveryLaterPeriod (carry : ω → σ) (good : σ → ι → ω → Prop) : List ι → List ω → Prop
  | _ :: is, r :: rs => EveryPeriod carry good (carry r) is rs
  | _, _ => True

theorem runPeriods_cons_eq_ok_iff (step : σ → ι → Except ε ω) (carry : ω → σ)
    (s : σ) (i : ι) (is : List ι) (records : List ω) :
    runPeriods step carry s (i :: is) = .ok records ↔
      ∃ r rs, step s i = .ok r ∧ runPeriods step carry (carry r) is = .ok rs ∧
        records = r :: rs := by
  rw [runPeriods]
  cases hstep : step s i with
  | error e => simp
  | ok r =>
      cases hrest : runPeriods step carry (carry r) is with
      | error e => simp [hrest]
      | ok rs => simp [hrest, eq_comm]

/-- The invariant rule: a property every step has from an invariant state, in
exchange for the invariant of the state carried forward, holds of every period. -/
theorem everyPeriod_of_invariant {step : σ → ι → Except ε ω} {carry : ω → σ}
    {inv : σ → Prop} {admissible : ι → Prop} {good : σ → ι → ω → Prop}
    (hstep : ∀ s i r, inv s → admissible i → step s i = .ok r → inv (carry r) ∧ good s i r)
    {s : σ} {is : List ι} {records : List ω} (hs : inv s)
    (his : ∀ i ∈ is, admissible i) (hrun : runPeriods step carry s is = .ok records) :
    EveryPeriod carry good s is records := by
  induction is generalizing s records with
  | nil =>
      cases hrun
      trivial
  | cons i is ih =>
      obtain ⟨r, rs, hr, hrs, rfl⟩ :=
        (runPeriods_cons_eq_ok_iff step carry s i is records).mp hrun
      obtain ⟨hinv, hgood⟩ := hstep s i r hs (his i (by simp)) hr
      exact ⟨hgood, ih hinv (fun i' hi' => his i' (by simp [hi'])) hrs⟩

theorem everyPeriod_of_step {step : σ → ι → Except ε ω} {carry : ω → σ}
    {good : σ → ι → ω → Prop} (hstep : ∀ s i r, step s i = .ok r → good s i r)
    {s : σ} {is : List ι} {records : List ω}
    (hrun : runPeriods step carry s is = .ok records) : EveryPeriod carry good s is records := by
  have hkeeps : ∀ s i r, True → True → step s i = .ok r → True ∧ good s i r :=
    fun s i r _ _ h => ⟨trivial, hstep s i r h⟩
  exact everyPeriod_of_invariant hkeeps trivial (fun _ _ => trivial) hrun

/-- Properties that agree on every step from an invariant state agree on a run. -/
theorem everyPeriod_congr {step : σ → ι → Except ε ω} {carry : ω → σ} {inv : σ → Prop}
    {good good' : σ → ι → ω → Prop}
    (hstep : ∀ s i r, inv s → step s i = .ok r → inv (carry r) ∧ (good s i r ↔ good' s i r))
    {s : σ} {is : List ι} {records : List ω} (hs : inv s)
    (hrun : runPeriods step carry s is = .ok records) :
    EveryPeriod carry good s is records ↔ EveryPeriod carry good' s is records := by
  induction is generalizing s records with
  | nil =>
      cases hrun
      exact Iff.rfl
  | cons i is ih =>
      obtain ⟨r, rs, hr, hrs, rfl⟩ :=
        (runPeriods_cons_eq_ok_iff step carry s i is records).mp hrun
      obtain ⟨hinv, hagree⟩ := hstep s i r hs hr
      exact and_congr hagree (ih hinv hrs)

/-- The invariant rule for success: no step fails from an invariant state. -/
theorem exists_runPeriods_eq_ok {step : σ → ι → Except ε ω} {carry : ω → σ}
    {inv : σ → Prop} {admissible : ι → Prop}
    (hstep : ∀ s i, inv s → admissible i → ∃ r, step s i = .ok r ∧ inv (carry r))
    {s : σ} {is : List ι} (hs : inv s) (his : ∀ i ∈ is, admissible i) :
    ∃ records, runPeriods step carry s is = .ok records := by
  induction is generalizing s with
  | nil => exact ⟨[], rfl⟩
  | cons i is ih =>
      obtain ⟨r, hr, hinv⟩ := hstep s i hs (his i (by simp))
      obtain ⟨rs, hrs⟩ := ih hinv fun i' hi' => his i' (by simp [hi'])
      exact ⟨r :: rs, (runPeriods_cons_eq_ok_iff step carry s i is _).mpr ⟨r, rs, hr, hrs, rfl⟩⟩

theorem exists_runPeriods_everyPeriod {step : σ → ι → Except ε ω} {carry : ω → σ}
    {inv : σ → Prop} {admissible : ι → Prop} {good : σ → ι → ω → Prop}
    (hsucceeds : ∀ s i, inv s → admissible i → ∃ r, step s i = .ok r)
    (hstep : ∀ s i r, inv s → admissible i → step s i = .ok r → inv (carry r) ∧ good s i r)
    {s : σ} {is : List ι} (hs : inv s) (his : ∀ i ∈ is, admissible i) :
    ∃ records, runPeriods step carry s is = .ok records ∧
      EveryPeriod carry good s is records := by
  have hkeeps : ∀ s i, inv s → admissible i → ∃ r, step s i = .ok r ∧ inv (carry r) := by
    intro s i hs hi
    obtain ⟨r, hr⟩ := hsucceeds s i hs hi
    exact ⟨r, hr, (hstep s i r hs hi hr).1⟩
  obtain ⟨records, hrun⟩ := exists_runPeriods_eq_ok hkeeps hs his
  exact ⟨records, hrun, everyPeriod_of_invariant hstep hs his hrun⟩

end Datasynth.Lib.CarryForward
