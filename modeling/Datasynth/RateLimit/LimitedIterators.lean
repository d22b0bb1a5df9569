import Mathlib.Data.List.Infix
import Datasynth.RateLimit.Limiter

/-!
Iterators behind a rate limiter: what they yield, next to what the limiter has answered.
-/

namespace Datasynth.RateLimit.LimitedIterators

open Datasynth.Lib.GuardedRuns
open Datasynth.Lib.TokenBucket
open Datasynth.RateLimit.Limiter
open Datasynth.RateLimit.PermitWindows

universe u v

variable {σ : Type u} {Item : Type v}

structure RateLimitedIterator (σ : Type u) where
  inner : σ
  limiter : RateLimiter

/-- The answer of the limiter is not looked at; `next` is that of the underlying iterator. -/
def RateLimitedIterator.next (next : σ → Option Item × σ) (it : RateLimitedIterator σ)
    (now later : ℚ) : Option (Option Item × RateLimitedIterator σ) :=
  (it.limiter.acquire now later).map fun result =>
    ((next it.inner).1, ⟨(next it.inner).2, result.2⟩)

section Usage

/-- A call of `next`: when and what the limiter has answered, and what was yielded. -/
structure Answer (Item : Type v) where
  moment : ℚ
  action : RateLimitAction
  item : Option Item
deriving DecidableEq

def isGranted : RateLimitAction → Bool
  | .proceed => true
  | .waited _ => true
  | .dropped => false
  | .buffered _ => false

/-- The moment of an answer: a caller that waits or is buffered has its answer later. -/
def momentOf (now later : ℚ) : RateLimitAction → ℚ
  | .proceed => now
  | .dropped => now
  | .waited _ => later
  | .buffered _ => later

/-- An iterator in use, with the time and the answers so far. -/
structure Usage (σ : Type u) (Item : Type v) where
  iterator : RateLimitedIterator σ
  clock : ℚ
  answers : List (Answer Item)

def Usage.new (inner : σ) (limiter : RateLimiter) (clock : ℚ) : Usage σ Item :=
  ⟨⟨inner, limiter⟩, clock, []⟩

variable (next : σ → Option Item × σ)

/-- A call with its readings of the clock; a call that panics has no next usage. -/
def step (r : Usage σ Item) (readings : ℚ × ℚ) : Option (Usage σ Item) :=
  if r.clock ≤ readings.1 ∧ readings.1 ≤ readings.2 then
    (r.iterator.limiter.acquire readings.1 readings.2).bind fun result =>
      (r.iterator.next next readings.1 readings.2).map fun yielded =>
        { iterator := yielded.2
          clock := readings.2
          answers := r.answers ++
            [⟨momentOf readings.1 readings.2 result.1, result.1, yielded.1⟩] }
  else none

def permitsOf (answers : List (Answer Item)) : List ℚ :=
  (answers.filter fun a => isGranted a.action).map (·.moment)

def yieldsOf (answers : List (Answer Item)) : List ℚ :=
  (answers.filter fun a => a.item.isSome).map (·.moment)

/-- No window has more items than permits, and no item comes without a permit of its own. -/
structure KeepsToPermits (answers : List (Answer Item)) : Prop where
  window : ∀ from_time to_time,
    takenIn (yieldsOf answers) from_time to_time ≤ takenIn (permitsOf answers) from_time to_time
  granted : ∀ a ∈ answers, a.item.isSome = true → isGranted a.action = true

theorem keepsToPermits_iff {answers : List (Answer Item)} :
    KeepsToPermits answers ↔ ∀ a ∈ answers, a.item.isSome = true → isGranted a.action = true := by
  refine ⟨KeepsToPermits.granted, fun h => ⟨fun from_time to_time => ?_, h⟩⟩
  have hsublist : (yieldsOf answers).Sublist (permitsOf answers) := by
    apply List.Sublist.map
    have hfilter : answers.filter (fun a => a.item.isSome) =
        (answers.filter fun a => isGranted a.action).filter fun a => a.item.isSome := by
      rw [List.filter_filter]
      apply List.filter_congr
      intro a ha
      rw [Bool.eq_iff_iff, Bool.and_eq_true]
      exact ⟨fun hitem => ⟨hitem, h a ha hitem⟩, And.left⟩
    rw [hfilter]
    exact List.filter_sublist
  exact hsublist.countP_le

end Usage

section Granting

variable {s : RateLimiter} {now later : ℚ}

/-- The limiter is switched off, has a token at hand, or makes its caller wait for one. -/
def Admits (s : RateLimiter) (now : ℚ) : Prop :=
  s.config.enabled = false ∨ 1 ≤ (s.refill_tokens now).tokens ∨ waitsForToken s = true

theorem isGranted_wait_for_token {result : RateLimitAction × RateLimiter}
    (h : s.wait_for_token later = some result) : isGranted result.1 = true := by
  obtain ⟨secs, -, hslept⟩ := Option.bind_eq_some_iff.mp h
  obtain ⟨s', -, rfl⟩ := Option.map_eq_some_iff.mp hslept
  rfl

theorem isGranted_of_admits (hadmits : Admits s now) {result : RateLimitAction × RateLimiter}
    (h : s.acquire now later = some result) : isGranted result.1 = true := by
  rw [RateLimiter.acquire] at h
  split at h
  · rename_i henabled
    simp only at h
    split at h
    · cases h
      rfl
    · rename_i htoken
      have hwaits : waitsForToken s = true := by
        rcases hadmits with hdisabled | htokens | hwaits
        · rw [henabled] at hdisabled
          cases hdisabled
        · exact absurd htokens htoken
        · exact hwaits
      split at h
      · exact isGranted_wait_for_token h
      · rename_i hdrop
        have hdrop' : s.config.backpressure = .drop := hdrop
        rw [waitsForToken, hdrop'] at hwaits
        cases hwaits
      · rename_i max_buffered hbuffer
        have hbuffer' : s.config.backpressure = .buffer max_buffered := hbuffer
        rw [waitsForToken, hbuffer'] at hwaits
        split at h
        · rename_i hroom
          exact absurd hroom (not_lt.mpr (of_decide_eq_true hwaits))
        · exact isGranted_wait_for_token h
  · cases h
    rfl

theorem exists_acquire_of_not_admits (hadmits : ¬ Admits s now) (later : ℚ) :
    ∃ result, s.acquire now later = some result ∧ isGranted result.1 = false := by
  rw [Admits, not_or, not_or] at hadmits
  obtain ⟨henabled, htoken, hwaits⟩ := hadmits
  have hshort : ¬ 1 ≤ (s.countAcquisition.refill_tokens now).tokens := htoken
  rw [RateLimiter.acquire, if_pos (Bool.eq_true_of_not_eq_false henabled)]
  simp only
  rw [if_neg hshort]
  rw [waitsForToken] at hwaits
  split
  · rename_i hblock
    have hblock' : s.config.backpressure = .block := hblock
    rw [hblock'] at hwaits
    exact absurd rfl hwaits
  · exact ⟨_, rfl, rfl⟩
  · rename_i max_buffered hbuffer
    have hbuffer' : s.config.backpressure = .buffer max_buffered := hbuffer
    rw [hbuffer'] at hwaits
    have hroom : s.buffer.length < max_buffered := by
      rw [← not_le]
      exact fun hfull => hwaits (decide_eq_true hfull)
    exact ⟨_, if_pos hroom, rfl⟩

end Granting

section Runs

variable (next : σ → Option Item × σ)

/-- The limiter grants the call a permit, or there is no item left to yield. -/
def Granting (r : Usage σ Item) (readings : ℚ × ℚ) : Prop :=
  r.clock ≤ readings.1 → readings.1 ≤ readings.2 →
    Admits r.iterator.limiter readings.1 ∨ (next r.iterator.inner).1 = none

variable {next}

/-- A call adds one answer, which is the limiter's, with the underlying iterator's item. -/
theorem step_cases {r r' : Usage σ Item} {readings : ℚ × ℚ} (h : step next r readings = some r') :
    r.clock ≤ readings.1 ∧ readings.1 ≤ readings.2 ∧
      ∃ result, r.iterator.limiter.acquire readings.1 readings.2 = some result ∧
        r'.answers = r.answers ++
          [⟨momentOf readings.1 readings.2 result.1, result.1, (next r.iterator.inner).1⟩] := by
  rw [step] at h
  split at h
  · rename_i hclock
    obtain ⟨result, hresult, hyield⟩ := Option.bind_eq_some_iff.mp h
    obtain ⟨yielded, hyielded, rfl⟩ := Option.map_eq_some_iff.mp hyield
    rw [RateLimitedIterator.next, hresult] at hyielded
    cases hyielded
    exact ⟨hclock.1, hclock.2, result, hresult, rfl⟩
  · cases h

theorem exists_step {r : Usage σ Item} {readings : ℚ × ℚ} (hstart : r.clock ≤ readings.1)
    (hfinish : readings.1 ≤ readings.2) {result : RateLimitAction × RateLimiter}
    (hresult : r.iterator.limiter.acquire readings.1 readings.2 = some result) :
    ∃ r', step next r readings = some r' := by
  rw [step, if_pos ⟨hstart, hfinish⟩, RateLimitedIterator.next, hresult]
  exact ⟨_, rfl⟩

theorem keepsToPermits_step_iff {r r' : Usage σ Item} {readings : ℚ × ℚ}
    (hkeeps : KeepsToPermits r.answers) (h : step next r readings = some r') :
    KeepsToPermits r'.answers ↔ Granting next r readings := by
  obtain ⟨hstart, hfinish, result, hresult, hanswers⟩ := step_cases h
  rw [keepsToPermits_iff] at hkeeps ⊢
  rw [hanswers, List.forall_mem_append, and_iff_right hkeeps, List.forall_mem_singleton, Granting]
  constructor
  · intro hgranted _ _
    by_contra hnone
    rw [not_or] at hnone
    obtain ⟨result', hresult', hrefused⟩ := exists_acquire_of_not_admits hnone.1 readings.2
    rw [hresult] at hresult'
    cases hresult'
    have hitem := Option.isSome_iff_ne_none.mpr hnone.2
    rw [hgranted hitem] at hrefused
    cases hrefused
  · intro hgranting hitem
    rcases hgranting hstart hfinish with hadmits | hnone
    · exact isGranted_of_admits hadmits hresult
    · exact absurd hnone (Option.isSome_iff_ne_none.mp hitem)

theorem granting_of_step_eq_none {r : Usage σ Item} {readings : ℚ × ℚ}
    (h : step next r readings = none) : Granting next r readings := by
  intro hstart hfinish
  by_contra hnone
  rw [not_or] at hnone
  obtain ⟨result, hresult, -⟩ := exists_acquire_of_not_admits hnone.1 readings.2
  obtain ⟨r', hstep⟩ : ∃ r', step next r readings = some r' :=
    exists_step hstart hfinish hresult
  rw [h] at hstep
  cases hstep

/-- An iterator keeps to its permits all along exactly if every call is granted one, or finds
nothing to yield. -/
theorem keeps_along_iff_of_keeps {r : Usage σ Item} (hkeeps : KeepsToPermits r.answers)
    (calls : List (ℚ × ℚ)) :
    (∀ made, made <+: calls → ∀ r', replay (step next) r made = some r' →
      KeepsToPermits r'.answers) ↔ Guarded (step next) (Granting next) r calls := by
  induction calls generalizing r with
  | nil =>
      refine iff_of_true ?_ trivial
      intro made hmade r' hrun
      rw [List.prefix_nil.mp hmade] at hrun
      cases hrun
      exact hkeeps
  | cons readings calls ih =>
      rw [Guarded]
      cases hstep : step next r readings with
      | none =>
          refine iff_of_true ?_ ⟨granting_of_step_eq_none hstep, trivial⟩
          intro made hmade r' hrun
          rcases List.prefix_cons_iff.mp hmade with rfl | ⟨rest, rfl, -⟩
          · cases hrun
            exact hkeeps
          · obtain ⟨r₁, hfirst, -⟩ := replay_cons_eq_some_iff.mp hrun
            rw [hstep] at hfirst
            cases hfirst
      | some r₁ =>
          rw [Option.elim_some, ← keepsToPermits_step_iff hkeeps hstep]
          constructor
          · intro h
            have hfirst : KeepsToPermits r₁.answers := by
              apply h [readings] (List.cons_prefix_cons.mpr ⟨rfl, List.nil_prefix⟩)
              exact replay_cons_eq_some_iff.mpr ⟨r₁, hstep, rfl⟩
            refine ⟨hfirst, (ih hfirst).mp fun made hmade r' hrun => ?_⟩
            apply h (readings :: made) (List.cons_prefix_cons.mpr ⟨rfl, hmade⟩)
            exact replay_cons_eq_some_iff.mpr ⟨r₁, hstep, hrun⟩
          · rintro ⟨hfirst, hguarded⟩ made hmade r' hrun
            rcases List.prefix_cons_iff.mp hmade with rfl | ⟨rest, rfl, hrest⟩
            · cases hrun
              exact hkeeps
            · obtain ⟨r₂, hsecond, hrun⟩ := replay_cons_eq_some_iff.mp hrun
              rw [hstep] at hsecond
              cases hsecond
              exact (ih hfirst).mpr hguarded rest hrest r' hrun

theorem limited_iterator_keeps_along_iff (next : σ → Option Item × σ) (inner : σ)
    (limiter : RateLimiter) (clock : ℚ) (calls : List (ℚ × ℚ)) :
    (∀ made, made <+: calls → ∀ r, replay (step next) (.new inner limiter clock) made = some r →
      KeepsToPermits r.answers) ↔
        Guarded (step next) (Granting next) (.new inner limiter clock) calls := by
  apply keeps_along_iff_of_keeps
  exact keepsToPermits_iff.mpr fun a ha => nomatch ha

/-- A limiter that drops what exceeds one item. -/
def droppingLimiter : RateLimiter := .new ⟨1, 1, .drop, true⟩ 0

/-- Counts up, without an end. -/
def countUp (n : ℕ) : Option ℕ × ℕ := (some n, n + 1)

/-- Two items at one moment, of which the limiter has dropped the second. -/
def droppedAnswers : List (Answer ℕ) := [⟨0, .proceed, some 0⟩, ⟨0, .dropped, some 1⟩]

theorem dropped_item_is_yielded :
    (replay (step countUp) (.new 0 droppingLimiter 0) [(0, 0), (0, 0)]).map (·.answers) =
        some droppedAnswers ∧
      ¬ KeepsToPermits droppedAnswers := by
  refine ⟨by decide_cbv, ?_⟩
  intro h
  have hdropped := h.granted ⟨0, .dropped, some 1⟩ (List.mem_cons_of_mem _ List.mem_cons_self) rfl
  cases hdropped

end Runs

end Datasynth.RateLimit.LimitedIterators
