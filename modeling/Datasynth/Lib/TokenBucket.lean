import Mathlib.Algebra.Order.Field.Basic
import Mathlib.Tactic.Linarith
import Mathlib.Tactic.Ring

/-!
Token buckets that are refilled lazily: what was taken in any window is at most the
capacity and what the rates in force supply over the window.
-/

namespace Datasynth.Lib.TokenBucket

universe u

variable {K : Type u} [Field K] [LinearOrder K]

/-- What the rates supply up to a moment; the newest change of the rate comes first. -/
def supply : List (K × K) → K → K
  | [], _ => 0
  | (start, rate) :: older, t =>
      if start ≤ t then supply older start + rate * (t - start) else supply older t

theorem supply_cons_of_le {start t : K} (h : start ≤ t) (rate : K) (older : List (K × K)) :
    supply ((start, rate) :: older) t = supply older start + rate * (t - start) := by
  rw [supply, if_pos h]

theorem supply_cons_of_ge {start t : K} (h : t ≤ start) (rate : K) (older : List (K × K)) :
    supply ((start, rate) :: older) t = supply older t := by
  rcases eq_or_lt_of_le h with rfl | hlt
  · rw [supply, if_pos le_rfl, sub_self, mul_zero, add_zero]
  · rw [supply, if_neg (not_le.mpr hlt)]

theorem supply_mono [IsStrictOrderedRing K] {rates : List (K × K)} (h : ∀ r ∈ rates, 0 ≤ r.2)
    {t t' : K} (hle : t ≤ t') : supply rates t ≤ supply rates t' := by
  induction rates generalizing t t' with
  | nil => exact le_rfl
  | cons r older ih =>
      obtain ⟨start, rate⟩ := r
      rw [List.forall_mem_cons] at h
      have hrate : 0 ≤ rate := h.1
      rcases le_total start t with hstart | hstart
      · rw [supply_cons_of_le hstart, supply_cons_of_le (hstart.trans hle)]
        have hmul := mul_le_mul_of_nonneg_left (sub_le_sub_right hle start) hrate
        linarith
      · rw [supply_cons_of_ge hstart]
        rcases le_total start t' with hstart' | hstart'
        · rw [supply_cons_of_le hstart']
          have hmul := mul_nonneg hrate (sub_nonneg.mpr hstart')
          have hold := ih h.2 hstart
          linarith
        · rw [supply_cons_of_ge hstart']
          exact ih h.2 hle

/-- A bucket with the rates that were in force and the moments at which tokens were taken. -/
structure Bucket (K : Type u) where
  capacity : K
  tokens : K
  rate : K
  last : K
  clock : K
  rates : List (K × K)
  taken : List K

def Bucket.full (capacity rate start : K) : Bucket K where
  capacity := capacity
  tokens := capacity
  rate := rate
  last := start
  clock := start
  rates := [(start, rate)]
  taken := []

def Bucket.refill (b : Bucket K) (now : K) : Bucket K :=
  { b with
    tokens := min (b.tokens + (now - b.last) * b.rate) b.capacity
    last := now
    clock := now }

def Bucket.take (b : Bucket K) : Bucket K :=
  { b with
    tokens := b.tokens - 1
    taken := b.last :: b.taken }

def Bucket.setRate (b : Bucket K) (now rate : K) : Bucket K :=
  { b with
    rate := rate
    clock := now
    rates := (now, rate) :: b.rates }

def Bucket.wait (b : Bucket K) (now : K) : Bucket K :=
  { b with clock := now }

def Bucket.supplied (b : Bucket K) (s t : K) : K := supply b.rates t - supply b.rates s

def takenSince (taken : List K) (s : K) : ℕ := taken.countP fun g => s ≤ g

def takenIn (taken : List K) (s t : K) : ℕ := taken.countP fun g => s ≤ g ∧ g ≤ t

/-- No window gives more than the capacity and its supply. -/
def Bucket.Limited (b : Bucket K) : Prop :=
  ∀ s t, s ≤ t → (takenIn b.taken s t : K) ≤ b.capacity + b.supplied s t

/-- The change of the rate gives nothing to the time before it that was not supplied then. -/
def Bucket.Settled (b : Bucket K) (now rate : K) : Prop :=
  (now - b.last) * rate ≤ b.supplied b.last now ∨ b.capacity ≤ b.tokens + b.supplied b.last now

structure Bucket.Sound (b : Bucket K) : Prop where
  rates_nonneg : ∀ r ∈ b.rates, 0 ≤ r.2
  steady : ∀ t, b.clock ≤ t → supply b.rates t = supply b.rates b.clock + b.rate * (t - b.clock)
  rate_nonneg : 0 ≤ b.rate
  last_le : b.last ≤ b.clock
  tokens_nonneg : 0 ≤ b.tokens
  tokens_le : b.tokens ≤ b.capacity
  credit : min (b.tokens + (b.clock - b.last) * b.rate) b.capacity ≤
    b.tokens + b.supplied b.last b.clock
  taken_le : ∀ g ∈ b.taken, g ≤ b.last
  since : ∀ s, s ≤ b.last → takenSince b.taken s + b.tokens ≤ b.capacity + b.supplied s b.last
  before : ∀ s t, s ≤ t → t ≤ b.last → (takenIn b.taken s t : K) ≤ b.capacity + b.supplied s t

section Sound

variable {b : Bucket K} {now rate s t : K}

omit [Field K] in
theorem takenIn_le_takenSince (taken : List K) (s t : K) :
    takenIn taken s t ≤ takenSince taken s := by
  apply List.countP_mono_left
  intro g _ hg
  simpa using (of_decide_eq_true hg).1

omit [Field K] in
theorem takenSince_eq_zero {taken : List K} (h : ∀ g ∈ taken, g < s) : takenSince taken s = 0 := by
  rw [takenSince, List.countP_eq_zero]
  intro g hg
  simpa using h g hg

variable [IsStrictOrderedRing K]

theorem supplied_nonneg (h : ∀ r ∈ b.rates, 0 ≤ r.2) (hle : s ≤ t) : 0 ≤ b.supplied s t :=
  sub_nonneg.mpr (supply_mono h hle)

/-- Windows that reach beyond the last refill hold no more than those that end with it. -/
theorem Bucket.Sound.limited (h : b.Sound) : b.Limited := by
  intro s t hle
  rcases le_total t b.last with hlast | hlast
  · exact h.before s t hle hlast
  · have hcount : (takenIn b.taken s t : K) ≤ takenSince b.taken s :=
      Nat.cast_le.mpr (takenIn_le_takenSince b.taken s t)
    have hcapacity := h.tokens_nonneg.trans h.tokens_le
    rcases le_or_gt s b.last with hs | hs
    · have hsince := h.since s hs
      have htokens := h.tokens_nonneg
      have hsupply := supply_mono h.rates_nonneg hlast
      rw [Bucket.supplied] at hsince ⊢
      linarith
    · rw [takenSince_eq_zero fun g hg => (h.taken_le g hg).trans_lt hs, Nat.cast_zero] at hcount
      have hsupplied := supplied_nonneg h.rates_nonneg hle
      linarith

theorem Bucket.sound_full {capacity start : K} (hcapacity : 0 ≤ capacity) (hrate : 0 ≤ rate) :
    (Bucket.full capacity rate start).Sound := by
  refine ⟨?_, ?_, hrate, le_rfl, hcapacity, le_rfl, ?_, ?_, ?_, ?_⟩
  · simpa [Bucket.full] using hrate
  · intro t ht
    simp only [Bucket.full] at ht ⊢
    rw [supply_cons_of_le ht, supply_cons_of_le le_rfl, sub_self, mul_zero, add_zero]
  · simp [Bucket.full, Bucket.supplied]
  · simp [Bucket.full]
  · intro s hs
    have hsupplied := supplied_nonneg (b := Bucket.full capacity rate start)
      (by simpa [Bucket.full] using hrate) hs
    simpa [Bucket.full, takenSince] using hsupplied
  · intro s t hst _
    have hsupplied := supplied_nonneg (b := Bucket.full capacity rate start)
      (by simpa [Bucket.full] using hrate) hst
    simpa [Bucket.full, takenIn] using add_nonneg hcapacity hsupplied

/-- The tokens at hand and those of the time since the last refill were supplied. -/
theorem Bucket.Sound.tokens_refill_le (h : b.Sound) (hnow : b.clock ≤ now) :
    (b.refill now).tokens ≤ b.tokens + b.supplied b.last now := by
  have hsplit : b.supplied b.last now = b.supplied b.last b.clock + b.rate * (now - b.clock) := by
    rw [Bucket.supplied, Bucket.supplied, h.steady now hnow]
    ring
  have hlater := mul_nonneg h.rate_nonneg (sub_nonneg.mpr hnow)
  have hcredit := h.credit
  rw [hsplit]
  rcases min_le_iff.mp hcredit with hle | hle
  · apply (min_le_left _ _).trans
    linarith
  · apply (min_le_right _ _).trans
    linarith

theorem Bucket.Sound.wait (h : b.Sound) (hnow : b.clock ≤ now) : (b.wait now).Sound := by
  refine ⟨h.rates_nonneg, ?_, h.rate_nonneg, h.last_le.trans hnow, h.tokens_nonneg, h.tokens_le,
    h.tokens_refill_le hnow, h.taken_le, h.since, h.before⟩
  intro t ht
  change now ≤ t at ht
  change supply b.rates t = supply b.rates now + b.rate * (t - now)
  rw [h.steady t (hnow.trans ht), h.steady now hnow]
  ring

theorem Bucket.Sound.refill (h : b.Sound) (hnow : b.clock ≤ now) : (b.refill now).Sound := by
  have hlast : b.last ≤ now := h.last_le.trans hnow
  have htokens := h.tokens_refill_le hnow
  have hcapacity := h.tokens_nonneg.trans h.tokens_le
  have hle : (b.refill now).tokens ≤ b.capacity := min_le_right _ _
  have htaken : ∀ g ∈ b.taken, g ≤ now := fun g hg => (h.taken_le g hg).trans hlast
  refine ⟨h.rates_nonneg, ?_, h.rate_nonneg, le_rfl, ?_, hle, ?_, htaken, ?_, ?_⟩
  · intro t ht
    change now ≤ t at ht
    change supply b.rates t = supply b.rates now + b.rate * (t - now)
    rw [h.steady t (hnow.trans ht), h.steady now hnow]
    ring
  · apply le_min _ hcapacity
    exact add_nonneg h.tokens_nonneg (mul_nonneg (sub_nonneg.mpr hlast) h.rate_nonneg)
  · apply (min_le_left _ _).trans
    simp [Bucket.refill, Bucket.supplied]
  · intro s hs
    change (takenSince b.taken s : K) + (b.refill now).tokens ≤ b.capacity + b.supplied s now
    rcases le_or_gt s b.last with hs' | hs'
    · have hsince := h.since s hs'
      simp only [Bucket.supplied] at hsince htokens ⊢
      linarith
    · rw [takenSince_eq_zero fun g hg => (h.taken_le g hg).trans_lt hs', Nat.cast_zero]
      have hsupplied := supplied_nonneg h.rates_nonneg hs
      change 0 ≤ b.supplied s now at hsupplied
      linarith
  · intro s t hst _
    exact h.limited s t hst

/-- A token is taken at the moment of the last refill. -/
theorem Bucket.Sound.take (h : b.Sound) (hclock : b.clock = b.last) (htoken : 1 ≤ b.tokens) :
    b.take.Sound := by
  have hsince : ∀ s, s ≤ b.last →
      (takenSince b.take.taken s : K) + (b.tokens - 1) ≤ b.capacity + b.supplied s b.last := by
    intro s hs
    have hold := h.since s hs
    rw [Bucket.take, takenSince, List.countP_cons_of_pos (by simpa using hs), Nat.cast_add,
      Nat.cast_one]
    rw [takenSince] at hold
    linarith
  refine ⟨h.rates_nonneg, h.steady, h.rate_nonneg, h.last_le, sub_nonneg.mpr htoken, ?_, ?_, ?_,
    hsince, ?_⟩
  · exact (sub_le_self _ zero_le_one).trans h.tokens_le
  · apply (min_le_left _ _).trans
    change b.tokens - 1 + (b.clock - b.last) * b.rate ≤ b.tokens - 1 + b.supplied b.last b.clock
    rw [hclock, sub_self, zero_mul, Bucket.supplied, sub_self]
  · intro g hg
    rcases List.mem_cons.mp hg with rfl | hg
    · exact le_rfl
    · exact h.taken_le g hg
  · intro s t hst ht
    change t ≤ b.last at ht
    change (takenIn (b.last :: b.taken) s t : K) ≤ b.capacity + b.supplied s t
    rcases eq_or_lt_of_le ht with rfl | hlt
    · have hnew := hsince s hst
      have hcount : (takenIn (b.last :: b.taken) s b.last : K) ≤ takenSince b.take.taken s :=
        Nat.cast_le.mpr (takenIn_le_takenSince _ _ _)
      linarith
    · rw [takenIn, List.countP_cons_of_neg (by simp [hlt])]
      exact h.before s t hst ht

omit [IsStrictOrderedRing K] in
theorem supplied_setRate_of_le (hs : s ≤ now) (ht : t ≤ now) :
    (b.setRate now rate).supplied s t = b.supplied s t := by
  rw [Bucket.supplied, Bucket.setRate, supply_cons_of_ge hs, supply_cons_of_ge ht]
  rfl

/-- A change of the rate keeps the bucket sound if it gives nothing to the time before it. -/
theorem Bucket.Sound.setRate (h : b.Sound) (hnow : b.clock ≤ now) (hrate : 0 ≤ rate)
    (hsettled : b.Settled now rate) : (b.setRate now rate).Sound := by
  have hlast : b.last ≤ now := h.last_le.trans hnow
  refine ⟨?_, ?_, hrate, hlast, h.tokens_nonneg, h.tokens_le, ?_, h.taken_le, ?_, ?_⟩
  · intro r hr
    rcases List.mem_cons.mp hr with rfl | hr
    · exact hrate
    · exact h.rates_nonneg r hr
  · intro t ht
    change now ≤ t at ht
    change supply ((now, rate) :: b.rates) t =
      supply ((now, rate) :: b.rates) now + rate * (t - now)
    rw [supply_cons_of_le ht, supply_cons_of_ge le_rfl]
  · change min (b.tokens + (now - b.last) * rate) b.capacity ≤
      b.tokens + (b.setRate now rate).supplied b.last now
    rw [supplied_setRate_of_le hlast le_rfl]
    rcases hsettled with hcredit | hfull
    · exact (min_le_left _ _).trans (add_le_add_right hcredit _)
    · exact (min_le_right _ _).trans hfull
  · intro s hs
    change s ≤ b.last at hs
    change _ ≤ b.capacity + (b.setRate now rate).supplied s b.last
    rw [supplied_setRate_of_le (hs.trans hlast) hlast]
    exact h.since s hs
  · intro s t hst ht
    change t ≤ b.last at ht
    change _ ≤ b.capacity + (b.setRate now rate).supplied s t
    rw [supplied_setRate_of_le (hst.trans (ht.trans hlast)) (ht.trans hlast)]
    exact h.before s t hst ht

end Sound

end Datasynth.Lib.TokenBucket

/-!
Requests counted in fixed windows: a window opens with a request and takes no more than a limit
of them, and the next one opens when it has passed.
-/

namespace Datasynth.Lib.FixedWindows

/-- The times of the requests that were taken, window by window. -/
structure Spaced (window limit : ℕ) (ws : List (List ℕ)) : Prop where
  shape : ∀ w ∈ ws, w.length ≤ limit ∧
    ∃ start rest, w = start :: rest ∧ ∀ t ∈ rest, start ≤ t ∧ t < start + window
  apart : ws.Pairwise fun w w' => ∀ start, w.head? = some start → ∀ t ∈ w', start + window ≤ t

variable {window limit : ℕ} {ws : List (List ℕ)}

theorem Spaced.tail {w : List ℕ} (h : Spaced window limit (w :: ws)) : Spaced window limit ws :=
  ⟨(List.forall_mem_cons.mp h.shape).2, (List.pairwise_cons.mp h.apart).2⟩

/-- A stretch of time as long as a window meets two windows at most. -/
theorem Spaced.countP_le (h : Spaced window limit ws) (a : ℕ) :
    (ws.flatten.countP fun t => a ≤ t ∧ t < a + window) ≤ 2 * limit := by
  induction ws with
  | nil => exact Nat.zero_le _
  | cons w ws ih =>
      obtain ⟨⟨hlength, start, rest, rfl, hrest⟩, -⟩ := List.forall_mem_cons.mp h.shape
      have hfirst := (List.pairwise_cons.mp h.apart).1
      rw [List.flatten_cons, List.countP_append]
      by_cases hmeets : ∃ t ∈ start :: rest, a ≤ t ∧ t < a + window
      · obtain ⟨t, ht, hat, hlt⟩ := hmeets
        have hend : a < start + window := by
          rcases List.mem_cons.mp ht with rfl | ht
          · omega
          · exact hat.trans_lt (hrest t ht).2
        have hle : (start :: rest).countP (fun t => a ≤ t ∧ t < a + window) ≤ limit :=
          List.countP_le_length.trans hlength
        cases ws with
        | nil =>
            rw [List.flatten_nil, List.countP_nil]
            omega
        | cons w ws =>
            obtain ⟨⟨hlength', start', rest', rfl, -⟩, -⟩ := List.forall_mem_cons.mp h.tail.shape
            have hnext := (List.pairwise_cons.mp h.tail.apart).1
            have hopens := hfirst _ List.mem_cons_self start rfl start' List.mem_cons_self
            have hle' : (start' :: rest').countP (fun t => a ≤ t ∧ t < a + window) ≤ limit :=
              List.countP_le_length.trans hlength'
            -- What comes after the second window comes after the stretch.
            have hlater : ws.flatten.countP (fun t => a ≤ t ∧ t < a + window) = 0 := by
              rw [List.countP_eq_zero]
              intro t ht
              obtain ⟨w, hw, htw⟩ := List.mem_flatten.mp ht
              have := hnext w hw start' rfl t htw
              simp only [decide_eq_true_eq, not_and, not_lt]
              omega
            rw [List.flatten_cons, List.countP_append, hlater]
            omega
      · have hnone : (start :: rest).countP (fun t => a ≤ t ∧ t < a + window) = 0 := by
          rw [List.countP_eq_zero]
          intro t ht hin
          exact hmeets ⟨t, ht, of_decide_eq_true hin⟩
        rw [hnone, Nat.zero_add]
        exact ih h.tail

/-- A window opens. -/
theorem Spaced.snoc {start : ℕ} (h : Spaced window limit ws) (hlimit : 1 ≤ limit)
    (hpassed : ∀ w ∈ ws, ∀ s, w.head? = some s → s + window ≤ start) :
    Spaced window limit (ws ++ [[start]]) := by
  constructor
  · rw [List.forall_mem_append, List.forall_mem_singleton]
    exact ⟨h.shape, hlimit, start, [], rfl, List.forall_mem_nil _⟩
  · rw [List.pairwise_append]
    refine ⟨h.apart, List.pairwise_singleton _ _, fun w hw w' hw' s hs t ht => ?_⟩
    rw [List.mem_singleton.mp hw', List.mem_singleton] at ht
    rw [ht]
    exact hpassed w hw s hs

/-- The open window takes one more request. -/
theorem Spaced.take {start now : ℕ} {rest : List ℕ}
    (h : Spaced window limit (ws ++ [start :: rest])) (hlength : rest.length + 1 < limit)
    (hstart : start ≤ now) (hnow : now < start + window) :
    Spaced window limit (ws ++ [start :: (rest ++ [now])]) := by
  obtain ⟨hshape, hlast⟩ := List.forall_mem_append.mp h.shape
  obtain ⟨hearlier, -, hapart⟩ := List.pairwise_append.mp h.apart
  obtain ⟨-, start', rest', heq, hrest⟩ := List.forall_mem_singleton.mp hlast
  cases heq
  constructor
  · rw [List.forall_mem_append, List.forall_mem_singleton]
    refine ⟨hshape, ?_, start, rest ++ [now], rfl, ?_⟩
    · simp only [List.length_cons, List.length_append, List.length_nil]
      omega
    · rw [List.forall_mem_append, List.forall_mem_singleton]
      exact ⟨hrest, hstart, hnow⟩
  · rw [List.pairwise_append]
    refine ⟨hearlier, List.pairwise_singleton _ _, fun w hw w' hw' s hs t ht => ?_⟩
    have hbefore := hapart w hw _ (List.mem_singleton_self _) s hs
    rw [List.mem_singleton.mp hw', ← List.cons_append, List.mem_append, List.mem_singleton] at ht
    rcases ht with ht | rfl
    · exact hbefore t ht
    · exact (hbefore start List.mem_cons_self).trans hstart

end Datasynth.Lib.FixedWindows
