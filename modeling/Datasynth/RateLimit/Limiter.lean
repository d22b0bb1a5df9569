import Datasynth.Lib.StepRuns
import Datasynth.Lib.TokenBucket
import Mathlib
import Mathlib.Data.Rat.Floor
import Mathlib.Order.Lattice

/-!
The token bucket rate limiter, with the readings of the clock that its calls take.
-/

namespace Datasynth.RateLimit.Limiter

inductive RateLimitBackpressure where
  | block
  | drop
  | buffer (max_buffered : ℕ)
deriving DecidableEq, Repr

structure RateLimitConfig where
  entities_per_second : ℚ
  burst_size : ℕ
  backpressure : RateLimitBackpressure
  enabled : Bool
deriving DecidableEq, Repr

inductive RateLimitAction where
  | proceed
  | dropped
  | buffered (position : ℕ)
  | waited (wait_time_ms : ℕ)
deriving DecidableEq, Repr

structure RateLimiterStats where
  total_acquisitions : ℕ
  immediate_proceeds : ℕ
  waits : ℕ
  drops : ℕ
  buffers : ℕ
  total_wait_time_ms : ℕ
  current_tokens : ℚ
  buffer_size : ℕ
deriving DecidableEq, Repr

structure RateLimiter where
  config : RateLimitConfig
  tokens : ℚ
  last_refill : ℚ
  buffer : List ℚ
  stats : RateLimiterStats
deriving DecidableEq, Repr

def as_millis (secs : ℚ) : ℕ := (secs * 1000).floor.toNat

def RateLimiter.new (config : RateLimitConfig) (now : ℚ) : RateLimiter where
  config := config
  tokens := config.burst_size
  last_refill := now
  buffer := []
  stats := ⟨0, 0, 0, 0, 0, 0, config.burst_size, 0⟩

section Calls

variable (s : RateLimiter)

def RateLimiter.countAcquisition : RateLimiter :=
  { s with stats := { s.stats with total_acquisitions := s.stats.total_acquisitions + 1 } }

def RateLimiter.countProceed : RateLimiter :=
  { s with stats := { s.stats with immediate_proceeds := s.stats.immediate_proceeds + 1 } }

def RateLimiter.countDrop : RateLimiter :=
  { s with stats := { s.stats with drops := s.stats.drops + 1 } }

def RateLimiter.countWait (wait_time : ℕ) : RateLimiter :=
  { s with stats := { s.stats with
      waits := s.stats.waits + 1
      total_wait_time_ms := s.stats.total_wait_time_ms + wait_time } }

def RateLimiter.refill_tokens (now : ℚ) : RateLimiter :=
  { s with
    tokens := min (s.tokens + (now - s.last_refill) * s.config.entities_per_second)
      s.config.burst_size
    last_refill := now }

def RateLimiter.takeToken : RateLimiter :=
  { s with
    tokens := s.tokens - 1
    stats := { s.stats with current_tokens := s.tokens - 1 } }

/-- The seconds until the next token; without a positive rate there is no such duration
and the source panics. -/
def RateLimiter.timeNeeded : Option ℚ :=
  if 0 < s.config.entities_per_second then some ((1 - s.tokens) / s.config.entities_per_second)
  else none

/-- `sleep` returns no earlier than after the given time. -/
def RateLimiter.sleep (secs later : ℚ) : Option RateLimiter :=
  if s.last_refill + secs ≤ later then some (s.refill_tokens later).takeToken else none

def RateLimiter.wait_for_token (later : ℚ) : Option (RateLimitAction × RateLimiter) :=
  s.timeNeeded.bind fun secs => (s.sleep secs later).map fun s' =>
    (.waited (as_millis secs), s'.countWait (as_millis secs))

/-- The call takes its second reading of the clock, `later`, only if it waits or buffers. -/
def RateLimiter.acquire (now later : ℚ) : Option (RateLimitAction × RateLimiter) :=
  if s.config.enabled then
    let s := s.countAcquisition.refill_tokens now
    if 1 ≤ s.tokens then some (.proceed, s.takeToken.countProceed)
    else
      match s.config.backpressure with
      | .block => s.wait_for_token later
      | .drop => some (.dropped, s.countDrop)
      | .buffer max_buffered =>
          if s.buffer.length < max_buffered then
            some (.buffered (s.buffer.length + 1),
              { s with
                buffer := s.buffer ++ [later]
                stats := { s.stats with
                  buffers := s.stats.buffers + 1
                  buffer_size := s.buffer.length + 1 } })
          else s.wait_for_token later
  else some (.proceed, s.countAcquisition.countProceed)

def RateLimiter.try_acquire (now : ℚ) : Option RateLimitAction × RateLimiter :=
  if s.config.enabled then
    let s := s.refill_tokens now
    if 1 ≤ s.tokens then (some .proceed, s.takeToken.countAcquisition.countProceed)
    else (none, s)
  else (some .proceed, s.countAcquisition.countProceed)

def RateLimiter.acquire_timeout (timeout now later : ℚ) :
    Option (Option RateLimitAction × RateLimiter) :=
  if s.config.enabled then
    let s := s.countAcquisition.refill_tokens now
    if 1 ≤ s.tokens then some (some .proceed, s.takeToken.countProceed)
    else
      s.timeNeeded.bind fun time_needed =>
        if timeout < time_needed then
          match s.config.backpressure with
          | .drop => some (some .dropped, s.countDrop)
          | _ => some (none, s)
        else
          (s.sleep time_needed later).map fun s' =>
            (some (.waited (as_millis time_needed)), s'.countWait (as_millis time_needed))
  else some (some .proceed, s.countAcquisition.countProceed)

/-- The loop of `process_buffer`: the waiting times of the released items, those that
stay, and the tokens left. -/
def releaseBuffered (later : ℚ) : List ℚ → ℚ → List ℚ × List ℚ × ℚ
  | [], tokens => ([], [], tokens)
  | enqueue_time :: rest, tokens =>
      if 1 ≤ tokens then
        let released := releaseBuffered later rest (tokens - 1)
        ((later - enqueue_time) :: released.1, released.2)
      else ([], enqueue_time :: rest, tokens)

def RateLimiter.process_buffer (now later : ℚ) : List ℚ × RateLimiter :=
  let s := s.refill_tokens now
  let released := releaseBuffered later s.buffer s.tokens
  (released.1,
    { s with
      buffer := released.2.1
      tokens := released.2.2
      stats := { s.stats with
        buffer_size := released.2.1.length
        current_tokens := released.2.2 } })

def RateLimiter.set_rate (entities_per_second : ℚ) : RateLimiter :=
  { s with config := { s.config with entities_per_second := entities_per_second } }

end Calls

/-- A call with its readings of the clock; `later` is the last one. -/
inductive Call where
  | acquire (now later : ℚ)
  | try_acquire (now : ℚ)
  | acquire_timeout (timeout now later : ℚ)
  | process_buffer (now later : ℚ)
  | set_rate (entities_per_second now : ℚ)
deriving DecidableEq, Repr

def Call.start : Call → ℚ
  | .acquire now _ => now
  | .try_acquire now => now
  | .acquire_timeout _ now _ => now
  | .process_buffer now _ => now
  | .set_rate _ now => now

def Call.finish : Call → ℚ
  | .acquire _ later => later
  | .try_acquire now => now
  | .acquire_timeout _ _ later => later
  | .process_buffer _ later => later
  | .set_rate _ now => now

/-- A limiter in use: the time, the rates that were in force since when, the moments at
which permits were granted, the newest first, and what the calls returned. -/
structure Session where
  limiter : RateLimiter
  clock : ℚ
  rates : List (ℚ × ℚ)
  permits : List ℚ
  outcomes : List RateLimitAction

def Session.new (config : RateLimitConfig) (now : ℚ) : Session where
  limiter := .new config now
  clock := now
  rates := [(now, config.entities_per_second)]
  permits := []
  outcomes := []

/-- The moment of the permit that an outcome stands for. -/
def permitOf (now later : ℚ) : Option RateLimitAction → List ℚ
  | some .proceed => [now]
  | some (.waited _) => [later]
  | _ => []

def Session.record (r : Session) (now later : ℚ) (result : Option RateLimitAction)
    (limiter : RateLimiter) : Session :=
  { r with
    limiter := limiter
    clock := later
    permits := permitOf now later result ++ r.permits
    outcomes := r.outcomes ++ result.toList }

def Session.run (r : Session) : Call → Option Session
  | .acquire now later =>
      (r.limiter.acquire now later).map fun result =>
        r.record now later (some result.1) result.2
  | .try_acquire now =>
      let result := r.limiter.try_acquire now
      some (r.record now now result.1 result.2)
  | .acquire_timeout timeout now later =>
      (r.limiter.acquire_timeout timeout now later).map fun result =>
        r.record now later result.1 result.2
  | .process_buffer now later =>
      let result := r.limiter.process_buffer now later
      some { r with
        limiter := result.2
        clock := later
        permits := result.1.map (fun _ => now) ++ r.permits }
  | .set_rate entities_per_second now =>
      some { r with
        limiter := r.limiter.set_rate entities_per_second
        clock := now
        rates := (now, entities_per_second) :: r.rates }

/-- The clock never goes back; a call that panics has no next session. -/
def step (r : Session) (call : Call) : Option Session :=
  if r.clock ≤ call.start ∧ call.start ≤ call.finish then r.run call else none

end Datasynth.RateLimit.Limiter

/-!
How many permits a rate limiter grants in any window, and that its counters add up.
-/

namespace Datasynth.RateLimit.PermitWindows

open Datasynth.Lib.GuardedRuns
open Datasynth.Lib.TokenBucket
open Datasynth.RateLimit.Limiter

def bucket (r : Session) : Bucket ℚ where
  capacity := r.limiter.config.burst_size
  tokens := r.limiter.tokens
  rate := r.limiter.config.entities_per_second
  last := r.limiter.last_refill
  clock := r.clock
  rates := r.rates
  taken := r.permits

/-- No window has more permits than the burst size and what the rates in force over it sum to. -/
def WithinRate (r : Session) : Prop :=
  ∀ from_time to_time, from_time ≤ to_time →
    (takenIn r.permits from_time to_time : ℚ) ≤
      r.limiter.config.burst_size + (supply r.rates to_time - supply r.rates from_time)

/-- Without a token `acquire` waits. -/
def waitsForToken (s : RateLimiter) : Bool :=
  match s.config.backpressure with
  | .block => true
  | .drop => false
  | .buffer max_buffered => max_buffered ≤ s.buffer.length

/-- A new rate is not negative and gives the time since the last refill nothing that was
not supplied then, and nobody waits for a token that an empty burst cannot hold. -/
def Paced (r : Session) : Call → Prop
  | .acquire _ _ => r.limiter.config.burst_size = 0 → waitsForToken r.limiter = false
  | .acquire_timeout timeout now _ =>
      r.limiter.config.burst_size = 0 →
        (r.limiter.refill_tokens now).timeNeeded.elim True fun secs => timeout < secs
  | .set_rate rate now =>
      0 ≤ rate ∧
        ((now - r.limiter.last_refill) * rate ≤
            supply r.rates now - supply r.rates r.limiter.last_refill ∨
          r.limiter.config.burst_size ≤
            r.limiter.tokens + (supply r.rates now - supply r.rates r.limiter.last_refill))
  | _ => True

/-- No call runs out of time without an outcome. -/
def Answered (r : Session) : Call → Prop
  | .acquire_timeout timeout now _ =>
      r.limiter.config.enabled = true → (r.limiter.refill_tokens now).tokens < 1 →
        r.limiter.config.backpressure ≠ .drop →
          (r.limiter.refill_tokens now).timeNeeded.elim True fun secs => secs ≤ timeout
  | _ => True

instance decidablePaced (r : Session) : (call : Call) → Decidable (Paced r call)
  | .acquire _ _ =>
      inferInstanceAs (Decidable (r.limiter.config.burst_size = 0 →
        waitsForToken r.limiter = false))
  | .acquire_timeout timeout now _ =>
      inferInstanceAs (Decidable (r.limiter.config.burst_size = 0 →
        (r.limiter.refill_tokens now).timeNeeded.elim True fun secs => timeout < secs))
  | .set_rate _ _ => inferInstanceAs (Decidable (_ ∧ (_ ∨ _)))
  | .try_acquire _ | .process_buffer _ _ => inferInstanceAs (Decidable True)

instance decidableAnswered (r : Session) : (call : Call) → Decidable (Answered r call)
  | .acquire_timeout timeout now _ =>
      inferInstanceAs (Decidable (r.limiter.config.enabled = true →
        (r.limiter.refill_tokens now).tokens < 1 → r.limiter.config.backpressure ≠ .drop →
          (r.limiter.refill_tokens now).timeNeeded.elim True fun secs => secs ≤ timeout))
  | .acquire _ _ | .try_acquire _ | .process_buffer _ _ | .set_rate _ _ =>
      inferInstanceAs (Decidable True)

def isWaited : RateLimitAction → Bool
  | .waited _ => true
  | _ => false

def isBuffered : RateLimitAction → Bool
  | .buffered _ => true
  | _ => false

/-- Every counted acquisition has one of the four outcomes. -/
structure Accounted (r : Session) : Prop where
  total : r.limiter.stats.total_acquisitions =
    r.limiter.stats.immediate_proceeds + r.limiter.stats.waits + r.limiter.stats.drops +
      r.limiter.stats.buffers
  proceeds : r.limiter.stats.immediate_proceeds = r.outcomes.count .proceed
  waits : r.limiter.stats.waits = r.outcomes.countP isWaited
  drops : r.limiter.stats.drops = r.outcomes.count .dropped
  buffers : r.limiter.stats.buffers = r.outcomes.countP isBuffered

section Permits

variable {r r' : Session} {now later : ℚ}

/-- After the sleep there is a token, if the bucket can hold one. -/
theorem one_le_tokens_of_sleep {s : RateLimiter} {secs : ℚ} (hburst : 1 ≤ s.config.burst_size)
    (hsecs : s.timeNeeded = some secs) (hlater : s.last_refill + secs ≤ later) :
    1 ≤ (s.refill_tokens later).tokens := by
  rw [RateLimiter.timeNeeded] at hsecs
  split at hsecs
  · rename_i hrate
    cases hsecs
    have hslept : (1 - s.tokens) / s.config.entities_per_second ≤ later - s.last_refill := by
      linarith
    rw [div_le_iff₀ hrate] at hslept
    apply le_min
    · linarith
    · exact_mod_cast hburst
  · cases hsecs

theorem sound_sleep {s s' : RateLimiter} {secs : ℚ}
    (hsound : (bucket { r with limiter := s, clock := s.last_refill }).Sound)
    (hburst : 1 ≤ s.config.burst_size) (hlater : s.last_refill ≤ later)
    (hsecs : s.timeNeeded = some secs) (hsleep : s.sleep secs later = some s') (millis : ℕ) :
    (bucket (r.record now later (some (.waited millis)) (s'.countWait millis))).Sound := by
  rw [RateLimiter.sleep] at hsleep
  split at hsleep
  · rename_i hready
    cases hsleep
    exact (hsound.refill hlater).take rfl (one_le_tokens_of_sleep hburst hsecs hready)
  · cases hsleep

variable (r now) in
theorem sound_wait_for_token {s : RateLimiter} {result : RateLimitAction × RateLimiter}
    (hsound : (bucket { r with limiter := s, clock := s.last_refill }).Sound)
    (hburst : 1 ≤ s.config.burst_size) (hlater : s.last_refill ≤ later)
    (hwait : s.wait_for_token later = some result) :
    (bucket (r.record now later (some result.1) result.2)).Sound := by
  obtain ⟨secs, hsecs, hslept⟩ := Option.bind_eq_some_iff.mp hwait
  obtain ⟨s', hs', rfl⟩ := Option.map_eq_some_iff.mp hslept
  exact sound_sleep hsound hburst hlater hsecs hs' _

theorem sound_acquire {result : RateLimitAction × RateLimiter} (hsound : (bucket r).Sound)
    (henabled : r.limiter.config.enabled = true) (hnow : r.clock ≤ now) (hlater : now ≤ later)
    (hpaced : Paced r (.acquire now later))
    (hacquire : r.limiter.acquire now later = some result) :
    (bucket (r.record now later (some result.1) result.2)).Sound := by
  have hrefilled : (bucket { r with
      limiter := r.limiter.countAcquisition.refill_tokens now, clock := now }).Sound :=
    hsound.refill hnow
  have hburst : waitsForToken r.limiter = true → 1 ≤ r.limiter.config.burst_size := by
    intro hwaits
    rw [Nat.one_le_iff_ne_zero]
    intro hzero
    rw [hpaced hzero] at hwaits
    cases hwaits
  rw [RateLimiter.acquire, if_pos henabled] at hacquire
  simp only at hacquire
  split at hacquire
  · rename_i htoken
    cases hacquire
    exact (hrefilled.take rfl htoken).wait hlater
  · split at hacquire
    · rename_i hblock
      have hblock' : r.limiter.config.backpressure = .block := hblock
      have hwaits : waitsForToken r.limiter = true := by rw [waitsForToken, hblock']
      exact sound_wait_for_token r now hrefilled (hburst hwaits) hlater hacquire
    · cases hacquire
      exact hrefilled.wait hlater
    · rename_i max_buffered hbuffer
      split at hacquire
      · cases hacquire
        exact hrefilled.wait hlater
      · rename_i hfull
        have hbuffer' : r.limiter.config.backpressure = .buffer max_buffered := hbuffer
        have hwaits : waitsForToken r.limiter = true := by
          rw [waitsForToken, hbuffer']
          exact decide_eq_true (not_lt.mp hfull)
        exact sound_wait_for_token r now hrefilled (hburst hwaits) hlater hacquire

theorem sound_try_acquire (hsound : (bucket r).Sound)
    (henabled : r.limiter.config.enabled = true) (hnow : r.clock ≤ now) :
    (bucket (r.record now now (r.limiter.try_acquire now).1
      (r.limiter.try_acquire now).2)).Sound := by
  have hrefilled := hsound.refill hnow
  rw [RateLimiter.try_acquire, if_pos henabled]
  simp only
  split
  · rename_i htoken
    exact hrefilled.take rfl htoken
  · exact hrefilled

theorem sound_acquire_timeout {timeout : ℚ} {result : Option RateLimitAction × RateLimiter}
    (hsound : (bucket r).Sound) (henabled : r.limiter.config.enabled = true) (hnow : r.clock ≤ now)
    (hlater : now ≤ later) (hpaced : Paced r (.acquire_timeout timeout now later))
    (hacquire : r.limiter.acquire_timeout timeout now later = some result) :
    (bucket (r.record now later result.1 result.2)).Sound := by
  have hrefilled : (bucket { r with
      limiter := r.limiter.countAcquisition.refill_tokens now, clock := now }).Sound :=
    hsound.refill hnow
  rw [RateLimiter.acquire_timeout, if_pos henabled] at hacquire
  simp only at hacquire
  split at hacquire
  · rename_i htoken
    cases hacquire
    exact (hrefilled.take rfl htoken).wait hlater
  · obtain ⟨secs, hsecs, hrest⟩ := Option.bind_eq_some_iff.mp hacquire
    split at hrest
    · split at hrest
      · cases hrest
        exact hrefilled.wait hlater
      · cases hrest
        exact hrefilled.wait hlater
    · rename_i htimely
      obtain ⟨s', hs', rfl⟩ := Option.map_eq_some_iff.mp hrest
      have hburst : 1 ≤ r.limiter.config.burst_size := by
        rw [Nat.one_le_iff_ne_zero]
        intro hzero
        have hlate := hpaced hzero
        have hsame : (r.limiter.refill_tokens now).timeNeeded = some secs := hsecs
        rw [hsame] at hlate
        exact htimely hlate
      exact sound_sleep hrefilled hburst hlater hsecs hs' _

theorem sound_releaseBuffered {b : Bucket ℚ} (hclock : b.clock = b.last) (buffer : List ℚ)
    (hsound : b.Sound) :
    ({ b with
        tokens := (releaseBuffered later buffer b.tokens).2.2
        taken := (releaseBuffered later buffer b.tokens).1.map (fun _ => b.last) ++ b.taken } :
      Bucket ℚ).Sound := by
  induction buffer generalizing b with
  | nil => exact hsound
  | cons enqueue_time rest ih =>
      rw [releaseBuffered]
      split
      · rename_i htoken
        have hrest := ih (b := b.take) hclock (hsound.take hclock htoken)
        -- The permits of one call have one moment, whichever comes first.
        have htaken : ∀ released : List ℚ, released.map (fun _ => b.last) ++ b.last :: b.taken =
            b.last :: released.map (fun _ => b.last) ++ b.taken := by
          intro released
          induction released with
          | nil => rfl
          | cons _ released ih =>
              rw [List.map_cons, List.cons_append, ih]
              rfl
        change Bucket.Sound { b with
          tokens := _
          taken := (releaseBuffered later rest b.take.tokens).1.map (fun _ => b.last) ++
            b.last :: b.taken } at hrest
        rw [htaken] at hrest
        exact hrest
      · exact hsound

theorem sound_process_buffer (hsound : (bucket r).Sound) (hnow : r.clock ≤ now)
    (hlater : now ≤ later) (hrun : r.run (.process_buffer now later) = some r') :
    (bucket r').Sound := by
  cases hrun
  have hrefilled := hsound.refill hnow
  exact (sound_releaseBuffered rfl _ hrefilled).wait hlater

/-- One call on an enabled limiter. -/
theorem sound_step {call : Call} (henabled : r.limiter.config.enabled = true)
    (hsound : (bucket r).Sound) (hpaced : Paced r call) (hstep : step r call = some r') :
    (bucket r').Sound := by
  rw [step] at hstep
  split at hstep
  · rename_i hclock
    obtain ⟨hnow, hlater⟩ := hclock
    cases call with
    | acquire now later =>
        obtain ⟨result, hresult, rfl⟩ := Option.map_eq_some_iff.mp hstep
        exact sound_acquire hsound henabled hnow hlater hpaced hresult
    | try_acquire now =>
        cases hstep
        exact sound_try_acquire hsound henabled hnow
    | acquire_timeout timeout now later =>
        obtain ⟨result, hresult, rfl⟩ := Option.map_eq_some_iff.mp hstep
        exact sound_acquire_timeout hsound henabled hnow hlater hpaced hresult
    | process_buffer now later => exact sound_process_buffer hsound hnow hlater hstep
    | set_rate rate now =>
        cases hstep
        exact hsound.setRate hnow hpaced.1 hpaced.2
  · cases hstep

end Permits

section Outcomes

variable {r r' : Session} {s s' : RateLimiter} {now later : ℚ}

/-- What a call with an outcome does to the counters. -/
structure Counts (stats stats' : RateLimiterStats) (outcome : RateLimitAction) : Prop where
  total : stats'.total_acquisitions = stats.total_acquisitions + 1
  proceeds : stats'.immediate_proceeds = stats.immediate_proceeds + [outcome].count .proceed
  waits : stats'.waits = stats.waits + [outcome].countP isWaited
  drops : stats'.drops = stats.drops + [outcome].count .dropped
  buffers : stats'.buffers = stats.buffers + [outcome].countP isBuffered

theorem counts_sleep {secs : ℚ} (h : s.sleep secs later = some s') (millis : ℕ)
    {stats : RateLimiterStats}
    (hs : s.stats = { stats with total_acquisitions := stats.total_acquisitions + 1 }) :
    Counts stats (s'.countWait millis).stats (.waited millis) := by
  rw [RateLimiter.sleep] at h
  split at h
  · cases h
    simp only [RateLimiter.countWait, RateLimiter.takeToken, RateLimiter.refill_tokens, hs]
    exact ⟨rfl, rfl, rfl, rfl, rfl⟩
  · cases h

theorem counts_acquire {result : RateLimitAction × RateLimiter}
    (h : s.acquire now later = some result) : Counts s.stats result.2.stats result.1 := by
  have hwait : ∀ result, (s.countAcquisition.refill_tokens now).wait_for_token later = some result →
      Counts s.stats result.2.stats result.1 := by
    intro result hresult
    obtain ⟨secs, -, hslept⟩ := Option.bind_eq_some_iff.mp hresult
    obtain ⟨s', hs', rfl⟩ := Option.map_eq_some_iff.mp hslept
    exact counts_sleep hs' _ rfl
  rw [RateLimiter.acquire] at h
  split at h
  · simp only at h
    split at h
    · cases h
      exact ⟨rfl, rfl, rfl, rfl, rfl⟩
    · split at h
      · exact hwait result h
      · cases h
        exact ⟨rfl, rfl, rfl, rfl, rfl⟩
      · split at h
        · cases h
          exact ⟨rfl, rfl, rfl, rfl, rfl⟩
        · exact hwait result h
  · cases h
    exact ⟨rfl, rfl, rfl, rfl, rfl⟩

/-- The counters of an attempt; `none` counts nothing. -/
def Attempt (stats stats' : RateLimiterStats) : Option RateLimitAction → Prop
  | none => stats' = stats
  | some outcome => Counts stats stats' outcome

theorem attempt_try_acquire (s : RateLimiter) (now : ℚ) :
    Attempt s.stats (s.try_acquire now).2.stats (s.try_acquire now).1 := by
  rw [RateLimiter.try_acquire]
  split
  · simp only
    split
    · exact ⟨rfl, rfl, rfl, rfl, rfl⟩
    · rfl
  · exact ⟨rfl, rfl, rfl, rfl, rfl⟩

theorem attempt_acquire_timeout {timeout : ℚ} {result : Option RateLimitAction × RateLimiter}
    (hanswered : Answered r (.acquire_timeout timeout now later))
    (h : r.limiter.acquire_timeout timeout now later = some result) :
    Attempt r.limiter.stats result.2.stats result.1 := by
  rw [RateLimiter.acquire_timeout] at h
  split at h
  · rename_i henabled
    simp only at h
    split at h
    · cases h
      exact ⟨rfl, rfl, rfl, rfl, rfl⟩
    · rename_i htoken
      obtain ⟨secs, hsecs, hrest⟩ := Option.bind_eq_some_iff.mp h
      split at hrest
      · rename_i hlate
        split at hrest
        · cases hrest
          exact ⟨rfl, rfl, rfl, rfl, rfl⟩
        · rename_i hstrategy
          have htimely := hanswered henabled (not_le.mp htoken) hstrategy
          have hsame : (r.limiter.refill_tokens now).timeNeeded = some secs := hsecs
          rw [hsame] at htimely
          exact absurd htimely (not_le.mpr hlate)
      · obtain ⟨s', hs', rfl⟩ := Option.map_eq_some_iff.mp hrest
        exact counts_sleep hs' _ rfl
  · cases h
    exact ⟨rfl, rfl, rfl, rfl, rfl⟩

theorem Accounted.record (h : Accounted r) {result : Option RateLimitAction}
    (hattempt : Attempt r.limiter.stats s'.stats result) :
    Accounted (r.record now later result s') := by
  cases result with
  | none =>
      have hstats : s'.stats = r.limiter.stats := hattempt
      have houtcomes : r.outcomes ++ (none : Option RateLimitAction).toList = r.outcomes :=
        List.append_nil _
      constructor
      · rw [Session.record, hstats]
        exact h.total
      · simp only [Session.record, hstats, houtcomes]
        exact h.proceeds
      · simp only [Session.record, hstats, houtcomes]
        exact h.waits
      · simp only [Session.record, hstats, houtcomes]
        exact h.drops
      · simp only [Session.record, hstats, houtcomes]
        exact h.buffers
  | some outcome =>
      have hcounts : Counts r.limiter.stats s'.stats outcome := hattempt
      constructor
      · simp only [Session.record]
        rw [hcounts.total, hcounts.proceeds, hcounts.waits, hcounts.drops, hcounts.buffers,
          h.total]
        cases outcome <;> simp [isWaited, isBuffered] <;> omega
      · simp only [Session.record]
        rw [hcounts.proceeds, h.proceeds, ← List.count_append]
        rfl
      · simp only [Session.record]
        rw [hcounts.waits, h.waits, ← List.countP_append]
        rfl
      · simp only [Session.record]
        rw [hcounts.drops, h.drops, ← List.count_append]
        rfl
      · simp only [Session.record]
        rw [hcounts.buffers, h.buffers, ← List.countP_append]
        rfl

theorem Accounted.step {call : Call} (h : Accounted r) (hanswered : Answered r call)
    (hstep : step r call = some r') : Accounted r' := by
  rw [Limiter.step] at hstep
  split at hstep
  · cases call with
    | acquire now later =>
        obtain ⟨result, hresult, rfl⟩ := Option.map_eq_some_iff.mp hstep
        exact h.record (counts_acquire hresult)
    | try_acquire now =>
        cases hstep
        exact h.record (attempt_try_acquire _ _)
    | acquire_timeout timeout now later =>
        obtain ⟨result, hresult, rfl⟩ := Option.map_eq_some_iff.mp hstep
        exact h.record (attempt_acquire_timeout hanswered hresult)
    | process_buffer now later =>
        cases hstep
        exact ⟨h.total, h.proceeds, h.waits, h.drops, h.buffers⟩
    | set_rate rate now =>
        cases hstep
        exact ⟨h.total, h.proceeds, h.waits, h.drops, h.buffers⟩
  · cases hstep

end Outcomes

section Runs

variable {r r' : Session} {s s' : RateLimiter} {now later : ℚ}

theorem config_sleep {secs : ℚ} (h : s.sleep secs later = some s') : s'.config = s.config := by
  rw [RateLimiter.sleep] at h
  split at h
  · cases h
    rfl
  · cases h

theorem config_wait_for_token {result : RateLimitAction × RateLimiter}
    (h : s.wait_for_token later = some result) : result.2.config = s.config := by
  obtain ⟨secs, -, hslept⟩ := Option.bind_eq_some_iff.mp h
  obtain ⟨s', hs', rfl⟩ := Option.map_eq_some_iff.mp hslept
  have hconfig := config_sleep hs'
  exact hconfig

theorem config_acquire {result : RateLimitAction × RateLimiter}
    (h : s.acquire now later = some result) : result.2.config = s.config := by
  rw [RateLimiter.acquire] at h
  split at h
  · simp only at h
    split at h
    · cases h
      rfl
    · split at h
      · have hconfig := config_wait_for_token h
        exact hconfig
      · cases h
        rfl
      · split at h
        · cases h
          rfl
        · have hconfig := config_wait_for_token h
          exact hconfig
  · cases h
    rfl

theorem config_try_acquire (s : RateLimiter) (now : ℚ) :
    (s.try_acquire now).2.config = s.config := by
  rw [RateLimiter.try_acquire]
  split
  · simp only
    split <;> rfl
  · rfl

theorem config_acquire_timeout {timeout : ℚ} {result : Option RateLimitAction × RateLimiter}
    (h : s.acquire_timeout timeout now later = some result) : result.2.config = s.config := by
  rw [RateLimiter.acquire_timeout] at h
  split at h
  · simp only at h
    split at h
    · cases h
      rfl
    · obtain ⟨secs, -, hrest⟩ := Option.bind_eq_some_iff.mp h
      split at hrest
      · split at hrest
        · cases hrest
          rfl
        · cases hrest
          rfl
      · obtain ⟨s', hs', rfl⟩ := Option.map_eq_some_iff.mp hrest
        have hconfig := config_sleep hs'
        exact hconfig
  · cases h
    rfl

theorem enabled_step {call : Call} (h : step r call = some r') :
    r'.limiter.config.enabled = r.limiter.config.enabled := by
  rw [step] at h
  split at h
  · cases call with
    | acquire now later =>
        obtain ⟨result, hresult, rfl⟩ := Option.map_eq_some_iff.mp h
        exact congrArg RateLimitConfig.enabled (config_acquire hresult)
    | try_acquire now =>
        cases h
        exact congrArg RateLimitConfig.enabled (config_try_acquire _ _)
    | acquire_timeout timeout now later =>
        obtain ⟨result, hresult, rfl⟩ := Option.map_eq_some_iff.mp h
        exact congrArg RateLimitConfig.enabled (config_acquire_timeout hresult)
    | process_buffer now later =>
        cases h
        rfl
    | set_rate rate now =>
        cases h
        rfl
  · cases h

/-- An enabled limiter keeps to its rate while every new rate is settled and no empty burst
is waited for; its counters add up while no call runs out of time without an outcome. -/
theorem within_rate_and_accounted (config : RateLimitConfig) (start : ℚ) (calls : List Call)
    (r : Session) (hrun : replay step (Session.new config start) calls = some r) :
    (config.enabled = true → 0 ≤ config.entities_per_second →
        Guarded step Paced (Session.new config start) calls → WithinRate r) ∧
      (Guarded step Answered (Session.new config start) calls → Accounted r) := by
  constructor
  · intro henabled hrate hpaced
    have hstep : ∀ (r : Session) (call : Call) (r' : Session),
        r.limiter.config.enabled = true ∧ (bucket r).Sound → Paced r call →
          step r call = some r' → r'.limiter.config.enabled = true ∧ (bucket r').Sound := by
      intro r call r' hinv hpaced hstep
      exact ⟨(enabled_step hstep).trans hinv.1, sound_step hinv.1 hinv.2 hpaced hstep⟩
    have hsound := replay_invariant hstep hrun hpaced
      ⟨henabled, Bucket.sound_full (Nat.cast_nonneg _) hrate⟩
    exact hsound.2.limited
  · intro hanswered
    exact replay_invariant (fun _ _ _ h ha hstep => h.step ha hstep) hrun hanswered
      ⟨rfl, rfl, rfl, rfl, rfl⟩

end Runs

/-- One entity in a second, three at once. -/
def slowConfig : RateLimitConfig where
  entities_per_second := 1
  burst_size := 3
  backpressure := .block
  enabled := true

def steadyCalls : List Call :=
  [.acquire 0 0, .acquire_timeout 5 0 0, .try_acquire 0, .set_rate 2 0, .acquire 1 1, .acquire 1 1,
    .acquire 1 2, .process_buffer 2 2]

theorem steady_calls_are_limited : ∃ r : Session,
    replay step (Session.new slowConfig 0) steadyCalls = some r ∧ WithinRate r ∧ Accounted r := by
  have hsome : (replay step (Session.new slowConfig 0) steadyCalls).isSome = true := by
    decide_cbv
  have hlimited := within_rate_and_accounted slowConfig 0 steadyCalls _ (Option.some_get hsome).symm
  exact ⟨_, (Option.some_get hsome).symm, hlimited.1 rfl (by decide_cbv) (by decide_cbv),
    hlimited.2 (by decide_cbv)⟩

/-- The bucket is drained; a second later the rate is raised and the second counts anew. -/
def raisedCalls : List Call :=
  [.try_acquire 0, .try_acquire 0, .try_acquire 0, .set_rate 1000 1, .try_acquire 1, .try_acquire 1]

theorem raised_rate_grants_too_much : ∃ r : Session,
    replay step (Session.new slowConfig 0) raisedCalls = some r ∧ r.permits = [1, 1, 0, 0, 0] ∧
      supply r.rates 1 - supply r.rates 0 = 1 ∧ ¬ WithinRate r := by
  refine ⟨_, rfl, by decide_cbv, by decide_cbv, ?_⟩
  intro h
  exact absurd (h 0 1 (by decide_cbv)) (by decide_cbv)

end Datasynth.RateLimit.PermitWindows
