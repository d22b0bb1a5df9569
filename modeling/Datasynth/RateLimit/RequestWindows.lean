import Mathlib.Data.String.Basic
import Datasynth.Lib.SortedEntries
import Datasynth.Lib.TokenBucket

/-!
The rate limiter of the REST server: requests are counted per client, in windows that open with
a request.  A record is replaced when its window has passed, and may be removed then.
-/

namespace Datasynth.RateLimit.RequestWindows

open Datasynth.Lib.FixedWindows
open Datasynth.Lib.SortedEntries

/-- Times and durations are in nanoseconds. -/
structure RateLimitConfig where
  enabled : Bool
  max_requests : ℕ
  window : ℕ
  exempt_paths : List String
deriving DecidableEq, Repr

instance : Inhabited RateLimitConfig :=
  ⟨⟨false, 100, 60 * 1000000000, ["/health", "/ready", "/live"]⟩⟩

def RateLimitConfig.new (max_requests window_secs : ℕ) : RateLimitConfig :=
  ⟨true, max_requests, window_secs * 1000000000, ["/health", "/ready", "/live"]⟩

def RateLimitConfig.with_exempt_paths (config : RateLimitConfig) (paths : List String) :
    RateLimitConfig :=
  { config with exempt_paths := config.exempt_paths ++ paths }

structure RequestRecord where
  count : ℕ
  window_start : ℕ
deriving DecidableEq, Repr

abbrev Records := OrderedMap String RequestRecord

variable (config : RateLimitConfig)

/-- The window of the record has passed. -/
def Passed (now : ℕ) (record : RequestRecord) : Prop := config.window ≤ now - record.window_start

instance (now : ℕ) (record : RequestRecord) : Decidable (Passed config now record) := by
  unfold Passed
  infer_instance

def check_rate_limit (now : ℕ) (key : String) (records : Records) : Bool × Records :=
  if config.enabled = false then (true, records)
  else
    match records.find? key with
    | some record =>
        if Passed config now record then (true, records.insert key ⟨1, now⟩)
        else if record.count < config.max_requests then
          (true, records.insert key { record with count := record.count + 1 })
        else (false, records)
    | none => (true, records.insert key ⟨1, now⟩)

def remaining (now : ℕ) (key : String) (records : Records) : ℕ :=
  if config.enabled = false then config.max_requests
  else
    match records.find? key with
    | some record =>
        if Passed config now record then config.max_requests
        else config.max_requests - record.count
    | none => config.max_requests

def cleanup_expired (now : ℕ) (records : Records) : Records :=
  records.filterMap fun _ record => if Passed config now record then none else some record

/-- What the middleware reads of a request; a header that is no text counts as missing. -/
structure Request where
  path : String
  forwarded_for : Option String
  real_ip : Option String
deriving DecidableEq, Repr

/-- A header has no white space but blanks and tabs. -/
def trim (text : List Char) : List Char :=
  ((text.dropWhile fun c => c = ' ' ∨ c = '\t').reverse.dropWhile
    fun c => c = ' ' ∨ c = '\t').reverse

def extract_client_key (request : Request) : String :=
  match request.forwarded_for with
  | some s => String.ofList (trim (s.toList.takeWhile (· ≠ ',')))
  | none => request.real_ip.getD "unknown"

def isExempt (request : Request) : Bool :=
  config.exempt_paths.any fun p => p.toList.isPrefixOf request.path.toList

/-- What can happen while the server runs; each takes the lock of the records once.  A request
that is let through has its headers written when it has been answered. -/
inductive Event where
  | request (request : Request)
  | headers (key : String)
  | cleanup
deriving DecidableEq, Repr

inductive Outcome where
  | exempt
  | admitted (key : String)
  | limited (key : String) (limit retry_after : ℕ) (body : String)
  | remaining (key : String) (limit remaining : ℕ)
  | cleaned
deriving DecidableEq, Repr

def limitedOutcome (key : String) : Outcome :=
  let window_secs := config.window / 1000000000
  .limited key config.max_requests window_secs
    ("Rate limit exceeded. Max " ++ toString config.max_requests ++ " requests per " ++
      toString window_secs ++ " seconds.")

def rate_limit_middleware (now : ℕ) (request : Request) (records : Records) : Outcome × Records :=
  if isExempt config request then (.exempt, records)
  else
    let client_key := extract_client_key request
    let checked := check_rate_limit config now client_key records
    (if checked.1 then .admitted client_key else limitedOutcome config client_key, checked.2)

def step (now : ℕ) : Event → Records → Outcome × Records
  | .request request, records => rate_limit_middleware config now request records
  | .headers key, records =>
      (.remaining key config.max_requests (remaining config now key records), records)
  | .cleanup, records => (.cleaned, cleanup_expired config now records)

/-- The outcomes of a run, each with its time. -/
def run : List (ℕ × Event) → Records → List (ℕ × Outcome)
  | [], _ => []
  | (now, event) :: events, records =>
      let stepped := step config now event records
      (now, stepped.1) :: run events stepped.2

/-- The times at which requests of a client are let through. -/
def admittedTimes (key : String) (outcomes : List (ℕ × Outcome)) : List ℕ :=
  (outcomes.filter fun o => o.2 = .admitted key).map (·.1)

def clientRequest : Request := ⟨"/api/jobs", some "10.0.0.1, 10.0.0.9", none⟩

/-- Three requests of one client, of which the limit allows two, and one after a minute. -/
def busyMinute : List (ℕ × Event) :=
  [(0, .request clientRequest), (1, .request ⟨"/api/jobs", none, none⟩),
    (2, .request clientRequest), (3, .request clientRequest), (4, .headers "10.0.0.1"),
    (5, .cleanup), (60000000000, .request clientRequest)]

section Windows

variable {config} {key : String} {now now' : ℕ} {records : Records} {ws : List (List ℕ)}

/-- The record of a client counts the newest window of its requests; without a record all
windows have passed. -/
structure Counting (config : RateLimitConfig) (key : String) (now : ℕ) (records : Records)
    (ws : List (List ℕ)) : Prop where
  spaced : Spaced config.window (max config.max_requests 1) ws
  passed : records.find? key = none →
    ∀ w ∈ ws, ∀ s, w.head? = some s → s + config.window ≤ now
  counted : ∀ record, records.find? key = some record → record.window_start ≤ now ∧
    ∃ earlier rest, ws = earlier ++ [record.window_start :: rest] ∧
      rest.length + 1 = record.count

theorem Counting.later (h : Counting config key now records ws) (hle : now ≤ now') :
    Counting config key now' records ws where
  spaced := h.spaced
  passed hnone w hw s hs := (h.passed hnone w hw s hs).trans hle
  counted record hrecord := ⟨(h.counted record hrecord).1.trans hle, (h.counted record hrecord).2⟩

theorem Counting.congr {records' : Records} (h : Counting config key now records ws)
    (hsame : records'.find? key = records.find? key) : Counting config key now records' ws where
  spaced := h.spaced
  passed hnone := h.passed (hsame ▸ hnone)
  counted record hrecord := h.counted record (hsame ▸ hrecord)

/-- When the window of the record has passed, all windows have. -/
theorem Counting.all_passed (h : Counting config key now records ws) {record : RequestRecord}
    (hrecord : records.find? key = some record) (hpassed : Passed config now record) :
    ∀ w ∈ ws, ∀ s, w.head? = some s → s + config.window ≤ now := by
  obtain ⟨hstart, earlier, rest, rfl, -⟩ := h.counted record hrecord
  rw [Passed] at hpassed
  have hend : record.window_start + config.window ≤ now := by omega
  obtain ⟨-, -, hapart⟩ := List.pairwise_append.mp h.spaced.apart
  intro w hw s hs
  rcases List.mem_append.mp hw with hw | hw
  · exact (hapart w hw _ (List.mem_singleton_self _) s hs _ List.mem_cons_self).trans hstart
  · rw [List.mem_singleton.mp hw, List.head?_cons, Option.some.injEq] at hs
    rw [← hs]
    exact hend

theorem Counting.open_window (h : Counting config key now records ws)
    (hpassed : ∀ w ∈ ws, ∀ s, w.head? = some s → s + config.window ≤ now) :
    Counting config key now (records.insert key ⟨1, now⟩) (ws ++ [[now]]) where
  spaced := h.spaced.snoc (le_max_right _ _) hpassed
  passed hnone := by
    rw [OrderedMap.find?_insert, if_pos rfl] at hnone
    cases hnone
  counted record hrecord := by
    rw [OrderedMap.find?_insert, if_pos rfl] at hrecord
    cases hrecord
    exact ⟨le_rfl, ws, [], rfl, rfl⟩

/-- A request is let through into the newest window or a new one, or the limit is reached. -/
theorem Counting.check (h : Counting config key now records ws) (henabled : config.enabled = true) :
    ((check_rate_limit config now key records).1 = true ∧
      ∃ ws', Counting config key now (check_rate_limit config now key records).2 ws' ∧
        ws'.flatten = ws.flatten ++ [now]) ∨
    (check_rate_limit config now key records = (false, records) ∧
      config.max_requests ≤ ws.flatten.countP fun t => now < t + config.window) := by
  rw [check_rate_limit, if_neg (by rw [henabled]; decide)]
  cases hrecord : records.find? key with
  | none => exact .inl ⟨rfl, _, h.open_window (h.passed hrecord), by simp⟩
  | some record =>
      dsimp only
      by_cases hpassed : Passed config now record
      · rw [if_pos hpassed]
        exact .inl ⟨rfl, _, h.open_window (h.all_passed hrecord hpassed), by simp⟩
      · rw [if_neg hpassed]
        obtain ⟨hstart, earlier, rest, rfl, hcount⟩ := h.counted record hrecord
        rw [Passed, not_le] at hpassed
        split
        · rename_i hbelow
          refine .inl ⟨rfl, earlier ++ [record.window_start :: (rest ++ [now])],
            ⟨h.spaced.take ?_ hstart ?_, ?_, ?_⟩, by simp⟩
          · exact hcount ▸ lt_max_of_lt_left hbelow
          · omega
          · intro hnone
            rw [OrderedMap.find?_insert, if_pos rfl] at hnone
            cases hnone
          · intro record' hrecord'
            rw [OrderedMap.find?_insert, if_pos rfl] at hrecord'
            cases hrecord'
            exact ⟨hstart, earlier, rest ++ [now], rfl, by simp [hcount]⟩
        · rename_i hreached
          refine .inr ⟨rfl, ?_⟩
          obtain ⟨-, start', rest', heq, hrest⟩ := h.spaced.shape _ (List.mem_append_right _
            (List.mem_singleton_self (record.window_start :: rest)))
          cases heq
          have hall : (record.window_start :: rest).countP (fun t => now < t + config.window) =
              (record.window_start :: rest).length := by
            rw [List.countP_eq_length, List.forall_mem_cons]
            refine ⟨decide_eq_true (by omega), fun t ht => decide_eq_true ?_⟩
            have := (hrest t ht).1
            omega
          rw [List.length_cons] at hall
          rw [List.flatten_append, List.flatten_singleton, List.countP_append]
          omega

theorem find?_check_rate_limit_of_ne {client_key : String} (hne : key ≠ client_key) :
    (check_rate_limit config now client_key records).2.find? key = records.find? key := by
  rw [check_rate_limit]
  split
  · rfl
  · split
    · split
      · exact (OrderedMap.find?_insert _ _ _ _).trans (if_neg hne)
      · split
        · exact (OrderedMap.find?_insert _ _ _ _).trans (if_neg hne)
        · rfl
    · exact (OrderedMap.find?_insert _ _ _ _).trans (if_neg hne)

/-- A record that is removed has passed. -/
theorem find?_cleanup_expired (config : RateLimitConfig) (key : String) (now : ℕ)
    (records : Records) :
    (cleanup_expired config now records).find? key = records.find? key ∨
      ((cleanup_expired config now records).find? key = none ∧
        ∃ record, records.find? key = some record ∧ Passed config now record) := by
  have hfind := fun v => OrderedMap.find?_filterMap_eq_some_iff records
    (fun _ record => if Passed config now record then none else some record) (k := key) (v := v)
  rw [cleanup_expired]
  generalize records.filterMap (fun _ record =>
    if Passed config now record then none else some record) = kept at hfind
  cases hrecord : records.find? key with
  | none =>
      left
      rw [← Option.not_isSome_iff_eq_none]
      intro hsome
      obtain ⟨v, hv⟩ := Option.isSome_iff_exists.mp hsome
      obtain ⟨record, hmem, -⟩ := (hfind v).mp hv
      rw [hrecord] at hmem
      cases hmem
  | some record =>
      by_cases hpassed : Passed config now record
      · refine .inr ⟨?_, record, rfl, hpassed⟩
        rw [← Option.not_isSome_iff_eq_none]
        intro hsome
        obtain ⟨v, hv⟩ := Option.isSome_iff_exists.mp hsome
        obtain ⟨record', hmem, hkept⟩ := (hfind v).mp hv
        rw [hrecord] at hmem
        cases hmem
        rw [if_pos hpassed] at hkept
        cases hkept
      · exact .inl ((hfind record).mpr ⟨record, hrecord, if_neg hpassed⟩)

/-- What one event does to the windows of a client. -/
theorem Counting.after_event (h : Counting config key now records ws)
    (henabled : config.enabled = true) (event : Event) :
    ∃ ws', Counting config key now (step config now event records).2 ws' ∧
      ws'.flatten = ws.flatten ++ admittedTimes key [(now, (step config now event records).1)] ∧
      ((step config now event records).1 = limitedOutcome config key →
        config.max_requests ≤ ws.flatten.countP fun t => now < t + config.window) := by
  cases event with
  | request request =>
      rw [step, rate_limit_middleware]
      split
      · exact ⟨ws, h, by simp [admittedTimes], fun hlimited => by cases hlimited⟩
      · dsimp only
        generalize extract_client_key request = client_key
        rcases eq_or_ne key client_key with rfl | hne
        · rcases h.check henabled with ⟨hyes, ws', hcounting, hflatten⟩ | ⟨hno, hreached⟩
          · rw [hyes]
            exact ⟨ws', hcounting, by simp [admittedTimes, hflatten],
              fun hlimited => by cases hlimited⟩
          · rw [hno]
            exact ⟨ws, h, by simp [admittedTimes, limitedOutcome], fun _ => hreached⟩
        · refine ⟨ws, h.congr (find?_check_rate_limit_of_ne hne), ?_, fun hlimited => ?_⟩
          · split <;> simp [admittedTimes, limitedOutcome, hne.symm]
          · split at hlimited
            · cases hlimited
            · exact absurd (Outcome.limited.inj hlimited).1 hne.symm
  | headers key' =>
      exact ⟨ws, h, by simp [step, admittedTimes], fun hlimited => by cases hlimited⟩
  | cleanup =>
      refine ⟨ws, ?_, by simp [step, admittedTimes], fun hlimited => by
        cases hlimited⟩
      rw [step]
      rcases find?_cleanup_expired config key now records with
        hsame | ⟨hnone, record, hrecord, hpassed⟩
      · exact h.congr hsame
      · refine ⟨h.spaced, fun _ => h.all_passed hrecord hpassed, fun record' hrecord' => ?_⟩
        rw [hnone] at hrecord'
        cases hrecord'

/-- Over a run, from the windows that a client has had before. -/
theorem run_counting (henabled : config.enabled = true) (events : List (ℕ × Event)) :
    ∀ now records ws, Counting config key now records ws → (∀ e ∈ events, now ≤ e.1) →
      events.Pairwise (fun e e' => e.1 ≤ e'.1) →
        (∃ ws', Spaced config.window (max config.max_requests 1) ws' ∧
          ws'.flatten = ws.flatten ++ admittedTimes key (run config events records)) ∧
        ∀ pre t post, run config events records = pre ++ (t, limitedOutcome config key) :: post →
          config.max_requests ≤
            (ws.flatten ++ admittedTimes key pre).countP fun s => t < s + config.window := by
  induction events with
  | nil =>
      intro now records ws h _ _
      refine ⟨⟨ws, h.spaced, by simp [run, admittedTimes]⟩, fun pre t post heq => ?_⟩
      rw [run] at heq
      exact absurd heq.symm (List.append_ne_nil_of_right_ne_nil _ (List.cons_ne_nil _ _))
  | cons e events ih =>
      obtain ⟨t, event⟩ := e
      intro now records ws h hlater hsorted
      rw [List.pairwise_cons] at hsorted
      obtain ⟨ws', hcounting, hflatten, hlimited⟩ :=
        (h.later (hlater _ List.mem_cons_self)).after_event henabled event
      obtain ⟨⟨ws'', hspaced, hall⟩, hrejected⟩ := ih t _ ws' hcounting hsorted.1 hsorted.2
      have hcons : ∀ o outcomes, admittedTimes key (o :: outcomes) =
          admittedTimes key [o] ++ admittedTimes key outcomes := by
        intro o outcomes
        rw [admittedTimes, ← List.singleton_append, List.filter_append, List.map_append,
          admittedTimes, admittedTimes]
      refine ⟨⟨ws'', hspaced, ?_⟩, fun pre t' post heq => ?_⟩
      · rw [hall, hflatten, List.append_assoc]
        exact congrArg (ws.flatten ++ ·) (hcons _ _).symm
      · rw [run] at heq
        cases pre with
        | nil =>
            rw [List.nil_append, List.cons.injEq, Prod.mk.injEq] at heq
            obtain ⟨⟨rfl, houtcome⟩, -⟩ := heq
            simpa [admittedTimes] using hlimited houtcome
        | cons o pre =>
            rw [List.cons_append, List.cons.injEq] at heq
            obtain ⟨rfl, hrest⟩ := heq
            have hcount := hrejected pre t' post hrest
            rw [hflatten, List.append_assoc] at hcount
            rwa [hcons]

/-- In every run the requests of a client that are let through come in windows of the configured
length, which do not overlap, with no more requests each than the limit (or one); so any stretch
of time as long as a window has at most twice as many.  And a request is turned away only if as
many requests of its client as the limit allows came less than a window before. -/
theorem run_windows (config : RateLimitConfig) (henabled : config.enabled = true)
    (events : List (ℕ × Event)) (hsorted : events.Pairwise fun e e' => e.1 ≤ e'.1)
    (key : String) :
    (∃ windows, Spaced config.window (max config.max_requests 1) windows ∧
      windows.flatten = admittedTimes key (run config events .empty)) ∧
    (∀ start, ((admittedTimes key (run config events .empty)).countP fun t =>
      start ≤ t ∧ t < start + config.window) ≤ 2 * max config.max_requests 1) ∧
    ∀ pre t post, run config events .empty = pre ++ (t, limitedOutcome config key) :: post →
      config.max_requests ≤ (admittedTimes key pre).countP fun s => t < s + config.window := by
  have hstart : Counting config key 0 .empty [] :=
    ⟨⟨List.forall_mem_nil _, List.Pairwise.nil⟩, fun _ => List.forall_mem_nil _, fun _ h => by
      cases h⟩
  obtain ⟨⟨windows, hspaced, hflatten⟩, hrejected⟩ :=
    run_counting henabled events 0 .empty [] hstart (fun e _ => Nat.zero_le e.1) hsorted
  rw [List.flatten_nil, List.nil_append] at hflatten
  refine ⟨⟨windows, hspaced, hflatten⟩, fun start => ?_, hrejected⟩
  rw [← hflatten]
  exact hspaced.countP_le start

example : admittedTimes "10.0.0.1" (run (.new 2 60) busyMinute .empty) = [0, 2, 60000000000] := by
  decide +kernel

theorem busy_minute_windows : ∃ windows,
    Spaced (RateLimitConfig.new 2 60).window
      (max (RateLimitConfig.new 2 60).max_requests 1) windows ∧
      windows.flatten = admittedTimes "10.0.0.1" (run (.new 2 60) busyMinute .empty) :=
  (run_windows (.new 2 60) rfl busyMinute (by decide) "10.0.0.1").1

end Windows

section Clients

variable {config} {key : String} {now now' : ℕ} {records records' : Records}

/-- The client that an outcome decides about. -/
def Outcome.client : Outcome → Option String
  | .admitted key => some key
  | .limited key _ _ _ => some key
  | _ => none

/-- The event is a request of the client that is not exempt. -/
def isRequestOf (config : RateLimitConfig) (key : String) : Event → Bool
  | .request request => !isExempt config request && extract_client_key request = key
  | _ => false

/-- The records say the same about the client, unless only one has a record, which has passed. -/
def Alike (config : RateLimitConfig) (key : String) (now : ℕ) (records records' : Records) :
    Prop :=
  records.find? key = records'.find? key ∨ records.find? key = none ∧
    ∃ record, records'.find? key = some record ∧ Passed config now record

theorem Alike.later (h : Alike config key now records records') (hle : now ≤ now') :
    Alike config key now' records records' := by
  refine h.imp_right fun ⟨hnone, record, hrecord, hpassed⟩ => ⟨hnone, record, hrecord, ?_⟩
  rw [Passed] at hpassed ⊢
  omega

theorem alike_insert (key : String) (record : RequestRecord) :
    Alike config key now (records.insert key record) (records'.insert key record) := by
  left
  rw [OrderedMap.find?_insert, OrderedMap.find?_insert, if_pos rfl, if_pos rfl]

theorem Alike.check (h : Alike config key now records records') :
    (check_rate_limit config now key records).1 = (check_rate_limit config now key records').1 ∧
      Alike config key now (check_rate_limit config now key records).2
        (check_rate_limit config now key records').2 := by
  rw [check_rate_limit, check_rate_limit]
  split
  · exact ⟨rfl, h⟩
  · rcases h with hsame | ⟨hnone, record, hrecord, hpassed⟩
    · rw [hsame]
      split
      · split
        · exact ⟨rfl, alike_insert key _⟩
        · split
          · exact ⟨rfl, alike_insert key _⟩
          · exact ⟨rfl, .inl hsame⟩
      · exact ⟨rfl, alike_insert key _⟩
    · rw [hnone, hrecord]
      dsimp only
      rw [if_pos hpassed]
      exact ⟨rfl, alike_insert key _⟩

theorem Alike.cleanup (h : Alike config key now records records') :
    Alike config key now (cleanup_expired config now records) records' := by
  rcases find?_cleanup_expired config key now records with
    hsame | ⟨hnone, record, hrecord, hpassed⟩
  · rw [Alike, hsame]
    exact h
  · rcases h with heq | ⟨hmissing, -⟩
    · exact .inr ⟨hnone, record, heq ▸ hrecord, hpassed⟩
    · rw [hmissing] at hrecord
      cases hrecord

theorem client_check (config : RateLimitConfig) (client_key : String) (allowed : Bool) :
    (if allowed then Outcome.admitted client_key
      else limitedOutcome config client_key).client = some client_key := by
  cases allowed <;> rfl

theorem filter_run_eq (events : List (ℕ × Event)) : ∀ now records records',
    Alike config key now records records' → (∀ e ∈ events, now ≤ e.1) →
      events.Pairwise (fun e e' => e.1 ≤ e'.1) →
        (run config events records).filter (fun o => o.2.client = some key) =
          run config (events.filter fun e => isRequestOf config key e.2) records' := by
  induction events with
  | nil => exact fun _ _ _ _ _ _ => rfl
  | cons e events ih =>
      obtain ⟨t, event⟩ := e
      intro now records records' h hlater hsorted
      rw [List.pairwise_cons] at hsorted
      have halike := h.later (hlater _ List.mem_cons_self)
      rw [run]
      cases event with
      | request request =>
          rw [step, rate_limit_middleware]
          split
          · rename_i hexempt
            rw [List.filter_cons_of_neg (by simp [Outcome.client]),
              List.filter_cons_of_neg (by simp [isRequestOf, hexempt])]
            exact ih t _ _ halike hsorted.1 hsorted.2
          · rename_i hsubject
            by_cases hkey : extract_client_key request = key
            · obtain ⟨hallowed, hrest⟩ := halike.check
              rw [List.filter_cons_of_pos (by simp [client_check, hkey]),
                List.filter_cons_of_pos (by simp [isRequestOf, hkey, hsubject]), run, step,
                rate_limit_middleware, if_neg hsubject, hkey]
              dsimp only
              rw [hallowed, ih t _ _ hrest hsorted.1 hsorted.2]
            · rw [List.filter_cons_of_neg (by simp [client_check, hkey]),
                List.filter_cons_of_neg (by simp [isRequestOf, hkey])]
              refine ih t _ _ ?_ hsorted.1 hsorted.2
              rw [Alike, find?_check_rate_limit_of_ne (Ne.symm hkey)]
              exact halike
      | headers key' =>
          rw [List.filter_cons_of_neg (by simp [step, Outcome.client]),
            List.filter_cons_of_neg (by simp [isRequestOf])]
          exact ih t _ _ halike hsorted.1 hsorted.2
      | cleanup =>
          rw [List.filter_cons_of_neg (by simp [step, Outcome.client]),
            List.filter_cons_of_neg (by simp [isRequestOf])]
          exact ih t _ _ halike.cleanup hsorted.1 hsorted.2

/-- What a client is told does not depend on the requests of others, nor on when passed records
are removed. -/
theorem run_of_client (config : RateLimitConfig) (events : List (ℕ × Event))
    (hsorted : events.Pairwise fun e e' => e.1 ≤ e'.1) (key : String) :
    (run config events .empty).filter (fun o => o.2.client = some key) =
      run config (events.filter fun e => isRequestOf config key e.2) .empty :=
  filter_run_eq events 0 .empty .empty (.inl rfl) (fun e _ => Nat.zero_le e.1) hsorted

theorem busy_minute_of_client :
    (run (.new 2 60) busyMinute .empty).filter (fun o => o.2.client = some "10.0.0.1") =
      run (.new 2 60) (busyMinute.filter fun e => isRequestOf (.new 2 60) "10.0.0.1" e.2) .empty :=
  run_of_client (.new 2 60) busyMinute (by decide) "10.0.0.1"

end Clients

end Datasynth.RateLimit.RequestWindows
