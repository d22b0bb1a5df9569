import Datasynth.Runtime.SessionPeriods

/-!
A session that is saved and resumed goes on as if it had not been interrupted, as long as it was
not extended before and its checkpoint lies in its output directory: the periods and the output
directory are not part of the checkpoint.
-/

namespace Datasynth.Runtime.SessionResume

open Datasynth.Lib.CivilCalendar
open Datasynth.Core.GenerationPeriods
open Datasynth.Runtime.GenerationSession
open Datasynth.Runtime.SessionPeriods

section Statement

variable {Settings Order : Type} (platform : Platform Settings Order)

inductive Command where
  | generate_next_period
  | generate_delta (additional_months : ℕ)
deriving DecidableEq, Repr

def Command.extends : Command → Bool
  | generate_next_period => false
  | generate_delta _ => true

inductive Outcome where
  | next (result : Except SynthError (Option PeriodResult))
  | delta (results : Except SynthError (List PeriodResult))

def step (session : Session Settings) : Command → Option (Outcome × Session Settings)
  | .generate_next_period =>
      let (result, session) := generate_next_period platform session
      some (.next result, session)
  | .generate_delta additional_months =>
      (generate_delta platform session additional_months).map fun (results, session) =>
        (.delta results, session)

def run : List Command → Session Settings → Option (List Outcome × Session Settings)
  | [], session => some ([], session)
  | command :: commands, session => do
      let (outcome, session) ← step platform session command
      let (outcomes, session) ← run commands session
      return (outcome :: outcomes, session)

/-- The periods that are still to be generated, each with the configuration and the directory
that the orchestrator will be given. -/
def pending (session : Session Settings) :
    List (GenerationPeriod × GeneratorConfig Settings × PathBuf) :=
  (session.periods.drop session.state.period_cursor).map fun period =>
    (period, period_config platform session period, session.output_mode.output_path period)

/-- What shows of a session that is given some commands. -/
def behaviour (session : Session Settings) (commands : List Command) :
    Option (List Outcome × List (GenerationPeriod × GeneratorConfig Settings × PathBuf) ×
      SessionState) :=
  (run platform commands session).map fun (outcomes, session) =>
    (outcomes, pending platform session, session.state)

/-- The session can be saved at the path and resumed there, and nothing shows the difference. -/
def ResumesAlike (path : PathBuf) (order : Order) (session : Session Settings) : Prop :=
  ∃ text resumed, save platform session = .ok text ∧
    resume platform path (.ok text) session.config order = some (.ok resumed) ∧
      behaviour platform resumed = behaviour platform session

/-- All periods are generated, and there is no number of months to extend the session by. -/
def Finished (session : Session Settings) : Prop :=
  remaining_periods session = 0 ∧ ∀ months, delta_periods platform session months = none

end Statement

section Frames

variable {Settings Order : Type} {platform : Platform Settings Order}

/-- What no command changes. -/
structure Frame (session session' : Session Settings) : Prop where
  config : session'.config = session.config
  output_mode : session'.output_mode = session.output_mode
  config_hash : session'.state.config_hash = session.state.config_hash
  rng_seed : session'.state.rng_seed = session.state.rng_seed
  within : session.state.period_cursor ≤ session.periods.length →
    session'.state.period_cursor ≤ session'.periods.length

theorem Frame.refl (session : Session Settings) : Frame session session :=
  ⟨rfl, rfl, rfl, rfl, id⟩

theorem Frame.trans {session session' session'' : Session Settings} (h : Frame session session')
    (h' : Frame session' session'') : Frame session session'' where
  config := h'.config.trans h.config
  output_mode := h'.output_mode.trans h.output_mode
  config_hash := h'.config_hash.trans h.config_hash
  rng_seed := h'.rng_seed.trans h.rng_seed
  within := h'.within ∘ h.within

/-- The next period is missing, fails or is generated. -/
theorem generate_next_period_cases (platform : Platform Settings Order)
    (session : Session Settings) :
    (session.periods[session.state.period_cursor]? = none ∧
        generate_next_period platform session = (.ok none, session)) ∨
      ∃ period, session.periods[session.state.period_cursor]? = some period ∧
        ((∃ e, generate_next_period platform session = (.error e, session)) ∨
          ∃ result output,
            platform.generate (period_config platform session period) = .ok result ∧
              generate_next_period platform session = (.ok (some output),
                { session with state := record session.state period result }) ∧
              output.output_path = session.output_mode.output_path output.period) := by
  rw [generate_next_period]
  cases session.periods[session.state.period_cursor]? with
  | none => exact .inl ⟨rfl, rfl⟩
  | some period =>
      refine .inr ⟨period, rfl, ?_⟩
      dsimp only
      split
      · exact .inl ⟨_, rfl⟩
      · split
        · exact .inl ⟨_, rfl⟩
        · rename_i hgenerate
          exact .inr ⟨_, _, hgenerate, rfl, rfl⟩

theorem generate_next_period_frame (platform : Platform Settings Order)
    (session : Session Settings) :
    Frame session (generate_next_period platform session).2 ∧
      (generate_next_period platform session).2.periods = session.periods := by
  obtain ⟨-, h⟩ | ⟨period, hperiod, ⟨e, h⟩ | ⟨result, output, -, h, -⟩⟩ :=
    generate_next_period_cases platform session
  · rw [h]
    exact ⟨.refl session, rfl⟩
  · rw [h]
    exact ⟨.refl session, rfl⟩
  · rw [h]
    refine ⟨⟨rfl, rfl, rfl, rfl, ?_⟩, rfl⟩
    intro _
    exact (List.getElem?_eq_some_iff.mp hperiod).1

/-- What each generated period keeps holds after a loop. -/
theorem generateLoop_invariant {I : Session Settings → Prop}
    (hnext : ∀ session, I session → I (generate_next_period platform session).2)
    (fuel : ℕ) {session : Session Settings} (h : I session) :
    I (generateLoop platform fuel session).2 := by
  induction fuel generalizing session with
  | zero => exact h
  | succ fuel ih =>
      have hstep := hnext session h
      rw [generateLoop]
      split
      · rename_i heq
        rwa [heq] at hstep
      · rename_i heq
        rwa [heq] at hstep
      · rename_i result session' heq
        rw [heq] at hstep
        exact ih hstep

theorem generateLoop_frame (platform : Platform Settings Order) (fuel : ℕ)
    (session : Session Settings) :
    Frame session (generateLoop platform fuel session).2 ∧
      (generateLoop platform fuel session).2.periods = session.periods := by
  apply generateLoop_invariant (I := fun session' =>
    Frame session session' ∧ session'.periods = session.periods)
  · rintro session' ⟨hframe, hperiods⟩
    obtain ⟨hframe', hperiods'⟩ := generate_next_period_frame platform session'
    exact ⟨hframe.trans hframe', hperiods'.trans hperiods⟩
  · exact ⟨.refl session, rfl⟩

theorem generateLoop_error {fuel : ℕ} {session : Session Settings} {e : SynthError}
    (h : (generateLoop platform fuel session).1 = .error e) :
    (generateLoop platform fuel session).2.state.period_cursor < session.periods.length := by
  induction fuel generalizing session with
  | zero => cases h
  | succ fuel ih =>
      obtain ⟨-, hnext⟩ | ⟨period, hperiod, ⟨e', hnext⟩ | ⟨result, output, -, hnext, -⟩⟩ :=
        generate_next_period_cases platform session
      · rw [generateLoop, hnext] at h
        cases h
      · rw [generateLoop, hnext]
        exact (List.getElem?_eq_some_iff.mp hperiod).1
      · rw [generateLoop, hnext] at h ⊢
        dsimp only at h ⊢
        apply ih
        cases hrest : (generateLoop platform fuel
            { session with state := record session.state period result }).1 with
        | error e' =>
            rw [hrest] at h
            exact h
        | ok outputs =>
            rw [hrest] at h
            cases h

/-- A loop over remaining periods returns the path of one of them, or leaves one. -/
theorem generateLoop_cases (platform : Platform Settings Order) (fuel : ℕ)
    {session : Session Settings} (h : session.state.period_cursor < session.periods.length) :
    (∃ e, (generateLoop platform (fuel + 1) session).1 = .error e) ∨
      ∃ output outputs, (generateLoop platform (fuel + 1) session).1 = .ok (output :: outputs) ∧
        output.output_path = session.output_mode.output_path output.period := by
  obtain ⟨hnone, -⟩ | ⟨period, -, ⟨e, hnext⟩ | ⟨result, output, -, hnext, hpath⟩⟩ :=
    generate_next_period_cases platform session
  · rw [List.getElem?_eq_none_iff] at hnone
    omega
  · left
    rw [generateLoop, hnext]
    exact ⟨e, rfl⟩
  · rw [generateLoop, hnext]
    dsimp only
    cases (generateLoop platform fuel
        { session with state := record session.state period result }).1 with
    | error e => exact .inl ⟨e, rfl⟩
    | ok outputs => exact .inr ⟨output, outputs, rfl, hpath⟩

end Frames

section Extensions

variable {Settings Order : Type} {platform : Platform Settings Order}

theorem compute_periods_ne_nil {start : Date} {total fiscal_year_months : ℕ}
    {periods : List GenerationPeriod}
    (h : GenerationPeriod.compute_periods start total fiscal_year_months = some periods) :
    periods ≠ [] := by
  rw [GenerationPeriod.compute_periods] at h
  split at h
  · cases h
  · rename_i hpos
    obtain ⟨fuel, rfl⟩ := Nat.exists_eq_succ_of_ne_zero (not_or.mp hpos).2
    rw [periodLoop, if_neg (Nat.succ_ne_zero fuel)] at h
    obtain ⟨next, -, h⟩ := Option.bind_eq_some_iff.mp h
    obtain ⟨end_date, -, h⟩ := Option.bind_eq_some_iff.mp h
    obtain ⟨rest, -, h⟩ := Option.bind_eq_some_iff.mp h
    obtain rfl := Option.some.inj h
    exact List.cons_ne_nil _ _

/-- Where there is room for some months there is room for the first period of them. -/
theorem exists_single_period {start : Date} {total fiscal_year_months : ℕ}
    {periods : List GenerationPeriod}
    (h : GenerationPeriod.compute_periods start total fiscal_year_months = some periods) :
    ∃ period, GenerationPeriod.compute_periods start (min total fiscal_year_months)
      fiscal_year_months = some [period] := by
  rw [GenerationPeriod.compute_periods] at h
  split at h
  · cases h
  · rename_i hpos
    obtain ⟨hfy, htotal⟩ := not_or.mp hpos
    obtain ⟨fuel, rfl⟩ := Nat.exists_eq_succ_of_ne_zero htotal
    rw [periodLoop, if_neg htotal] at h
    obtain ⟨next, hnext, h⟩ := Option.bind_eq_some_iff.mp h
    obtain ⟨end_date, hend, -⟩ := Option.bind_eq_some_iff.mp h
    have hmin : min (fuel + 1) fiscal_year_months ≠ 0 := by omega
    rw [GenerationPeriod.compute_periods, if_neg (not_or.mpr ⟨hfy, hmin⟩)]
    obtain ⟨fuel', hfuel'⟩ := Nat.exists_eq_succ_of_ne_zero hmin
    have hsame : min (fuel' + 1) fiscal_year_months = min (fuel + 1) fiscal_year_months := by
      omega
    refine ⟨⟨0, yearLabel start.year, start, end_date, min (fuel + 1) fiscal_year_months⟩, ?_⟩
    rw [hfuel', periodLoop, if_neg (Nat.succ_ne_zero fuel')]
    dsimp only
    rw [hsame, hnext, Option.bind_eq_bind, Option.bind_some, hend, Option.bind_eq_bind,
      Option.bind_some, hfuel', Nat.sub_self]
    cases fuel' with
    | zero => rfl
    | succ fuel' => rfl

/-- The periods added to a session that has some. -/
theorem delta_periods_of_last {session : Session Settings} {last : GenerationPeriod}
    (hlast : session.periods.getLast? = some last) (months : ℕ) :
    delta_periods platform session months =
      (add_months last.end_date 1).bind fun start =>
        (GenerationPeriod.compute_periods start months session.config.global.fy_months).map
          fun periods => .ok (periods.mapIdx fun i p =>
            { p with index := session.periods.length + i }) := by
  rw [delta_periods, hlast]
  dsimp only
  cases add_months last.end_date 1 with
  | none => rfl
  | some start =>
      rw [Option.bind_some]
      show Option.bind (GenerationPeriod.compute_periods start months
        session.config.global.fy_months) _ = _
      cases GenerationPeriod.compute_periods start months session.config.global.fy_months with
      | none => rfl
      | some periods => rfl

/-- The periods added do not depend on the state of a session. -/
theorem delta_periods_congr {session session' : Session Settings}
    (hconfig : session'.config = session.config) (hperiods : session'.periods = session.periods)
    (months : ℕ) :
    delta_periods platform session' months = delta_periods platform session months := by
  rw [delta_periods, delta_periods, hconfig, hperiods]

theorem exists_delta_periods {session : Session Settings} (hne : session.periods ≠ [])
    {months : ℕ} {outcome : Except SynthError (List GenerationPeriod)}
    (h : delta_periods platform session months = some outcome) :
    ∃ new_periods, outcome = .ok new_periods ∧ new_periods ≠ [] ∧
      ∃ months' period, delta_periods platform session months' = some (.ok [period]) := by
  have hlast := List.getLast?_eq_some_getLast hne
  rw [delta_periods_of_last hlast] at h
  obtain ⟨start, hstart, h⟩ := Option.bind_eq_some_iff.mp h
  obtain ⟨periods, hperiods, rfl⟩ := Option.map_eq_some_iff.mp h
  obtain ⟨period, hperiod⟩ := exists_single_period hperiods
  refine ⟨_, rfl, ?_, min months session.config.global.fy_months,
    { period with index := session.periods.length }, ?_⟩
  · intro hnil
    rw [List.mapIdx_eq_nil_iff] at hnil
    exact compute_periods_ne_nil hperiods hnil
  · rw [delta_periods_of_last hlast, hstart, Option.bind_some, hperiod]
    rfl

end Extensions

section Runs

variable {Settings Order : Type} {platform : Platform Settings Order}

theorem generate_delta_frame {session session' : Session Settings} {months : ℕ}
    {results : Except SynthError (List PeriodResult)} (hne : session.periods ≠ [])
    (h : generate_delta platform session months = some (results, session')) :
    Frame session session' ∧ ∃ new_periods, new_periods ≠ [] ∧
      session'.periods = session.periods ++ new_periods ∧
      ∃ months' period, delta_periods platform session months' = some (.ok [period]) := by
  obtain ⟨outcome, houtcome, h⟩ := Option.bind_eq_some_iff.mp h
  obtain ⟨new_periods, rfl, hnew, hsingle⟩ := exists_delta_periods hne houtcome
  obtain ⟨hframe, hperiods⟩ := generateLoop_frame platform
    (remaining_periods { session with periods := session.periods ++ new_periods } + 1)
    { session with periods := session.periods ++ new_periods }
  have hall := congrArg Prod.snd (Option.some.inj h)
  replace hall : (generateLoop platform
    (remaining_periods { session with periods := session.periods ++ new_periods } + 1)
    { session with periods := session.periods ++ new_periods }).2 = session' := hall
  rw [hall] at hframe hperiods
  refine ⟨⟨hframe.config, hframe.output_mode, hframe.config_hash, hframe.rng_seed, ?_⟩,
    new_periods, hnew, hperiods, hsingle⟩
  intro hwithin
  apply hframe.within
  rw [List.length_append]
  exact hwithin.trans (Nat.le_add_right _ _)

/-- A run leaves the periods alone, or extends them after the calendar had room for more. -/
theorem run_frame {commands : List Command} {session session' : Session Settings}
    {outcomes : List Outcome} (hne : session.periods ≠ [])
    (h : run platform commands session = some (outcomes, session')) :
    Frame session session' ∧
      (((∀ command ∈ commands, command.extends = false) ∧ session'.periods = session.periods) ∨
        ((∃ command ∈ commands, command.extends = true) ∧ ∃ new_periods, new_periods ≠ [] ∧
          session'.periods = session.periods ++ new_periods ∧
          ∃ months period, delta_periods platform session months = some (.ok [period]))) := by
  induction commands generalizing session outcomes with
  | nil =>
      obtain ⟨-, rfl⟩ := Prod.mk.inj (Option.some.inj h)
      exact ⟨.refl session, .inl ⟨nofun, rfl⟩⟩
  | cons command commands ih =>
      obtain ⟨⟨outcome, next⟩, hstep, h⟩ := Option.bind_eq_some_iff.mp h
      obtain ⟨⟨outcomes', last⟩, hrun, h⟩ := Option.bind_eq_some_iff.mp h
      obtain ⟨-, rfl⟩ := Prod.mk.inj (Option.some.inj h)
      cases command with
      | generate_next_period =>
          obtain ⟨hframe, hperiods⟩ := generate_next_period_frame platform session
          have hnext : (generate_next_period platform session).2 = next :=
            (Prod.mk.inj (Option.some.inj hstep)).2
          rw [hnext] at hframe hperiods
          obtain ⟨hframe', hrest⟩ := ih (by rwa [hperiods]) hrun
          refine ⟨hframe.trans hframe', ?_⟩
          rw [hperiods] at hrest
          simp only [delta_periods_congr hframe.config hperiods] at hrest
          obtain ⟨hnone, hsame⟩ | ⟨⟨command, hcommand, hextends⟩, hnew⟩ := hrest
          · exact .inl ⟨List.forall_mem_cons.mpr ⟨rfl, hnone⟩, hsame⟩
          · exact .inr ⟨⟨command, List.mem_cons_of_mem _ hcommand, hextends⟩, hnew⟩
      | generate_delta additional_months =>
          obtain ⟨⟨results, extended⟩, hdelta, hstep⟩ := Option.map_eq_some_iff.mp hstep
          obtain ⟨-, rfl⟩ := Prod.mk.inj hstep
          obtain ⟨hframe, new_periods, hnew, hperiods, hsingle⟩ :=
            generate_delta_frame hne hdelta
          have hne' : extended.periods ≠ [] := by
            rw [hperiods]
            exact List.append_ne_nil_of_left_ne_nil hne _
          obtain ⟨hframe', hrest⟩ := ih hne' hrun
          refine ⟨hframe.trans hframe', .inr ⟨⟨_, List.mem_cons_self, rfl⟩, ?_⟩⟩
          obtain ⟨-, hsame⟩ | ⟨-, more, -, hmore, -⟩ := hrest
          · exact ⟨new_periods, hnew, hsame.trans hperiods, hsingle⟩
          · refine ⟨new_periods ++ more, List.append_ne_nil_of_left_ne_nil hnew _, ?_, hsingle⟩
            rw [hmore, hperiods, List.append_assoc]

end Runs

section Invariants

variable {Settings Order : Type} {platform : Platform Settings Order}

/-- What each generated period and each extension keeps holds after a run. -/
theorem run_invariant {I : Session Settings → Prop}
    (hnext : ∀ session, I session → I (generate_next_period platform session).2)
    (hextend : ∀ (session : Session Settings) new_periods, I session →
      I { session with periods := session.periods ++ new_periods })
    {commands : List Command} {session session' : Session Settings} {outcomes : List Outcome}
    (h : run platform commands session = some (outcomes, session')) (hI : I session) :
    I session' := by
  induction commands generalizing session outcomes with
  | nil =>
      obtain ⟨-, rfl⟩ := Prod.mk.inj (Option.some.inj h)
      exact hI
  | cons command commands ih =>
      obtain ⟨⟨outcome, next⟩, hstep, h⟩ := Option.bind_eq_some_iff.mp h
      obtain ⟨⟨outcomes', last⟩, hrun, h⟩ := Option.bind_eq_some_iff.mp h
      obtain ⟨-, rfl⟩ := Prod.mk.inj (Option.some.inj h)
      apply ih hrun
      cases command with
      | generate_next_period =>
          rw [← (Prod.mk.inj (Option.some.inj hstep)).2]
          exact hnext session hI
      | generate_delta months =>
          obtain ⟨⟨results, extended⟩, hdelta, hstep⟩ := Option.map_eq_some_iff.mp hstep
          obtain ⟨-, rfl⟩ := Prod.mk.inj hstep
          obtain ⟨outcome', -, hdelta⟩ := Option.bind_eq_some_iff.mp hdelta
          cases outcome' with
          | error e =>
              obtain ⟨-, rfl⟩ := Prod.mk.inj (Option.some.inj hdelta)
              exact hI
          | ok new_periods =>
              rw [← (Prod.mk.inj (Option.some.inj hdelta)).2]
              exact generateLoop_invariant hnext (remaining_periods
                { session with periods := session.periods ++ new_periods } + 1)
                (hextend session new_periods hI)

end Invariants

section Resumed

variable {Settings Order : Type} {platform : Platform Settings Order}
  {config : GeneratorConfig Settings} {order order' : Order} {output_path path : PathBuf}
  {session : Session Settings}

theorem new_spec (h : new platform config order output_path = some (.ok session)) :
    ∃ start, parse_start_date platform config = .ok start ∧
      GenerationPeriod.compute_periods start config.global.period_months
        config.global.fy_months = some session.periods ∧
      session.config = config ∧ session.output_mode = .ofPeriods session.periods output_path ∧
      session.state.config_hash = platform.compute_config_hash config order ∧
      session.state.period_cursor = 0 ∧ session.state.balance_state = .default := by
  rw [new] at h
  split at h
  · cases h
  · rename_i start hstart
    obtain ⟨periods, hperiods, h⟩ := Option.bind_eq_some_iff.mp h
    obtain rfl := Except.ok.inj (Option.some.inj h)
    exact ⟨start, hstart, hperiods, rfl, rfl, rfl, rfl, rfl⟩

/-- What is resumed: the state of the checkpoint, and the rest from the configuration. -/
theorem resume_eq (hnew : new platform config order output_path = some (.ok session))
    {state : SessionState} (hhash : state.config_hash = platform.compute_config_hash config order)
    {text : String} (hload : platform.from_str text = .ok state) :
    resume platform path (.ok text) config order' =
      if platform.compute_config_hash config order = platform.compute_config_hash config order'
      then some (.ok ⟨config, state, session.periods, .ofPeriods session.periods path.directory⟩)
      else some (.error (.generationError ("Config has changed since last checkpoint. "
        ++ "Cannot resume with different config."))) := by
  obtain ⟨start, hstart, hperiods, -⟩ := new_spec hnew
  rw [resume, hload]
  dsimp only
  rw [hhash, hstart]
  by_cases hsame :
      platform.compute_config_hash config order = platform.compute_config_hash config order'
  · rw [if_neg (not_not.mpr hsame), if_pos hsame]
    dsimp only
    rw [hperiods]
    rfl
  · rw [if_pos hsame, if_neg hsame]

end Resumed

section Differences

variable {Settings Order : Type} {platform : Platform Settings Order}

theorem ofPeriods_output_path_injective (periods : List GenerationPeriod)
    {period : GenerationPeriod} {path path' : PathBuf}
    (h : (OutputMode.ofPeriods periods path).output_path period =
      (OutputMode.ofPeriods periods path').output_path period) : path = path' := by
  rw [OutputMode.ofPeriods, OutputMode.ofPeriods] at h
  by_cases hmany : periods.length > 1
  · rw [if_pos hmany, if_pos hmany] at h
    obtain ⟨root, components⟩ := path
    obtain ⟨root', components'⟩ := path'
    replace h : (⟨root, components ++ [period.label]⟩ : PathBuf) =
      ⟨root', components' ++ [period.label]⟩ := h
    obtain ⟨rfl, hcomponents⟩ := PathBuf.mk.inj h
    rw [(List.append_left_inj _).mp hcomponents]
  · rw [if_neg hmany, if_neg hmany] at h
    exact h

/-- Sessions with the same pending periods write them to the same directories. -/
theorem output_path_eq_of_pending {session session' : Session Settings}
    (hpending : pending platform session = pending platform session')
    (h : session.state.period_cursor < session.periods.length) :
    ∃ period, session.output_mode.output_path period =
      session'.output_mode.output_path period := by
  have hdrop : session.periods.drop session.state.period_cursor ≠ [] := by
    rw [Ne, List.drop_eq_nil_iff, not_le]
    exact h
  obtain ⟨period, rest, hperiods⟩ := List.exists_cons_of_ne_nil hdrop
  rw [pending, pending, hperiods, List.map_cons] at hpending
  cases hperiods' : session'.periods.drop session'.state.period_cursor with
  | nil =>
      rw [hperiods'] at hpending
      cases hpending
  | cons period' rest' =>
      rw [hperiods', List.map_cons] at hpending
      obtain ⟨hfirst, -⟩ := List.cons.inj hpending
      obtain ⟨rfl, hfirst⟩ := Prod.mk.inj hfirst
      exact ⟨period, (Prod.mk.inj hfirst).2⟩

theorem behaviour_nil (session : Session Settings) :
    behaviour platform session [] = some ([], pending platform session, session.state) := rfl

theorem behaviour_delta {session : Session Settings} {months : ℕ}
    {new_periods : List GenerationPeriod}
    (h : delta_periods platform session months = some (.ok new_periods)) :
    behaviour platform session [.generate_delta months] =
      some ([.delta (generate_all platform
          { session with periods := session.periods ++ new_periods }).1],
        pending platform (generate_all platform
          { session with periods := session.periods ++ new_periods }).2,
        (generate_all platform
          { session with periods := session.periods ++ new_periods }).2.state) := by
  rw [behaviour, run, step, generate_delta, h]
  rfl

theorem pending_of_finished {session : Session Settings} (h : Finished platform session) :
    pending platform session = [] := by
  rw [pending, List.drop_eq_nil_of_le (Nat.sub_eq_zero_iff_le.mp h.1)]
  rfl

/-- A session that has nothing left to generate only answers that it is finished. -/
theorem run_of_finished {session : Session Settings} (h : Finished platform session)
    (commands : List Command) :
    run platform commands session =
      if ∀ command ∈ commands, command.extends = false then
        some (commands.map fun _ => .next (.ok none), session)
      else none := by
  induction commands with
  | nil => rw [if_pos nofun]; rfl
  | cons command commands ih =>
      rw [run]
      cases command with
      | generate_next_period =>
          have hnext : generate_next_period platform session = (.ok none, session) := by
            rw [generate_next_period,
              List.getElem?_eq_none_iff.mpr (Nat.sub_eq_zero_iff_le.mp h.1)]
          rw [step, hnext]
          show Option.bind (run platform commands session) _ = _
          rw [ih]
          by_cases hall : ∀ command ∈ commands, command.extends = false
          · have hcons : ∀ command ∈ Command.generate_next_period :: commands,
                command.extends = false := List.forall_mem_cons.mpr ⟨rfl, hall⟩
            rw [if_pos hall, if_pos hcons]
            rfl
          · have hcons : ¬ ∀ command ∈ Command.generate_next_period :: commands,
                command.extends = false := fun h => hall (List.forall_mem_cons.mp h).2
            rw [if_neg hall, if_neg hcons]
            rfl
      | generate_delta months =>
          have hcons : ¬ ∀ command ∈ Command.generate_delta months :: commands,
              command.extends = false := fun h =>
            Bool.noConfusion (List.forall_mem_cons.mp h).1
          rw [step, generate_delta, h.2 months, if_neg hcons]
          rfl

theorem behaviour_of_finished {session session' : Session Settings}
    (h : Finished platform session) (h' : Finished platform session')
    (hstate : session'.state = session.state) :
    behaviour platform session' = behaviour platform session := by
  funext commands
  rw [behaviour, behaviour, run_of_finished h, run_of_finished h']
  split
  · show some (_, pending platform session', session'.state) =
      some (_, pending platform session, session.state)
    rw [pending_of_finished h, pending_of_finished h', hstate]
  · rfl

theorem generate_all_of_le {session : Session Settings}
    (h : session.periods.length ≤ session.state.period_cursor) :
    generate_all platform session = (.ok [], session) := by
  rw [generate_all, generateLoop, generate_next_period, List.getElem?_eq_none_iff.mpr h]

theorem generate_all_cases (platform : Platform Settings Order) (session : Session Settings)
    (h : session.state.period_cursor < session.periods.length) :
    ((∃ e, (generate_all platform session).1 = .error e) ∧
        (generate_all platform session).2.state.period_cursor <
          (generate_all platform session).2.periods.length) ∨
      ∃ output outputs, (generate_all platform session).1 = .ok (output :: outputs) ∧
        output.output_path = session.output_mode.output_path output.period := by
  obtain ⟨-, hperiods⟩ :=
    generateLoop_frame platform (remaining_periods session + 1) session
  obtain ⟨e, he⟩ | hok := generateLoop_cases platform (remaining_periods session) h
  · have hlt := generateLoop_error he
    rw [← hperiods] at hlt
    exact .inl ⟨⟨e, he⟩, hlt⟩
  · exact .inr hok

/-- A session behaves like one without its extensions only if it has none. -/
theorem not_extended_of_behaviour {session short : Session Settings}
    {new_periods : List GenerationPeriod} (hnew : new_periods ≠ [])
    (hperiods : session.periods = short.periods ++ new_periods)
    (hstate : short.state = session.state)
    (hwithin : session.state.period_cursor ≤ session.periods.length) {months : ℕ}
    {period : GenerationPeriod} (hne : session.periods ≠ [])
    (hsingle : delta_periods platform short months = some (.ok [period])) :
    behaviour platform short ≠ behaviour platform session := by
  intro h
  have hpos := List.length_pos_iff.mpr hnew
  -- Nothing is pending, or the numbers of pending periods differ.
  have hnil := congrFun h []
  rw [behaviour_nil, behaviour_nil] at hnil
  have hpending := congrArg List.length (Prod.mk.inj (Prod.mk.inj (Option.some.inj hnil)).2).1
  rw [pending, pending, List.length_map, List.length_map, List.length_drop, List.length_drop,
    hstate, hperiods, List.length_append] at hpending
  rw [hperiods, List.length_append] at hwithin
  -- An extension by one period is then done at once by the one and not by the other.
  have hdelta := congrFun h [.generate_delta months]
  rw [behaviour_delta hsingle, generate_all_of_le] at hdelta
  · cases hmore : delta_periods platform session months with
    | none =>
        rw [behaviour, run, step, generate_delta, hmore] at hdelta
        cases hdelta
    | some outcome =>
        obtain ⟨more, rfl, hne', -⟩ := exists_delta_periods hne hmore
        rw [behaviour_delta hmore] at hdelta
        have houtcome := Outcome.delta.inj
          (List.cons.inj (Prod.mk.inj (Option.some.inj hdelta)).1).1
        have hpos' := List.length_pos_iff.mpr hne'
        have hlt : session.state.period_cursor < (session.periods ++ more).length := by
          rw [List.length_append, hperiods, List.length_append]
          omega
        obtain ⟨⟨e, he⟩, -⟩ | ⟨output, outputs, hok, -⟩ :=
          generate_all_cases platform { session with periods := session.periods ++ more } hlt
        · rw [he] at houtcome
          cases houtcome
        · rw [hok] at houtcome
          cases houtcome
  · rw [List.length_append, List.length_singleton]
    show short.periods.length + 1 ≤ short.state.period_cursor
    rw [hstate]
    omega

/-- Sessions that only differ in their directories and behave alike have the same directory,
unless they have finished. -/
theorem output_path_eq_of_behaviour {session short : Session Settings}
    (h : behaviour platform short = behaviour platform session)
    (hconfig : short.config = session.config) (hstate : short.state = session.state)
    (hperiods : short.periods = session.periods) (hne : session.periods ≠ [])
    (hwithin : session.state.period_cursor ≤ session.periods.length)
    (hfinished : ¬ Finished platform session) :
    ∃ period, short.output_mode.output_path period =
      session.output_mode.output_path period := by
  by_cases hremaining : remaining_periods session = 0
  · -- There is an extension, and its first period is generated or stays pending.
    obtain ⟨months, hmonths⟩ : ∃ months, delta_periods platform session months ≠ none := by
      by_contra hall
      push Not at hall
      exact hfinished ⟨hremaining, hall⟩
    obtain ⟨outcome, hmore⟩ := Option.ne_none_iff_exists'.mp hmonths
    obtain ⟨more, rfl, hne', -⟩ := exists_delta_periods hne hmore
    have hdelta := congrFun h [.generate_delta months]
    rw [behaviour_delta hmore,
      behaviour_delta ((delta_periods_congr hconfig hperiods months).trans hmore)] at hdelta
    obtain ⟨houtcomes, hrest⟩ := Prod.mk.inj (Option.some.inj hdelta)
    have houtcome := Outcome.delta.inj (List.cons.inj houtcomes).1
    have hpending := (Prod.mk.inj hrest).1
    have hpos := List.length_pos_iff.mpr hne'
    have hlt : session.state.period_cursor < (session.periods ++ more).length := by
      rw [List.length_append]
      omega
    have hlt' : short.state.period_cursor < (short.periods ++ more).length := by
      rw [hstate, hperiods]
      exact hlt
    have hframe := (generateLoop_frame platform (remaining_periods
      { session with periods := session.periods ++ more } + 1)
      { session with periods := session.periods ++ more }).1.output_mode
    have hframe' := (generateLoop_frame platform (remaining_periods
      { short with periods := short.periods ++ more } + 1)
      { short with periods := short.periods ++ more }).1.output_mode
    obtain ⟨-, hleft⟩ | ⟨output, outputs, hok, hpath⟩ :=
      generate_all_cases platform { short with periods := short.periods ++ more } hlt'
    · obtain ⟨period, hperiod⟩ := output_path_eq_of_pending hpending hleft
      refine ⟨period, ?_⟩
      rw [generate_all, generate_all, hframe, hframe'] at hperiod
      exact hperiod
    · obtain ⟨⟨e, he⟩, -⟩ | ⟨output', outputs', hok', hpath'⟩ :=
        generate_all_cases platform { session with periods := session.periods ++ more } hlt
      · rw [hok, he] at houtcome
        cases houtcome
      · rw [hok, hok'] at houtcome
        obtain ⟨rfl, -⟩ := List.cons.inj (Except.ok.inj houtcome)
        exact ⟨output.period, hpath.symm.trans hpath'⟩
  · have hnil := congrFun h []
    rw [behaviour_nil, behaviour_nil] at hnil
    have hpending := (Prod.mk.inj (Prod.mk.inj (Option.some.inj hnil)).2).1
    apply output_path_eq_of_pending hpending
    rw [hstate, hperiods]
    rw [remaining_periods] at hremaining
    omega

end Differences

section Interruptions

variable {Settings Order : Type}

section Conditions

variable {platform : Platform Settings Order} {config : GeneratorConfig Settings}
  {order order' : Order} {output_path path : PathBuf} {history : List Command}
  {session session' : Session Settings} {outcomes : List Outcome} {text : String}
  (hnew : new platform config order output_path = some (.ok session))
  (hrun : run platform history session = some (outcomes, session'))
  (hsave : platform.to_string_pretty session'.state = .ok text)
  (hload : platform.from_str text = .ok session'.state)

include hnew hrun hsave hload

/-- What is saved and resumed after a history of commands. -/
theorem save_resume_eq (path : PathBuf) (order' : Order) :
    save platform session' = .ok text ∧
      resume platform path (.ok text) session'.config order' =
        if platform.compute_config_hash config order = platform.compute_config_hash config order'
        then some (.ok { session' with
          periods := session.periods
          output_mode := .ofPeriods session.periods path.directory })
        else some (.error (.generationError ("Config has changed since last checkpoint. "
          ++ "Cannot resume with different config."))) := by
  obtain ⟨start, -, hperiods, hconfig, -, hhash, -⟩ := new_spec hnew
  obtain ⟨hframe, -⟩ := run_frame (compute_periods_ne_nil hperiods) hrun
  refine ⟨?_, ?_⟩
  · rw [save, hsave]
    rfl
  · rw [hframe.config, hconfig, resume_eq hnew (hframe.config_hash.trans hhash) hload]

theorem conditions_of_resumesAlike (h : ResumesAlike platform path order' session') :
    platform.compute_config_hash config order = platform.compute_config_hash config order' ∧
      (∀ command ∈ history, command.extends = false) ∧
        (path.directory = output_path ∨ Finished platform session') := by
  obtain ⟨start, -, hperiods, -, hmode, -, hcursor, -⟩ := new_spec hnew
  have hne := compute_periods_ne_nil hperiods
  obtain ⟨hframe, hruns⟩ := run_frame hne hrun
  have hwithin := hframe.within (by omega)
  obtain ⟨text', resumed, hsaved, hresumed, hbehaviour⟩ := h
  obtain ⟨hsaved', hresume⟩ := save_resume_eq hnew hrun hsave hload path order'
  obtain rfl := Except.ok.inj (hsaved'.symm.trans hsaved)
  rw [hresume] at hresumed
  split at hresumed
  · rename_i hsame
    obtain rfl := Except.ok.inj (Option.some.inj hresumed)
    obtain ⟨hnone, hperiods'⟩ | ⟨-, new_periods, hnew', hperiods', months, period, hsingle⟩ :=
      hruns
    · refine ⟨hsame, hnone, ?_⟩
      by_contra hother
      obtain ⟨hpath, hfinished⟩ := not_or.mp hother
      rw [← hperiods'] at hbehaviour hne
      obtain ⟨period, hperiod⟩ :=
        output_path_eq_of_behaviour hbehaviour rfl rfl rfl hne hwithin hfinished
      rw [hframe.output_mode, hmode, ← hperiods'] at hperiod
      exact hpath (ofPeriods_output_path_injective _ hperiod)
    · have hne' : session'.periods ≠ [] := by
        rw [hperiods']
        exact List.append_ne_nil_of_left_ne_nil hne _
      have hsingle' : ∀ short : Session Settings, short.config = session.config →
          short.periods = session.periods →
            delta_periods platform short months = some (.ok [period]) :=
        fun short hconfig hperiods => (delta_periods_congr hconfig hperiods months).trans hsingle
      exact absurd hbehaviour (not_extended_of_behaviour hnew' hperiods' rfl hwithin hne'
        (hsingle' _ hframe.config rfl))
  · cases hresumed

theorem resumesAlike_of_conditions
    (hsame : platform.compute_config_hash config order =
      platform.compute_config_hash config order')
    (hnone : ∀ command ∈ history, command.extends = false)
    (hpath : path.directory = output_path ∨ Finished platform session') :
    ResumesAlike platform path order' session' := by
  obtain ⟨start, -, hperiods, -, hmode, -⟩ := new_spec hnew
  obtain ⟨hframe, hruns⟩ := run_frame (compute_periods_ne_nil hperiods) hrun
  obtain ⟨hsaved, hresume⟩ := save_resume_eq hnew hrun hsave hload path order'
  rw [if_pos hsame] at hresume
  refine ⟨text, _, hsaved, hresume, ?_⟩
  obtain ⟨-, hperiods'⟩ | ⟨⟨command, hcommand, hextends⟩, -⟩ := hruns
  · obtain rfl | hfinished := hpath
    · obtain ⟨config', state', periods', mode'⟩ := session'
      obtain rfl : mode' = .ofPeriods session.periods path.directory :=
        hframe.output_mode.trans hmode
      obtain rfl : periods' = session.periods := hperiods'
      rfl
    · refine behaviour_of_finished hfinished ⟨?_, ?_⟩ rfl
      · rw [← hfinished.1, remaining_periods, remaining_periods, hperiods']
      · intro months
        rw [← hfinished.2 months]
        apply delta_periods_congr
        · rfl
        · exact hperiods'.symm
  · rw [hnone command hcommand] at hextends
    cases hextends

end Conditions

/-- A saved session goes on as before if the text of its configuration has not changed, it was
never extended, and its checkpoint lies in its output directory or it has finished. -/
theorem resumesAlike_iff (platform : Platform Settings Order) {config : GeneratorConfig Settings}
    {order : Order} (order' : Order) {output_path : PathBuf} (path : PathBuf)
    {history : List Command} {session session' : Session Settings} {outcomes : List Outcome}
    {text : String} (hnew : new platform config order output_path = some (.ok session))
    (hrun : run platform history session = some (outcomes, session'))
    (hsave : platform.to_string_pretty session'.state = .ok text)
    (hload : platform.from_str text = .ok session'.state) :
    ResumesAlike platform path order' session' ↔
      platform.compute_config_hash config order = platform.compute_config_hash config order' ∧
        (∀ command ∈ history, command.extends = false) ∧
          (path.directory = output_path ∨ Finished platform session') := by
  constructor
  · exact conditions_of_resumesAlike hnew hrun hsave hload
  · rintro ⟨hsame, hnone, hpath⟩
    exact resumesAlike_of_conditions hnew hrun hsave hload hsame hnone hpath

end Interruptions

section Samples

/-- The platform whose checkpoints hold this state. -/
def storing (state : SessionState) : Platform Unit Unit :=
  { newYear with from_str := fun _ => .ok state }

def firstPeriod : GenerationPeriod :=
  ⟨0, "FY2024", Date.ofYmd 2024 1 1, Date.ofYmd 2024 12 31, 12⟩

def extraPeriod : GenerationPeriod :=
  ⟨1, "FY2025", Date.ofYmd 2025 1 31, Date.ofYmd 2026 1 30, 12⟩

def emptyResult : EnhancedGenerationResult := ⟨[], ⟨0, 0, 0, 0, 0, 0, 0⟩, 0⟩

def outputDirectory : PathBuf := ⟨true, ["out"]⟩

def newSession : Session Unit :=
  ⟨sampleConfig 12 none, SessionState.new 42 "", [firstPeriod], .batch outputDirectory⟩

/-- The session after its only period. -/
def generatedSession : Session Unit :=
  { newSession with state := record newSession.state firstPeriod emptyResult }

/-- The session after an extension by a year. -/
def extendedSession : Session Unit :=
  { newSession with
    state := record generatedSession.state extraPeriod emptyResult
    periods := [firstPeriod, extraPeriod] }

theorem new_storing (state : SessionState) :
    new (storing state) (sampleConfig 12 none) () outputDirectory = some (.ok newSession) := by
  have hparse : (storing state).parse_from_str "2024-01-01" = .ok (Date.ofYmd 2024 1 1) := rfl
  have hperiods : GenerationPeriod.compute_periods (Date.ofYmd 2024 1 1) 12 12 =
      some [firstPeriod] := by
    decide
  rw [new_eq hparse]
  show Option.map _ (GenerationPeriod.compute_periods (Date.ofYmd 2024 1 1) 12 12) = _
  rw [hperiods]
  rfl

theorem run_generated (state : SessionState) :
    ∃ outcomes, run (storing state) [.generate_next_period] newSession =
      some (outcomes, generatedSession) := ⟨_, rfl⟩

theorem run_extended (state : SessionState) :
    ∃ outcomes, run (storing state) [.generate_delta 12] newSession =
      some (outcomes, extendedSession) := by
  have hlast : newSession.periods.getLast? = some firstPeriod := rfl
  have hstart : add_months firstPeriod.end_date 1 = some (Date.ofYmd 2025 1 31) := by
    decide
  have hperiods : GenerationPeriod.compute_periods (Date.ofYmd 2025 1 31) 12 12 =
      some [{ extraPeriod with index := 0 }] := by
    decide
  have hdelta : delta_periods (storing state) newSession 12 = some (.ok [extraPeriod]) := by
    rw [delta_periods_of_last hlast, hstart, Option.bind_some]
    show Option.map _ (GenerationPeriod.compute_periods (Date.ofYmd 2025 1 31) 12 12) = _
    rw [hperiods]
    rfl
  rw [run, step, generate_delta, hdelta]
  exact ⟨_, rfl⟩

/-- A generated year, saved in its output directory. -/
theorem resumesAlike_generated :
    ResumesAlike (storing generatedSession.state) (outputDirectory.join "session.dss") ()
      generatedSession := by
  obtain ⟨outcomes, hrun⟩ := run_generated generatedSession.state
  apply (resumesAlike_iff (storing generatedSession.state) ()
    (outputDirectory.join "session.dss") (new_storing generatedSession.state) hrun rfl rfl).mpr
  exact ⟨rfl, by decide, .inl rfl⟩

/-- A session that was extended before it was saved does not know its second period any more. -/
theorem not_resumesAlike_extended :
    new (storing extendedSession.state) (sampleConfig 12 none) () outputDirectory =
        some (.ok newSession) ∧
      (∃ outcomes, run (storing extendedSession.state) [.generate_delta 12] newSession =
        some (outcomes, extendedSession)) ∧
      ¬ ResumesAlike (storing extendedSession.state) (outputDirectory.join "session.dss") ()
        extendedSession := by
  obtain ⟨outcomes, hrun⟩ := run_extended extendedSession.state
  refine ⟨new_storing extendedSession.state, ⟨outcomes, hrun⟩, ?_⟩
  intro h
  have hnone := (conditions_of_resumesAlike (new_storing extendedSession.state) hrun rfl rfl h).2.1
  cases hnone _ List.mem_cons_self

end Samples

end Datasynth.Runtime.SessionResume
