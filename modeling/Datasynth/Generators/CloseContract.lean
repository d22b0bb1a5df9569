import Datasynth.Generators.CloseRuns

/-!
What a period close promises of its run: tasks wait for their dependencies, the order of the
schedule's list does not matter, the entries are counted, and a completed run has done what is
mandatory.  A run keeps all of it exactly if no task with dependencies is ever run.
-/

namespace Datasynth.Generators.CloseContract

open Datasynth.Core.CloseSchedules
open Datasynth.Core.FiscalCalendars
open Datasynth.Core.JournalEntries
open Datasynth.Generators.CloseRuns
open Datasynth.Generators.PeriodClose
open Datasynth.Lib.CivilCalendar
open Datasynth.Lib.DecimalText
open Datasynth.Lib.PrerequisiteRuns

section Statement

variable (engine : CloseEngine) (company_code : String) (fiscal_period : FiscalPeriod)
  (schedule : CloseSchedule) (context : CloseContext)

def closeRun : PeriodCloseRun :=
  (execute_close engine company_code fiscal_period schedule context).2.1

/-- The result at a place of the list is that of the task there. -/
structure MeetsContract : Prop where
  dependencies : ∀ (i : ℕ) scheduled_task result, schedule.tasks[i]? = some scheduled_task →
    (closeRun engine company_code fiscal_period schedule context).task_results[i]? = some result →
    result.started_at.isSome = true → ∀ dep ∈ scheduled_task.depends_on,
      ∃ earlier ∈
        (closeRun engine company_code fiscal_period schedule context).task_results.take i,
        earlier.task = dep ∧ earlier.is_success = true
  order_free : ∀ tasks, tasks.Perm schedule.tasks → ∀ scheduled_task,
    scheduled_task ∈ executed tasks
        (closeRun engine company_code fiscal_period ⟨tasks⟩ context).task_results ↔
      scheduled_task ∈ executed schedule.tasks
        (closeRun engine company_code fiscal_period schedule context).task_results
  counted : (execute_close engine company_code fiscal_period schedule
      context).2.2.journal_entries.length =
    context.journal_entries.length +
      (closeRun engine company_code fiscal_period schedule context).total_journal_entries
  completed : (closeRun engine company_code fiscal_period schedule context).status = .completed →
    ∀ (i : ℕ) scheduled_task, schedule.tasks[i]? = some scheduled_task →
      scheduled_task.is_mandatory = true → applies fiscal_period scheduled_task = true →
      ∃ result : CloseTaskResult, (closeRun engine company_code fiscal_period schedule
          context).task_results[i]? = some result ∧
        result.is_success = true

def independent (scheduled_task : ScheduledCloseTask) : Bool :=
  applies fiscal_period scheduled_task && scheduled_task.depends_on.isEmpty

/-- The tasks without dependencies are all that can ever be run. -/
structure NeedsNoOrder : Prop where
  unmet : ∀ scheduled_task ∈ schedule.tasks, applies fiscal_period scheduled_task = true →
    scheduled_task.depends_on ≠ [] → ∃ dep ∈ scheduled_task.depends_on,
      ∀ other ∈ schedule.tasks, independent fiscal_period other = true → other.task = dep →
        succeeds engine company_code fiscal_period context dep = false
  stop : engine.config.stop_on_error = true →
    ∀ failing ∈ schedule.tasks, independent fiscal_period failing = true →
      fails engine company_code fiscal_period context failing.task = true →
      ∀ other ∈ schedule.tasks, independent fiscal_period other = true → other = failing
  counted : (postedBy company_code fiscal_period context
    (schedule.tasks.filter (independent fiscal_period))).length < 2 ^ 32
  mandatory : (∃ failing ∈ schedule.tasks, independent fiscal_period failing = true ∧
      fails engine company_code fiscal_period context failing.task = true) ∨
    ∀ scheduled_task ∈ schedule.tasks, scheduled_task.is_mandatory = true →
      applies fiscal_period scheduled_task = true →
      scheduled_task.depends_on = [] ∧
        succeeds engine company_code fiscal_period context scheduled_task.task = true

end Statement

section Results

variable {engine : CloseEngine} {company_code : String} {fiscal_period : FiscalPeriod}
  {context : CloseContext}

theorem getElem?_resultsFrom {tasks : List ScheduledCloseTask} {i : ℕ}
    {scheduled_task : ScheduledCloseTask} {result : CloseTaskResult}
    {previous : List CloseTaskResult} (htask : tasks[i]? = some scheduled_task)
    (hresult : (resultsFrom engine company_code fiscal_period context previous tasks)[i]? =
      some result) :
    result = resultOf engine company_code fiscal_period context (previous ++
      (resultsFrom engine company_code fiscal_period context previous tasks).take i)
      scheduled_task := by
  induction tasks generalizing i previous with
  | nil => exact absurd htask (by simp)
  | cons first rest ih =>
      rw [resultsFrom] at hresult ⊢
      cases i with
      | zero =>
          rw [List.getElem?_cons_zero, Option.some.injEq] at htask
          subst htask
          split at hresult
          · rw [List.getElem?_cons_zero, Option.some.injEq] at hresult
            rw [← hresult, List.take_zero, List.append_nil]
          · rw [List.getElem?_cons_zero, Option.some.injEq] at hresult
            rw [← hresult, List.take_zero, List.append_nil]
      | succ i =>
          rw [List.getElem?_cons_succ] at htask
          split at hresult
          · simp at hresult
          · next hstop =>
            rw [List.getElem?_cons_succ] at hresult
            rw [if_neg hstop, List.take_succ_cons]
            have hrest := ih htask hresult
            rw [List.append_assoc] at hrest
            exact hrest

theorem length_resultsFrom {tasks : List ScheduledCloseTask} {previous : List CloseTaskResult}
    (h : ∀ result ∈ resultsFrom engine company_code fiscal_period context previous tasks,
      failed result = false) :
    (resultsFrom engine company_code fiscal_period context previous tasks).length =
      tasks.length := by
  induction tasks generalizing previous with
  | nil => rfl
  | cons first rest ih =>
      rw [resultsFrom] at h ⊢
      by_cases hstop : (engine.config.stop_on_error && failed (resultOf engine company_code
          fiscal_period context previous first)) = true
      · rw [if_pos hstop] at h
        have hfailed := h _ (List.mem_singleton_self _)
        rw [hfailed, Bool.and_false] at hstop
        exact absurd hstop Bool.false_ne_true
      · rw [if_neg hstop] at h ⊢
        rw [List.length_cons, List.length_cons,
          ih fun result hresult => h result (List.mem_cons_of_mem _ hresult)]

theorem length_resultsFrom_le (tasks : List ScheduledCloseTask)
    (previous : List CloseTaskResult) :
    (resultsFrom engine company_code fiscal_period context previous tasks).length ≤
      tasks.length := by
  induction tasks generalizing previous with
  | nil => exact le_rfl
  | cons first rest ih =>
      rw [resultsFrom]
      split
      · simp
      · exact Nat.succ_le_succ (ih _)

theorem mem_executed {tasks : List ScheduledCloseTask} {results : List CloseTaskResult} {i : ℕ}
    {scheduled_task : ScheduledCloseTask} {result : CloseTaskResult}
    (htask : tasks[i]? = some scheduled_task) (hresult : results[i]? = some result)
    (hstarted : result.started_at.isSome = true) : scheduled_task ∈ executed tasks results := by
  rw [executed, List.mem_map]
  refine ⟨(scheduled_task, result), List.mem_filter.mpr ⟨?_, hstarted⟩, rfl⟩
  apply List.mem_of_getElem? (i := i)
  rw [List.getElem?_zip_eq_some]
  exact ⟨htask, hresult⟩

/-- Errors do not end a run of tasks none of which fails. -/
theorem exists_result {tasks : List ScheduledCloseTask}
    (h : ∀ scheduled_task ∈
      (closeWorkflow engine company_code fiscal_period context).taken [] tasks,
      fails engine company_code fiscal_period context scheduled_task.task = false) {i : ℕ}
    {scheduled_task : ScheduledCloseTask} (htask : tasks[i]? = some scheduled_task) :
    ∃ result, (resultsFrom engine company_code fiscal_period context [] tasks)[i]? =
      some result := by
  have hlength : (resultsFrom engine company_code fiscal_period context [] tasks).length =
      tasks.length := by
    apply length_resultsFrom
    intro result hmem
    obtain ⟨j, hj⟩ := List.mem_iff_getElem?.mp hmem
    obtain ⟨hjlt, -⟩ := List.getElem?_eq_some_iff.mp hj
    obtain ⟨other, hother⟩ : ∃ other, tasks[j]? = some other :=
      ⟨_, List.getElem?_eq_getElem (hjlt.trans_le (length_resultsFrom_le tasks []))⟩
    have hresult := getElem?_resultsFrom hother hj
    obtain ⟨-, hstarted, -, hfailed⟩ := @resultOf_spec engine company_code fiscal_period context
      ([] ++ (resultsFrom engine company_code fiscal_period context [] tasks).take j) other
    rw [← hresult] at hstarted hfailed
    rw [hfailed, ← hstarted]
    by_contra hfails
    rw [Bool.not_eq_false, Bool.and_eq_true] at hfails
    have hexecuted := mem_executed hother hj hfails.1
    rw [executed_resultsFrom] at hexecuted
    rw [h other hexecuted] at hfails
    exact Bool.false_ne_true hfails.2
  obtain ⟨hi, -⟩ := List.getElem?_eq_some_iff.mp htask
  exact ⟨_, List.getElem?_eq_getElem (hlength ▸ hi)⟩

end Results

section Contract

variable {engine : CloseEngine} {company_code : String} {fiscal_period : FiscalPeriod}
  {schedule : CloseSchedule} {context : CloseContext}

/-- A close is a run of the workflow from nothing done. -/
theorem closeRun_spec (engine : CloseEngine) (company_code : String)
    (fiscal_period : FiscalPeriod) (schedule : CloseSchedule) (context : CloseContext)
    {taken : List ScheduledCloseTask}
    (htaken : taken =
      (closeWorkflow engine company_code fiscal_period context).taken [] schedule.tasks) :
    (closeRun engine company_code fiscal_period schedule context).task_results =
        resultsFrom engine company_code fiscal_period context [] schedule.tasks ∧
      (execute_close engine company_code fiscal_period schedule context).2.2.journal_entries =
        context.journal_entries ++ postedBy company_code fiscal_period context taken ∧
      (closeRun engine company_code fiscal_period schedule context).total_journal_entries =
        (postedBy company_code fiscal_period context taken).length % 2 ^ 32 ∧
      ((closeRun engine company_code fiscal_period schedule context).status = .completed ↔
        ∀ scheduled_task ∈ taken,
          fails engine company_code fiscal_period context scheduled_task.task = false) := by
  subst htaken
  obtain ⟨hresults, hentries, htotal, hcompleted⟩ := @closesWith_execute_tasks engine company_code
    fiscal_period context schedule.tasks
    { PeriodCloseRun.new ("CLOSE-" ++ padded 8 ((engine.run_counter + 1) % 2 ^ 64)) company_code
      fiscal_period with
      status := .inProgress
      started_at := some fiscal_period.end_date } context.journal_entries (by
        show 0 < 2 ^ 32
        norm_num)
  refine ⟨hresults, hentries, ?_, ?_⟩
  · rw [← Nat.zero_add (postedBy company_code fiscal_period context _).length]
    exact htotal
  · rw [← true_and (∀ scheduled_task ∈ _, _)]
    exact hcompleted.trans (and_congr_left' (iff_true_intro rfl))

/-- Every run keeps its tasks waiting for what they depend on. -/
theorem dependencies_met (i : ℕ) (scheduled_task : ScheduledCloseTask) (result : CloseTaskResult)
    (htask : schedule.tasks[i]? = some scheduled_task)
    (hresult : (closeRun engine company_code fiscal_period schedule context).task_results[i]? =
      some result)
    (hstarted : result.started_at.isSome = true) (dep : CloseTask)
    (hdep : dep ∈ scheduled_task.depends_on) :
    ∃ earlier ∈ (closeRun engine company_code fiscal_period schedule context).task_results.take i,
      earlier.task = dep ∧ earlier.is_success = true := by
  obtain ⟨hresults, -⟩ := closeRun_spec engine company_code fiscal_period schedule context rfl
  rw [hresults] at hresult ⊢
  have hstart := (@resultOf_spec engine company_code fiscal_period context
    ([] ++ (resultsFrom engine company_code fiscal_period context [] schedule.tasks).take i)
    scheduled_task).2.1
  rw [← getElem?_resultsFrom htask hresult, hstarted, ready_eq] at hstart
  have hdone := deps_met_iff.mp (Bool.and_elim_right hstart.symm) dep hdep
  rw [List.nil_append, doneOf, List.mem_map] at hdone
  obtain ⟨earlier, hearlier, hname⟩ := hdone
  obtain ⟨hmem, hsuccess⟩ := List.mem_filter.mp hearlier
  exact ⟨earlier, hmem, hname, hsuccess⟩

theorem executed_closeRun (tasks : List ScheduledCloseTask) :
    executed tasks (closeRun engine company_code fiscal_period ⟨tasks⟩ context).task_results =
      (closeWorkflow engine company_code fiscal_period context).taken [] tasks := by
  obtain ⟨hresults, -⟩ := closeRun_spec engine company_code fiscal_period ⟨tasks⟩ context rfl
  rw [hresults]
  exact executed_resultsFrom tasks []

theorem orderFree_iff :
    (∀ tasks, tasks.Perm schedule.tasks → ∀ scheduled_task,
      scheduled_task ∈ executed tasks
          (closeRun engine company_code fiscal_period ⟨tasks⟩ context).task_results ↔
        scheduled_task ∈ executed schedule.tasks
          (closeRun engine company_code fiscal_period schedule context).task_results) ↔
      (closeWorkflow engine company_code fiscal_period context).RootsOnly schedule.tasks ∧
        (closeWorkflow engine company_code fiscal_period context).StopsAlone schedule.tasks := by
  rw [← Workflow.orderFree_iff]
  apply forall₂_congr
  intro tasks _
  apply forall_congr'
  intro scheduled_task
  rw [executed_closeRun, executed_closeRun schedule.tasks]

theorem rootsOnly_iff :
    (closeWorkflow engine company_code fiscal_period context).RootsOnly schedule.tasks ↔
      ∀ scheduled_task ∈ schedule.tasks, applies fiscal_period scheduled_task = true →
        scheduled_task.depends_on ≠ [] → ∃ dep ∈ scheduled_task.depends_on,
          ∀ other ∈ schedule.tasks, independent fiscal_period other = true → other.task = dep →
            succeeds engine company_code fiscal_period context dep = false := by
  apply forall₂_congr
  intro scheduled_task _
  apply imp_congr Iff.rfl
  apply imp_congr Iff.rfl
  apply exists_congr
  intro dep
  apply and_congr Iff.rfl
  rw [Workflow.mem_available_iff]
  constructor
  · intro h other hother hindependent htask
    rw [Bool.eq_false_iff]
    intro hsucceeds
    exact h ⟨other, hother, hindependent, htask, hsucceeds⟩
  · rintro h ⟨other, hother, hindependent, htask, hsucceeds⟩
    have hfalse := h other hother hindependent htask
    exact absurd (hfalse.symm.trans hsucceeds) Bool.false_ne_true

theorem stopsAlone_iff :
    (closeWorkflow engine company_code fiscal_period context).StopsAlone schedule.tasks ↔
      (engine.config.stop_on_error = true →
        ∀ failing ∈ schedule.tasks, independent fiscal_period failing = true →
          fails engine company_code fiscal_period context failing.task = true →
          ∀ other ∈ schedule.tasks, independent fiscal_period other = true →
            other = failing) := by
  constructor
  · intro h hstop failing hfailing hindependent hfails
    apply h failing hfailing hindependent
    rw [closeWorkflow_stops, hstop, hfails]
    rfl
  · intro h failing hfailing hindependent hstops
    rw [closeWorkflow_stops, Bool.and_eq_true] at hstops
    exact h hstops.1 failing hfailing hindependent hstops.2

theorem entriesOf_of_fails {task : CloseTask}
    (h : fails engine company_code fiscal_period context task = true) :
    entriesOf company_code fiscal_period context task = [] := by
  cases task with
  | custom name =>
      rw [fails, Option.isNone_iff_eq_none] at h
      rw [entriesOf, handlerFor, h]
      rfl
  | reconcileArToGl | reconcileApToGl | reconcileFaToGl | reconcileInventoryToGl => rfl
  | _ => exact absurd h Bool.false_ne_true

/-- An error that ends the run cuts no entries off. -/
theorem postedBy_taken (hroots :
      (closeWorkflow engine company_code fiscal_period context).RootsOnly schedule.tasks)
    (hstops :
      (closeWorkflow engine company_code fiscal_period context).StopsAlone schedule.tasks) :
    (postedBy company_code fiscal_period context
      ((closeWorkflow engine company_code fiscal_period context).taken [] schedule.tasks)) =
      postedBy company_code fiscal_period context
        (schedule.tasks.filter (independent fiscal_period)) := by
  rw [Workflow.taken_of_rootsOnly hroots]
  by_cases hall : ∀ e ∈ schedule.tasks.filter (independent fiscal_period),
      (closeWorkflow engine company_code fiscal_period context).stops e.task = false
  · exact congrArg _ (Workflow.upToStop_of_not_stops hall)
  · push Not at hall
    obtain ⟨failing, hfailing, hstop⟩ := hall
    rw [Bool.ne_false_iff] at hstop
    obtain ⟨hmem, hindependent⟩ := List.mem_filter.mp hfailing
    have hentries := entriesOf_of_fails (Bool.and_elim_right hstop)
    have hnone : ∀ tasks : List ScheduledCloseTask,
        (∀ e ∈ tasks, e ∈ schedule.tasks.filter (independent fiscal_period)) →
        postedBy company_code fiscal_period context tasks = [] := by
      intro tasks htasks
      rw [postedBy, List.flatMap_eq_nil_iff]
      intro other hother
      obtain ⟨hotherMem, hotherIndependent⟩ := List.mem_filter.mp (htasks other hother)
      rw [hstops failing hmem hindependent hstop other hotherMem hotherIndependent]
      exact hentries
    rw [hnone _ fun _ h => h, hnone]
    intro e he
    exact Workflow.mem_upToStop he

theorem meetsContract_iff :
    MeetsContract engine company_code fiscal_period schedule context ↔
      NeedsNoOrder engine company_code fiscal_period schedule context := by
  obtain ⟨hresults, hentries, htotal, hcompleted⟩ :=
    closeRun_spec engine company_code fiscal_period schedule context rfl
  constructor
  · rintro ⟨-, horder, hcounted, hdone⟩
    obtain ⟨hroots, hstops⟩ := orderFree_iff.mp horder
    refine ⟨rootsOnly_iff.mp hroots, stopsAlone_iff.mp hstops, ?_, ?_⟩
    · rw [hentries, htotal, List.length_append, postedBy_taken hroots hstops] at hcounted
      have hmod := Nat.mod_lt (postedBy company_code fiscal_period context
        (schedule.tasks.filter (independent fiscal_period))).length (by norm_num : 2 ^ 32 > 0)
      omega
    · rw [or_iff_not_imp_left]
      intro hnone scheduled_task hmem hmandatory happlies
      have hstatus := hcompleted.mpr (by
        intro other hother
        obtain ⟨hotherMem, hotherRoot⟩ := (Workflow.mem_taken_iff hroots hstops).mp hother
        rw [Bool.eq_false_iff]
        intro hfails
        exact hnone ⟨other, hotherMem, hotherRoot, hfails⟩)
      obtain ⟨i, hi⟩ := List.mem_iff_getElem?.mp hmem
      obtain ⟨result, hresult, hsuccess⟩ := hdone hstatus i scheduled_task hi hmandatory happlies
      rw [hresults] at hresult
      obtain ⟨-, hstarted, hsucceeds, -⟩ := @resultOf_spec engine company_code fiscal_period context
        ([] ++ (resultsFrom engine company_code fiscal_period context [] schedule.tasks).take i)
        scheduled_task
      rw [← getElem?_resultsFrom hi hresult] at hstarted hsucceeds
      rw [hsuccess, ← hstarted] at hsucceeds
      obtain ⟨hstart, hsucceed⟩ := (Bool.and_eq_true _ _).mp hsucceeds.symm
      have hexecuted := mem_executed hi hresult hstart
      rw [executed_resultsFrom] at hexecuted
      have hroot := ((Workflow.mem_taken_iff hroots hstops).mp hexecuted).2
      exact ⟨(Workflow.isRoot_iff.mp hroot).2, hsucceed⟩
  · rintro ⟨hunmet, hstop, hcounted, hmandatory⟩
    have hroots := rootsOnly_iff.mpr hunmet
    have hstops := stopsAlone_iff.mpr hstop
    refine ⟨dependencies_met, orderFree_iff.mpr ⟨hroots, hstops⟩, ?_, ?_⟩
    · rw [hentries, htotal, List.length_append, postedBy_taken hroots hstops,
        Nat.mod_eq_of_lt hcounted]
    · intro hstatus i scheduled_task hi hmandatoryTask happlies
      have hfails := hcompleted.mp hstatus
      have hmem := List.mem_of_getElem? hi
      have hdone : scheduled_task.depends_on = [] ∧
          succeeds engine company_code fiscal_period context scheduled_task.task = true := by
        rcases hmandatory with ⟨failing, hfailing, hindependent, hfailed⟩ | hall
        · have htaken := (Workflow.mem_taken_iff hroots hstops).mpr ⟨hfailing, hindependent⟩
          rw [hfails failing htaken] at hfailed
          exact absurd hfailed Bool.false_ne_true
        · exact hall scheduled_task hmem hmandatoryTask happlies
      obtain ⟨result, hresult⟩ := exists_result hfails hi
      rw [hresults]
      refine ⟨result, hresult, ?_⟩
      have hroot : (closeWorkflow engine company_code fiscal_period context).isRoot
          scheduled_task = true := Workflow.isRoot_iff.mpr ⟨happlies, hdone.1⟩
      rw [getElem?_resultsFrom hi hresult, (resultOf_spec _ _).2.2.1,
        Workflow.ready_of_isRoot hroot, hdone.2]
      rfl

/-- The statements are listed before the trial balance they depend on. -/
def reversedSchedule : CloseSchedule :=
  ⟨[(ScheduledCloseTask.new .generateFinancialStatements 2).dependsOn .generateTrialBalance,
    ScheduledCloseTask.new .generateTrialBalance 1]⟩

def january : FiscalPeriod :=
  ⟨2024, 1, Date.ofYmd 2024 1 1, Date.ofYmd 2024 1 31, .monthly, false, .open⟩

/-- The run is reported as completed, and its statements are skipped. -/
theorem not_meetsContract_reversed :
    ¬ MeetsContract (.new .default) "1000" january reversedSchedule .default := by
  intro h
  obtain ⟨result, hresult, hsuccess⟩ := h.completed (by decide) 0 _ rfl rfl rfl
  have hskipped : ((closeRun (.new .default) "1000" january reversedSchedule
      .default).task_results[0]?).map CloseTaskResult.is_success = some false := by decide
  rw [hresult, Option.map_some, hsuccess] at hskipped
  exact absurd hskipped (by decide)

end Contract

end Datasynth.Generators.CloseContract
