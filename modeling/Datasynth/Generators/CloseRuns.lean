import Datasynth.Core.FiscalCalendars
import Datasynth.Core.JournalEntries
import Datasynth.Lib.AmountText
import Datasynth.Lib.PrerequisiteRuns
import Mathlib.Algebra.BigOperators.Group.List.Basic

/-!
The period close: the tasks of a schedule are run one after the other, each by the handler that
the context has for it.  Counts are 32-bit numbers and wrap.
-/

namespace Datasynth.Generators.PeriodClose

open Datasynth.Lib.CivilCalendar
open Datasynth.Lib.DecimalText
open Datasynth.Core.CloseSchedules
open Datasynth.Core.FiscalCalendars
open Datasynth.Core.JournalEntries

section Context

structure CloseEngineConfig where
  stop_on_error : Bool
  require_reconciliation : Bool
  reconciliation_tolerance : ℚ

def CloseEngineConfig.default : CloseEngineConfig := ⟨false, true, 1 / 100⟩

structure CloseEngine where
  config : CloseEngineConfig
  run_counter : ℕ

def CloseEngine.new (config : CloseEngineConfig) : CloseEngine := ⟨config, 0⟩

/-- Entries for a company and a period, with their total amount. -/
abbrev Handler := String → FiscalPeriod → List JournalEntry × ℚ

structure CloseContext where
  journal_entries : List JournalEntry
  depreciation_handler : Option Handler
  accrual_handler : Option (String → FiscalPeriod → CloseTask → List JournalEntry × ℚ)
  prepaid_handler : Option Handler
  reconciliation_handler : Option (String → FiscalPeriod → CloseTask → Except String ℚ)
  fx_revaluation_handler : Option Handler
  overhead_handler : Option Handler
  ic_settlement_handler : Option Handler
  translation_handler : Option Handler
  elimination_handler : Option Handler
  tax_provision_handler : Option Handler
  income_close_handler : Option Handler
  re_rollforward_handler : Option Handler
  inventory_reval_handler : Option Handler
  custom_handlers : String → Option Handler

def CloseContext.default : CloseContext :=
  ⟨[], none, none, none, none, none, none, none, none, none, none, none, none, none,
    fun _ => none⟩

/-- The handler of accruals, for one of the tasks it handles. -/
def CloseContext.accrualFor (context : CloseContext) (task : CloseTask) : Option Handler :=
  context.accrual_handler.map fun handler company_code fiscal_period =>
    handler company_code fiscal_period task

end Context

section Tasks

variable (engine : CloseEngine) (company_code : String) (fiscal_period : FiscalPeriod)

/-- Run a handler and add its entries to the context; without one the task gets the status for
that. -/
def postEntries (context : CloseContext) (result : CloseTaskResult) (handler : Option Handler)
    (missing : CloseTaskStatus) : CloseTaskResult × CloseContext :=
  match handler with
  | some handler =>
      let (entries, total) := handler company_code fiscal_period
      ({ result with
          journal_entries_created := entries.length % 2 ^ 32
          total_amount := total
          status := .completed },
        { context with journal_entries := context.journal_entries ++ entries })
  | none => ({ result with status := missing }, context)

/-- The status of a reconciliation by the difference it found. -/
def reconciled (config : CloseEngineConfig) (diff : ℚ) : CloseTaskStatus :=
  if |diff| ≤ config.reconciliation_tolerance then .completed
  else if config.require_reconciliation then
    .failed ("Reconciliation difference: " ++ decimalText diff)
  else .completedWithWarnings ["Reconciliation difference: " ++ decimalText diff]

def reconcile (context : CloseContext) (result : CloseTaskResult) (task : CloseTask) :
    CloseTaskResult :=
  match context.reconciliation_handler with
  | some handler =>
      match handler company_code fiscal_period task with
      | .ok diff => { result with status := reconciled engine.config diff, total_amount := diff }
      | .error e => { result with status := .failed e }
  | none => { result with status := .skipped "No reconciliation handler" }

def execute_task (task : CloseTask) (context : CloseContext) : CloseTaskResult × CloseContext :=
  let result : CloseTaskResult :=
    { CloseTaskResult.new task company_code fiscal_period with
      status := .inProgress
      started_at := some fiscal_period.end_date }
  let post := postEntries company_code fiscal_period context result
  let executed := match task with
    | .runDepreciation => post context.depreciation_handler (.skipped "No depreciation handler")
    | .postAccruedExpenses | .postAccruedRevenue =>
        post (context.accrualFor task) (.skipped "No accrual handler")
    | .postPrepaidAmortization => post context.prepaid_handler (.skipped "No prepaid handler")
    | .reconcileArToGl | .reconcileApToGl | .reconcileFaToGl | .reconcileInventoryToGl =>
        (reconcile engine company_code fiscal_period context result task, context)
    | .revalueForeignCurrency =>
        post context.fx_revaluation_handler (.skipped "No FX revaluation handler")
    | .allocateCorporateOverhead => post context.overhead_handler (.skipped "No overhead handler")
    | .postIntercompanySettlements =>
        post context.ic_settlement_handler (.skipped "No IC settlement handler")
    | .translateForeignSubsidiaries =>
        post context.translation_handler (.skipped "No translation handler")
    | .eliminateIntercompany =>
        post context.elimination_handler (.skipped "No elimination handler")
    | .calculateTaxProvision =>
        post context.tax_provision_handler (.skipped "No tax provision handler")
    | .closeIncomeStatement =>
        post context.income_close_handler (.skipped "No income close handler")
    | .postRetainedEarningsRollforward =>
        post context.re_rollforward_handler (.skipped "No RE rollforward handler")
    | .generateTrialBalance | .generateFinancialStatements =>
        ({ result with status := .completed, notes := ["Report generation completed"] }, context)
    | .postInventoryRevaluation =>
        post context.inventory_reval_handler (.skipped "No inventory reval handler")
    | .custom name =>
        post (context.custom_handlers name)
          (.failed ("Custom close task '" ++ name ++ "' has no registered handler. " ++
            "Register a handler via CloseContext.custom_handlers.insert(\"" ++ name ++
            "\",...)"))
  ({ executed.1 with completed_at := some fiscal_period.end_date }, executed.2)

end Tasks

section Close

variable (engine : CloseEngine) (company_code : String) (fiscal_period : FiscalPeriod)

def skippedResult (task : CloseTask) (reason : String) : CloseTaskResult :=
  { CloseTaskResult.new task company_code fiscal_period with status := .skipped reason }

def deps_met (task_results : List CloseTaskResult) (scheduled_task : ScheduledCloseTask) : Bool :=
  scheduled_task.depends_on.all fun dep =>
    task_results.any fun r => r.task = dep && r.is_success

/-- The loop over the tasks of the schedule and what follows it. -/
def execute_tasks : List ScheduledCloseTask → PeriodCloseRun → CloseContext →
    PeriodCloseRun × CloseContext
  | [], run, context =>
      ({ run with
          completed_at := some fiscal_period.end_date
          status := if run.errors.isEmpty then .completed else .completedWithErrors },
        context)
  | scheduled_task :: rest, run, context =>
      let task := scheduled_task.task
      let skip (reason : String) :=
        { run with task_results :=
            run.task_results ++ [skippedResult company_code fiscal_period task reason] }
      if task.is_year_end_only && !fiscal_period.is_year_end then
        execute_tasks rest (skip "Not year-end period") context
      else if !deps_met run.task_results scheduled_task then
        execute_tasks rest (skip "Dependencies not met") context
      else
        let (result, context) := execute_task engine company_code fiscal_period task context
        let run := { run with
          total_journal_entries :=
            (run.total_journal_entries + result.journal_entries_created) % 2 ^ 32
          task_results := run.task_results ++ [result] }
        match result.status with
        | .failed err =>
            let run := { run with errors := run.errors ++ [task.name ++ ": " ++ err] }
            if engine.config.stop_on_error then ({ run with status := .failed }, context)
            else execute_tasks rest run context
        | _ => execute_tasks rest run context

def execute_close (schedule : CloseSchedule) (context : CloseContext) :
    CloseEngine × PeriodCloseRun × CloseContext :=
  let run_counter := (engine.run_counter + 1) % 2 ^ 64
  let run := { PeriodCloseRun.new ("CLOSE-" ++ padded 8 run_counter) company_code
      fiscal_period with
    status := .inProgress
    started_at := some fiscal_period.end_date }
  ({ engine with run_counter := run_counter },
    execute_tasks engine company_code fiscal_period schedule.tasks run context)

end Close

end Datasynth.Generators.PeriodClose

/-!
Runs of the period close.  What a task does is read off the handlers; the tasks that are run are
those a workflow takes, and the entries and errors of a run are theirs.
-/

namespace Datasynth.Generators.CloseRuns

open Datasynth.Core.CloseSchedules
open Datasynth.Core.FiscalCalendars
open Datasynth.Core.JournalEntries
open Datasynth.Generators.PeriodClose
open Datasynth.Lib.PrerequisiteRuns

section Tasks

def reconciles : CloseTask → Bool
  | .reconcileArToGl | .reconcileApToGl | .reconcileFaToGl | .reconcileInventoryToGl => true
  | _ => false

def reports : CloseTask → Bool
  | .generateTrialBalance | .generateFinancialStatements => true
  | _ => false

/-- The handler that posts the entries of a task. -/
def handlerFor (context : CloseContext) (task : CloseTask) : Option Handler :=
  match task with
  | .runDepreciation => context.depreciation_handler
  | .postInventoryRevaluation => context.inventory_reval_handler
  | .postAccruedExpenses | .postAccruedRevenue => context.accrualFor task
  | .postPrepaidAmortization => context.prepaid_handler
  | .allocateCorporateOverhead => context.overhead_handler
  | .postIntercompanySettlements => context.ic_settlement_handler
  | .revalueForeignCurrency => context.fx_revaluation_handler
  | .calculateTaxProvision => context.tax_provision_handler
  | .translateForeignSubsidiaries => context.translation_handler
  | .eliminateIntercompany => context.elimination_handler
  | .closeIncomeStatement => context.income_close_handler
  | .postRetainedEarningsRollforward => context.re_rollforward_handler
  | .custom name => context.custom_handlers name
  | .reconcileArToGl | .reconcileApToGl | .reconcileFaToGl | .reconcileInventoryToGl
  | .generateTrialBalance | .generateFinancialStatements => none

variable (engine : CloseEngine) (company_code : String) (fiscal_period : FiscalPeriod)
  (context : CloseContext)

/-- A reconciliation finds a difference that the configuration lets pass, or does not. -/
def reconciliation (task : CloseTask) : Option Bool :=
  context.reconciliation_handler.map fun handler =>
    match handler company_code fiscal_period task with
    | .ok diff => |diff| ≤ engine.config.reconciliation_tolerance ||
        !engine.config.require_reconciliation
    | .error _ => false

/-- Running the task completes it. -/
def succeeds (task : CloseTask) : Bool :=
  if reports task then true
  else if reconciles task then
    reconciliation engine company_code fiscal_period context task = some true
  else (handlerFor context task).isSome

/-- Running the task is an error; a handler that is missing is one for custom tasks only. -/
def fails (task : CloseTask) : Bool :=
  match task with
  | .custom name => (context.custom_handlers name).isNone
  | task => reconciles task &&
      reconciliation engine company_code fiscal_period context task = some false

def entriesOf (task : CloseTask) : List JournalEntry :=
  (handlerFor context task).elim [] fun handler => (handler company_code fiscal_period).1

def failed (result : CloseTaskResult) : Bool :=
  match result.status with
  | .failed _ => true
  | _ => false

def withEntries (journal_entries : List JournalEntry) : CloseContext :=
  { context with journal_entries := journal_entries }

/-- What running a task does. -/
structure Executes (task : CloseTask) (executed : CloseTaskResult × CloseContext) : Prop where
  task_eq : executed.1.task = task
  started : executed.1.started_at = some fiscal_period.end_date
  is_success : executed.1.is_success = succeeds engine company_code fiscal_period context task
  failed_eq : failed executed.1 = fails engine company_code fiscal_period context task
  created : executed.1.journal_entries_created =
    (entriesOf company_code fiscal_period context task).length % 2 ^ 32
  context_eq : executed.2 = withEntries context
    (context.journal_entries ++ entriesOf company_code fiscal_period context task)

variable {engine company_code fiscal_period context}

/-- A task that posts entries by its handler and has a status of its own without one. -/
theorem executes_of_posts {task : CloseTask} {missing : CloseTaskStatus}
    {begun : CloseTaskResult}
    (hexecute : execute_task engine company_code fiscal_period task context =
      ({ (postEntries company_code fiscal_period context begun (handlerFor context task)
            missing).1 with completed_at := some fiscal_period.end_date },
        (postEntries company_code fiscal_period context begun (handlerFor context task) missing).2))
    (hbegun : begun.task = task ∧ begun.started_at = some fiscal_period.end_date ∧
      begun.journal_entries_created = 0)
    (hkind : reports task = false ∧ reconciles task = false)
    (hmissing : CloseTaskResult.is_success { begun with status := missing } = false)
    (hfails : fails engine company_code fiscal_period context task =
      ((handlerFor context task).isNone && failed { begun with status := missing })) :
    Executes engine company_code fiscal_period context task
      (execute_task engine company_code fiscal_period task context) := by
  obtain ⟨htask, hstarted, hcreated⟩ := hbegun
  obtain ⟨hreports, hreconciles⟩ := hkind
  rw [hexecute]
  cases hhandler : handlerFor context task with
  | none =>
      refine ⟨htask, hstarted, ?_, ?_, ?_, ?_⟩
      · rw [succeeds, hreports, hreconciles, hhandler]
        exact hmissing
      · rw [hfails, hhandler]
        rfl
      · rw [entriesOf, hhandler]
        exact hcreated
      · rw [entriesOf, hhandler, Option.elim_none, List.append_nil]
        rfl
  | some handler =>
      refine ⟨htask, hstarted, ?_, ?_, ?_, ?_⟩
      · rw [succeeds, hreports, hreconciles, hhandler]
        rfl
      · rw [hfails, hhandler]
        rfl
      · rw [entriesOf, hhandler]
        rfl
      · rw [entriesOf, hhandler]
        rfl

theorem status_of_reconciles {task : CloseTask} {begun result : CloseTaskResult}
    (hstatus : result.status =
      (reconcile engine company_code fiscal_period context begun task).status) :
    (result.is_success = true ↔
        reconciliation engine company_code fiscal_period context task = some true) ∧
      (failed result = true ↔
        reconciliation engine company_code fiscal_period context task = some false) := by
  rw [CloseTaskResult.is_success, failed, hstatus, reconcile, reconciliation]
  cases context.reconciliation_handler with
  | none => simp
  | some handler =>
      rw [Option.map_some]
      dsimp only
      cases handler company_code fiscal_period task with
      | error e => simp
      | ok diff =>
          dsimp only
          rw [reconciled]
          by_cases hdiff : |diff| ≤ engine.config.reconciliation_tolerance
          · simp [hdiff]
          · cases hrequire : engine.config.require_reconciliation <;> simp [hdiff]

/-- A reconciliation posts nothing. -/
theorem executes_of_reconciles {task : CloseTask} {begun : CloseTaskResult}
    (hexecute : execute_task engine company_code fiscal_period task context =
      ({ reconcile engine company_code fiscal_period context begun task with
          completed_at := some fiscal_period.end_date }, context))
    (hbegun : begun.task = task ∧ begun.started_at = some fiscal_period.end_date ∧
      begun.journal_entries_created = 0)
    (hkind : reports task = false ∧ reconciles task = true)
    (hhandler : handlerFor context task = none)
    (hfails : fails engine company_code fiscal_period context task =
      decide (reconciliation engine company_code fiscal_period context task = some false)) :
    Executes engine company_code fiscal_period context task
      (execute_task engine company_code fiscal_period task context) := by
  obtain ⟨htask, hstarted, hcreated⟩ := hbegun
  obtain ⟨hreports, hreconciles⟩ := hkind
  have hentries : entriesOf company_code fiscal_period context task = [] := by
    rw [entriesOf, hhandler]
    rfl
  have hstatus : (execute_task engine company_code fiscal_period task context).1.status =
      (reconcile engine company_code fiscal_period context begun task).status := by
    rw [hexecute]
  obtain ⟨hsuccess, hfailed⟩ := status_of_reconciles hstatus
  have hkept : (reconcile engine company_code fiscal_period context begun task).task = task ∧
      (reconcile engine company_code fiscal_period context begun task).started_at =
        some fiscal_period.end_date ∧
      (reconcile engine company_code fiscal_period context begun task).journal_entries_created =
        0 := by
    rw [reconcile]
    split
    · split <;> exact ⟨htask, hstarted, hcreated⟩
    · exact ⟨htask, hstarted, hcreated⟩
  refine ⟨?_, ?_, ?_, ?_, ?_, ?_⟩
  · rw [hexecute]
    exact hkept.1
  · rw [hexecute]
    exact hkept.2.1
  · rw [Bool.eq_iff_iff, hsuccess, succeeds, hreports, hreconciles]
    exact decide_eq_true_iff.symm
  · rw [Bool.eq_iff_iff, hfailed, hfails, decide_eq_true_eq]
  · rw [hexecute, hentries]
    exact hkept.2.2
  · rw [hexecute, hentries, List.append_nil]
    rfl

theorem executes_task (task : CloseTask) :
    Executes engine company_code fiscal_period context task
      (execute_task engine company_code fiscal_period task context) := by
  cases task with
  | reconcileArToGl | reconcileApToGl | reconcileFaToGl | reconcileInventoryToGl =>
      exact executes_of_reconciles rfl ⟨rfl, rfl, rfl⟩ ⟨rfl, rfl⟩ rfl rfl
  | generateTrialBalance | generateFinancialStatements =>
      refine ⟨rfl, rfl, rfl, rfl, rfl, ?_⟩
      rw [entriesOf, handlerFor, Option.elim_none, List.append_nil]
      rfl
  | custom name =>
      refine executes_of_posts rfl ⟨rfl, rfl, rfl⟩ ⟨rfl, rfl⟩ rfl ?_
      rw [fails, handlerFor]
      exact (Bool.and_true _).symm
  | _ =>
      refine executes_of_posts rfl ⟨rfl, rfl, rfl⟩ ⟨rfl, rfl⟩ rfl ?_
      exact (Bool.and_false _).symm

theorem is_success_of_failed {result : CloseTaskResult} (h : failed result = true) :
    result.is_success = false := by
  rw [failed] at h
  rw [CloseTaskResult.is_success]
  split at h
  · next hstatus => rw [hstatus]
  · exact absurd h Bool.false_ne_true

theorem not_succeeds_of_fails {task : CloseTask}
    (h : fails engine company_code fiscal_period context task = true) :
    succeeds engine company_code fiscal_period context task = false := by
  have hexecutes := @executes_task engine company_code fiscal_period context task
  rw [← hexecutes.is_success]
  exact is_success_of_failed (hexecutes.failed_eq.trans h)

theorem postEntries_fst (context context' : CloseContext) (result : CloseTaskResult)
    (handler : Option Handler) (missing : CloseTaskStatus) :
    (postEntries company_code fiscal_period context result handler missing).1 =
      (postEntries company_code fiscal_period context' result handler missing).1 := by
  cases handler <;> rfl

/-- The entries that are in the context change nothing about a result. -/
theorem execute_task_fst (task : CloseTask) (journal_entries : List JournalEntry) :
    (execute_task engine company_code fiscal_period task (withEntries context journal_entries)).1 =
      (execute_task engine company_code fiscal_period task context).1 := by
  cases task with
  | reconcileArToGl | reconcileApToGl | reconcileFaToGl | reconcileInventoryToGl
  | generateTrialBalance | generateFinancialStatements => rfl
  | _ =>
      refine congrArg (fun r : CloseTaskResult =>
        { r with completed_at := some fiscal_period.end_date }) ?_
      exact postEntries_fst _ _ _ _ _

end Tasks

section Runs

variable (engine : CloseEngine) (company_code : String) (fiscal_period : FiscalPeriod)
  (context : CloseContext)

def applies (scheduled_task : ScheduledCloseTask) : Bool :=
  !(scheduled_task.task.is_year_end_only && !fiscal_period.is_year_end)

/-- The tasks as jobs of a run through the schedule's list. -/
def closeWorkflow : Workflow ScheduledCloseTask CloseTask where
  task := ScheduledCloseTask.task
  needs := ScheduledCloseTask.depends_on
  applies := applies fiscal_period
  succeeds := succeeds engine company_code fiscal_period context
  stops task := engine.config.stop_on_error &&
    fails engine company_code fiscal_period context task
  not_succeeds_of_stops _ hstops :=
    not_succeeds_of_fails (Bool.and_elim_right hstops)

theorem closeWorkflow_stops (scheduled_task : ScheduledCloseTask) :
    (closeWorkflow engine company_code fiscal_period context).stops
        ((closeWorkflow engine company_code fiscal_period context).task scheduled_task) =
      (engine.config.stop_on_error &&
        fails engine company_code fiscal_period context scheduled_task.task) := rfl

def resultOf (previous : List CloseTaskResult) (scheduled_task : ScheduledCloseTask) :
    CloseTaskResult :=
  if !applies fiscal_period scheduled_task then
    skippedResult company_code fiscal_period scheduled_task.task "Not year-end period"
  else if !deps_met previous scheduled_task then
    skippedResult company_code fiscal_period scheduled_task.task "Dependencies not met"
  else (execute_task engine company_code fiscal_period scheduled_task.task context).1

/-- The results of a run, after those that are there before it. -/
def resultsFrom : List CloseTaskResult → List ScheduledCloseTask → List CloseTaskResult
  | _, [] => []
  | previous, scheduled_task :: rest =>
      let result := resultOf engine company_code fiscal_period context previous scheduled_task
      if engine.config.stop_on_error && failed result then [result]
      else result :: resultsFrom (previous ++ [result]) rest

/-- The run after a task: its entries are counted, its result is there. -/
def afterTask (run : PeriodCloseRun) (scheduled_task : ScheduledCloseTask)
    (errors : List String) : PeriodCloseRun :=
  { run with
    total_journal_entries := (run.total_journal_entries +
      (entriesOf company_code fiscal_period context scheduled_task.task).length) % 2 ^ 32
    task_results := run.task_results ++
      [resultOf engine company_code fiscal_period context run.task_results scheduled_task]
    errors := errors }

/-- The entries that a run of the tasks posts. -/
def postedBy (tasks : List ScheduledCloseTask) : List JournalEntry :=
  tasks.flatMap fun scheduled_task => entriesOf company_code fiscal_period context
    scheduled_task.task

/-- Where the loop over the tasks ends, from a run and entries before it. -/
structure ClosesWith (tasks : List ScheduledCloseTask) (run : PeriodCloseRun)
    (journal_entries : List JournalEntry) (taken : List ScheduledCloseTask)
    (closed : PeriodCloseRun × CloseContext) : Prop where
  task_results : closed.1.task_results = run.task_results ++
    resultsFrom engine company_code fiscal_period context run.task_results tasks
  journal_entries : closed.2.journal_entries =
    journal_entries ++ postedBy company_code fiscal_period context taken
  total : closed.1.total_journal_entries = (run.total_journal_entries +
    (postedBy company_code fiscal_period context taken).length) % 2 ^ 32
  completed_iff : closed.1.status = .completed ↔ run.errors = [] ∧ ∀ scheduled_task ∈ taken,
    fails engine company_code fiscal_period context scheduled_task.task = false

/-- The tasks that results say are done. -/
def doneOf (results : List CloseTaskResult) : List CloseTask :=
  (results.filter CloseTaskResult.is_success).map CloseTaskResult.task

variable {engine company_code fiscal_period context}

theorem deps_met_iff {results : List CloseTaskResult} {scheduled_task : ScheduledCloseTask} :
    deps_met results scheduled_task = true ↔
      ∀ dep ∈ scheduled_task.depends_on, dep ∈ doneOf results := by
  rw [deps_met, List.all_eq_true]
  apply forall₂_congr
  intro dep _
  rw [List.any_eq_true, doneOf, List.mem_map]
  constructor
  · rintro ⟨r, hr, h⟩
    obtain ⟨htask, hsuccess⟩ := (Bool.and_eq_true _ _).mp h
    exact ⟨r, List.mem_filter.mpr ⟨hr, hsuccess⟩, of_decide_eq_true htask⟩
  · rintro ⟨r, hr, htask⟩
    obtain ⟨hmem, hsuccess⟩ := List.mem_filter.mp hr
    exact ⟨r, hmem, (Bool.and_eq_true _ _).mpr ⟨decide_eq_true htask, hsuccess⟩⟩

theorem ready_eq (results : List CloseTaskResult) (scheduled_task : ScheduledCloseTask) :
    (closeWorkflow engine company_code fiscal_period context).ready (doneOf results)
        scheduled_task =
      (applies fiscal_period scheduled_task && deps_met results scheduled_task) := by
  rw [Bool.eq_iff_iff, Bool.and_eq_true, deps_met_iff, Workflow.ready, Bool.and_eq_true,
    List.all_eq_true]
  simp only [decide_eq_true_eq]
  exact Iff.rfl

theorem resultOf_spec (previous : List CloseTaskResult) (scheduled_task : ScheduledCloseTask) :
    (resultOf engine company_code fiscal_period context previous scheduled_task).task =
        scheduled_task.task ∧
      (resultOf engine company_code fiscal_period context previous
          scheduled_task).started_at.isSome =
        (closeWorkflow engine company_code fiscal_period context).ready (doneOf previous)
          scheduled_task ∧
      (resultOf engine company_code fiscal_period context previous scheduled_task).is_success =
        ((closeWorkflow engine company_code fiscal_period context).ready (doneOf previous)
            scheduled_task &&
          succeeds engine company_code fiscal_period context scheduled_task.task) ∧
      failed (resultOf engine company_code fiscal_period context previous scheduled_task) =
        ((closeWorkflow engine company_code fiscal_period context).ready (doneOf previous)
            scheduled_task &&
          fails engine company_code fiscal_period context scheduled_task.task) := by
  rw [ready_eq, resultOf]
  have hexecutes := @executes_task engine company_code fiscal_period context scheduled_task.task
  cases applies fiscal_period scheduled_task with
  | false => exact ⟨rfl, rfl, rfl, rfl⟩
  | true =>
      cases deps_met previous scheduled_task with
      | false => exact ⟨rfl, rfl, rfl, rfl⟩
      | true =>
          refine ⟨hexecutes.task_eq, ?_, hexecutes.is_success, hexecutes.failed_eq⟩
          exact congrArg Option.isSome hexecutes.started

theorem doneOf_append (previous : List CloseTaskResult) (scheduled_task : ScheduledCloseTask) :
    doneOf (previous ++
        [resultOf engine company_code fiscal_period context previous scheduled_task]) =
      if (closeWorkflow engine company_code fiscal_period context).ready (doneOf previous)
            scheduled_task &&
          succeeds engine company_code fiscal_period context scheduled_task.task
        then doneOf previous ++ [scheduled_task.task] else doneOf previous := by
  obtain ⟨htask, -, hsuccess, -⟩ :=
    @resultOf_spec engine company_code fiscal_period context previous scheduled_task
  rw [doneOf, List.filter_append, List.map_append, ← hsuccess, ← htask]
  cases hresult : (resultOf engine company_code fiscal_period context previous
      scheduled_task).is_success with
  | false => simp [doneOf, hresult]
  | true => simp [doneOf, hresult]

def executed (tasks : List ScheduledCloseTask) (results : List CloseTaskResult) :
    List ScheduledCloseTask :=
  ((tasks.zip results).filter fun p => p.2.started_at.isSome).map Prod.fst

/-- The tasks that are run are those that the workflow takes. -/
theorem executed_resultsFrom (tasks : List ScheduledCloseTask) (previous : List CloseTaskResult) :
    executed tasks (resultsFrom engine company_code fiscal_period context previous tasks) =
      (closeWorkflow engine company_code fiscal_period context).taken (doneOf previous) tasks := by
  induction tasks generalizing previous with
  | nil => rfl
  | cons scheduled_task rest ih =>
      obtain ⟨-, hstarted, -, hfailed⟩ :=
        @resultOf_spec engine company_code fiscal_period context previous scheduled_task
      have hrest := ih (previous ++
        [resultOf engine company_code fiscal_period context previous scheduled_task])
      rw [doneOf_append] at hrest
      rw [resultsFrom, Workflow.taken, hfailed]
      cases hready : (closeWorkflow engine company_code fiscal_period context).ready
          (doneOf previous) scheduled_task with
      | false =>
          rw [hready] at hstarted hrest
          rw [Bool.false_and, Bool.and_false, if_neg Bool.false_ne_true,
            if_neg Bool.false_ne_true]
          rw [Bool.false_and, if_neg Bool.false_ne_true] at hrest
          rw [← hrest, executed, List.zip_cons_cons, List.filter_cons_of_neg (by simp [hstarted])]
          rfl
      | true =>
          rw [hready] at hstarted hrest
          rw [Bool.true_and, if_pos rfl]
          rw [Bool.true_and] at hrest
          rw [closeWorkflow_stops]
          by_cases hstop : (engine.config.stop_on_error &&
              fails engine company_code fiscal_period context scheduled_task.task) = true
          · rw [if_pos hstop, if_pos hstop, executed, List.zip_cons_cons,
              List.filter_cons_of_pos (by simp [hstarted])]
            simp
          · rw [if_neg hstop, if_neg hstop, executed, List.zip_cons_cons,
              List.filter_cons_of_pos (by simp [hstarted]), List.map_cons]
            exact congrArg (List.cons scheduled_task) hrest

theorem execute_tasks_of_not_ready {run : PeriodCloseRun} {scheduled_task : ScheduledCloseTask}
    (rest : List ScheduledCloseTask) (context' : CloseContext)
    (hready : (closeWorkflow engine company_code fiscal_period context).ready
      (doneOf run.task_results) scheduled_task = false) :
    execute_tasks engine company_code fiscal_period (scheduled_task :: rest) run context' =
      execute_tasks engine company_code fiscal_period rest { run with
        task_results := run.task_results ++
          [resultOf engine company_code fiscal_period context run.task_results scheduled_task] }
        context' := by
  rw [ready_eq] at hready
  rw [execute_tasks, resultOf]
  cases happlies : applies fiscal_period scheduled_task with
  | false =>
      have hskip := happlies
      rw [applies, Bool.not_eq_false'] at hskip
      rw [if_pos hskip]
      rfl
  | true =>
      have hskip := happlies
      rw [applies, Bool.not_eq_true'] at hskip
      rw [happlies, Bool.true_and] at hready
      rw [hskip, hready]
      rfl

/-- A task that is run adds its result and its entries; an error may end the run. -/
theorem execute_tasks_of_ready {run : PeriodCloseRun} {scheduled_task : ScheduledCloseTask}
    (rest : List ScheduledCloseTask) (journal_entries : List JournalEntry)
    (hready : (closeWorkflow engine company_code fiscal_period context).ready
      (doneOf run.task_results) scheduled_task = true) :
    ∃ errors : List String,
      (errors = [] ↔ run.errors = [] ∧
        fails engine company_code fiscal_period context scheduled_task.task = false) ∧
      execute_tasks engine company_code fiscal_period (scheduled_task :: rest) run
          (withEntries context journal_entries) =
        if engine.config.stop_on_error &&
            fails engine company_code fiscal_period context scheduled_task.task
          then ({ afterTask engine company_code fiscal_period context run scheduled_task errors with
              status := .failed },
            withEntries context (journal_entries ++
              entriesOf company_code fiscal_period context scheduled_task.task))
          else execute_tasks engine company_code fiscal_period rest
            (afterTask engine company_code fiscal_period context run scheduled_task errors)
            (withEntries context (journal_entries ++
              entriesOf company_code fiscal_period context scheduled_task.task)) := by
  rw [ready_eq, Bool.and_eq_true] at hready
  obtain ⟨happlies, hdeps⟩ := hready
  have hskip := happlies
  rw [applies, Bool.not_eq_true'] at hskip
  have hexecutes := @executes_task engine company_code fiscal_period
    (withEntries context journal_entries) scheduled_task.task
  have hresult : resultOf engine company_code fiscal_period context run.task_results
      scheduled_task = (execute_task engine company_code fiscal_period scheduled_task.task
        (withEntries context journal_entries)).1 := by
    rw [resultOf, happlies, hdeps]
    exact (execute_task_fst _ _).symm
  simp only [afterTask, hresult]
  rw [execute_tasks, hskip, hdeps]
  generalize execute_task engine company_code fiscal_period scheduled_task.task
    (withEntries context journal_entries) = executed at *
  obtain ⟨result, context'⟩ := executed
  obtain ⟨-, -, -, hfailed, hcreated, hcontext⟩ := hexecutes
  have hfails : fails engine company_code fiscal_period (withEntries context journal_entries)
      scheduled_task.task = fails engine company_code fiscal_period context scheduled_task.task :=
    rfl
  rw [hfails] at hfailed
  have htotal : (run.total_journal_entries +
      (entriesOf company_code fiscal_period context scheduled_task.task).length) % 2 ^ 32 =
        (run.total_journal_entries + result.journal_entries_created) % 2 ^ 32 := by
    rw [hcreated]
    exact (Nat.add_mod_mod _ _ _).symm
  have hcontext' : withEntries context (journal_entries ++
      entriesOf company_code fiscal_period context scheduled_task.task) = context' :=
    hcontext.symm
  rw [htotal, hcontext', ← hfailed, if_neg Bool.false_ne_true, Bool.not_true,
    if_neg Bool.false_ne_true]
  dsimp only
  cases hstatus : result.status with
  | failed err =>
      have herror : failed result = true := by rw [failed, hstatus]
      refine ⟨run.errors ++ [scheduled_task.task.name ++ ": " ++ err], ?_, ?_⟩
      · rw [herror]
        simp
      · rw [herror, Bool.and_true]
  | _ =>
      have herror : failed result = false := by rw [failed, hstatus]
      refine ⟨run.errors, ?_, ?_⟩
      · rw [herror]
        simp
      · rw [herror, Bool.and_false, if_neg Bool.false_ne_true]

theorem closesWith_execute_tasks (tasks : List ScheduledCloseTask) (run : PeriodCloseRun)
    (journal_entries : List JournalEntry) (htotal : run.total_journal_entries < 2 ^ 32) :
    ClosesWith engine company_code fiscal_period context tasks run journal_entries
      ((closeWorkflow engine company_code fiscal_period context).taken (doneOf run.task_results)
        tasks)
      (execute_tasks engine company_code fiscal_period tasks run
        (withEntries context journal_entries)) := by
  induction tasks generalizing run journal_entries with
  | nil =>
      refine ⟨?_, ?_, ?_, ?_⟩
      · exact (List.append_nil _).symm
      · exact (List.append_nil _).symm
      · exact (Nat.mod_eq_of_lt htotal).symm
      · rw [execute_tasks]
        cases run.errors <;> simp [Workflow.taken]
  | cons scheduled_task rest ih =>
      have hdone := @doneOf_append engine company_code fiscal_period context run.task_results
        scheduled_task
      obtain ⟨-, -, -, hfailed⟩ :=
        @resultOf_spec engine company_code fiscal_period context run.task_results scheduled_task
      rw [Workflow.taken]
      cases hready : (closeWorkflow engine company_code fiscal_period context).ready
          (doneOf run.task_results) scheduled_task with
      | false =>
          rw [hready, Bool.false_and] at hdone hfailed
          rw [if_neg Bool.false_ne_true] at hdone
          rw [if_neg Bool.false_ne_true, execute_tasks_of_not_ready rest _ hready, ← hdone]
          obtain ⟨hresults, hentries, hcount, hcompleted⟩ := ih { run with
            task_results := run.task_results ++ [resultOf engine company_code fiscal_period context
              run.task_results scheduled_task] } journal_entries htotal
          refine ⟨?_, hentries, hcount, hcompleted⟩
          rw [hresults, resultsFrom, hfailed, Bool.and_false, if_neg Bool.false_ne_true]
          exact List.append_assoc _ _ _
      | true =>
          rw [hready, Bool.true_and] at hdone hfailed
          obtain ⟨errors, herrors, hstep⟩ :=
            execute_tasks_of_ready rest journal_entries hready
          rw [if_pos rfl, closeWorkflow_stops, hstep]
          by_cases hstop : (engine.config.stop_on_error &&
              fails engine company_code fiscal_period context scheduled_task.task) = true
          · rw [if_pos hstop, if_pos hstop]
            refine ⟨?_, ?_, ?_, ?_⟩
            · rw [resultsFrom, hfailed, if_pos hstop]
              rfl
            · simp [withEntries, postedBy]
            · simp [afterTask, postedBy]
            · simp [Bool.and_elim_right hstop]
          · have hdone' : (if (closeWorkflow engine company_code fiscal_period context).succeeds
                ((closeWorkflow engine company_code fiscal_period context).task
                  scheduled_task) = true
                then doneOf run.task_results ++
                  [(closeWorkflow engine company_code fiscal_period context).task scheduled_task]
                else doneOf run.task_results) =
                doneOf (afterTask engine company_code fiscal_period context run scheduled_task
                  errors).task_results := hdone.symm
            rw [if_neg hstop, if_neg hstop, hdone']
            obtain ⟨hresults, hentries, hcount, hcompleted⟩ := ih
              (afterTask engine company_code fiscal_period context run scheduled_task errors)
              (journal_entries ++ entriesOf company_code fiscal_period context scheduled_task.task)
              (Nat.mod_lt _ (by norm_num))
            refine ⟨?_, ?_, ?_, ?_⟩
            · rw [hresults, resultsFrom, hfailed, if_neg hstop]
              exact List.append_assoc _ _ _
            · rw [hentries, postedBy, postedBy, List.flatMap_cons, List.append_assoc]
            · rw [hcount, postedBy, postedBy, List.flatMap_cons, List.length_append,
                ← Nat.add_assoc]
              exact Nat.mod_add_mod _ _ _
            · rw [hcompleted, List.forall_mem_cons, ← and_assoc]
              exact and_congr_left' herrors

end Runs

end Datasynth.Generators.CloseRuns
