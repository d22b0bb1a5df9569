import Datasynth.Core.GenerationPeriods
import Datasynth.Core.JournalEntries
import Datasynth.Core.TrialBalances

/-!
A generation session over several periods: how it is opened, saved and resumed, and how it
generates and extends its periods.  The orchestrator is a pure function of the configuration of a
period; where the source panics there is no result.
-/

namespace Datasynth.Runtime.GenerationSession

open Datasynth.Lib.CivilCalendar
open Datasynth.Lib.SignedPostings
open Datasynth.Core.FiscalPeriods
open Datasynth.Core.GenerationPeriods
open Datasynth.Core.JournalEntries
open Datasynth.Core.TrialBalances (parse_u32)

section Paths

/-- A path by its components; the source compares paths by them, too. -/
structure PathBuf where
  has_root : Bool
  components : List String
deriving DecidableEq, Repr

/-- The name has one component. -/
def PathBuf.join (path : PathBuf) (name : String) : PathBuf :=
  { path with components := path.components ++ [name] }

def PathBuf.parent (path : PathBuf) : Option PathBuf :=
  if path.components = [] then none
  else some { path with components := path.components.dropLast }

/-- The directory of a checkpoint. -/
def PathBuf.directory (path : PathBuf) : PathBuf := path.parent.getD ⟨false, ["."]⟩

inductive OutputMode where
  | batch (path : PathBuf)
  | multiPeriod (path : PathBuf)
deriving DecidableEq, Repr

def OutputMode.output_path (mode : OutputMode) (period : GenerationPeriod) : PathBuf :=
  match mode with
  | batch path => path
  | multiPeriod path => path.join period.label

def OutputMode.ofPeriods (periods : List GenerationPeriod) (path : PathBuf) : OutputMode :=
  if periods.length > 1 then .multiPeriod path else .batch path

end Paths

section Configurations

structure GlobalConfig where
  seed : Option ℕ
  start_date : String
  period_months : ℕ
  fiscal_year_months : Option ℕ
deriving DecidableEq, Repr

/-- The other settings are read by the orchestrator only. -/
structure GeneratorConfig (Settings : Type) where
  global : GlobalConfig
  settings : Settings

def GlobalConfig.fy_months (global : GlobalConfig) : ℕ :=
  global.fiscal_year_months.getD global.period_months

inductive SynthError where
  | generationError (message : String)
  | raised (text : String)
deriving DecidableEq, Repr

/-- The numbers of documents of each kind. -/
structure DocumentFlowSnapshot where
  purchase_orders : ℕ
  sales_orders : ℕ
  goods_receipts : ℕ
  vendor_invoices : ℕ
  customer_invoices : ℕ
  deliveries : ℕ
  payments : ℕ
deriving DecidableEq, Repr

structure EnhancedGenerationResult where
  journal_entries : List JournalEntry
  document_flows : DocumentFlowSnapshot
  anomaly_labels : ℕ
deriving DecidableEq

/-- What the session calls: dates read and written as texts, hashes, serialization, directories
and the orchestrator.  The text of a configuration, which is hashed, follows the order in which
its hash maps are iterated. -/
structure Platform (Settings Order : Type) where
  parse_from_str : String → Except String Date
  representable : ∀ text date, parse_from_str text = .ok date → Representable date
  format : Date → String
  advance_seed : ℕ → ℕ → ℕ
  compute_config_hash : GeneratorConfig Settings → Order → String
  to_string_pretty : SessionState → Except String String
  from_str : String → Except String SessionState
  create_dir_all : PathBuf → Except String Unit
  generate : GeneratorConfig Settings → Except SynthError EnhancedGenerationResult

end Configurations

section Results

def EnhancedGenerationResult.document_count (result : EnhancedGenerationResult) : ℕ :=
  result.document_flows.purchase_orders + result.document_flows.sales_orders
    + result.document_flows.goods_receipts + result.document_flows.vendor_invoices
    + result.document_flows.customer_invoices + result.document_flows.deliveries
    + result.document_flows.payments

/-- Income statement accounts have numbers from 4000 to 8999. -/
def isIncomeStatement (account : String) : Bool :=
  (parse_u32 account).any fun n => 4000 ≤ n && n ≤ 8999

def carry_forward (balance_state : BalanceState) (journal_entries : List JournalEntry) :
    BalanceState :=
  let gl_net := tally (journal_entries.flatMap (·.postings))
  let gl_balances := post balance_state.gl_balances gl_net.entries
  let retained := gl_balances.sumOver fun account bal =>
    if isIncomeStatement account then -bal else 0
  { gl_balances := gl_balances
    ar_total := max ((gl_balances.find? "1100").getD 0) 0
    ap_total := max (-(gl_balances.find? "2000").getD 0) 0
    retained_earnings := balance_state.retained_earnings + retained }

def advance_ids (ids : DocumentIdState) (result : EnhancedGenerationResult) : DocumentIdState where
  next_po_number := ids.next_po_number + result.document_flows.purchase_orders
  next_so_number := ids.next_so_number + result.document_flows.sales_orders
  next_je_number := ids.next_je_number + result.journal_entries.length
  next_invoice_number := ids.next_invoice_number
    + (result.document_flows.vendor_invoices + result.document_flows.customer_invoices)
  next_payment_number := ids.next_payment_number + result.document_flows.payments
  next_gr_number := ids.next_gr_number + result.document_flows.goods_receipts

/-- The state after a period whose results these are. -/
def record (state : SessionState) (period : GenerationPeriod)
    (result : EnhancedGenerationResult) : SessionState :=
  { state with
    balance_state := carry_forward state.balance_state result.journal_entries
    document_id_state := advance_ids state.document_id_state result
    generation_log := state.generation_log
      ++ [⟨period.label, result.journal_entries.length, result.document_count,
        result.anomaly_labels⟩]
    period_cursor := state.period_cursor + 1 }

end Results

section Sessions

variable {Settings Order : Type}

structure Session (Settings : Type) where
  config : GeneratorConfig Settings
  state : SessionState
  periods : List GenerationPeriod
  output_mode : OutputMode

structure PeriodResult where
  period : GenerationPeriod
  output_path : PathBuf
  journal_entry_count : ℕ
  document_count : ℕ
  anomaly_count : ℕ
deriving DecidableEq

variable (platform : Platform Settings Order)

def parse_start_date (config : GeneratorConfig Settings) : Except SynthError Date :=
  (platform.parse_from_str config.global.start_date).mapError fun e =>
    .generationError ("Invalid start_date: " ++ e)

def new (config : GeneratorConfig Settings) (order : Order) (output_path : PathBuf) :
    Option (Except SynthError (Session Settings)) :=
  match parse_start_date platform config with
  | .error e => some (.error e)
  | .ok start_date => do
      let periods ← GenerationPeriod.compute_periods start_date config.global.period_months
        config.global.fy_months
      let state := SessionState.new (config.global.seed.getD 42)
        (platform.compute_config_hash config order)
      return .ok ⟨config, state, periods, .ofPeriods periods output_path⟩

/-- The text that is written to the checkpoint. -/
def save (session : Session Settings) : Except SynthError String :=
  (platform.to_string_pretty session.state).mapError fun e =>
    .generationError ("Failed to serialize state: " ++ e)

/-- `data` is what is read from the checkpoint at `path`. -/
def resume (path : PathBuf) (data : Except String String) (config : GeneratorConfig Settings)
    (order : Order) : Option (Except SynthError (Session Settings)) :=
  match data with
  | .error e => some (.error (.generationError ("Failed to read .dss: " ++ e)))
  | .ok data =>
    match platform.from_str data with
    | .error e => some (.error (.generationError ("Failed to parse .dss: " ++ e)))
    | .ok state =>
      if state.config_hash ≠ platform.compute_config_hash config order then
        some (.error (.generationError ("Config has changed since last checkpoint. "
          ++ "Cannot resume with different config.")))
      else
        match parse_start_date platform config with
        | .error e => some (.error e)
        | .ok start_date => do
            let periods ← GenerationPeriod.compute_periods start_date
              config.global.period_months config.global.fy_months
            return .ok ⟨config, state, periods, .ofPeriods periods path.directory⟩

/-- What the orchestrator is called with for a period. -/
def period_config (session : Session Settings) (period : GenerationPeriod) :
    GeneratorConfig Settings :=
  { session.config with
    global := { session.config.global with
      start_date := platform.format period.start_date
      period_months := period.months
      seed := some (platform.advance_seed session.state.rng_seed period.index) } }

def generate_next_period (session : Session Settings) :
    Except SynthError (Option PeriodResult) × Session Settings :=
  match session.periods[session.state.period_cursor]? with
  | none => (.ok none, session)
  | some period =>
    let output_path := session.output_mode.output_path period
    match platform.create_dir_all output_path with
    | .error e => (.error (.generationError ("Failed to create output dir: " ++ e)), session)
    | .ok () =>
      match platform.generate (period_config platform session period) with
      | .error e => (.error e, session)
      | .ok result =>
        (.ok (some ⟨period, output_path, result.journal_entries.length, result.document_count,
            result.anomaly_labels⟩),
          { session with state := record session.state period result })

def remaining_periods (session : Session Settings) : ℕ :=
  session.periods.length - session.state.period_cursor

/-- The loop over the periods; the results before an error are dropped. -/
def generateLoop : ℕ → Session Settings → Except SynthError (List PeriodResult) × Session Settings
  | 0, session => (.ok [], session)
  | fuel + 1, session =>
      match generate_next_period platform session with
      | (.error e, session) => (.error e, session)
      | (.ok none, session) => (.ok [], session)
      | (.ok (some result), session) =>
          let (results, session) := generateLoop fuel session
          (results.map (result :: ·), session)

def generate_all (session : Session Settings) :
    Except SynthError (List PeriodResult) × Session Settings :=
  generateLoop platform (remaining_periods session + 1) session

/-- The periods that an extension adds. -/
def delta_periods (session : Session Settings) (additional_months : ℕ) :
    Option (Except SynthError (List GenerationPeriod)) := do
  let last_end ← match session.periods.getLast? with
    | some last_period => (add_months last_period.end_date 1).map .ok
    | none => some (parse_start_date platform session.config)
  match last_end with
  | .error e => return .error e
  | .ok last_end =>
    let new_periods ← GenerationPeriod.compute_periods last_end additional_months
      session.config.global.fy_months
    return .ok (new_periods.mapIdx fun i p => { p with index := session.periods.length + i })

def generate_delta (session : Session Settings) (additional_months : ℕ) :
    Option (Except SynthError (List PeriodResult) × Session Settings) := do
  match ← delta_periods platform session additional_months with
  | .error e => return (.error e, session)
  | .ok new_periods =>
    return generate_all platform { session with periods := session.periods ++ new_periods }

end Sessions

end Datasynth.Runtime.GenerationSession
