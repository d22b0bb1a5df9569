import Mathlib.Data.List.TakeWhile
import Datasynth.Audit.Engine

/-!
The phases reported as completed, next to the exit gates their file gives them: the engine looks
at one half of a gate, and reads the conditions back from texts in which a dot separates the
procedure from its state.
-/

namespace Datasynth.Audit.PhaseGates

open Datasynth.Audit.Engine
open Datasynth.Audit.Loader
open Datasynth.Audit.Schema
open Datasynth.Lib.SortedEntries

section Conditions

variable (procedure_states : OrderedMap String String)

/-- The procedure has reached the state. -/
def Met (c : RawGateCondition) : Prop := procedure_states.find? c.procedure = some c.state

/-- What comes before the first dot of a condition, and what comes behind it. -/
def firstSplit (c : RawGateCondition) : List Char × List Char :=
  ((c.procedure.toList ++ '.' :: c.state.toList).takeWhile (· ≠ '.'),
    ((c.procedure.toList ++ '.' :: c.state.toList).dropWhile (· ≠ '.')).tail)

/-- The condition holds if the id ends at its first dot. -/
def MetAsSplit (c : RawGateCondition) : Prop :=
  procedure_states.find? (String.ofList (firstSplit c).1) = some (String.ofList (firstSplit c).2)

def Dotted (c : RawGateCondition) : Prop := '.' ∈ c.procedure.toList

theorem firstSplit_of_not_dotted {c : RawGateCondition} (h : ¬ Dotted c) :
    firstSplit c = (c.procedure.toList, c.state.toList) := by
  have hplain : ∀ d ∈ c.procedure.toList, (decide (d ≠ '.')) = true := by
    intro d hd
    apply decide_eq_true
    rintro rfl
    exact h hd
  rw [firstSplit, List.takeWhile_append_of_pos hplain, List.dropWhile_append_of_pos hplain]
  simp

theorem metAsSplit_iff_of_not_dotted {c : RawGateCondition} (h : ¬ Dotted c) :
    MetAsSplit procedure_states c ↔ Met procedure_states c := by
  rw [MetAsSplit, Met, firstSplit_of_not_dotted h, String.ofList_toList, String.ofList_toList]

theorem splitn_append {sep : Char} {part : List Char} (h : ∀ d ∈ part, d ≠ sep) (n : ℕ)
    (rest : List Char) :
    splitn sep (n + 2) (part ++ sep :: rest) = part :: splitn sep (n + 1) rest := by
  have hpart : ∀ d ∈ part, decide (d ≠ sep) = true := fun d hd => decide_eq_true (h d hd)
  rw [splitn, List.span_eq_takeWhile_dropWhile, List.takeWhile_append_of_pos hpart,
    List.dropWhile_append_of_pos hpart, List.takeWhile_cons_of_neg (by simp),
    List.dropWhile_cons_of_neg (by simp), List.append_nil]

/-- There is a dot to split at. -/
theorem firstSplit_append (c : RawGateCondition) :
    (firstSplit c).1 ++ '.' :: (firstSplit c).2 = c.procedure.toList ++ '.' :: c.state.toList := by
  have hdot : '.' ∈ c.procedure.toList ++ '.' :: c.state.toList := by simp
  have hrest : (c.procedure.toList ++ '.' :: c.state.toList).dropWhile (· ≠ '.') ≠ [] := by
    rw [ne_eq, List.dropWhile_eq_nil_iff]
    intro h
    exact of_decide_eq_true (h '.' hdot) rfl
  have hhead := List.head_dropWhile_not (fun d => decide (d ≠ '.')) hrest
  rw [decide_eq_false_iff_not, not_not] at hhead
  rw [firstSplit]
  conv_rhs => rw [← List.takeWhile_append_dropWhile (p := fun d => decide (d ≠ '.'))
    (l := c.procedure.toList ++ '.' :: c.state.toList)]
  rw [← List.cons_head_tail hrest, hhead]
  rfl

theorem predicateParts_convertCondition (c : RawGateCondition) :
    predicateParts (convertCondition c).predicate =
      ["procedure", String.ofList (firstSplit c).1, String.ofList (firstSplit c).2] := by
  have htext : (convertCondition c).predicate.toList =
      "procedure".toList ++ '.' :: ((firstSplit c).1 ++ '.' :: (firstSplit c).2) := by
    rw [firstSplit_append, convertCondition, String.toList_append, String.toList_append,
      String.toList_append, List.append_assoc, List.append_assoc]
    rfl
  have hundotted : ("procedure".toList.all fun d => decide (d ≠ '.')) = true := by decide
  have hprocedure : ∀ d ∈ "procedure".toList, d ≠ '.' :=
    fun d hd => of_decide_eq_true (List.all_eq_true.mp hundotted d hd)
  have hid : ∀ d ∈ (firstSplit c).1, d ≠ '.' := by
    intro d hd
    exact of_decide_eq_true (List.mem_takeWhile_imp (p := fun d => decide (d ≠ '.')) hd)
  rw [predicateParts, htext, splitn_append hprocedure, splitn_append hid]
  rfl

theorem gateMet_convertCondition (c : RawGateCondition) :
    gateMet procedure_states (convertCondition c) = true ↔ MetAsSplit procedure_states c := by
  rw [gateMet, predicateParts_convertCondition]
  simp [MetAsSplit]

end Conditions

section Phases

variable (procedure_states : OrderedMap String String)

def allOf (p : RawPhase) : List RawGateCondition := (p.gate.map (·.all_of)).getD []

def anyOf (p : RawPhase) : List RawGateCondition := (p.gate.map (·.any_of)).getD []

/-- Every condition of one half of the exit gate is met, and some condition of the other half,
if it has any. -/
def GateHolds (p : RawPhase) : Prop :=
  (∀ c ∈ allOf p, Met procedure_states c) ∧
    (anyOf p = [] ∨ ∃ c ∈ anyOf p, Met procedure_states c)

/-- A phase of negative order runs beside the others. -/
def Continuous (p : RawPhase) : Prop := ∃ order, p.order = some order ∧ order < 0

/-- Whether the engine reports the phase as completed. -/
def reports (p : RawPhase) : Bool :=
  !((p.order.map fun order => decide (order < 0)).getD false) &&
    (allOf p).all fun c => gateMet procedure_states (convertCondition c)

theorem compute_completed_phases_eq (raw : RawBlueprint) :
    compute_completed_phases (convert_raw_to_blueprint raw) procedure_states =
      (raw.phases.filter (reports procedure_states)).map (·.id) := by
  have hphase : ∀ p procs,
      ((convertPhase p procs).exit_gate.map fun gate =>
        gate.all_of.all (gateMet procedure_states)).getD true =
          (allOf p).all fun c => gateMet procedure_states (convertCondition c) := by
    intro p procs
    rw [convertPhase, allOf]
    cases p.gate with
    | none => rfl
    | some gate => exact List.all_map
  rw [compute_completed_phases, convert_raw_to_blueprint]
  generalize groupByPhase raw.procedures = groups
  generalize raw.phases = phases
  induction phases generalizing groups with
  | nil => rfl
  | cons p phases ih =>
      rw [convertPhases, List.filter_cons, List.filter_cons, hphase]
      have hreports : (!((convertPhase p ((groups.find? p.id).getD [])).order.map fun order =>
          decide (order < 0)).getD false &&
            (allOf p).all fun c => gateMet procedure_states (convertCondition c)) =
          reports procedure_states p := rfl
      rw [hreports]
      split
      · rw [List.map_cons, List.map_cons, ih]
        rfl
      · rw [ih]

theorem reports_iff (p : RawPhase) :
    reports procedure_states p = true ↔
      ¬ Continuous p ∧ ∀ c ∈ allOf p, MetAsSplit procedure_states c := by
  rw [reports, Bool.and_eq_true, List.all_eq_true]
  apply and_congr
  · rw [Continuous]
    cases p.order with
    | none => simp
    | some order => simp
  · simp only [gateMet_convertCondition]

/-- A phase that the engine takes for completed is so if the rest of its gate is looked at too. -/
def NoneOverlooked (p : RawPhase) : Prop :=
  ¬ Continuous p → (∀ c ∈ allOf p, MetAsSplit procedure_states c) →
    (∀ c ∈ allOf p, Dotted c → Met procedure_states c) ∧
      (anyOf p = [] ∨ ∃ c ∈ anyOf p, Met procedure_states c)

/-- A phase whose gate holds is looked at, and its conditions are read for what they are. -/
def NoneMissed (p : RawPhase) : Prop :=
  GateHolds procedure_states p →
    ¬ Continuous p ∧ ∀ c ∈ allOf p, Dotted c → MetAsSplit procedure_states c

/-- The reported phases, and when a phase is reported exactly if its gate holds. -/
theorem completed_phases_follow_gates_iff (raw : RawBlueprint) :
    compute_completed_phases (convert_raw_to_blueprint raw) procedure_states =
        (raw.phases.filter (reports procedure_states)).map (·.id) ∧
      ∀ p ∈ raw.phases, (reports procedure_states p = true ↔ GateHolds procedure_states p) ↔
        NoneOverlooked procedure_states p ∧ NoneMissed procedure_states p := by
  refine ⟨compute_completed_phases_eq procedure_states raw, fun p _ => ?_⟩
  have hplain : ∀ c, ¬ Dotted c → (MetAsSplit procedure_states c ↔ Met procedure_states c) :=
    fun c hc => metAsSplit_iff_of_not_dotted procedure_states hc
  have hall : (∀ c ∈ allOf p, MetAsSplit procedure_states c) →
      (∀ c ∈ allOf p, Dotted c → Met procedure_states c) →
        ∀ c ∈ allOf p, Met procedure_states c := by
    intro hsplit hdotted c hc
    by_cases hdot : Dotted c
    · exact hdotted c hc hdot
    · exact (hplain c hdot).mp (hsplit c hc)
  have hsplit : (∀ c ∈ allOf p, Met procedure_states c) →
      (∀ c ∈ allOf p, Dotted c → MetAsSplit procedure_states c) →
        ∀ c ∈ allOf p, MetAsSplit procedure_states c := by
    intro hmet hdotted c hc
    by_cases hdot : Dotted c
    · exact hdotted c hc hdot
    · exact (hplain c hdot).mpr (hmet c hc)
  rw [reports_iff]
  constructor
  · intro h
    constructor
    · intro hsequential hparsed
      obtain ⟨hmet, hany⟩ := h.mp ⟨hsequential, hparsed⟩
      exact ⟨fun c hc _ => hmet c hc, hany⟩
    · intro hgate
      obtain ⟨hsequential, hparsed⟩ := h.mpr hgate
      exact ⟨hsequential, fun c hc _ => hparsed c hc⟩
  · rintro ⟨hoverlooked, hmissed⟩
    constructor
    · rintro ⟨hsequential, hparsed⟩
      obtain ⟨hdotted, hany⟩ := hoverlooked hsequential hparsed
      exact ⟨hall hparsed hdotted, hany⟩
    · intro hgate
      obtain ⟨hsequential, hdotted⟩ := hmissed hgate
      exact ⟨hsequential, hsplit hgate.1 hdotted⟩

/-- A phase that may be left once one of two procedures is completed. -/
def eitherPhase : RawPhase :=
  ⟨"execution", "Execution", some 2, none,
    some ⟨[], [⟨"test_of_controls", "completed"⟩, ⟨"substantive_testing", "completed"⟩]⟩⟩

/-- A phase is reported as completed although nothing has been done that its gate asks for. -/
theorem alternatives_are_not_looked_at :
    "execution" ∈ compute_completed_phases
        (convert_raw_to_blueprint ⟨[], [], [], [eitherPhase], []⟩) .empty ∧
      ¬ GateHolds .empty eitherPhase := by
  refine ⟨by decide, ?_⟩
  rintro ⟨-, hnil | ⟨c, -, hmet⟩⟩
  · cases hnil
  · cases hmet

end Phases

end Datasynth.Audit.PhaseGates
