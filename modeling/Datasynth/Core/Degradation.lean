import Mathlib

/-!
The degradation controller, which lowers the level of service when memory, disk or CPU run
short and raises it again step by step.
-/

namespace Datasynth.Core.Degradation

universe u

variable {α : Type u}

inductive DegradationLevel where
  | normal
  | reduced
  | minimal
  | emergency
deriving DecidableEq, Repr

/-- The level as a number. -/
def DegradationLevel.toU8 : DegradationLevel → ℕ
  | .normal => 0
  | .reduced => 1
  | .minimal => 2
  | .emergency => 3

def DegradationLevel.from_u8 : ℕ → DegradationLevel
  | 0 => .normal
  | 1 => .reduced
  | 2 => .minimal
  | _ => .emergency

@[simp] theorem DegradationLevel.from_u8_toU8 (level : DegradationLevel) :
    from_u8 level.toU8 = level := by
  cases level <;> rfl

theorem DegradationLevel.toU8_injective : Function.Injective toU8 := fun level level' h => by
  rw [← from_u8_toU8 level, h, from_u8_toU8]

instance : LinearOrder DegradationLevel :=
  LinearOrder.lift' DegradationLevel.toU8 DegradationLevel.toU8_injective

/-- The level after one step of recovery. -/
def DegradationLevel.stepDown : DegradationLevel → DegradationLevel
  | .emergency => .minimal
  | .minimal => .reduced
  | _ => .normal

structure DegradationConfig (α : Type u) where
  enabled : Bool
  reduced_memory_threshold : α
  minimal_memory_threshold : α
  emergency_memory_threshold : α
  reduced_disk_threshold_mb : ℕ
  minimal_disk_threshold_mb : ℕ
  emergency_disk_threshold_mb : ℕ
  reduced_cpu_threshold : α
  minimal_cpu_threshold : α
  auto_recovery : Bool
  recovery_hysteresis : α

structure ResourceStatus (α : Type u) where
  memory_usage : Option α
  disk_available_mb : Option ℕ
  cpu_load : Option α

section Levels

variable [LE α] [DecidableLE α] (config : DegradationConfig α)

def DegradationConfig.memLevel (mem_usage : α) : DegradationLevel :=
  if config.emergency_memory_threshold ≤ mem_usage then .emergency
  else if config.minimal_memory_threshold ≤ mem_usage then .minimal
  else if config.reduced_memory_threshold ≤ mem_usage then .reduced
  else .normal

def DegradationConfig.diskLevel (disk_mb : ℕ) : DegradationLevel :=
  if disk_mb ≤ config.emergency_disk_threshold_mb then .emergency
  else if disk_mb ≤ config.minimal_disk_threshold_mb then .minimal
  else if disk_mb ≤ config.reduced_disk_threshold_mb then .reduced
  else .normal

/-- The CPU never calls for an emergency. -/
def DegradationConfig.cpuLevel (cpu : α) : DegradationLevel :=
  if config.minimal_cpu_threshold ≤ cpu then .minimal
  else if config.reduced_cpu_threshold ≤ cpu then .reduced
  else .normal

/-- The highest level that a resource calls for. -/
def DegradationConfig.neededLevel (status : ResourceStatus α) : DegradationLevel :=
  let level := DegradationLevel.normal
  let level := status.memory_usage.elim level fun mem_usage => max level (config.memLevel mem_usage)
  let level := status.disk_available_mb.elim level fun disk_mb =>
    max level (config.diskLevel disk_mb)
  status.cpu_load.elim level fun cpu => max level (config.cpuLevel cpu)

end Levels

section Controller

variable [LE α] [DecidableLE α] [LT α] [DecidableLT α] [Sub α]

/-- Recovery waits until the memory is well below the threshold of the current level. -/
def DegradationConfig.canRecover (config : DegradationConfig α) (status : ResourceStatus α)
    (current : DegradationLevel) : Bool :=
  match status.memory_usage with
  | some mem =>
      match current with
      | .emergency => mem < config.emergency_memory_threshold - config.recovery_hysteresis
      | .minimal => mem < config.minimal_memory_threshold - config.recovery_hysteresis
      | .reduced => mem < config.reduced_memory_threshold - config.recovery_hysteresis
      | .normal => true
  | none => true

structure DegradationController (α : Type u) where
  config : DegradationConfig α
  stored_level : ℕ
  level_change_count : ℕ

def DegradationController.new (config : DegradationConfig α) : DegradationController α :=
  ⟨config, DegradationLevel.normal.toU8, 0⟩

def DegradationController.current_level (controller : DegradationController α) :
    DegradationLevel := .from_u8 controller.stored_level

def DegradationController.calculate_level (controller : DegradationController α)
    (status : ResourceStatus α) : DegradationLevel :=
  let current := controller.current_level
  let level := controller.config.neededLevel status
  if controller.config.auto_recovery = true ∧ level < current then
    if controller.config.canRecover status current = true then max level current.stepDown
    else current
  else level

/-- The new level, whether it changed, and the controller after it. -/
def DegradationController.update (controller : DegradationController α)
    (status : ResourceStatus α) : (DegradationLevel × Bool) × DegradationController α :=
  if controller.config.enabled = false then ((.normal, false), controller)
  else
    let new_level := controller.calculate_level status
    let changed := decide (controller.stored_level ≠ new_level.toU8)
    ((new_level, changed),
      { controller with
        stored_level := new_level.toU8
        level_change_count :=
          if changed then controller.level_change_count + 1 else controller.level_change_count })

def DegradationController.force_level (controller : DegradationController α)
    (level : DegradationLevel) : DegradationController α :=
  { controller with
    stored_level := level.toU8
    level_change_count := controller.level_change_count + 1 }

/-- A sequence of readings. -/
def DegradationController.updateOver (controller : DegradationController α)
    (readings : List (ResourceStatus α)) : DegradationController α :=
  readings.foldl (fun controller status => (controller.update status).2) controller

end Controller

end Datasynth.Core.Degradation

/-!
How the level of the degradation controller follows a sequence of readings.
-/

namespace Datasynth.Core.DegradationRuns

open Datasynth.Core.Degradation

universe u

variable {α : Type u} [LE α] [DecidableLE α] [LT α] [DecidableLT α] [Sub α]

/-- The level that a reading calls for; a controller that is not enabled answers all
readings with the normal level. -/
def demandedLevel (config : DegradationConfig α) (status : ResourceStatus α) : DegradationLevel :=
  if config.enabled then config.neededLevel status else .normal

/-- Without recovery the level does not fall.  With recovery it falls at most one step and
not below the demanded level, to which it rises at once. -/
structure Gradual (auto_recovery : Bool) (demanded before after : DegradationLevel) : Prop where
  held : auto_recovery = false → before ≤ after
  one_step : auto_recovery = true → before.toU8 ≤ after.toU8 + 1
  enough : auto_recovery = true → demanded ≤ after
  at_once : auto_recovery = true → before ≤ demanded → after = demanded

variable {controller : DegradationController α} {status : ResourceStatus α}

theorem normal_le (level : DegradationLevel) : DegradationLevel.normal ≤ level :=
  Nat.zero_le level.toU8

theorem toU8_le_stepDown (level : DegradationLevel) : level.toU8 ≤ level.stepDown.toU8 + 1 := by
  cases level <;> decide

theorem current_level_update (h : controller.config.enabled = true) :
    (controller.update status).2.current_level = controller.calculate_level status := by
  rw [DegradationController.update, if_neg (by simp [h]), DegradationController.current_level,
    DegradationLevel.from_u8_toU8]

theorem update_of_not_enabled (h : controller.config.enabled = false) :
    (controller.update status).2 = controller := by
  rw [DegradationController.update, if_pos h]

@[simp] theorem config_update : (controller.update status).2.config = controller.config := by
  rw [DegradationController.update]
  split <;> rfl

/-- With recovery a lower demand is followed one step or not at all. -/
theorem calculate_level_of_recovery (status : ResourceStatus α)
    (h : controller.config.auto_recovery = true) :
    (controller.current_level ≤ controller.config.neededLevel status ∧
        controller.calculate_level status = controller.config.neededLevel status) ∨
      (controller.config.neededLevel status < controller.current_level ∧
        (controller.calculate_level status = controller.current_level ∨
          controller.calculate_level status = max (controller.config.neededLevel status)
            controller.current_level.stepDown)) := by
  rw [DegradationController.calculate_level]
  rcases lt_or_ge (controller.config.neededLevel status) controller.current_level with
    hlower | hhigher
  · right
    refine ⟨hlower, ?_⟩
    rw [if_pos ⟨h, hlower⟩]
    split
    · exact .inr rfl
    · exact .inl rfl
  · left
    refine ⟨hhigher, ?_⟩
    rw [if_neg fun hlower => absurd hlower.2 (not_lt.mpr hhigher)]

theorem calculate_level_of_not_recovery (h : controller.config.auto_recovery = false) :
    controller.calculate_level status = controller.config.neededLevel status := by
  rw [DegradationController.calculate_level]
  exact if_neg (by simp [h])

theorem gradual_of_recovery (h : controller.config.auto_recovery = true) :
    Gradual true (controller.config.neededLevel status) controller.current_level
      (controller.calculate_level status) := by
  rcases calculate_level_of_recovery status h with ⟨hhigher, heq⟩ | ⟨hlower, heq | heq⟩
  · rw [heq]
    constructor
    · intro h
      cases h
    · intro _
      exact (show controller.current_level.toU8 ≤ _ from hhigher).trans (Nat.le_succ _)
    · intro _
      exact le_rfl
    · intro _ _
      rfl
  · rw [heq]
    constructor
    · intro h
      cases h
    · intro _
      exact Nat.le_succ _
    · intro _
      exact hlower.le
    · intro _ hle
      exact absurd hlower (not_lt.mpr hle)
  · rw [heq]
    have hstep : controller.current_level.stepDown.toU8 ≤
        (max (controller.config.neededLevel status) controller.current_level.stepDown).toU8 :=
      le_max_right (controller.config.neededLevel status) _
    constructor
    · intro h
      cases h
    · intro _
      exact (toU8_le_stepDown _).trans (Nat.succ_le_succ hstep)
    · intro _
      exact le_max_left _ _
    · intro _ hle
      exact absurd hlower (not_lt.mpr hle)

theorem gradual_of_eq {auto_recovery : Bool} {level : DegradationLevel} :
    Gradual auto_recovery .normal level level where
  held _ := le_rfl
  one_step _ := Nat.le_succ _
  enough _ := normal_le _
  at_once _ hle := le_antisymm hle (normal_le _)

theorem gradual_update_iff :
    Gradual controller.config.auto_recovery (demandedLevel controller.config status)
        controller.current_level (controller.update status).2.current_level ↔
      controller.config.enabled = false ∨ controller.config.auto_recovery = true ∨
        controller.current_level ≤ demandedLevel controller.config status := by
  cases henabled : controller.config.enabled with
  | false =>
      rw [demandedLevel, henabled, if_neg Bool.false_ne_true, update_of_not_enabled henabled]
      exact iff_of_true gradual_of_eq (.inl rfl)
  | true =>
      rw [demandedLevel, henabled, if_pos rfl, current_level_update henabled]
      cases hrecovery : controller.config.auto_recovery with
      | true => exact iff_of_true (gradual_of_recovery hrecovery) (.inr (.inl rfl))
      | false =>
          rw [calculate_level_of_not_recovery hrecovery]
          constructor
          · intro h
            exact .inr (.inr (h.held rfl))
          · rintro (h | h | hle)
            · cases h
            · cases h
            · exact ⟨fun _ => hle, by simp, by simp, by simp⟩

/-- The readings that reach the controller one after the other are followed gradually. -/
def FollowsGradually (controller : DegradationController α) (readings : List (ResourceStatus α)) :
    Prop :=
  ∀ before status after, readings = before ++ status :: after →
    Gradual controller.config.auto_recovery (demandedLevel controller.config status)
      (controller.updateOver before).current_level
      ((controller.updateOver before).update status).2.current_level

theorem followsGradually_cons {readings : List (ResourceStatus α)} :
    FollowsGradually controller (status :: readings) ↔
      Gradual controller.config.auto_recovery (demandedLevel controller.config status)
          controller.current_level (controller.update status).2.current_level ∧
        FollowsGradually (controller.update status).2 readings := by
  constructor
  · intro h
    refine ⟨h [] status readings rfl, ?_⟩
    intro before next after heq
    rw [config_update]
    exact h (status :: before) next after (by rw [heq, List.cons_append])
  · rintro ⟨hfirst, hrest⟩ before next after heq
    cases before with
    | nil =>
        cases heq
        exact hfirst
    | cons first before =>
        rw [List.cons_append, List.cons.injEq] at heq
        obtain ⟨rfl, heq⟩ := heq
        have hnext := hrest before next after heq
        rw [config_update] at hnext
        exact hnext

/-- Without recovery the level is the demanded one, so it holds just in case the demand
does not fall. -/
theorem follows_gradually_iff (controller : DegradationController α)
    (readings : List (ResourceStatus α)) :
    FollowsGradually controller readings ↔
      controller.config.enabled = false ∨ controller.config.auto_recovery = true ∨
        (controller.current_level ::
          readings.map (demandedLevel controller.config)).IsChain (· ≤ ·) := by
  induction readings generalizing controller with
  | nil =>
      apply iff_of_true
      · intro before status after heq
        simp at heq
      · exact .inr (.inr (List.IsChain.singleton _))
  | cons status readings ih =>
      rw [followsGradually_cons, gradual_update_iff, ih, config_update, List.map_cons,
        List.isChain_cons_cons]
      cases henabled : controller.config.enabled with
      | false => simp
      | true =>
          cases hrecovery : controller.config.auto_recovery with
          | true => simp
          | false =>
              rw [current_level_update henabled, calculate_level_of_not_recovery hrecovery]
              simp [demandedLevel, henabled]

/-- The default thresholds, without recovery. -/
def withoutRecovery : DegradationConfig ℚ where
  enabled := true
  reduced_memory_threshold := 0.70
  minimal_memory_threshold := 0.85
  emergency_memory_threshold := 0.95
  reduced_disk_threshold_mb := 1000
  minimal_disk_threshold_mb := 500
  emergency_disk_threshold_mb := 100
  reduced_cpu_threshold := 0.80
  minimal_cpu_threshold := 0.90
  auto_recovery := false
  recovery_hysteresis := 0.05

/-- The memory recovers, and the level with it. -/
theorem level_falls_without_recovery :
    ¬ FollowsGradually (.new withoutRecovery)
      [⟨some 0.9, none, none⟩, ⟨some 0.1, none, none⟩] := by
  intro h
  have hheld := (h [⟨some 0.9, none, none⟩] ⟨some 0.1, none, none⟩ [] rfl).held rfl
  revert hheld
  decide_cbv

end Datasynth.Core.DegradationRuns
