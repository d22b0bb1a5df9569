import Datasynth.Lib.StepRuns
import Datasynth.Streaming.ChannelLedger

/-!
What goes into a bounded channel comes out of it: every step of a thread is an entry in
the channel's ledger, and in which runs no item is left behind when it is closed.
-/

namespace Datasynth.Streaming.ChannelDelivery

open Datasynth.Lib.GuardedRuns
open Datasynth.Streaming.Channel
open Datasynth.Streaming.ChannelLedger

universe u

variable {T : Type u}

/-- The length of the queue from which on a call waits for room. -/
def waitLimit (ch : BoundedChannel) : Patience → ℕ
  | .forever => ch.capacity + ch.strategy.overflow
  | .timed => ch.capacity

/-- What a thread that holds the mutex knows about the queue and the flag. -/
def Standing (ch : BoundedChannel) (buffer : List T) (closed : Bool) : Pc T → Prop
  | .sendFull patience _ | .sendPark patience _ => waitLimit ch patience ≤ buffer.length
  | .sendReopen _ => closed = true ∨ buffer.length < waitLimit ch .forever
  | .recvEmpty _ | .recvPark _ => buffer = []
  | _ => True

structure Consistent (ch : BoundedChannel) (s : State T) : Prop where
  exclusive : s.Exclusive
  standing : ∀ t, Standing ch s.buffer s.closed (s.pc t)

/-- A sender that last saw the flag open comes to a queue with room after it was set. -/
def Overtaken (ch : BoundedChannel) (s : State T) : Pc T → Prop
  | .sendLock _ _ | .sendWait .timed _ =>
      ch.strategy = .block ∧ s.closed = true ∧ s.buffer.length < ch.capacity
  | _ => False

/-- The oldest item is to make room in a channel that has none. -/
def DropsNothing (ch : BoundedChannel) (s : State T) : Prop :=
  ch.strategy = .dropOldest ∧ ch.capacity = 0 ∧ s.buffer.length = 0

/-- The thread is about to look at the length in `send`. -/
def entersSend : Pc T → Bool
  | .sendLock .forever _ => true
  | _ => false

/-- The thread waits for room in `send_timeout`. -/
def waitsTimed : Pc T → Bool
  | .sendPark .timed _ | .sendWait .timed _ => true
  | _ => false

def Allowed (ch : BoundedChannel) (s : State T) : Action T → Prop
  | .advance t =>
      ¬ Overtaken ch s (s.pc t) ∧ (entersSend (s.pc t) = true → ¬ DropsNothing ch s)
  | .expire t =>
      ¬ Overtaken ch s (s.pc t) ∧ (waitsTimed (s.pc t) = true → ¬ DropsNothing ch s)
  | _ => True

/-- What thread `t` adds to the history begins or ends its own transfers only, and leaves
`after` of them pending. -/
structure Settles (t : ℕ) (before : List (Transfer T)) (added : List (Event T))
    (after : List (Transfer T)) : Prop where
  others : ∀ u, u ≠ t → byThread u added = []
  own : before ++ begunTransfers (byThread t added) = endedTransfers (byThread t added) ++ after

/-- A step of a thread as an entry in the ledger. -/
structure Recorded (ch : BoundedChannel) (s : State T) (t : ℕ) (next : State T × Pc T) :
    Prop where
  entry : Entry ch s.closed (ledger s) (ledger next.1)
  settles : ∃ added, next.1.history = s.history ++ added ∧
    Settles t [] added (pendingTransfers next.2)
  standing : Standing ch next.1.buffer s.closed next.2
  closed : next.1.closed = s.closed
  pc : next.1.pc = s.pc

instance (ch : BoundedChannel) (s : State T) : Decidable (DropsNothing ch s) :=
  inferInstanceAs (Decidable (_ ∧ _ ∧ _))

instance decidableOvertaken (ch : BoundedChannel) (s : State T) :
    (pc : Pc T) → Decidable (Overtaken ch s pc)
  | .sendLock _ _ | .sendWait .timed _ => inferInstanceAs (Decidable (_ ∧ _ ∧ _))
  | .idle | .sendOpen _ _ | .sendFull _ _ | .sendPark _ _ | .sendWait .forever _
  | .sendReopen _ | .sendNotify _ _ | .recvLock _ | .recvEmpty _ | .recvPark _ | .recvWait _
  | .tryLock | .recvNotify _ _ | .closeStore | .closeNotFull | .closeNotEmpty =>
      inferInstanceAs (Decidable False)

instance decidableAllowed (ch : BoundedChannel) (s : State T) :
    (a : Action T) → Decidable (Allowed ch s a)
  | .advance t =>
      inferInstanceAs (Decidable (¬ Overtaken ch s (s.pc t) ∧
        (entersSend (s.pc t) = true → ¬ DropsNothing ch s)))
  | .expire t =>
      inferInstanceAs (Decidable (¬ Overtaken ch s (s.pc t) ∧
        (waitsTimed (s.pc t) = true → ¬ DropsNothing ch s)))
  | .call _ _ | .notify_one _ _ | .wake _ => inferInstanceAs (Decidable True)

section Recording

variable {ch : BoundedChannel} {s : State T} {t : ℕ} {patience : Patience} {item : T}

theorem settles_pushed : Settles t [] [.pushed t item] [.sent item] := by
  constructor
  · intro u hne
    simp [byThread, hne.symm]
  · simp [byThread, begunTransfers, endedTransfers]

theorem settles_popped : Settles t [] [.popped t item] [.received item] := by
  constructor
  · intro u hne
    simp [byThread, hne.symm]
  · simp [byThread, begunTransfers, endedTransfers]

theorem settles_returned {call : Call T} {result : Returned T}
    (hresult : endedTransfers [.returned t call result] = []) :
    Settles t [] [.returned t call result] [] := by
  constructor
  · intro u hne
    simp [byThread, hne.symm]
  · simpa [byThread, begunTransfers] using hresult.symm

theorem recorded_accept (hroom : s.buffer.length < ch.capacity + ch.strategy.overflow)
    (hopen : ch.strategy = .block → s.closed = false) :
    Recorded ch s t (s.accept t patience item) := by
  cases patience with
  | forever => exact ⟨.pushed t item hroom hopen, ⟨_, rfl, settles_pushed⟩, trivial, rfl, rfl⟩
  | timed => exact ⟨.pushed t item hroom hopen, ⟨_, rfl, settles_pushed⟩, trivial, rfl, rfl⟩

theorem recorded_replace (hstrategy : ch.strategy = .dropOldest) (hne : s.buffer.length ≠ 0) :
    Recorded ch s t (s.dropOldest.accept t patience item) := by
  have hentry : Entry ch s.closed (ledger s) (ledger (s.dropOldest.push t item)) := by
    cases hbuffer : s.buffer with
    | nil => exact absurd (congrArg List.length hbuffer) hne
    | cons oldest queue =>
        simp only [ledger, State.push, State.dropOldest, State.countDropped, hbuffer]
        exact .replaced t item hstrategy
  -- The evicted item is in no thread's history.
  have hsettles : ∃ added, (s.dropOldest.push t item).history = s.history ++ added ∧
      Settles t [] added [.sent item] := by
    refine ⟨_, List.append_assoc _ _ _, ?_, ?_⟩
    · intro u hne
      cases s.buffer <;> simp [byThread, hne.symm]
    · cases s.buffer <;> simp [byThread, begunTransfers, endedTransfers]
  cases patience with
  | forever => exact ⟨hentry, hsettles, trivial, rfl, rfl⟩
  | timed => exact ⟨hentry, hsettles, trivial, rfl, rfl⟩

theorem recorded_finish {call : Call T} {result : Returned T}
    (hresult : endedTransfers [.returned t call result] = [])
    (hend : call = .recv → result = .received none → s.closed = true ∧ s.buffer = []) :
    Recorded ch s t (s.finish t call result) :=
  ⟨.returned t call result hend, ⟨_, rfl, settles_returned hresult⟩, trivial, rfl, rfl⟩

theorem recorded_refuse {call : Call T} (hstrategy : ch.strategy = .dropNewest)
    (hcall : call ≠ .recv) :
    Recorded ch s t (s.countDropped.finish t call (.sent false)) := by
  refine ⟨.refused t call hstrategy hcall, ⟨_, rfl, settles_returned ?_⟩, trivial, rfl, rfl⟩
  simp [endedTransfers]

theorem recorded_pop {call : Call T} {rest : List T} (hbuffer : s.buffer = item :: rest) :
    Recorded ch s t (s.pop t call item rest) := by
  refine ⟨?_, ⟨_, rfl, settles_popped⟩, trivial, rfl, rfl⟩
  simp only [ledger, State.pop, hbuffer]
  exact .popped t

/-- A step that leaves the queue alone. -/
theorem recorded_stay {next : State T × Pc T} (hledger : ledger next.1 = ledger s)
    (hpending : pendingTransfers next.2 = [])
    (hstanding : Standing ch s.buffer s.closed next.2) (hclosed : next.1.closed = s.closed)
    (hpc : next.1.pc = s.pc) : Recorded ch s t next := by
  have hbuffer : next.1.buffer = s.buffer := congrArg Ledger.queue hledger
  have hhistory : next.1.history = s.history := congrArg Ledger.history hledger
  refine ⟨hledger ▸ .same _, ⟨[], ?_, ?_⟩, ?_, hclosed, hpc⟩
  · rw [hhistory, List.append_nil]
  · rw [hpending]
    exact ⟨fun _ _ => rfl, rfl⟩
  · rw [hbuffer]
    exact hstanding

theorem recorded_enterSend (hopen : ch.strategy = .block → s.closed = true →
      ¬ s.buffer.length < ch.capacity)
    (hdrops : patience = .forever → ¬ DropsNothing ch s) :
    Recorded ch s t (enterSend ch s t patience item) := by
  rw [enterSend.eq_def]
  split
  · rename_i hroom
    apply recorded_accept (Nat.lt_add_right _ hroom)
    intro hblock
    rw [Bool.eq_false_iff]
    intro hclosed
    exact hopen hblock hclosed hroom
  · rename_i hfull
    rw [Nat.not_lt] at hfull
    cases patience with
    | timed => exact recorded_stay rfl rfl hfull rfl rfl
    | forever =>
        cases hstrategy : ch.strategy with
        | block =>
            have hlimit : waitLimit ch .forever ≤ s.buffer.length := by
              simpa [waitLimit, hstrategy, BackpressureStrategy.overflow] using hfull
            exact recorded_stay rfl rfl hlimit rfl rfl
        | dropOldest =>
            apply recorded_replace hstrategy
            intro hempty
            exact hdrops rfl ⟨hstrategy, by omega, hempty⟩
        | dropNewest => exact recorded_refuse hstrategy (by simp)
        | buffer max_overflow =>
            simp only
            split
            · rename_i hover
              have hlimit : waitLimit ch .forever ≤ s.buffer.length := by
                simpa [waitLimit, hstrategy, BackpressureStrategy.overflow] using hover
              exact recorded_stay rfl rfl hlimit rfl rfl
            · rename_i hover
              apply recorded_accept
              · simpa [hstrategy, BackpressureStrategy.overflow] using hover
              · simp [hstrategy]

theorem recorded_timeUp (hdrops : ¬ DropsNothing ch s) (hfull : ch.capacity ≤ s.buffer.length) :
    Recorded ch s t (timeUp ch s t item) := by
  rw [timeUp]
  split
  · rename_i hstrategy
    exact recorded_refuse hstrategy (by simp)
  · rename_i hstrategy
    apply recorded_replace hstrategy
    intro hempty
    exact hdrops ⟨hstrategy, by omega, hempty⟩
  · exact recorded_finish rfl (by simp)

theorem recorded_enterRecv : Recorded ch s t (enterRecv s t patience) := by
  rw [enterRecv]
  split
  · rename_i hbuffer
    exact recorded_pop hbuffer
  · rename_i hbuffer
    exact recorded_stay rfl rfl hbuffer rfl rfl

/-- One step inside the mutex is an entry, and leaves the thread with what it has seen. -/
theorem recorded_critical {pc : Pc T} {next : State T × Pc T}
    (hstep : critical ch s t pc = some next) (hstanding : Standing ch s.buffer s.closed pc)
    (hovertaken : ¬ Overtaken ch s pc)
    (hdrops : entersSend pc = true → ¬ DropsNothing ch s) :
    Recorded ch s t next := by
  cases pc with
  | sendLock patience item =>
      cases hstep
      apply recorded_enterSend
      · intro hblock hclosed hroom
        exact hovertaken ⟨hblock, hclosed, hroom⟩
      · rintro rfl
        exact hdrops rfl
  | sendFull patience item =>
      cases patience with
      | forever =>
          cases hstep
          cases hclosed : s.closed with
          | true => exact recorded_stay rfl rfl (.inl hclosed) rfl rfl
          | false => exact recorded_stay rfl rfl hstanding rfl rfl
      | timed =>
          cases hstep
          cases hclosed : s.closed with
          | true => exact recorded_finish rfl (by simp)
          | false => exact recorded_stay rfl rfl hstanding rfl rfl
  | sendPark patience item =>
      cases hstep
      exact recorded_stay rfl rfl trivial rfl rfl
  | sendWait patience item =>
      cases hstep
      cases patience with
      | forever =>
          rw [resumeSend]
          split
          · rename_i hroom
            exact recorded_stay rfl rfl (.inr hroom) rfl rfl
          · rename_i hfull
            exact recorded_stay rfl rfl (Nat.not_lt.mp hfull) rfl rfl
      | timed =>
          apply recorded_enterSend
          · intro hblock hclosed hroom
            exact hovertaken ⟨hblock, hclosed, hroom⟩
          · simp
  | sendReopen item =>
      cases hstep
      cases hclosed : s.closed with
      | true => exact recorded_finish rfl (by simp)
      | false =>
          rw [Standing, hclosed] at hstanding
          rw [if_neg Bool.false_ne_true]
          exact recorded_accept (hstanding.resolve_left (by simp)) fun _ => hclosed
  | recvLock patience =>
      cases hstep
      exact recorded_enterRecv
  | recvEmpty patience =>
      cases hstep
      cases hclosed : s.closed with
      | true =>
          refine recorded_finish ?_ fun _ _ => ⟨hclosed, hstanding⟩
          cases patience <;> rfl
      | false => exact recorded_stay rfl rfl hstanding rfl rfl
  | recvPark patience =>
      cases patience with
      | forever =>
          cases hstep
          exact recorded_stay rfl rfl trivial rfl rfl
      | timed =>
          cases hstep
          exact recorded_stay rfl rfl trivial rfl rfl
  | recvWait patience =>
      cases hstep
      exact recorded_enterRecv
  | tryLock =>
      cases hstep
      rw [tryRecv]
      split
      · rename_i hbuffer
        exact recorded_pop hbuffer
      · exact recorded_finish rfl (by simp)
  | idle => cases hstep
  | sendOpen => cases hstep
  | sendNotify => cases hstep
  | recvNotify => cases hstep
  | closeStore => cases hstep
  | closeNotFull => cases hstep
  | closeNotEmpty => cases hstep

theorem recorded_criticalExpired {pc : Pc T} {next : State T × Pc T}
    (hstep : criticalExpired ch s t pc = some next)
    (hstanding : Standing ch s.buffer s.closed pc) (hovertaken : ¬ Overtaken ch s pc)
    (hdrops : waitsTimed pc = true → ¬ DropsNothing ch s) : Recorded ch s t next := by
  rw [criticalExpired.eq_def] at hstep
  split at hstep
  · rename_i item
    cases hstep
    exact recorded_timeUp (hdrops rfl) hstanding
  · rename_i item
    cases hstep
    split
    · rename_i hroom
      apply recorded_accept (Nat.lt_add_right _ hroom)
      intro hblock
      rw [Bool.eq_false_iff]
      intro hclosed
      exact hovertaken ⟨hblock, hclosed, hroom⟩
    · rename_i hfull
      exact recorded_timeUp (hdrops rfl) (Nat.not_lt.mp hfull)
  · cases hstep
    exact recorded_finish rfl (by simp)
  · cases hstep
    split
    · rename_i hbuffer
      exact recorded_pop hbuffer
    · exact recorded_finish rfl (by simp)
  · cases hstep

end Recording

section Invariants

variable {ch : BoundedChannel} {s s' : State T}

theorem Standing.close {buffer : List T} {closed : Bool} {pc : Pc T}
    (h : Standing ch buffer closed pc) : Standing ch buffer true pc := by
  cases pc with
  | sendReopen => exact .inl rfl
  | sendFull => exact h
  | sendPark => exact h
  | recvEmpty => exact h
  | recvPark => exact h
  | _ => trivial

theorem standing_of_not_holding {buffer : List T} {closed : Bool} {pc : Pc T}
    (h : pc.holding = false) : Standing ch buffer closed pc := by
  cases pc with
  | sendReopen => cases h
  | sendFull => cases h
  | sendPark => cases h
  | recvEmpty => cases h
  | recvPark => cases h
  | _ => trivial

/-- A step without the mutex that leaves the queue alone. -/
theorem Consistent.goto {t : ℕ} {next : State T × Pc T} (h : Consistent ch s)
    (hpc : next.1.pc = s.pc) (hholder : next.1.holder = s.holder)
    (hbuffer : next.1.buffer = s.buffer)
    (hclosed : next.1.closed = s.closed ∨ next.1.closed = true)
    (hnext : next.2.holding = false) : Consistent ch (State.goto t next) := by
  refine ⟨h.exclusive.goto hpc hholder hnext, ?_⟩
  intro u
  rcases eq_or_ne u t with rfl | hne
  · rw [State.pc_goto_self]
    exact standing_of_not_holding hnext
  · rw [State.pc_goto_of_ne hne, hpc]
    change Standing ch next.1.buffer next.1.closed (s.pc u)
    rw [hbuffer]
    rcases hclosed with hclosed | hclosed
    · rw [hclosed]
      exact h.standing u
    · rw [hclosed]
      exact (h.standing u).close

/-- A step inside the mutex: no other thread holds it. -/
theorem Consistent.settle {t : ℕ} {next : State T × Pc T} (h : Consistent ch s)
    (henters : s.enters t = true) (hrecorded : Recorded ch s t next) :
    Consistent ch (State.settle t next) := by
  refine ⟨h.exclusive.settle henters hrecorded.pc, ?_⟩
  intro u
  change Standing ch next.1.buffer next.1.closed _
  rcases eq_or_ne u t with rfl | hne
  · rw [State.pc_settle, State.pc_goto_self, hrecorded.closed]
    exact hrecorded.standing
  · rw [State.pc_settle, State.pc_goto_of_ne hne, hrecorded.pc]
    exact standing_of_not_holding (h.exclusive.alone henters hne)

theorem pendingTransfers_of_critical {t : ℕ} {pc : Pc T} {next : State T × Pc T}
    (h : critical ch s t pc = some next) : pendingTransfers pc = [] := by
  cases pc with
  | sendNotify => cases h
  | recvNotify => cases h
  | _ => rfl

theorem pendingTransfers_of_criticalExpired {t : ℕ} {pc : Pc T} {next : State T × Pc T}
    (h : criticalExpired ch s t pc = some next) : pendingTransfers pc = [] := by
  cases pc with
  | sendNotify => cases h
  | recvNotify => cases h
  | _ => rfl

/-- A step without the mutex. -/
structure Unlocked (ch : BoundedChannel) (s : State T) (t : ℕ) (pc : Pc T)
    (next : State T × Pc T) : Prop where
  entry : Entry ch s.closed (ledger s) (ledger next.1)
  settles : ∃ added, next.1.history = s.history ++ added ∧
    Settles t (pendingTransfers pc) added (pendingTransfers next.2)
  holding : next.2.holding = false
  buffer : next.1.buffer = s.buffer
  holder : next.1.holder = s.holder
  closed : next.1.closed = s.closed ∨ next.1.closed = true
  pc : next.1.pc = s.pc

theorem unlocked_finish {t : ℕ} {pc : Pc T} {call : Call T} {result : Returned T} {s' : State T}
    (hs : s' = { s with not_full := s'.not_full, not_empty := s'.not_empty })
    (hpending : pendingTransfers pc = endedTransfers [.returned t call result])
    (hresult : result ≠ .received none) : Unlocked ch s t pc (s'.finish t call result) := by
  rw [hs]
  refine ⟨.returned t call result fun _ h => absurd h hresult, ⟨_, rfl, ?_, ?_⟩, rfl, rfl, rfl,
    .inl rfl, rfl⟩
  · intro u hne
    simp [byThread, hne.symm]
  · simpa [byThread, begunTransfers, State.finish, pendingTransfers] using hpending

theorem unlocked_stay {t : ℕ} {pc pc' : Pc T} {s' : State T}
    (hs : s' = { s with closed := s'.closed, not_full := s'.not_full })
    (hpending : pendingTransfers pc = []) (hpending' : pendingTransfers pc' = [])
    (hholding : pc'.holding = false) (hclosed : s'.closed = s.closed ∨ s'.closed = true) :
    Unlocked ch s t pc (s', pc') := by
  refine ⟨?_, ⟨[], ?_, ?_⟩, hholding, ?_, ?_, hclosed, ?_⟩
  · rw [hs]
    exact .same _
  · rw [hs, List.append_nil]
  · rw [hpending, hpending']
    exact ⟨fun _ _ => rfl, rfl⟩
  · rw [hs]
  · rw [hs]
  · rw [hs]

theorem unlocked_outside {t : ℕ} {pc : Pc T} {next : State T × Pc T}
    (h : outside s t pc = some next) : Unlocked ch s t pc next := by
  rw [outside.eq_def] at h
  split at h
  · rename_i patience item
    cases h
    split
    · exact unlocked_finish rfl (by cases patience <;> rfl) (by simp)
    · exact unlocked_stay rfl rfl rfl rfl (.inl rfl)
  · cases h
    exact unlocked_stay rfl rfl rfl rfl (.inr rfl)
  · cases h
    exact unlocked_stay rfl rfl rfl rfl (.inl rfl)
  · cases h
    exact unlocked_finish rfl rfl (by simp)
  · cases h

theorem unlocked_notifyOne {t index : ℕ} {pc : Pc T} {next : State T × Pc T}
    (h : notifyOne s t index pc = some next) : Unlocked ch s t pc next := by
  rw [notifyOne.eq_def] at h
  split at h
  · rename_i patience item
    split at h
    · cases h
      exact unlocked_finish rfl (by cases patience <;> rfl) (by simp)
    · cases h
  · rename_i call item
    split at h
    · cases h
      exact unlocked_finish rfl (by cases call <;> rfl) (by simp)
    · cases h
  · cases h

/-- What every admitted step keeps: the channel is a queue whose ledger adds up. -/
structure Sound (ch : BoundedChannel) (s : State T) : Prop where
  consistent : Consistent ch s
  balanced : Balanced ch (ledger s)
  drained : ch.strategy = .block → Drained s.closed (ledger s)
  transfers : ∀ t, begunTransfers (byThread t s.history) =
    endedTransfers (byThread t s.history) ++ pendingTransfers (s.pc t)

theorem sound_new : Sound ch (BoundedChannel.new : State T) := by
  refine ⟨⟨fun t h => ?_, fun t => trivial⟩, ⟨?_, rfl, rfl, rfl, ?_, fun _ => rfl⟩,
    fun _ => ⟨fun t h => ?_, fun pre t post h => ?_⟩, fun t => rfl⟩
  · cases h
  · exact Nat.zero_le _
  · rw [droppedFromQueue]
    split <;> rfl
  · cases h
  · exact absurd h.symm (List.append_ne_nil_of_right_ne_nil _ (List.cons_ne_nil _ _))

/-- Threads that did nothing still have what was pending. -/
theorem transfers_of_settles {t : ℕ} {history added : List (Event T)} {pc pc' : ℕ → Pc T}
    (h : ∀ u, begunTransfers (byThread u history) =
      endedTransfers (byThread u history) ++ pendingTransfers (pc u))
    (hsettles : Settles t (pendingTransfers (pc t)) added (pendingTransfers (pc' t)))
    (hpc : ∀ u, u ≠ t → pc' u = pc u) (u : ℕ) :
    begunTransfers (byThread u (history ++ added)) =
      endedTransfers (byThread u (history ++ added)) ++ pendingTransfers (pc' u) := by
  have hbegun : begunTransfers (byThread u (history ++ added)) =
      begunTransfers (byThread u history) ++ begunTransfers (byThread u added) := by
    simp only [byThread, begunTransfers, List.filter_append, List.filterMap_append]
  have hended : endedTransfers (byThread u (history ++ added)) =
      endedTransfers (byThread u history) ++ endedTransfers (byThread u added) := by
    simp only [byThread, endedTransfers, List.filter_append, List.filterMap_append]
  rw [hbegun, hended, h u]
  rcases eq_or_ne u t with rfl | hne
  · rw [List.append_assoc, hsettles.own, List.append_assoc]
  · rw [hsettles.others u hne, hpc u hne]
    simp [begunTransfers, endedTransfers]

theorem Sound.goto {t : ℕ} {next : State T × Pc T} (h : Sound ch s)
    (hunlocked : Unlocked ch s t (s.pc t) next) : Sound ch (State.goto t next) := by
  refine ⟨h.consistent.goto hunlocked.pc hunlocked.holder hunlocked.buffer hunlocked.closed
    hunlocked.holding, h.balanced.entry hunlocked.entry, ?_, ?_⟩
  · intro hblock
    have hdrained := (h.drained hblock).entry hblock h.balanced hunlocked.entry
    change Drained next.1.closed (ledger next.1)
    rcases hunlocked.closed with hclosed | hclosed
    · rw [hclosed]
      exact hdrained
    · rw [hclosed]
      exact hdrained.close
  · obtain ⟨added, hhistory, hsettles⟩ := hunlocked.settles
    change ∀ u, begunTransfers (byThread u next.1.history) =
      endedTransfers (byThread u next.1.history) ++ pendingTransfers ((State.goto t next).pc u)
    rw [hhistory]
    apply transfers_of_settles h.transfers
    · rw [State.pc_goto_self]
      exact hsettles
    · intro u hne
      rw [State.pc_goto_of_ne hne, hunlocked.pc]

theorem Sound.settle {t : ℕ} {next : State T × Pc T} (h : Sound ch s)
    (henters : s.enters t = true) (hrecorded : Recorded ch s t next)
    (hpending : pendingTransfers (s.pc t) = []) : Sound ch (State.settle t next) := by
  refine ⟨h.consistent.settle henters hrecorded, h.balanced.entry hrecorded.entry, ?_, ?_⟩
  · intro hblock
    have hdrained := (h.drained hblock).entry hblock h.balanced hrecorded.entry
    rw [← hrecorded.closed] at hdrained
    exact hdrained
  · obtain ⟨added, hhistory, hsettles⟩ := hrecorded.settles
    change ∀ u, begunTransfers (byThread u next.1.history) =
      endedTransfers (byThread u next.1.history) ++ pendingTransfers ((State.goto t next).pc u)
    rw [hhistory]
    apply transfers_of_settles h.transfers
    · rw [hpending, State.pc_goto_self]
      exact hsettles
    · intro u hne
      rw [State.pc_goto_of_ne hne, hrecorded.pc]

theorem Sound.step {a : Action T} (h : Sound ch s) (hallowed : Allowed ch s a)
    (hstep : step ch s a = some s') : Sound ch s' := by
  cases move_of_step hstep with
  | call t call hpc =>
      apply h.goto
      rw [hpc]
      refine unlocked_stay rfl rfl ?_ ?_ (.inl rfl)
      · cases call <;> rfl
      · cases call <;> rfl
  | outside t next hnext => exact h.goto (unlocked_outside hnext)
  | notify t index next hnext => exact h.goto (unlocked_notifyOne hnext)
  | critical t next henters hnext =>
      have hrecorded := recorded_critical hnext (h.consistent.standing t) hallowed.1 hallowed.2
      exact h.settle henters hrecorded (pendingTransfers_of_critical hnext)
  | expired t next henters hnext =>
      have hrecorded :=
        recorded_criticalExpired hnext (h.consistent.standing t) hallowed.1 hallowed.2
      exact h.settle henters hrecorded (pendingTransfers_of_criticalExpired hnext)
  | wake t =>
      exact ⟨⟨h.consistent.exclusive, h.consistent.standing⟩, h.balanced, h.drained, h.transfers⟩

end Invariants

/-- The queue keeps to its limit and every item is accounted for. -/
structure Conserves (ch : BoundedChannel) (s : State T) : Prop where
  bounded : s.buffer.length ≤ ch.capacity + ch.strategy.overflow
  balance : s.items_sent =
    s.items_received + droppedFromQueue ch s.items_dropped + s.buffer.length
  sent : s.items_sent = (pushedItems s.history).length
  received : s.items_received = (poppedItems s.history).length
  dropped : droppedFromQueue ch s.items_dropped = (evictedItems s.history).length

/-- Every item that was sent is handed to one receiver, in the order of the queue, before
any `recv` comes to the end. -/
structure Delivers (s : State T) : Prop where
  queued : pushedItems s.history = poppedItems s.history ++ s.buffer
  ended : ∀ pre t post, s.history = pre ++ .returned t .recv (.received none) :: post →
    pushedItems s.history = poppedItems pre
  returned : ∀ t, begunTransfers (byThread t s.history) =
    endedTransfers (byThread t s.history) ++ pendingTransfers (s.pc t)

section Runs

variable {ch : BoundedChannel} {s : State T}

theorem Sound.conserves (h : Sound ch s) : Conserves ch s := by
  refine ⟨h.balanced.bounded, ?_, h.balanced.sent, h.balanced.received, h.balanced.dropped⟩
  have hlength := congrArg List.length h.balanced.ordered
  rw [List.length_append, length_leavingItems, ← h.balanced.sent, ← h.balanced.received,
    ← h.balanced.dropped] at hlength
  exact hlength

theorem Sound.delivers (h : Sound ch s) (hblock : ch.strategy = .block) : Delivers s := by
  refine ⟨?_, (h.drained hblock).before, h.transfers⟩
  have hevicted : evictedItems s.history = [] := h.balanced.evicted (by simp [hblock])
  rw [← leavingItems_of_evictedItems_eq_nil hevicted]
  exact h.balanced.ordered

/-- While no sender that saw the flag open finds room after it was set, and none drops the
oldest item of a channel without room, nothing is lost. -/
theorem delivers_of_allowed (ch : BoundedChannel) (actions : List (Action T)) (s : State T)
    (hrun : replay (step ch) BoundedChannel.new actions = some s)
    (hallowed : Guarded (step ch) (Allowed ch) BoundedChannel.new actions) :
    Conserves ch s ∧ (ch.strategy = .block → Delivers s) := by
  have hsound : Sound ch s :=
    replay_invariant (fun _ _ _ h ha hstep => h.step ha hstep) hrun hallowed sound_new
  exact ⟨hsound.conserves, hsound.delivers⟩

end Runs

/-- A sender, a receiver and a third thread that closes the channel after the last item. -/
def orderlyActions : List (Action ℕ) :=
  [.call 1 .recv, .advance 1, .advance 1, .advance 1,
    .call 0 (.send 7), .advance 0, .advance 0, .notify_one 0 0,
    .advance 1, .notify_one 1 0,
    .call 2 .close, .advance 2, .advance 2, .advance 2,
    .call 1 .recv, .advance 1, .advance 1]

theorem orderly_run_delivers : ∃ s : State ℕ,
    replay (step ⟨1, .block⟩) BoundedChannel.new orderlyActions = some s ∧ Conserves ⟨1, .block⟩ s ∧
      (BackpressureStrategy.block = .block → Delivers s) :=
  ⟨_, rfl, delivers_of_allowed ⟨1, .block⟩ orderlyActions _ rfl (by decide)⟩

/-- The sender has read the open flag when another thread closes the channel; a receiver
comes to the end, and then the item is sent. -/
def overtakenActions : List (Action ℕ) :=
  [.call 0 (.send 7), .advance 0,
    .call 1 .close, .advance 1, .advance 1, .advance 1,
    .call 2 .recv, .advance 2, .advance 2,
    .advance 0, .notify_one 0 0]

theorem overtaken_send_is_lost : ∃ s : State ℕ,
    replay (step ⟨2, .block⟩) BoundedChannel.new overtakenActions = some s ∧
      s.history = [.returned 1 .close .closed, .returned 2 .recv (.received none), .pushed 0 7,
        .returned 0 (.send 7) (.sent true)] ∧ s.buffer = [7] ∧ ¬ Delivers s := by
  refine ⟨_, rfl, rfl, rfl, ?_⟩
  intro h
  have hended := h.ended [.returned 1 .close .closed] 2
    [.pushed 0 7, .returned 0 (.send 7) (.sent true)] rfl
  revert hended
  decide

end Datasynth.Streaming.ChannelDelivery
