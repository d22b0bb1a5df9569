import Datasynth.Lib.StepRuns
import Datasynth.Streaming.Channel

/-!
Closing a bounded channel: in which runs no thread goes on waiting after `close` returned.
-/

namespace Datasynth.Streaming.ChannelClosing

open Datasynth.Lib.GuardedRuns
open Datasynth.Streaming.Channel

universe u

variable {T : Type u}

inductive Condvar where
  | notFull
  | notEmpty
deriving DecidableEq, Repr

def waiters : Condvar → State T → List ℕ
  | .notFull => fun s => s.not_full
  | .notEmpty => fun s => s.not_empty

/-- The thread has read the open flag and is about to wait. -/
def parksOn : Pc T → Option Condvar
  | .sendPark _ _ => some .notFull
  | .recvPark _ => some .notEmpty
  | _ => none

/-- The next step of the thread wakes all that wait, in `close`. -/
def notifiesAll : Pc T → Option Condvar
  | .closeNotFull => some .notFull
  | .closeNotEmpty => some .notEmpty
  | _ => none

/-- The holder of the mutex is not between its reading of the flag and its wait. -/
def NoneParks (c : Condvar) (s : State T) : Prop :=
  s.holder.elim True fun t => parksOn (s.pc t) ≠ some c

def Allowed (s : State T) : Action T → Prop
  | .advance t => (notifiesAll (s.pc t)).elim True fun c => NoneParks c s
  | _ => True

instance (c : Condvar) (s : State T) : Decidable (NoneParks c s) :=
  inferInstanceAs (Decidable (s.holder.elim True fun t => parksOn (s.pc t) ≠ some c))

instance decidableAllowed (s : State T) : (a : Action T) → Decidable (Allowed s a)
  | .advance t =>
      inferInstanceAs (Decidable ((notifiesAll (s.pc t)).elim True fun c => NoneParks c s))
  | .call _ _ | .expire _ | .notify_one _ _ | .wake _ => inferInstanceAs (Decidable True)

def CloseReturned (s : State T) : Prop :=
  ∃ t, .returned t .close .closed ∈ s.history

/-- No thread waits, and none is going to. -/
structure Hushed (c : Condvar) (s : State T) : Prop where
  closed : s.closed = true
  waiters : waiters c s = []
  parks : ∀ t, parksOn (s.pc t) ≠ some c

/-- What a step inside the mutex does to flag and waiters. -/
structure Framed (s : State T) (pc : Pc T) (next : State T × Pc T) : Prop where
  threads : next.1.pc = s.pc
  closed : next.1.closed = s.closed
  waiters : ∀ c, parksOn pc ≠ some c → waiters c next.1 = waiters c s
  parks : s.closed = true → parksOn next.2 = none
  notifies : notifiesAll next.2 = none
  returned : CloseReturned next.1 → CloseReturned s

section Frames

variable {ch : BoundedChannel} {s s' : State T} {t : ℕ} {pc pc' : Pc T} {item : T}
  {patience : Patience}

theorem framed_of_eq (hs : s' = { s with
      buffer := s'.buffer, items_sent := s'.items_sent, items_received := s'.items_received
      items_dropped := s'.items_dropped, send_blocks := s'.send_blocks
      receive_blocks := s'.receive_blocks, max_buffer_size := s'.max_buffer_size
      history := s'.history })
    (hparks : s.closed = true → parksOn pc' = none) (hnotifies : notifiesAll pc' = none)
    (hreturned : CloseReturned s' → CloseReturned s) : Framed s pc (s', pc') := by
  refine ⟨?_, ?_, ?_, hparks, hnotifies, hreturned⟩
  · rw [hs]
  · rw [hs]
  · intro c _
    rw [hs]
    cases c <;> rfl

theorem closeReturned_of_append {added : List (Event T)}
    (hs : s'.history = s.history ++ added)
    (hadded : ∀ t, .returned t .close .closed ∉ added) (h : CloseReturned s') :
    CloseReturned s := by
  obtain ⟨t, ht⟩ := h
  rw [hs] at ht
  exact ⟨t, (List.mem_append.mp ht).resolve_right (hadded t)⟩

theorem framed_finish {call : Call T} {result : Returned T} (hcall : call ≠ .close) :
    Framed s pc (s.finish t call result) := by
  refine framed_of_eq rfl (fun _ => rfl) rfl (closeReturned_of_append rfl ?_)
  simp [hcall.symm]

theorem framed_stay (hparks : s.closed = true → parksOn pc' = none)
    (hnotifies : notifiesAll pc' = none) : Framed s pc (s, pc') :=
  framed_of_eq rfl hparks hnotifies id

theorem framed_accept : Framed s pc (s.accept t patience item) := by
  have hadded : ∀ t', Event.returned t' .close .closed ∉ [Event.pushed t item] := by simp
  cases patience with
  | forever => exact framed_of_eq rfl (fun _ => rfl) rfl (closeReturned_of_append rfl hadded)
  | timed => exact framed_of_eq rfl (fun _ => rfl) rfl (closeReturned_of_append rfl hadded)

/-- Dropping the oldest item first changes the queue only. -/
theorem Framed.of_dropOldest {next : State T × Pc T} (h : Framed s.dropOldest pc next) :
    Framed s pc next := by
  refine ⟨h.threads, h.closed, fun c hc => (h.waiters c hc).trans ?_, h.parks, h.notifies, ?_⟩
  · cases c <;> rfl
  · intro hreturned
    apply closeReturned_of_append rfl _ (h.returned hreturned)
    cases s.buffer <;> simp

theorem framed_refuse {call : Call T} {result : Returned T} (hcall : call ≠ .close) :
    Framed s pc (s.countDropped.finish t call result) := by
  refine framed_of_eq rfl (fun _ => rfl) rfl (closeReturned_of_append rfl ?_)
  simp [hcall.symm]

theorem framed_enterSend : Framed s pc (enterSend ch s t patience item) := by
  have hwait : Framed s pc (s.waitForRoom item) := framed_of_eq rfl (fun _ => rfl) rfl id
  rw [enterSend.eq_def]
  split
  · exact framed_accept
  · cases patience with
    | timed => exact framed_stay (fun _ => rfl) rfl
    | forever =>
        cases ch.strategy with
        | block => exact hwait
        | dropOldest => exact framed_accept.of_dropOldest
        | dropNewest => exact framed_refuse (by simp)
        | buffer max_overflow =>
            simp only
            split
            · exact hwait
            · exact framed_accept

theorem framed_timeUp : Framed s pc (timeUp ch s t item) := by
  rw [timeUp]
  split
  · exact framed_refuse (by simp)
  · exact framed_accept.of_dropOldest
  · exact framed_finish (by simp)

theorem framed_pop {call : Call T} {rest : List T} : Framed s pc (s.pop t call item rest) :=
  framed_of_eq rfl (fun _ => rfl) rfl (closeReturned_of_append rfl (by simp))

theorem framed_enterRecv : Framed s pc (enterRecv s t patience) := by
  rw [enterRecv]
  split
  · exact framed_pop
  · exact framed_stay (fun _ => rfl) rfl

/-- A thread that waits joins the waiters of its condition variable. -/
theorem framed_wait {c : Condvar} (hpc : parksOn pc = some c)
    (hs : s' = { s with
      not_full := s'.not_full, not_empty := s'.not_empty, receive_blocks := s'.receive_blocks })
    (hwaiters : ∀ c', c ≠ c' → waiters c' s' = waiters c' s) (hparks : parksOn pc' = none)
    (hnotifies : notifiesAll pc' = none) : Framed s pc (s', pc') := by
  refine ⟨?_, ?_, ?_, fun _ => hparks, hnotifies, ?_⟩
  · rw [hs]
  · rw [hs]
  · intro c' hc'
    apply hwaiters
    rintro rfl
    exact hc' hpc
  · rw [hs]
    exact id

theorem framed_critical {next : State T × Pc T} (h : critical ch s t pc = some next) :
    Framed s pc next := by
  cases pc with
  | sendLock patience item =>
      cases h
      exact framed_enterSend
  | sendFull patience item =>
      cases patience with
      | forever =>
          cases h
          cases hclosed : s.closed with
          | true => exact framed_stay (fun _ => rfl) rfl
          | false => exact framed_stay (fun h => absurd h (by simp [hclosed])) rfl
      | timed =>
          cases h
          cases hclosed : s.closed with
          | true => exact framed_finish (by simp)
          | false => exact framed_stay (fun h => absurd h (by simp [hclosed])) rfl
  | sendPark patience item =>
      cases h
      apply framed_wait rfl rfl _ rfl rfl
      intro c hc
      cases c with
      | notFull => exact absurd rfl hc
      | notEmpty => rfl
  | sendWait patience item =>
      cases h
      cases patience with
      | forever =>
          rw [resumeSend]
          split
          · exact framed_stay (fun _ => rfl) rfl
          · exact framed_stay (fun _ => rfl) rfl
      | timed => exact framed_enterSend
  | sendReopen item =>
      cases h
      split
      · exact framed_finish (by simp)
      · exact framed_accept
  | recvLock patience =>
      cases h
      exact framed_enterRecv
  | recvEmpty patience =>
      cases h
      cases hclosed : s.closed with
      | true =>
          apply framed_finish
          cases patience <;> simp [recvCall]
      | false => exact framed_stay (fun h => absurd h (by simp [hclosed])) rfl
  | recvPark patience =>
      cases patience with
      | forever =>
          cases h
          apply framed_wait rfl rfl _ rfl rfl
          intro c hc
          cases c with
          | notFull => rfl
          | notEmpty => exact absurd rfl hc
      | timed =>
          cases h
          apply framed_wait rfl rfl _ rfl rfl
          intro c hc
          cases c with
          | notFull => rfl
          | notEmpty => exact absurd rfl hc
  | recvWait patience =>
      cases h
      exact framed_enterRecv
  | tryLock =>
      cases h
      rw [tryRecv]
      split
      · exact framed_pop
      · exact framed_finish (by simp)
  | idle => cases h
  | sendOpen => cases h
  | sendNotify => cases h
  | recvNotify => cases h
  | closeStore => cases h
  | closeNotFull => cases h
  | closeNotEmpty => cases h

theorem framed_criticalExpired {next : State T × Pc T}
    (h : criticalExpired ch s t pc = some next) : Framed s pc next := by
  rw [criticalExpired.eq_def] at h
  split at h
  · cases h
    exact framed_timeUp
  · cases h
    split
    · exact framed_accept
    · exact framed_timeUp
  · cases h
    exact framed_finish (by simp)
  · cases h
    split
    · exact framed_pop
    · exact framed_finish (by simp)
  · cases h

end Frames

section Closing

variable {ch : BoundedChannel} {s s' : State T} {t : ℕ} {next : State T × Pc T} {c : Condvar}

/-- After each stage of `close` the flag and the waiters are as the stage left them. -/
structure Closing (s : State T) : Prop where
  exclusive : s.Exclusive
  stored : ∀ t, s.pc t = .closeNotFull → s.closed = true
  notified : ∀ t, s.pc t = .closeNotEmpty → Hushed .notFull s
  returned : CloseReturned s → ∀ c, Hushed c s

theorem Hushed.goto (h : Hushed c s) (hpc : next.1.pc = s.pc) (hclosed : next.1.closed = true)
    (hwaiters : ChannelClosing.waiters c next.1 = []) (hparks : parksOn next.2 = none) :
    Hushed c (State.goto t next) := by
  refine ⟨hclosed, ?_, ?_⟩
  · cases c <;> exact hwaiters
  · intro u
    rcases eq_or_ne u t with rfl | hne
    · rw [State.pc_goto_self, hparks]
      simp
    · rw [State.pc_goto_of_ne hne, hpc]
      exact h.parks u

theorem Hushed.settle (h : Hushed c s) (hframed : Framed s (s.pc t) next) :
    Hushed c (State.settle t next) := by
  have hgoto : Hushed c (State.goto t next) := by
    apply h.goto hframed.threads
    · rw [hframed.closed]
      exact h.closed
    · rw [hframed.waiters c (h.parks t)]
      exact h.waiters
    · exact hframed.parks h.closed
  refine ⟨hgoto.closed, ?_, hgoto.parks⟩
  cases c <;> exact hgoto.waiters

theorem holding_of_parksOn {pc : Pc T} (h : parksOn pc = some c) : pc.holding = true := by
  cases pc with
  | sendPark => rfl
  | recvPark => rfl
  | _ => cases h

/-- Notifying all when no thread is about to wait leaves none that does. -/
theorem Closing.hushed_of_noneParks (h : Closing s) (hnone : NoneParks c s)
    (hpc : next.1.pc = s.pc) (hclosed : next.1.closed = true)
    (hwaiters : waiters c next.1 = []) (hparks : parksOn next.2 = none) :
    Hushed c (State.goto t next) := by
  refine ⟨hclosed, ?_, ?_⟩
  · cases c <;> exact hwaiters
  · intro u
    rcases eq_or_ne u t with rfl | hne
    · rw [State.pc_goto_self, hparks]
      simp
    · rw [State.pc_goto_of_ne hne, hpc]
      intro hu
      have hholder := h.exclusive u (holding_of_parksOn hu)
      rw [NoneParks, hholder] at hnone
      exact hnone hu

/-- A step that is not a stage of `close`. -/
theorem Closing.of_step (h : Closing s) (hexclusive : s'.Exclusive)
    (hpc : ∀ u, notifiesAll (s'.pc u) ≠ none → s'.pc u = s.pc u)
    (hclosed : s.closed = true → s'.closed = true) (hhushed : ∀ c, Hushed c s → Hushed c s')
    (hreturned : CloseReturned s' → CloseReturned s) : Closing s' := by
  refine ⟨hexclusive, ?_, ?_, ?_⟩
  · intro u hu
    have hsame := hpc u (by simp [hu, notifiesAll])
    exact hclosed (h.stored u (hsame ▸ hu))
  · intro u hu
    have hsame := hpc u (by simp [hu, notifiesAll])
    exact hhushed _ (h.notified u (hsame ▸ hu))
  · intro hret c
    exact hhushed c (h.returned (hreturned hret) c)

/-- A step without the mutex that is not a stage of `close`. -/
theorem Closing.goto (h : Closing s) (hpc : next.1.pc = s.pc) (hholder : next.1.holder = s.holder)
    (hnext : next.2.holding = false) (hclosed : next.1.closed = s.closed)
    (hwaiters : ∀ c, waiters c s = [] → waiters c next.1 = [])
    (hnotifies : notifiesAll next.2 = none) (hreturned : CloseReturned next.1 → CloseReturned s) :
    Closing (State.goto t next) := by
  have hparks : parksOn next.2 = none := by
    cases hpark : parksOn next.2 with
    | none => rfl
    | some c => simp [holding_of_parksOn hpark] at hnext
  apply h.of_step (h.exclusive.goto hpc hholder hnext)
  · intro u hu
    rcases eq_or_ne u t with rfl | hne
    · rw [State.pc_goto_self, hnotifies] at hu
      exact absurd rfl hu
    · rw [State.pc_goto_of_ne hne, hpc]
  · intro hopen
    exact hclosed.trans hopen
  · intro c hhushed
    exact hhushed.goto hpc (hclosed.trans hhushed.closed) (hwaiters c hhushed.waiters) hparks
  · exact hreturned

theorem Closing.settle (h : Closing s) (henters : s.enters t = true)
    (hframed : Framed s (s.pc t) next) : Closing (State.settle t next) := by
  apply h.of_step (h.exclusive.settle henters hframed.threads)
  · intro u hu
    rcases eq_or_ne u t with rfl | hne
    · rw [State.pc_settle, State.pc_goto_self, hframed.notifies] at hu
      exact absurd rfl hu
    · rw [State.pc_settle, State.pc_goto_of_ne hne, hframed.threads]
  · intro hclosed
    exact hframed.closed.trans hclosed
  · intro c hhushed
    exact hhushed.settle hframed
  · exact hframed.returned

theorem returned_of_mem_finish {call : Call T} {result : Returned T} (hcall : call ≠ .close)
    {s' : State T} (hs : s'.history = s.history) (h : CloseReturned (s'.finish t call result).1) :
    CloseReturned s := by
  have hhistory : (s'.finish t call result).1.history = s.history ++ [.returned t call result] := by
    rw [← hs]
    rfl
  apply closeReturned_of_append hhistory _ h
  simp [hcall.symm]

theorem Closing.outside (h : Closing s) (hnext : outside s t (s.pc t) = some next)
    (hallowed : Allowed s (.advance t)) : Closing (State.goto t next) := by
  rw [Allowed] at hallowed
  cases hpc : s.pc t with
  | sendOpen patience item =>
      rw [hpc] at hnext
      cases hnext
      split
      · refine h.goto rfl rfl rfl rfl ?_ rfl (returned_of_mem_finish ?_ rfl)
        · intro c hwaiters
          cases c <;> exact hwaiters
        · cases patience <;> simp [sendCall]
      · exact h.goto rfl rfl rfl rfl (fun _ hwaiters => hwaiters) rfl id
  | closeStore =>
      rw [hpc] at hnext
      cases hnext
      refine ⟨h.exclusive.goto rfl rfl rfl, fun _ _ => rfl, ?_, ?_⟩
      · intro u hu
        rcases eq_or_ne u t with rfl | hne
        · rw [State.pc_goto_self] at hu
          cases hu
        · rw [State.pc_goto_of_ne hne] at hu
          exact (h.notified u hu).goto rfl rfl (h.notified u hu).waiters rfl
      · intro hret c
        exact (h.returned hret c).goto rfl rfl (by
          have hwaiters := (h.returned hret c).waiters
          cases c <;> exact hwaiters) rfl
  | closeNotFull =>
      rw [hpc] at hnext hallowed
      cases hnext
      have hhushed : Hushed .notFull (State.goto t ({ s with not_full := [] }, .closeNotEmpty)) :=
        h.hushed_of_noneParks hallowed rfl (h.stored t hpc) rfl rfl
      refine ⟨h.exclusive.goto rfl rfl rfl, ?_, fun _ _ => hhushed, ?_⟩
      · intro _ _
        exact h.stored t hpc
      · intro hret c
        cases c with
        | notFull => exact hhushed
        | notEmpty =>
            have hclosed := h.returned hret .notEmpty
            exact hclosed.goto rfl hclosed.closed hclosed.waiters rfl
  | closeNotEmpty =>
      rw [hpc] at hnext hallowed
      cases hnext
      have hfull := h.notified t hpc
      have hhushed : Hushed .notFull (State.goto t
          (State.finish { s with not_empty := [] } t .close .closed)) :=
        hfull.goto rfl hfull.closed hfull.waiters rfl
      refine ⟨h.exclusive.goto rfl rfl rfl, fun _ _ => hfull.closed, fun _ _ => hhushed, ?_⟩
      intro _ c
      cases c with
      | notFull => exact hhushed
      | notEmpty => exact h.hushed_of_noneParks hallowed rfl hfull.closed rfl rfl
  | _ =>
      rw [hpc] at hnext
      cases hnext

theorem Closing.notifyOne {index : ℕ} (h : Closing s)
    (hnext : notifyOne s t index (s.pc t) = some next) : Closing (State.goto t next) := by
  rw [notifyOne.eq_def] at hnext
  split at hnext
  · rename_i patience item hpc
    split at hnext
    · cases hnext
      refine h.goto rfl rfl rfl rfl ?_ rfl (returned_of_mem_finish ?_ rfl)
      · intro c hwaiters
        cases c with
        | notFull => exact hwaiters
        | notEmpty => exact (congrArg (List.eraseIdx · index) hwaiters).trans List.eraseIdx_nil
      · cases patience <;> simp [sendCall]
    · cases hnext
  · rename_i call item hpc
    split at hnext
    · cases hnext
      refine h.goto rfl rfl rfl rfl ?_ rfl ?_
      · intro c hwaiters
        cases c with
        | notFull => exact (congrArg (List.eraseIdx · index) hwaiters).trans List.eraseIdx_nil
        | notEmpty => exact hwaiters
      · apply closeReturned_of_append rfl
        simp
    · cases hnext
  · cases hnext

theorem Closing.wake (h : Closing s) (t : ℕ) : Closing { s with
    not_full := s.not_full.filter (· ≠ t)
    not_empty := s.not_empty.filter (· ≠ t) } := by
  refine h.of_step ?_ ?_ ?_ ?_ ?_
  · exact h.exclusive
  · exact fun _ _ => rfl
  · exact id
  · intro c hhushed
    refine ⟨hhushed.closed, ?_, hhushed.parks⟩
    have hwaiters := hhushed.waiters
    cases c with
    | notFull => exact (congrArg (List.filter (· ≠ t)) hwaiters).trans List.filter_nil
    | notEmpty => exact (congrArg (List.filter (· ≠ t)) hwaiters).trans List.filter_nil
  · exact id

theorem Closing.step {a : Action T} (h : Closing s) (hallowed : Allowed s a)
    (hstep : step ch s a = some s') : Closing s' := by
  cases move_of_step hstep with
  | call t call hpc =>
      apply h.goto rfl rfl _ rfl (fun _ hwaiters => hwaiters) _ id
      · cases call <;> rfl
      · cases call <;> rfl
  | outside t next hnext => exact h.outside hnext hallowed
  | critical t next henters hnext => exact h.settle henters (framed_critical hnext)
  | expired t next henters hnext => exact h.settle henters (framed_criticalExpired hnext)
  | notify t index next hnext => exact h.notifyOne hnext
  | wake t => exact h.wake t

theorem closing_new : Closing (BoundedChannel.new : State T) := by
  refine ⟨fun t h => ?_, fun t h => ?_, fun t h => ?_, fun h => ?_⟩
  · cases h
  · cases h
  · cases h
  · obtain ⟨t, ht⟩ := h
    cases ht

/-- While `close` notifies only when no thread is between its reading of the flag and its
wait, no thread waits any more once `close` has returned. -/
theorem none_waits_after_close (ch : BoundedChannel) (actions : List (Action T)) (s : State T)
    (hrun : replay (Channel.step ch) BoundedChannel.new actions = some s)
    (hallowed : Guarded (Channel.step ch) Allowed BoundedChannel.new actions)
    (hclose : CloseReturned s) : s.not_full = [] ∧ s.not_empty = [] := by
  have hclosing : Closing s :=
    replay_invariant (fun _ _ _ h ha hstep => h.step ha hstep) hrun hallowed closing_new
  exact ⟨(hclosing.returned hclose .notFull).waiters, (hclosing.returned hclose .notEmpty).waiters⟩

end Closing

/-- A receiver waits, and another thread closes the channel. -/
def orderlyActions : List (Action ℕ) :=
  [.call 0 .recv, .advance 0, .advance 0, .advance 0,
    .call 1 .close, .advance 1, .advance 1, .advance 1]

theorem waiting_receiver_is_woken : ∃ s : State ℕ,
    replay (Channel.step ⟨1, .block⟩) BoundedChannel.new orderlyActions = some s ∧
      s.pc 0 = .recvWait .forever ∧ CloseReturned s ∧ s.not_full = [] ∧ s.not_empty = [] := by
  have hclose : CloseReturned ((replay (Channel.step ⟨1, .block⟩) BoundedChannel.new
      orderlyActions).get rfl) := ⟨1, List.mem_cons_self⟩
  exact ⟨_, rfl, rfl, hclose,
    none_waits_after_close ⟨1, .block⟩ orderlyActions _ rfl (by decide) hclose⟩

/-- The receiver has read the open flag; the channel is closed before the receiver waits. -/
def missedActions : List (Action ℕ) :=
  [.call 0 .recv, .advance 0, .advance 0,
    .call 1 .close, .advance 1, .advance 1, .advance 1,
    .advance 0]

theorem receiver_misses_close : ∃ s : State ℕ,
    replay (Channel.step ⟨1, .block⟩) BoundedChannel.new missedActions = some s ∧
      s.history = [.returned 1 .close .closed] ∧ s.pc 0 = .recvWait .forever ∧ s.not_empty = [0] ∧
      ¬ (CloseReturned s → s.not_full = [] ∧ s.not_empty = []) := by
  refine ⟨_, rfl, rfl, rfl, rfl, ?_⟩
  intro h
  have hempty := (h ⟨1, List.mem_cons_self⟩).2
  cases hempty

end Datasynth.Streaming.ChannelClosing
