import Mathlib.Data.List.Basic
import Mathlib.Logic.Function.Basic

/-!
The bounded channel between the producers and the consumers of a stream: what each thread
does between two points where another one can come in.
-/

namespace Datasynth.Streaming.Channel

universe u

inductive BackpressureStrategy where
  | block
  | dropOldest
  | dropNewest
  | buffer (max_overflow : ℕ)
deriving DecidableEq, Repr

def BackpressureStrategy.overflow : BackpressureStrategy → ℕ
  | .buffer max_overflow => max_overflow
  | _ => 0

inductive SynthError where
  | channelClosed
  | generationError (message : String)
deriving DecidableEq, Repr

structure BoundedChannel where
  capacity : ℕ
  strategy : BackpressureStrategy
deriving DecidableEq, Repr

variable {T : Type u}

inductive Call (T : Type u) where
  | send (item : T)
  | send_timeout (item : T)
  | recv
  | recv_timeout
  | try_recv
  | close
deriving DecidableEq, Repr

inductive Returned (T : Type u) where
  | sent (accepted : Bool)
  | failed (error : SynthError)
  | received (item : Option T)
  | closed
deriving DecidableEq, Repr

/-- Whether a call waits without or with a deadline. -/
inductive Patience where
  | forever
  | timed
deriving DecidableEq, Repr

def sendCall : Patience → T → Call T
  | .forever => .send
  | .timed => .send_timeout

def recvCall : Patience → Call T
  | .forever => .recv
  | .timed => .recv_timeout

/-- Where a thread stands. At `sendFull`, `sendPark`, `sendReopen`, `recvEmpty` and
`recvPark` it holds the mutex. -/
inductive Pc (T : Type u) where
  | idle
  | sendOpen (patience : Patience) (item : T)
  | sendLock (patience : Patience) (item : T)
  | sendFull (patience : Patience) (item : T)
  | sendPark (patience : Patience) (item : T)
  | sendWait (patience : Patience) (item : T)
  | sendReopen (item : T)
  | sendNotify (patience : Patience) (item : T)
  | recvLock (patience : Patience)
  | recvEmpty (patience : Patience)
  | recvPark (patience : Patience)
  | recvWait (patience : Patience)
  | tryLock
  | recvNotify (call : Call T) (item : T)
  | closeStore
  | closeNotFull
  | closeNotEmpty
deriving DecidableEq, Repr

inductive Event (T : Type u) where
  | pushed (thread : ℕ) (item : T)
  | popped (thread : ℕ) (item : T)
  | evicted (item : T)
  | returned (thread : ℕ) (call : Call T) (result : Returned T)
deriving DecidableEq, Repr

/-- The fields that all clones of a channel share; a condition variable is the list of
the threads that wait on it. -/
structure ChannelInner (T : Type u) where
  buffer : List T
  not_full : List ℕ
  not_empty : List ℕ
  closed : Bool
  items_sent : ℕ
  items_received : ℕ
  items_dropped : ℕ
  send_blocks : ℕ
  receive_blocks : ℕ
  max_buffer_size : ℕ

/-- The channel with the owner of its mutex, its threads and what happened so far. -/
structure State (T : Type u) extends ChannelInner T where
  holder : Option ℕ
  pc : ℕ → Pc T
  history : List (Event T)

def BoundedChannel.new : State T where
  buffer := []
  not_full := []
  not_empty := []
  closed := false
  items_sent := 0
  items_received := 0
  items_dropped := 0
  send_blocks := 0
  receive_blocks := 0
  max_buffer_size := 0
  holder := none
  pc := fun _ => .idle
  history := []

section Sections

variable (ch : BoundedChannel) (s : State T) (t : ℕ)

def State.finish (call : Call T) (result : Returned T) : State T × Pc T :=
  ({ s with history := s.history ++ [.returned t call result] }, .idle)

def State.push (item : T) : State T :=
  { s with
    buffer := s.buffer ++ [item]
    items_sent := s.items_sent + 1
    history := s.history ++ [.pushed t item] }

def State.recordSize : State T :=
  { s with max_buffer_size := max s.max_buffer_size s.buffer.length }

/-- The push at the end of `send` and of `send_timeout`. -/
def State.accept (patience : Patience) (item : T) : State T × Pc T :=
  match patience with
  | .forever => ((s.push t item).recordSize, .sendNotify .forever item)
  | .timed => (s.push t item, .sendNotify .timed item)

def State.countDropped : State T :=
  { s with items_dropped := s.items_dropped + 1 }

/-- The front of the queue goes, and one dropped item is counted even if there is none. -/
def State.dropOldest : State T :=
  { s.countDropped with
    buffer := s.buffer.tail
    history := s.history ++ (s.buffer.head?.map .evicted).toList }

def State.waitForRoom (item : T) : State T × Pc T :=
  ({ s with send_blocks := s.send_blocks + 1 }, .sendFull .forever item)

/-- `send` and `send_timeout` from the lock to the first reading of the flag, or to the end. -/
def enterSend (patience : Patience) (item : T) : State T × Pc T :=
  if s.buffer.length < ch.capacity then s.accept t patience item
  else
    match patience with
    | .timed => (s, .sendFull .timed item)
    | .forever =>
        match ch.strategy with
        | .block => s.waitForRoom item
        | .dropOldest => s.dropOldest.accept t .forever item
        | .dropNewest => s.countDropped.finish t (.send item) (.sent false)
        | .buffer max_overflow =>
            if ch.capacity + max_overflow ≤ s.buffer.length then s.waitForRoom item
            else s.accept t .forever item

/-- The strategy that `send_timeout` applies when its time is up. -/
def timeUp (item : T) : State T × Pc T :=
  match ch.strategy with
  | .dropNewest => s.countDropped.finish t (.send_timeout item) (.sent false)
  | .dropOldest => s.dropOldest.accept t .timed item
  | _ => s.finish t (.send_timeout item) (.failed (.generationError "send timeout"))

/-- After a wait for room: `wait_while` looks at the length again. -/
def resumeSend (patience : Patience) (item : T) : State T × Pc T :=
  match patience with
  | .forever =>
      if s.buffer.length < ch.capacity + ch.strategy.overflow then (s, .sendReopen item)
      else (s, .sendFull .forever item)
  | .timed => enterSend ch s t .timed item

def State.pop (call : Call T) (item : T) (rest : List T) : State T × Pc T :=
  ({ s with
      buffer := rest
      items_received := s.items_received + 1
      history := s.history ++ [.popped t item] }, .recvNotify call item)

def enterRecv (patience : Patience) : State T × Pc T :=
  match s.buffer with
  | item :: rest => s.pop t (recvCall patience) item rest
  | [] => (s, .recvEmpty patience)

def tryRecv : State T × Pc T :=
  match s.buffer with
  | item :: rest => s.pop t .try_recv item rest
  | [] => s.finish t .try_recv (.received none)

/-- What a thread does with the mutex, up to its next reading of the flag. -/
def critical : Pc T → Option (State T × Pc T)
  | .sendLock patience item => some (enterSend ch s t patience item)
  | .sendFull .forever item =>
      some (s, if s.closed then .sendReopen item else .sendPark .forever item)
  | .sendFull .timed item =>
      some (if s.closed then s.finish t (.send_timeout item) (.failed .channelClosed)
        else (s, .sendPark .timed item))
  | .sendPark patience item =>
      some ({ s with not_full := s.not_full ++ [t] }, .sendWait patience item)
  | .sendWait patience item => some (resumeSend ch s t patience item)
  | .sendReopen item =>
      some (if s.closed then s.finish t (.send item) (.failed .channelClosed)
        else s.accept t .forever item)
  | .recvLock patience => some (enterRecv s t patience)
  | .recvEmpty patience =>
      some (if s.closed then s.finish t (recvCall patience) (.received none)
        else (s, .recvPark patience))
  | .recvPark .forever =>
      some ({ s with receive_blocks := s.receive_blocks + 1, not_empty := s.not_empty ++ [t] },
        .recvWait .forever)
  | .recvPark .timed => some ({ s with not_empty := s.not_empty ++ [t] }, .recvWait .timed)
  | .recvWait patience => some (enterRecv s t patience)
  | .tryLock => some (tryRecv s t)
  | _ => none

/-- The same where the deadline has passed: before a wait, or with the wait's result. -/
def criticalExpired : Pc T → Option (State T × Pc T)
  | .sendPark .timed item => some (timeUp ch s t item)
  | .sendWait .timed item =>
      some (if s.buffer.length < ch.capacity then s.accept t .timed item
        else timeUp ch s t item)
  | .recvPark .timed => some (s.finish t .recv_timeout (.received none))
  | .recvWait .timed =>
      some (match s.buffer with
        | item :: rest => s.pop t .recv_timeout item rest
        | [] => s.finish t .recv_timeout (.received none))
  | _ => none

end Sections

def Pc.holding : Pc T → Bool
  | .sendFull .. | .sendPark .. | .sendReopen .. | .recvEmpty .. | .recvPark .. => true
  | _ => false

inductive Action (T : Type u) where
  | call (thread : ℕ) (call : Call T)
  | advance (thread : ℕ)
  | expire (thread : ℕ)
  | notify_one (thread : ℕ) (index : ℕ)
  | wake (thread : ℕ)
deriving DecidableEq, Repr

def Call.start : Call T → Pc T
  | .send item => .sendOpen .forever item
  | .send_timeout item => .sendOpen .timed item
  | .recv => .recvLock .forever
  | .recv_timeout => .recvLock .timed
  | .try_recv => .tryLock
  | .close => .closeStore

section Steps

variable (ch : BoundedChannel) (s : State T) (t : ℕ)

/-- A thread that waits on no condition variable can take the mutex, or go on if it has it. -/
def State.enters : Bool :=
  if (s.pc t).holding then s.holder = some t
  else s.holder = none ∧ t ∉ s.not_full ∧ t ∉ s.not_empty

/-- The thread goes on where its last step left it. -/
def State.goto (next : State T × Pc T) : State T :=
  { next.1 with pc := Function.update next.1.pc t next.2 }

@[simp] theorem State.pc_goto_self (next : State T × Pc T) : (State.goto t next).pc t = next.2 := by
  simp only [State.goto, Function.update_self]

theorem State.pc_goto_of_ne {t u : ℕ} (hne : u ≠ t) (next : State T × Pc T) :
    (State.goto t next).pc u = next.1.pc u := by
  simp only [State.goto, Function.update_of_ne hne]

/-- The end of a critical section: a thread that is to read the flag keeps the mutex. -/
def State.settle (next : State T × Pc T) : State T :=
  { State.goto t next with holder := if next.2.holding then some t else none }

@[simp] theorem State.pc_settle (next : State T × Pc T) :
    (State.settle t next).pc = (State.goto t next).pc :=
  rfl

@[simp] theorem State.holder_settle (next : State T × Pc T) :
    (State.settle t next).holder = if next.2.holding then some t else none :=
  rfl

/-- What a thread does without the mutex. -/
def outside : Pc T → Option (State T × Pc T)
  | .sendOpen patience item =>
      some (if s.closed then s.finish t (sendCall patience item) (.failed .channelClosed)
        else (s, .sendLock patience item))
  | .closeStore => some ({ s with closed := true }, .closeNotFull)
  | .closeNotFull => some ({ s with not_full := [] }, .closeNotEmpty)
  | .closeNotEmpty => some ({ s with not_empty := [] }.finish t .close .closed)
  | _ => none

/-- The last step of `send` and `recv`, with the waiting thread that it wakes. -/
def notifyOne (index : ℕ) : Pc T → Option (State T × Pc T)
  | .sendNotify patience item =>
      if s.not_empty = [] ∨ index < s.not_empty.length then
        some ({ s with not_empty := s.not_empty.eraseIdx index }.finish t (sendCall patience item)
          (.sent true))
      else none
  | .recvNotify call item =>
      if s.not_full = [] ∨ index < s.not_full.length then
        some ({ s with not_full := s.not_full.eraseIdx index }.finish t call
          (.received (some item)))
      else none
  | _ => none

/-- One step of one thread; `wake` is a wake-up without notification, such as a time-out. -/
def step : Action T → Option (State T)
  | .call t call =>
      match s.pc t with
      | .idle => some (State.goto t (s, call.start))
      | _ => none
  | .advance t =>
      match outside s t (s.pc t) with
      | some next => some (State.goto t next)
      | none =>
          if s.enters t then (critical ch s t (s.pc t)).map (State.settle t) else none
  | .expire t =>
      if s.enters t then (criticalExpired ch s t (s.pc t)).map (State.settle t) else none
  | .notify_one t index => (notifyOne s t index (s.pc t)).map (State.goto t)
  | .wake t =>
      some { s with
        not_full := s.not_full.filter (· ≠ t)
        not_empty := s.not_empty.filter (· ≠ t) }

/-- The steps by what they do to the mutex. -/
inductive Move : Action T → State T → Prop where
  | call (t : ℕ) (call : Call T) (hpc : s.pc t = .idle) :
      Move (.call t call) (State.goto t (s, call.start))
  | outside (t : ℕ) (next : State T × Pc T) (hnext : outside s t (s.pc t) = some next) :
      Move (.advance t) (State.goto t next)
  | critical (t : ℕ) (next : State T × Pc T) (henters : s.enters t = true)
      (hnext : critical ch s t (s.pc t) = some next) : Move (.advance t) (State.settle t next)
  | expired (t : ℕ) (next : State T × Pc T) (henters : s.enters t = true)
      (hnext : criticalExpired ch s t (s.pc t) = some next) :
      Move (.expire t) (State.settle t next)
  | notify (t index : ℕ) (next : State T × Pc T)
      (hnext : notifyOne s t index (s.pc t) = some next) :
      Move (.notify_one t index) (State.goto t next)
  | wake (t : ℕ) :
      Move (.wake t) { s with
        not_full := s.not_full.filter (· ≠ t)
        not_empty := s.not_empty.filter (· ≠ t) }

end Steps

theorem move_of_step {ch : BoundedChannel} {s s' : State T} {a : Action T}
    (h : step ch s a = some s') : Move ch s a s' := by
  cases a with
  | call t call =>
      rw [step] at h
      split at h
      · rename_i hpc
        cases h
        exact .call t call hpc
      · cases h
  | advance t =>
      rw [step] at h
      split at h
      · rename_i next hnext
        cases h
        exact .outside t next hnext
      · split at h
        · rename_i henters
          obtain ⟨next, hnext, rfl⟩ := Option.map_eq_some_iff.mp h
          exact .critical t next henters hnext
        · cases h
  | expire t =>
      rw [step] at h
      split at h
      · rename_i henters
        obtain ⟨next, hnext, rfl⟩ := Option.map_eq_some_iff.mp h
        exact .expired t next henters hnext
      · cases h
  | notify_one t index =>
      obtain ⟨next, hnext, rfl⟩ := Option.map_eq_some_iff.mp h
      exact .notify t index next hnext
  | wake t =>
      cases h
      exact .wake t

section Mutex

variable {s : State T} {t : ℕ} {next : State T × Pc T}

/-- Whoever is at a place inside the mutex holds it. -/
def State.Exclusive (s : State T) : Prop :=
  ∀ t, (s.pc t).holding = true → s.holder = some t

theorem State.Exclusive.alone (h : s.Exclusive) (henters : s.enters t = true) {u : ℕ}
    (hne : u ≠ t) : (s.pc u).holding = false := by
  rw [Bool.eq_false_iff]
  intro hu
  rw [State.enters, h u hu] at henters
  split at henters
  · exact hne (Option.some.inj (of_decide_eq_true henters))
  · simp at henters

theorem State.Exclusive.goto (h : s.Exclusive) (hpc : next.1.pc = s.pc)
    (hholder : next.1.holder = s.holder) (hnext : next.2.holding = false) :
    (State.goto t next).Exclusive := by
  intro u hu
  rcases eq_or_ne u t with rfl | hne
  · rw [State.pc_goto_self, hnext] at hu
    cases hu
  · rw [State.pc_goto_of_ne hne, hpc] at hu
    exact hholder.trans (h u hu)

theorem State.Exclusive.settle (h : s.Exclusive) (henters : s.enters t = true)
    (hpc : next.1.pc = s.pc) : (State.settle t next).Exclusive := by
  intro u hu
  rcases eq_or_ne u t with rfl | hne
  · rw [State.pc_settle, State.pc_goto_self] at hu
    rw [State.holder_settle, if_pos hu]
  · rw [State.pc_settle, State.pc_goto_of_ne hne, hpc, h.alone henters hne] at hu
    cases hu

end Mutex

end Datasynth.Streaming.Channel
