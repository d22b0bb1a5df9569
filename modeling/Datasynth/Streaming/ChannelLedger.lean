import Datasynth.Streaming.Channel

/-!
A bounded channel as a queue with a ledger: the entries it admits, and what they keep.
-/

namespace Datasynth.Streaming.ChannelLedger

open Datasynth.Streaming.Channel

universe u

variable {T : Type u}

def pushedItems (history : List (Event T)) : List T :=
  history.filterMap fun
    | .pushed _ item => some item
    | _ => none

def poppedItems (history : List (Event T)) : List T :=
  history.filterMap fun
    | .popped _ item => some item
    | _ => none

def evictedItems (history : List (Event T)) : List T :=
  history.filterMap fun
    | .evicted item => some item
    | _ => none

/-- The items in the order in which they leave the queue. -/
def leavingItems (history : List (Event T)) : List T :=
  history.filterMap fun
    | .popped _ item => some item
    | .evicted item => some item
    | _ => none

/-- An item that a call of a thread has put into the queue or taken out of it. -/
inductive Transfer (T : Type u) where
  | sent (item : T)
  | received (item : T)

def begunTransfers (history : List (Event T)) : List (Transfer T) :=
  history.filterMap fun
    | .pushed _ item => some (.sent item)
    | .popped _ item => some (.received item)
    | _ => none

/-- The transfers that calls have returned: `Ok(true)` of a send, `Some` of a receive. -/
def endedTransfers (history : List (Event T)) : List (Transfer T) :=
  history.filterMap fun
    | .returned _ (.send item) (.sent true) => some (.sent item)
    | .returned _ (.send_timeout item) (.sent true) => some (.sent item)
    | .returned _ _ (.received (some item)) => some (.received item)
    | _ => none

def pendingTransfers : Pc T → List (Transfer T)
  | .sendNotify _ item => [.sent item]
  | .recvNotify _ item => [.received item]
  | _ => []

def byThread (t : ℕ) (history : List (Event T)) : List (Event T) :=
  history.filter fun
    | .pushed u _ => u = t
    | .popped u _ => u = t
    | .returned u _ _ => u = t
    | .evicted _ => false

/-- The channel as a queue: its items, its counters and what happened. -/
structure Ledger (T : Type u) where
  queue : List T
  sent : ℕ
  received : ℕ
  dropped : ℕ
  history : List (Event T)

def ledger (s : State T) : Ledger T :=
  ⟨s.buffer, s.items_sent, s.items_received, s.items_dropped, s.history⟩

/-- The entries that a ledger admits. -/
inductive Entry (ch : BoundedChannel) (closed : Bool) : Ledger T → Ledger T → Prop where
  | same (l : Ledger T) : Entry ch closed l l
  | returned {queue : List T} {sent received dropped : ℕ} {history : List (Event T)}
      (t : ℕ) (call : Call T) (result : Returned T)
      (hend : call = .recv → result = .received none → closed = true ∧ queue = []) :
      Entry ch closed ⟨queue, sent, received, dropped, history⟩
        ⟨queue, sent, received, dropped, history ++ [.returned t call result]⟩
  | refused {queue : List T} {sent received dropped : ℕ} {history : List (Event T)}
      (t : ℕ) (call : Call T) (hstrategy : ch.strategy = .dropNewest) (hcall : call ≠ .recv) :
      Entry ch closed ⟨queue, sent, received, dropped, history⟩
        ⟨queue, sent, received, dropped + 1, history ++ [.returned t call (.sent false)]⟩
  | pushed {queue : List T} {sent received dropped : ℕ} {history : List (Event T)}
      (t : ℕ) (item : T) (hroom : queue.length < ch.capacity + ch.strategy.overflow)
      (hopen : ch.strategy = .block → closed = false) :
      Entry ch closed ⟨queue, sent, received, dropped, history⟩
        ⟨queue ++ [item], sent + 1, received, dropped, history ++ [.pushed t item]⟩
  | replaced {oldest : T} {queue : List T} {sent received dropped : ℕ} {history : List (Event T)}
      (t : ℕ) (item : T) (hstrategy : ch.strategy = .dropOldest) :
      Entry ch closed ⟨oldest :: queue, sent, received, dropped, history⟩
        ⟨queue ++ [item], sent + 1, received, dropped + 1,
          history ++ [.evicted oldest] ++ [.pushed t item]⟩
  | popped {item : T} {queue : List T} {sent received dropped : ℕ} {history : List (Event T)}
      (t : ℕ) :
      Entry ch closed ⟨item :: queue, sent, received, dropped, history⟩
        ⟨queue, sent, received + 1, dropped, history ++ [.popped t item]⟩

/-- What was dropped after it had been in the queue: `dropNewest` counts other items. -/
def droppedFromQueue (ch : BoundedChannel) (dropped : ℕ) : ℕ :=
  if ch.strategy = .dropNewest then 0 else dropped

structure Balanced (ch : BoundedChannel) (l : Ledger T) : Prop where
  bounded : l.queue.length ≤ ch.capacity + ch.strategy.overflow
  ordered : pushedItems l.history = leavingItems l.history ++ l.queue
  sent : l.sent = (pushedItems l.history).length
  received : l.received = (poppedItems l.history).length
  dropped : droppedFromQueue ch l.dropped = (evictedItems l.history).length
  evicted : ch.strategy ≠ .dropOldest → evictedItems l.history = []

theorem length_leavingItems (history : List (Event T)) :
    (leavingItems history).length =
      (poppedItems history).length + (evictedItems history).length := by
  induction history with
  | nil => rfl
  | cons e history ih =>
      simp only [leavingItems, poppedItems, evictedItems] at ih ⊢
      cases e with
      | pushed t item => simpa using ih
      | returned t call result => simpa using ih
      | popped t item => simp [ih]; omega
      | evicted item => simp [ih]; omega

section Entries

variable {ch : BoundedChannel} {closed : Bool} {l l' : Ledger T}

/-- What an entry adds to the history, and how the items in it move. -/
theorem Entry.items (h : Entry ch closed l l') : ∃ added,
    l'.history = l.history ++ added ∧
      l.queue ++ pushedItems added = leavingItems added ++ l'.queue ∧
      l'.sent = l.sent + (pushedItems added).length ∧
      l'.received = l.received + (poppedItems added).length := by
  cases h with
  | same => exact ⟨[], by simp [pushedItems, leavingItems, poppedItems]⟩
  | returned t call result => exact ⟨_, rfl, by simp [pushedItems, leavingItems], rfl, rfl⟩
  | refused t call => exact ⟨_, rfl, by simp [pushedItems, leavingItems], rfl, rfl⟩
  | pushed t item => exact ⟨_, rfl, by simp [pushedItems, leavingItems], rfl, rfl⟩
  | replaced t item =>
      exact ⟨_, List.append_assoc _ _ _, by simp [pushedItems, leavingItems], rfl, rfl⟩
  | popped t => exact ⟨_, rfl, by simp [pushedItems, leavingItems], rfl, rfl⟩

theorem Balanced.entry (h : Balanced ch l) (hentry : Entry ch closed l l') : Balanced ch l' := by
  obtain ⟨added, hhistory, hitems, hsent, hreceived⟩ := hentry.items
  have hordered : pushedItems l'.history = leavingItems l'.history ++ l'.queue := by
    have hold := h.ordered
    rw [hhistory]
    simp only [pushedItems, leavingItems, List.filterMap_append] at hold hitems ⊢
    rw [hold, List.append_assoc, hitems, List.append_assoc]
  refine ⟨?_, hordered, ?_, ?_, ?_, ?_⟩
  · have hbounded := h.bounded
    cases hentry with
    | same => exact hbounded
    | returned => exact hbounded
    | refused => exact hbounded
    | pushed t item hroom =>
        rw [List.length_append]
        exact hroom
    | replaced t item => simpa using hbounded
    | popped t => exact Nat.le_of_succ_le hbounded
  · rw [hsent, h.sent, hhistory]
    simp [pushedItems]
  · rw [hreceived, h.received, hhistory]
    simp [poppedItems]
  · have hdropped := h.dropped
    cases hentry with
    | same => exact hdropped
    | returned => simpa [evictedItems] using hdropped
    | refused t call hstrategy => simpa [evictedItems, droppedFromQueue, hstrategy] using hdropped
    | pushed => simpa [evictedItems] using hdropped
    | replaced t item hstrategy =>
        simpa [evictedItems, droppedFromQueue, hstrategy] using hdropped
    | popped => simpa [evictedItems] using hdropped
  · intro hstrategy
    have hevicted := h.evicted hstrategy
    cases hentry with
    | replaced t item hoverwrites => exact absurd hoverwrites hstrategy
    | same => exact hevicted
    | returned => simpa [evictedItems] using hevicted
    | refused => simpa [evictedItems] using hevicted
    | pushed => simpa [evictedItems] using hevicted
    | popped => simpa [evictedItems] using hevicted

/-- Whatever a receiver found the queue closed and empty, all items were handed over before. -/
structure Drained (closed : Bool) (l : Ledger T) : Prop where
  shut : ∀ t, .returned t .recv (.received none) ∈ l.history → closed = true ∧ l.queue = []
  before : ∀ pre t post, l.history = pre ++ .returned t .recv (.received none) :: post →
    pushedItems l.history = poppedItems pre

theorem leavingItems_of_evictedItems_eq_nil {history : List (Event T)}
    (h : evictedItems history = []) : leavingItems history = poppedItems history := by
  rw [evictedItems, List.filterMap_eq_nil_iff] at h
  apply List.filterMap_congr
  intro e he
  cases e with
  | evicted item => cases h _ he
  | pushed => rfl
  | popped => rfl
  | returned => rfl

theorem split_of_snoc_eq {α : Type*} {l pre post : List α} {a b : α}
    (h : l ++ [b] = pre ++ a :: post) :
    l = pre ∧ b = a ∨ ∃ post', post = post' ++ [b] ∧ l = pre ++ a :: post' := by
  rcases List.eq_nil_or_concat post with rfl | ⟨post', last, rfl⟩
  · obtain ⟨hpre, hlast⟩ := List.append_inj' h rfl
    cases hlast
    exact .inl ⟨hpre, rfl⟩
  · rw [List.concat_eq_append, ← List.cons_append, ← List.append_assoc] at h
    obtain ⟨hpre, hlast⟩ := List.append_inj' h rfl
    cases hlast
    exact .inr ⟨post', List.concat_eq_append, hpre⟩

theorem drained_of_forall_notMem
    (h : ∀ t, Event.returned t .recv (.received none) ∉ l.history) : Drained closed l := by
  refine ⟨fun t ht => absurd ht (h t), ?_⟩
  intro pre t post heq
  apply absurd _ (h t)
  rw [heq]
  exact List.mem_append_right _ List.mem_cons_self

/-- Under `block` nothing is evicted, and nothing comes in once the queue is drained. -/
theorem Drained.entry (hblock : ch.strategy = .block) (h : Drained closed l)
    (hbalanced : Balanced ch l) (hentry : Entry ch closed l l') : Drained closed l' := by
  have hleaving : pushedItems l.history = poppedItems l.history ++ l.queue := by
    rw [hbalanced.ordered,
      leavingItems_of_evictedItems_eq_nil (hbalanced.evicted (by simp [hblock]))]
  cases hentry with
  | same => exact h
  | refused t call hstrategy => simp [hblock] at hstrategy
  | replaced t item hstrategy => simp [hblock] at hstrategy
  | pushed t item hroom hopen =>
      apply drained_of_forall_notMem
      intro t' ht'
      rcases List.mem_append.mp ht' with hold | hnew
      · have hclosed := (h.shut t' hold).1
        rw [hopen hblock] at hclosed
        cases hclosed
      · simp at hnew
  | popped t =>
      apply drained_of_forall_notMem
      intro t' ht'
      rcases List.mem_append.mp ht' with hold | hnew
      · cases (h.shut t' hold).2
      · simp at hnew
  | returned t call result hend =>
      constructor
      · intro t' ht'
        rcases List.mem_append.mp ht' with hold | hnew
        · exact h.shut t' hold
        · cases List.mem_singleton.mp hnew
          exact hend rfl rfl
      · intro pre t' post heq
        simp only [pushedItems, List.filterMap_append] at hleaving h ⊢
        rcases split_of_snoc_eq heq with ⟨rfl, hlast⟩ | ⟨post', rfl, hold⟩
        · cases hlast
          simpa [(hend rfl rfl).2] using hleaving
        · simpa [pushedItems] using h.before pre t' post' hold

theorem Drained.close (h : Drained closed l) : Drained true l :=
  ⟨fun t ht => ⟨rfl, (h.shut t ht).2⟩, h.before⟩

end Entries

end Datasynth.Streaming.ChannelLedger
