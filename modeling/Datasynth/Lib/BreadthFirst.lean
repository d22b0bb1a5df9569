import Mathlib.Algebra.Order.Group.Nat
import Mathlib.Data.List.Dedup
import Mathlib.Data.List.Perm.Subperm
import Mathlib.Logic.Relation
import Mathlib.Order.Lattice

/-!
Breadth-first search with a limit on what is found, and the components that a run of searches
finds: all of them, whole, when none is larger than the limit, and a fragment of each that is.
-/

namespace Datasynth.Lib.BreadthFirst

universe u

variable {α : Type u}

/-- A path of steps leads from one node to the other. -/
def Reaches (next : α → List α) : α → α → Prop := Relation.ReflTransGen fun a b => b ∈ next a

/-- The nodes that some node reaches, each once. -/
def Whole (next : α → List α) (component : List α) : Prop :=
  component.Nodup ∧ ∃ start, ∀ a, a ∈ component ↔ Reaches next start a

variable [DecidableEq α]

/-- Mark the nodes that are not marked, and put them at the end of the queue. -/
def enqueue (nodes visited queue : List α) : List α × List α :=
  nodes.foldl (fun s node => if node ∈ s.1 then s else (s.1 ++ [node], s.2 ++ [node]))
    (visited, queue)

variable (next : α → List α) (limit : ℕ)

/-- What is found from the nodes of the queue on, and what is marked in the end. -/
def search : ℕ → List α → List α → List α → List α × List α
  | 0, visited, _, found => (found, visited)
  | _ + 1, visited, [], found => (found, visited)
  | fuel + 1, visited, node :: queue, found =>
      let marked := enqueue (next node) visited queue
      if limit ≤ (found ++ [node]).length then (found ++ [node], marked.1)
      else search fuel marked.1 marked.2 (found ++ [node])

/-- What is found from each start that is not marked. -/
def components (fuel : ℕ) : List α → List α → List (List α)
  | [], _ => []
  | start :: starts, visited =>
      if start ∈ visited then components fuel starts visited
      else
        let found := search next limit fuel (visited ++ [start]) [start] []
        found.1 :: components fuel starts found.2

theorem exists_enqueue_eq (nodes visited queue : List α) :
    ∃ fresh, enqueue nodes visited queue = (visited ++ fresh, queue ++ fresh) ∧ fresh.Nodup ∧
      (∀ a ∈ fresh, a ∈ nodes ∧ a ∉ visited) ∧ ∀ a ∈ nodes, a ∈ visited ++ fresh := by
  induction nodes generalizing visited queue with
  | nil => exact ⟨[], by simp [enqueue], List.nodup_nil, by simp, by simp⟩
  | cons node nodes ih =>
      by_cases hmem : node ∈ visited
      · obtain ⟨fresh, heq, hnodup, hfresh, hall⟩ := ih visited queue
        refine ⟨fresh, ?_, hnodup, ?_, ?_⟩
        · rw [← heq, enqueue, List.foldl_cons, if_pos hmem]
          rfl
        · exact fun a ha => ⟨List.mem_cons_of_mem node (hfresh a ha).1, (hfresh a ha).2⟩
        · exact List.forall_mem_cons.mpr ⟨List.mem_append_left fresh hmem, hall⟩
      · obtain ⟨fresh, heq, hnodup, hfresh, hall⟩ := ih (visited ++ [node]) (queue ++ [node])
        refine ⟨node :: fresh, ?_, ?_, ?_, ?_⟩
        · rw [List.append_cons, List.append_cons queue, ← heq, enqueue, List.foldl_cons,
            if_neg hmem]
          rfl
        · refine List.nodup_cons.mpr ⟨fun hnode => ?_, hnodup⟩
          exact (hfresh node hnode).2 (List.mem_append_right visited (List.mem_singleton_self node))
        · refine List.forall_mem_cons.mpr ⟨⟨List.mem_cons_self, hmem⟩, fun a ha => ?_⟩
          obtain ⟨hnodes, hvisited⟩ := hfresh a ha
          exact ⟨List.mem_cons_of_mem node hnodes,
            fun h => hvisited (List.mem_append_left [node] h)⟩
        · rw [List.append_cons]
          refine List.forall_mem_cons.mpr ⟨?_, hall⟩
          exact List.mem_append_left fresh
            (List.mem_append_right visited (List.mem_singleton_self node))

section Search

variable {next limit} {start : α} {before : List α}

/-- What holds while a search runs: nothing is found twice, and what is next to a node that was
found is marked. -/
structure Searching (next : α → List α) (start : α) (before visited queue found : List α) :
    Prop where
  nodup : (found ++ queue).Nodup
  reached : ∀ a ∈ found ++ queue, Reaches next start a
  mem_visited : ∀ a, a ∈ visited ↔ a ∈ before ∨ a ∈ found ++ queue
  closed : ∀ a ∈ found, ∀ b ∈ next a, b ∈ visited
  head : (found ++ queue).head? = some start

omit [DecidableEq α] in
theorem searching_start (next : α → List α) (start : α) (before : List α) :
    Searching next start before (before ++ [start]) [start] [] where
  nodup := List.nodup_singleton start
  reached a ha := by
    rw [List.mem_singleton.mp ha]
    exact .refl
  mem_visited _ := List.mem_append
  closed := List.forall_mem_nil _
  head := rfl

/-- One node moves from the queue to what is found. -/
theorem Searching.step {visited queue found : List α} {node : α}
    (h : Searching next start before visited (node :: queue) found) :
    Searching next start before (enqueue (next node) visited queue).1
      (enqueue (next node) visited queue).2 (found ++ [node]) := by
  obtain ⟨fresh, heq, hnodup, hfresh, hall⟩ := exists_enqueue_eq (next node) visited queue
  have hold : found ++ [node] ++ (queue ++ fresh) = found ++ node :: queue ++ fresh := by simp
  rw [heq]
  dsimp only
  have hnode : node ∈ found ++ node :: queue := by simp
  constructor
  · rw [hold]
    refine List.nodup_append.mpr ⟨h.nodup, hnodup, ?_⟩
    rintro a ha b hb rfl
    exact (hfresh a hb).2 ((h.mem_visited a).mpr (.inr ha))
  · rw [hold, List.forall_mem_append]
    exact ⟨h.reached, fun a ha => (h.reached node hnode).tail (hfresh a ha).1⟩
  · intro a
    rw [hold, List.mem_append, h.mem_visited, List.mem_append (s := found ++ node :: queue),
      or_assoc]
  · rw [List.forall_mem_append, List.forall_mem_singleton]
    exact ⟨fun a ha b hb => List.mem_append_left fresh (h.closed a ha b hb), hall⟩
  · rw [hold, List.head?_append, h.head]
    rfl

/-- What a search finds and marks. -/
structure Found (next : α → List α) (limit : ℕ) (start : α) (before component visited : List α) :
    Prop where
  nodup : component.Nodup
  reached : ∀ a ∈ component, Reaches next start a
  start_mem : start ∈ component
  marked : ∀ a ∈ visited, a ∈ before ∨ Reaches next start a
  kept : ∀ a, a ∈ before ∨ a ∈ component → a ∈ visited
  length_le : component.length ≤ max limit 1
  complete : limit ≤ component.length ∨
    ((∀ a, Reaches next start a → a ∉ before) → ∀ a, Reaches next start a → a ∈ component)

omit [DecidableEq α] in
theorem Searching.found {visited found : List α}
    (h : Searching next start before visited [] found) (hlength : found.length ≤ max limit 1) :
    Found next limit start before found visited := by
  obtain ⟨hnodup, hreached, hvisited, hclosed, hhead⟩ := h
  simp only [List.append_nil] at hnodup hreached hvisited hhead
  have hstart : start ∈ found := List.mem_of_head? hhead
  refine ⟨hnodup, hreached, hstart, ?_, fun a => (hvisited a).mpr, hlength, .inr ?_⟩
  · exact fun a ha => ((hvisited a).mp ha).imp_right (hreached a)
  · intro hfresh a ha
    induction ha with
    | refl => exact hstart
    | tail hpath hstep ih =>
        have hmarked := (hvisited _).mp (hclosed _ ih _ hstep)
        exact hmarked.resolve_left (hfresh _ (hpath.tail hstep))

/-- The fuel is enough for the nodes that are not found yet. -/
theorem found_search {nodes : List α} (hnodes : ∀ a, Reaches next start a → a ∈ nodes)
    (fuel : ℕ) :
    ∀ visited queue found, Searching next start before visited queue found →
      nodes.length ≤ fuel + found.length → (found = [] ∨ found.length < limit) →
        Found next limit start before (search next limit fuel visited queue found).1
          (search next limit fuel visited queue found).2 := by
  have hcount : ∀ {visited queue found}, Searching next start before visited queue found →
      found.length + queue.length ≤ nodes.length := by
    intro visited queue found h
    rw [← List.length_append]
    exact (List.subperm_of_subset h.nodup fun a ha => hnodes a (h.reached a ha)).length_le
  have hlength : ∀ {found : List α}, found = [] ∨ found.length < limit →
      found.length < max limit 1 := by
    rintro found (rfl | hlt)
    · exact lt_max_of_lt_right one_pos
    · exact lt_max_of_lt_left hlt
  induction fuel with
  | zero =>
      intro visited queue found h hfuel hshort
      have hqueue : queue = [] := by
        rw [← List.length_eq_zero_iff]
        have := hcount h
        omega
      subst hqueue
      exact h.found (hlength hshort).le
  | succ fuel ih =>
      intro visited queue found h hfuel hshort
      cases queue with
      | nil => exact h.found (hlength hshort).le
      | cons node queue =>
          have hstep := h.step
          have hfound : (found ++ [node]).length = found.length + 1 := List.length_append
          rw [search]
          split
          · rename_i hlimit
            have hstart : start ∈ found ++ [node] := by
              have hhead := h.head
              rw [List.append_cons, List.head?_append_of_ne_nil _ (by simp)] at hhead
              exact List.mem_of_head? hhead
            refine ⟨(List.nodup_append.mp hstep.nodup).1, ?_, hstart, ?_, ?_, ?_, .inl hlimit⟩
            · exact fun a ha => hstep.reached a (List.mem_append_left _ ha)
            · exact fun a ha => ((hstep.mem_visited a).mp ha).imp_right (hstep.reached a)
            · exact fun a ha => (hstep.mem_visited a).mpr (ha.imp_right (List.mem_append_left _))
            · rw [hfound]
              exact hlength hshort
          · rename_i hlimit
            exact ih _ _ _ hstep (by omega) (.inr (not_le.mp hlimit))

variable (limit) in
theorem found_search_start {nodes : List α} (hnodes : ∀ a, Reaches next start a → a ∈ nodes)
    (before : List α) :
    Found next limit start before
      (search next limit nodes.length (before ++ [start]) [start] []).1
      (search next limit nodes.length (before ++ [start]) [start] []).2 :=
  found_search hnodes _ _ _ _ (searching_start next start before) le_rfl (.inl rfl)

end Search

section Components

variable {next limit} {nodes : List α} {start : α} {before : List α}

omit [DecidableEq α] in
theorem reaches_symm (hsymm : ∀ a, ∀ b ∈ next a, a ∈ next b) {a b : α}
    (h : Reaches next a b) : Reaches next b a := by
  induction h with
  | refl => exact .refl
  | tail _ hstep ih => exact .head (hsymm _ _ hstep) ih

omit [DecidableEq α] in
theorem mem_of_reaches (hnodes : ∀ a ∈ nodes, ∀ b ∈ next a, b ∈ nodes) {a b : α} (ha : a ∈ nodes)
    (h : Reaches next a b) : b ∈ nodes := by
  induction h with
  | refl => exact ha
  | tail _ hstep ih => exact hnodes _ ih _ hstep

theorem exists_nodup_reaches (hnodes : ∀ a ∈ nodes, ∀ b ∈ next a, b ∈ nodes)
    (hstart : start ∈ nodes) :
    ∃ component : List α, component.Nodup ∧ ∀ a, a ∈ component ↔ Reaches next start a := by
  classical
  refine ⟨nodes.dedup.filter fun a => Reaches next start a, (List.nodup_dedup nodes).filter _, ?_⟩
  intro a
  rw [List.mem_filter, List.mem_dedup, decide_eq_true_iff]
  exact and_iff_right_of_imp (mem_of_reaches hnodes hstart)

theorem Found.mem_component_iff {component visited : List α}
    (h : Found next limit start before component visited)
    (hnodes : ∀ a ∈ nodes, ∀ b ∈ next a, b ∈ nodes) (hstart : start ∈ nodes)
    (hfresh : ∀ a, Reaches next start a → a ∉ before)
    (hbound : ∀ l, Whole next l → start ∈ l → l.length ≤ limit) (a : α) :
    a ∈ component ↔ Reaches next start a := by
  rcases h.complete with hlimit | hcomplete
  · obtain ⟨whole, hnodup, hwhole⟩ := exists_nodup_reaches hnodes hstart
    have hle := hbound whole ⟨hnodup, start, hwhole⟩ ((hwhole start).mpr .refl)
    have hsub : component.Subperm whole :=
      List.subperm_of_subset h.nodup fun b hb => (hwhole b).mpr (h.reached b hb)
    rw [(hsub.perm_of_length_le (hle.trans hlimit)).mem_iff, hwhole]
  · exact ⟨h.reached a, hcomplete hfresh a⟩

theorem ne_nil_of_mem_components (hnodes : ∀ a ∈ nodes, ∀ b ∈ next a, b ∈ nodes)
    {starts : List α} (hstarts : ∀ start ∈ starts, start ∈ nodes) {component : List α} :
    ∀ visited, component ∈ components next limit nodes.length starts visited → component ≠ [] := by
  induction starts with
  | nil =>
      intro _ h
      cases h
  | cons start starts ih =>
      intro visited h
      rw [List.forall_mem_cons] at hstarts
      rw [components] at h
      split at h
      · exact ih hstarts.2 visited h
      · rcases List.mem_cons.mp h with rfl | h
        · exact List.ne_nil_of_mem (found_search_start limit
            (fun a ha => mem_of_reaches hnodes hstarts.1 ha) visited).start_mem
        · exact ih hstarts.2 _ h

/-- The components of the starts that are not marked, each once. -/
structure Covered (next : α → List α) (starts visited : List α) (found : List (List α)) :
    Prop where
  whole : ∀ component ∈ found, Whole next component
  start : ∀ component ∈ found, ∃ start ∈ starts, start ∈ component
  fresh : ∀ component ∈ found, ∀ a ∈ component, a ∉ visited
  disjoint : found.Pairwise List.Disjoint
  covers : ∀ start ∈ starts, start ∈ visited ∨ ∃ component ∈ found, start ∈ component

variable (limit) in
theorem covered_components (hsymm : ∀ a, ∀ b ∈ next a, a ∈ next b)
    (hnodes : ∀ a ∈ nodes, ∀ b ∈ next a, b ∈ nodes)
    (hbound : ∀ l, Whole next l → ∀ a ∈ l, a ∈ nodes → l.length ≤ limit) {starts : List α}
    (hstarts : ∀ start ∈ starts, start ∈ nodes) :
    ∀ visited, (∀ a ∈ visited, ∀ b, Reaches next a b → b ∈ visited) →
      Covered next starts visited (components next limit nodes.length starts visited) := by
  induction starts with
  | nil =>
      intro visited _
      exact ⟨List.forall_mem_nil _, List.forall_mem_nil _, List.forall_mem_nil _, .nil,
        List.forall_mem_nil _⟩
  | cons start starts ih =>
      intro visited hclosed
      rw [List.forall_mem_cons] at hstarts
      rw [components]
      split
      · rename_i hmem
        obtain ⟨hwhole, hstart, hfresh, hdisjoint, hcovers⟩ := ih hstarts.2 visited hclosed
        refine ⟨hwhole, fun c hc => ?_, hfresh, hdisjoint,
          List.forall_mem_cons.mpr ⟨.inl hmem, hcovers⟩⟩
        obtain ⟨s, hs, hsc⟩ := hstart c hc
        exact ⟨s, List.mem_cons_of_mem start hs, hsc⟩
      · rename_i hmem
        -- nothing of the component of the start is marked
        have hfresh : ∀ a, Reaches next start a → a ∉ visited :=
          fun a ha hvisited => hmem (hclosed a hvisited start (reaches_symm hsymm ha))
        have hfound := found_search_start limit
          (fun a ha => mem_of_reaches hnodes hstarts.1 ha) visited
        have hmem_iff := hfound.mem_component_iff hnodes hstarts.1 hfresh
          fun l hl hmeml => hbound l hl start hmeml hstarts.1
        have hvisited : ∀ a, a ∈ (search next limit nodes.length (visited ++ [start]) [start]
            []).2 ↔ a ∈ visited ∨ Reaches next start a := by
          intro a
          rw [← hmem_iff]
          exact ⟨fun ha => (hfound.marked a ha).imp_right (hmem_iff a).mpr, hfound.kept a⟩
        obtain ⟨hwhole, hstart, hfresh', hdisjoint, hcovers⟩ := ih hstarts.2 _ (by
          intro a ha b hab
          rw [hvisited] at ha ⊢
          exact ha.imp (fun ha => hclosed a ha b hab) fun ha => ha.trans hab)
        refine ⟨?_, ?_, ?_, ?_, ?_⟩
        · exact List.forall_mem_cons.mpr ⟨⟨hfound.nodup, start, hmem_iff⟩, hwhole⟩
        · refine List.forall_mem_cons.mpr
            ⟨⟨start, List.mem_cons_self, hfound.start_mem⟩, fun c hc => ?_⟩
          obtain ⟨s, hs, hsc⟩ := hstart c hc
          exact ⟨s, List.mem_cons_of_mem start hs, hsc⟩
        · refine List.forall_mem_cons.mpr ⟨fun a ha => hfresh a (hfound.reached a ha), ?_⟩
          exact fun c hc a ha hmarked => hfresh' c hc a ha ((hvisited a).mpr (.inl hmarked))
        · refine List.pairwise_cons.mpr ⟨fun c hc a ha hac => ?_, hdisjoint⟩
          exact hfresh' c hc a hac (hfound.kept a (.inr ha))
        · refine List.forall_mem_cons.mpr
            ⟨.inr ⟨_, List.mem_cons_self, hfound.start_mem⟩, fun s hs => ?_⟩
          rcases hcovers s hs with hmarked | ⟨c, hc, hsc⟩
          · refine ((hvisited s).mp hmarked).imp_right fun hreaches => ?_
            exact ⟨_, List.mem_cons_self, (hmem_iff s).mpr hreaches⟩
          · exact .inr ⟨c, List.mem_cons_of_mem _ hc, hsc⟩

/-- A component that is larger than the limit is cut off there, whatever is cut off before. -/
theorem exists_fragment (hsymm : ∀ a, ∀ b ∈ next a, a ∈ next b)
    (hnodes : ∀ a ∈ nodes, ∀ b ∈ next a, b ∈ nodes) (hlimit : 0 < limit) {large : List α}
    (hlarge : Whole next large) (hlt : limit < large.length) {starts : List α}
    (hstarts : ∀ start ∈ starts, start ∈ nodes) (hmem : ∃ start ∈ starts, start ∈ large) :
    ∀ visited, (∀ a ∈ large, a ∉ visited) →
      ∃ component ∈ components next limit nodes.length starts visited,
        component.length = limit ∧ ∃ start ∈ large, start ∈ component := by
  induction starts with
  | nil =>
      obtain ⟨start, hstart, -⟩ := hmem
      cases hstart
  | cons start starts ih =>
      intro visited hfree
      rw [List.forall_mem_cons] at hstarts
      obtain ⟨hnodup, center, hcenter⟩ := hlarge
      rw [components]
      split
      · rename_i hvisited
        refine ih hstarts.2 ?_ visited hfree
        obtain ⟨s, hs, hsl⟩ := hmem
        rcases List.mem_cons.mp hs with rfl | hs
        · exact absurd hvisited (hfree s hsl)
        · exact ⟨s, hs, hsl⟩
      · have hfound := found_search_start limit
          (fun a ha => mem_of_reaches hnodes hstarts.1 ha) visited
        by_cases hstart : start ∈ large
        · refine ⟨_, List.mem_cons_self, ?_, start, hstart, hfound.start_mem⟩
          have hreaches : ∀ a, Reaches next start a ↔ a ∈ large := by
            intro a
            rw [hcenter]
            have hcs := (hcenter start).mp hstart
            exact ⟨hcs.trans, (reaches_symm hsymm hcs).trans⟩
          have hle := hfound.length_le
          rw [max_eq_left hlimit] at hle
          refine le_antisymm hle (hfound.complete.resolve_right fun hcomplete => ?_)
          have hall := hcomplete fun a ha => hfree a ((hreaches a).mp ha)
          have hsub : large.Subperm (search next limit nodes.length (visited ++ [start]) [start]
              []).1 :=
            List.subperm_of_subset hnodup fun a ha => hall a ((hreaches a).mpr ha)
          exact absurd (hsub.length_le.trans hle) hlt.not_ge
        · obtain ⟨c, hc, hspec⟩ := ih hstarts.2 (by
            obtain ⟨s, hs, hsl⟩ := hmem
            rcases List.mem_cons.mp hs with rfl | hs
            · exact absurd hsl hstart
            · exact ⟨s, hs, hsl⟩) (search next limit nodes.length (visited ++ [start]) [start]
              []).2 (by
            intro a ha hmarked
            rcases hfound.marked a hmarked with hvisited | hreaches
            · exact hfree a ha hvisited
            · exact hstart ((hcenter start).mpr
                (((hcenter a).mp ha).trans (reaches_symm hsymm hreaches))))
          exact ⟨c, List.mem_cons_of_mem _ hc, hspec⟩

end Components

end Datasynth.Lib.BreadthFirst
