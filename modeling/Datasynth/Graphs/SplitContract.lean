import Mathlib.Tactic.Tauto
import Datasynth.Graphs.DataSplits

/-!
What a split of a graph is to be, and when the strategies that shuffle are determined by
the graph, the seed and the ratios.
-/

namespace Datasynth.Graphs.SplitContract

open Datasynth.Graphs.DataSplits
open Datasynth.Graphs.Models
open Datasynth.Graphs.SplitParts
open Datasynth.Lib.HashIteration
open Datasynth.Lib.SeededShuffle
open Datasynth.Lib.SortedEntries

section Contract

variable {F : Type}

def nodeParts (s : DataSplit) : List NodeId × List NodeId × List NodeId :=
  (s.train_nodes, s.val_nodes, s.test_nodes)

def edgeParts (s : DataSplit) : List EdgeId × List EdgeId × List EdgeId :=
  (s.train_edges, s.val_edges, s.test_edges)

def SameParts (s s' : DataSplit) : Prop :=
  SameTriple (nodeParts s) (nodeParts s') ∧ SameTriple (edgeParts s) (edgeParts s')

/-- Each node and each edge of the graph is in exactly one part. -/
structure Partitions (g : Graph F) (s : DataSplit) : Prop where
  nodes : (s.train_nodes ++ s.val_nodes ++ s.test_nodes).Perm g.nodes.keys
  edges : (s.train_edges ++ s.val_edges ++ s.test_edges).Perm g.edges.keys

/-- No dated edge is in an earlier part than one dated before it. -/
def DatedInOrder (g : Graph F) (s : DataSplit) : Prop :=
  ∀ id id' edge edge' date date', g.edges.find? id = some edge → g.edges.find? id' = some edge' →
    edge.timestamp = some date → edge'.timestamp = some date' → date < date' →
      (id' ∈ s.train_edges → id ∈ s.train_edges) ∧ (id' ∈ s.val_edges → id ∉ s.test_edges)

/-- The validation parts of the folds partition the nodes and the edges. -/
def FoldsPartition (order : HashOrder) (g : Graph F) (config : SplitConfig) (k : ℕ) : Prop :=
  ∃ folds : ℕ → DataSplit,
    (∀ fold < k, split order g { config with strategy := .kFold k fold } = some (folds fold)) ∧
      ((List.range k).flatMap fun fold => (folds fold).val_nodes).Perm g.nodes.keys ∧
      ((List.range k).flatMap fun fold => (folds fold).val_edges).Perm g.edges.keys

/-- What the parts of a strategy are to be. -/
def Promised (order : HashOrder) (g : Graph F) (config : SplitConfig) (s : DataSplit) : Prop :=
  match config.strategy with
  | .random => Partitions g s
  | .temporal _ _ => Partitions g s ∧ DatedInOrder g s
  | .stratified => Partitions g s
  | .kFold k _ => FoldsPartition order g config k
  | .transductive => True

/-- In every order of the hash maps there is a split with the promised parts, and it is
the same one. -/
structure MeetsContract (g : Graph F) (config : SplitConfig) : Prop where
  parts : ∀ order, ∃ s, split order g config = some s ∧ Promised order g config s
  same : ∀ order order' s s', split order g config = some s → split order' g config = some s' →
    SameParts s s'

/-- The fold is one of the folds. -/
def ValidFold (config : SplitConfig) : Prop :=
  match config.strategy with
  | .kFold k fold => fold < k
  | _ => True

/-- How many nodes or edges are chosen. -/
def countWhere {V : Type} (m : OrderedMap ℕ V) (p : V → Bool) : ℕ := (m.values.filter p).length

/-- The shuffled parts have everything or nothing, and in a temporal split every node is
an end of an edge. -/
def Determined (g : Graph F) (config : SplitConfig) : Prop :=
  match config.strategy with
  | .random =>
      Unmixed config g.nodes.values.length ∧ Unmixed config g.edges.values.length
  | .temporal _ _ =>
      ∀ id ∈ g.nodes.keys, ∃ edge ∈ g.edges.values, id = edge.source ∨ id = edge.target
  | .stratified =>
      (Unmixed config (countWhere g.nodes fun node => !node.is_anomaly) ∧
        Unmixed config (countWhere g.nodes (·.is_anomaly))) ∧
      (Unmixed config (countWhere g.edges fun edge => !edge.is_anomaly) ∧
        Unmixed config (countWhere g.edges (·.is_anomaly)))
  | .kFold k _ => k = 1 ∨ (g.nodes.values.length < k ∧ g.edges.values.length < k)
  | .transductive => Unmixed config g.edges.values.length

variable {g : Graph F} {config : SplitConfig}

theorem meetsContract_iff_of_parts {S : HashOrder → DataSplit}
    (hsplit : ∀ order, split order g config = some (S order)) :
    MeetsContract g config ↔
      (∀ order, Promised order g config (S order)) ∧
        ∀ order order', SameParts (S order) (S order') := by
  constructor
  · intro h
    refine ⟨fun order => ?_, fun order order' => h.same order order' _ _ (hsplit _) (hsplit _)⟩
    obtain ⟨s, hs, hpromised⟩ := h.parts order
    rw [hsplit] at hs
    exact Option.some.inj hs ▸ hpromised
  · rintro ⟨hpromised, hsame⟩
    refine ⟨fun order => ⟨S order, hsplit order, hpromised order⟩, ?_⟩
    intro order order' s s' hs hs'
    rw [hsplit] at hs hs'
    exact Option.some.inj hs ▸ Option.some.inj hs' ▸ hsame order order'

theorem length_keysWhere {V : Type} (m : OrderedMap ℕ V) (p : V → Bool) :
    (keysWhere .insertion m p).length = countWhere m p := by
  rw [keysWhere, countWhere, OrderedMap.values, List.filter_map, List.length_map, List.length_map]
  rfl

theorem countWhere_true {V : Type} (m : OrderedMap ℕ V) :
    countWhere m (fun _ => true) = m.values.length := by
  rw [countWhere, List.filter_true]

theorem sameTriple_shuffledKeys_iff {V : Type} (h : ValidRatios config) (rng : SimpleRng)
    (m : OrderedMap ℕ V) (p : V → Bool) :
    (∀ order order', SameTriple (cuts config (shuffledKeys rng order m p))
        (cuts config (shuffledKeys rng order' m p))) ↔ Unmixed config (countWhere m p) := by
  rw [forall_shuffledKeys_iff rng (R := fun t t' => SameTriple (cuts config t) (cuts config t')),
    sameTriple_cuts_iff h (keysWhere_nodup .insertion m p), length_keysWhere]

def ofParts (nodes : List NodeId × List NodeId × List NodeId)
    (edges : List EdgeId × List EdgeId × List EdgeId) : DataSplit :=
  ⟨nodes.1, nodes.2.1, nodes.2.2, edges.1, edges.2.1, edges.2.2⟩

theorem shuffle_keysOf {V : Type} (order : HashOrder) (m : OrderedMap ℕ V) (rng : SimpleRng) :
    shuffle (keysOf order m) rng =
      (shuffledKeys rng order m fun _ => true, (shuffle m.keys rng).2) := by
  rw [shuffledKeys, keysWhere_true, ← shuffle_state rng (keysOf_perm order m)]

theorem keysWhere_insertion_true {V : Type} (m : OrderedMap ℕ V) :
    keysWhere .insertion m (fun _ => true) = m.keys := keysWhere_true .insertion m

section Random

/-- The generator after the nodes were shuffled. -/
def rngAfterNodes (g : Graph F) (config : SplitConfig) : SimpleRng :=
  (shuffle g.nodes.keys (.new config.random_seed)).2

def shuffledNodes (g : Graph F) (config : SplitConfig) (order : HashOrder) : List NodeId :=
  shuffledKeys (.new config.random_seed) order g.nodes fun _ => true

def shuffledEdges (g : Graph F) (config : SplitConfig) (order : HashOrder) : List EdgeId :=
  shuffledKeys (rngAfterNodes g config) order g.edges fun _ => true

theorem shuffledNodes_perm (order : HashOrder) :
    (shuffledNodes g config order).Perm g.nodes.keys := by
  rw [← keysWhere_insertion_true]
  exact shuffledKeys_perm _ order g.nodes _

theorem shuffledEdges_perm (order : HashOrder) :
    (shuffledEdges g config order).Perm g.edges.keys := by
  rw [← keysWhere_insertion_true]
  exact shuffledKeys_perm _ order g.edges _

theorem random_split_eq (h : ValidRatios config) (order : HashOrder) :
    random_split order g config = some (ofParts (cuts config (shuffledNodes g config order))
      (cuts config (shuffledEdges g config order))) := by
  simp only [random_split, shuffle_keysOf, split_by_ratio_eq h, Option.bind_some, Option.map_some]
  rfl

theorem partitions_of_cuts (h : ValidRatios config) {nodes : List NodeId} {edges : List EdgeId}
    (hnodes : nodes.Perm g.nodes.keys) (hedges : edges.Perm g.edges.keys) :
    Partitions g (ofParts (cuts config nodes) (cuts config edges)) where
  nodes := (List.Perm.of_eq (append_cuts h nodes)).trans hnodes
  edges := (List.Perm.of_eq (append_cuts h edges)).trans hedges

theorem random_meetsContract_iff (h : ValidRatios config) (hrandom : config.strategy = .random) :
    MeetsContract g config ↔ Determined g config := by
  have hsplit : ∀ order, split order g config = some _ := fun order => by
    rw [split, hrandom]
    exact random_split_eq h order
  rw [meetsContract_iff_of_parts hsplit, and_iff_right]
  · simp only [SameParts, forall_and, Determined, hrandom, ← countWhere_true]
    rw [← sameTriple_shuffledKeys_iff h (.new config.random_seed),
      ← sameTriple_shuffledKeys_iff h (rngAfterNodes g config)]
    rfl
  · intro order
    simp only [Promised, hrandom]
    exact partitions_of_cuts h (shuffledNodes_perm order) (shuffledEdges_perm order)

end Random

section Transductive

theorem transductive_meetsContract_iff (h : ValidRatios config)
    (htransductive : config.strategy = .transductive) :
    MeetsContract g config ↔ Determined g config := by
  have hsplit : ∀ order, split order g config = some (ofParts
      (keysOf order g.nodes, keysOf order g.nodes, keysOf order g.nodes)
      (cuts config (shuffledKeys (.new config.random_seed) order g.edges fun _ => true))) := by
    intro order
    rw [split, htransductive]
    simp only [transductive_split, shuffle_keysOf, split_by_ratio_eq h, Option.map_some]
    rfl
  have hnodes : ∀ order order', (keysOf order g.nodes).Perm (keysOf order' g.nodes) :=
    fun order order' => (keysOf_perm order g.nodes).trans (keysOf_perm order' g.nodes).symm
  rw [meetsContract_iff_of_parts hsplit, and_iff_right]
  · simp only [SameParts, forall_and, Determined, htransductive, ← countWhere_true]
    rw [← sameTriple_shuffledKeys_iff h (.new config.random_seed), and_iff_right]
    · rfl
    · exact fun order order' => ⟨hnodes order order', hnodes order order', hnodes order order'⟩
  · intro order
    simp only [Promised, htransductive]

end Transductive

section Stratified

/-- Parts of two classes, put together. -/
def joinTriples {α : Type} (x y : List α × List α × List α) : List α × List α × List α :=
  (x.1 ++ y.1, x.2.1 ++ y.2.1, x.2.2 ++ y.2.2)

theorem joinTriples_perm (x y : List ℕ × List ℕ × List ℕ) :
    ((joinTriples x y).1 ++ (joinTriples x y).2.1 ++ (joinTriples x y).2.2).Perm
      ((x.1 ++ x.2.1 ++ x.2.2) ++ (y.1 ++ y.2.1 ++ y.2.2)) := by
  rw [List.perm_iff_count]
  intro a
  simp only [joinTriples, List.count_append]
  omega

theorem append_perm_append_iff {α : Type} {q : α → Bool} {x x' y y' : List α}
    (hx : ∀ a ∈ x, q a = true) (hx' : ∀ a ∈ x', q a = true)
    (hy : ∀ a ∈ y, q a = false) (hy' : ∀ a ∈ y', q a = false) :
    (x ++ y).Perm (x' ++ y') ↔ x.Perm x' ∧ y.Perm y' := by
  constructor
  · intro h
    have hnone : ∀ {l : List α}, (∀ a ∈ l, q a = false) → l.filter q = [] := fun hl =>
      List.filter_eq_nil_iff.mpr (by simpa using hl)
    have hnone' : ∀ {l : List α}, (∀ a ∈ l, q a = true) → l.filter (fun a => !q a) = [] :=
      fun hl => List.filter_eq_nil_iff.mpr (by simpa using hl)
    have hall : ∀ {l : List α}, (∀ a ∈ l, q a = false) → l.filter (fun a => !q a) = l :=
      fun hl => List.filter_eq_self.mpr (by simpa using hl)
    have hfirst := h.filter q
    have hsecond := h.filter fun a => !q a
    rw [List.filter_append, List.filter_append, List.filter_eq_self.mpr hx,
      List.filter_eq_self.mpr hx', hnone hy, hnone hy', List.append_nil, List.append_nil] at hfirst
    rw [List.filter_append, List.filter_append, hnone' hx, hnone' hx', hall hy, hall hy',
      List.nil_append, List.nil_append] at hsecond
    exact ⟨hfirst, hsecond⟩
  · exact fun h => h.1.append h.2

theorem sameTriple_joinTriples_iff {α : Type} {q : α → Bool}
    {x x' y y' : List α} (hx : ∀ a ∈ x, q a = true) (hx' : ∀ a ∈ x', q a = true)
    (hy : ∀ a ∈ y, q a = false) (hy' : ∀ a ∈ y', q a = false) :
    SameTriple (joinTriples (cuts config x) (cuts config y))
        (joinTriples (cuts config x') (cuts config y')) ↔
      SameTriple (cuts config x) (cuts config x') ∧
        SameTriple (cuts config y) (cuts config y') := by
  have hpart : ∀ i j i' j' m n m' n', (window x i j ++ window y m n).Perm
      (window x' i' j' ++ window y' m' n') ↔
        (window x i j).Perm (window x' i' j') ∧ (window y m n).Perm (window y' m' n') := by
    intro i j i' j' m n m' n'
    exact append_perm_append_iff (fun a ha => hx a (window_subset x i j ha))
      (fun a ha => hx' a (window_subset x' i' j' ha)) (fun a ha => hy a (window_subset y m n ha))
      (fun a ha => hy' a (window_subset y' m' n' ha))
  simp only [SameTriple, joinTriples, cuts, hpart]
  tauto

theorem mem_keysWhere_iff {V : Type} {order : HashOrder} {m : OrderedMap ℕ V} {p : V → Bool}
    {k : ℕ} : k ∈ keysWhere order m p ↔ (m.find? k).any p = true := by
  rw [(keysWhere_perm order m p).mem_iff, keysWhere, List.mem_map]
  constructor
  · rintro ⟨⟨k, v⟩, he, rfl⟩
    obtain ⟨hmem, hp⟩ := List.mem_filter.mp he
    rw [(m.mem_entries_iff).mp hmem]
    exact hp
  · intro h
    cases hfind : m.find? k with
    | none =>
        rw [hfind] at h
        cases h
    | some v =>
        rw [hfind] at h
        exact ⟨(k, v), List.mem_filter.mpr ⟨(m.mem_entries_iff).mpr hfind, h⟩, rfl⟩

variable (config) {V : Type} (m : OrderedMap ℕ V) (is_anomaly : V → Bool) (rng : SimpleRng)

/-- The generator after the keys of the normal entries were shuffled. -/
def rngAfterNormal : SimpleRng :=
  (shuffle (keysWhere .insertion m fun v => !is_anomaly v) rng).2

def rngAfterClasses : SimpleRng :=
  (shuffle (keysWhere .insertion m is_anomaly) (rngAfterNormal m is_anomaly rng)).2

def classCuts (order : HashOrder) : List ℕ × List ℕ × List ℕ :=
  joinTriples (cuts config (shuffledKeys rng order m fun v => !is_anomaly v))
    (cuts config (shuffledKeys (rngAfterNormal m is_anomaly rng) order m is_anomaly))

theorem shuffle_keysWhere (order : HashOrder) (p : V → Bool) :
    shuffle (keysWhere order m p) rng =
      (shuffledKeys rng order m p, (shuffle (keysWhere .insertion m p) rng).2) := by
  rw [shuffledKeys, ← shuffle_state rng (keysWhere_perm order m p)]

variable {config}

theorem splitClasses_eq (h : ValidRatios config) (order : HashOrder) :
    splitClasses order config m is_anomaly rng =
      (some (classCuts config m is_anomaly rng order), rngAfterClasses m is_anomaly rng) := by
  have hnormal : shuffle (keysWhere order m fun v => !is_anomaly v) rng =
      (shuffledKeys rng order m fun v => !is_anomaly v, rngAfterNormal m is_anomaly rng) :=
    shuffle_keysWhere m rng order _
  have hanomalous : shuffle (keysWhere order m is_anomaly) (rngAfterNormal m is_anomaly rng) =
      (shuffledKeys (rngAfterNormal m is_anomaly rng) order m is_anomaly,
        rngAfterClasses m is_anomaly rng) :=
    shuffle_keysWhere m _ order _
  simp only [splitClasses, hnormal, hanomalous, split_by_ratio_eq h, Option.bind_some,
    Option.map_some]
  rfl

theorem classCuts_perm (h : ValidRatios config) (order : HashOrder) :
    ((classCuts config m is_anomaly rng order).1 ++ (classCuts config m is_anomaly rng order).2.1 ++
      (classCuts config m is_anomaly rng order).2.2).Perm m.keys := by
  have hclasses : (keysWhere .insertion m (fun v => !is_anomaly v) ++
      keysWhere .insertion m is_anomaly).Perm m.keys := by
    rw [keysWhere, keysWhere, ← List.map_append]
    apply List.Perm.map
    apply List.perm_append_comm.trans
    exact List.filter_append_perm (fun e => is_anomaly e.2) m.entries
  have hnormal := shuffledKeys_perm rng order m fun v => !is_anomaly v
  have hanomalous := shuffledKeys_perm (rngAfterNormal m is_anomaly rng) order m is_anomaly
  apply (joinTriples_perm _ _).trans
  rw [append_cuts h, append_cuts h]
  exact (hnormal.append hanomalous).trans hclasses

theorem sameTriple_classCuts_iff (h : ValidRatios config) :
    (∀ order order', SameTriple (classCuts config m is_anomaly rng order)
        (classCuts config m is_anomaly rng order')) ↔
      Unmixed config (countWhere m fun v => !is_anomaly v) ∧
        Unmixed config (countWhere m is_anomaly) := by
  rw [← sameTriple_shuffledKeys_iff h rng, ← sameTriple_shuffledKeys_iff h
    (rngAfterNormal m is_anomaly rng)]
  simp only [← forall_and]
  have hnormal : ∀ order, ∀ k ∈ shuffledKeys rng order m (fun v => !is_anomaly v),
      (m.find? k).any (fun v => !is_anomaly v) = true := by
    intro order k hk
    exact mem_keysWhere_iff.mp ((shuffledKeys_perm rng order m _).mem_iff.mp hk)
  have hanomalous : ∀ order, ∀ k ∈ shuffledKeys (rngAfterNormal m is_anomaly rng) order m
      is_anomaly, (m.find? k).any (fun v => !is_anomaly v) = false := by
    intro order k hk
    have hany := mem_keysWhere_iff.mp ((shuffledKeys_perm _ order m _).mem_iff.mp hk)
    cases hfind : m.find? k with
    | none => rfl
    | some v =>
        rw [hfind] at hany
        simpa using hany
  apply forall_congr'
  intro order
  apply forall_congr'
  intro order'
  exact sameTriple_joinTriples_iff (hnormal order) (hnormal order') (hanomalous order)
    (hanomalous order')

theorem stratified_meetsContract_iff (h : ValidRatios config)
    (hstratified : config.strategy = .stratified) :
    MeetsContract g config ↔ Determined g config := by
  have hsplit : ∀ order, split order g config = some (ofParts
      (classCuts config g.nodes (·.is_anomaly) (.new config.random_seed) order)
      (classCuts config g.edges (·.is_anomaly)
        (rngAfterClasses g.nodes (·.is_anomaly) (.new config.random_seed)) order)) := by
    intro order
    rw [split, hstratified]
    simp only [stratified_split, splitClasses_eq _ _ _ h, Option.bind_some, Option.map_some]
    rfl
  rw [meetsContract_iff_of_parts hsplit, and_iff_right]
  · simp only [SameParts, forall_and, Determined, hstratified]
    rw [← sameTriple_classCuts_iff g.nodes (·.is_anomaly) (.new config.random_seed) h,
      ← sameTriple_classCuts_iff g.edges (·.is_anomaly)
        (rngAfterClasses g.nodes (·.is_anomaly) (.new config.random_seed)) h]
    rfl
  · intro order
    simp only [Promised, hstratified]
    exact ⟨classCuts_perm _ _ _ h order, classCuts_perm _ _ _ h order⟩

end Stratified

section KFold

/-- Where a fold begins; the last one takes what is left over. -/
def foldBound (n k fold : ℕ) : ℕ := if fold = k then n else fold * (n / k)

theorem foldBound_zero {n k : ℕ} (hk : 0 < k) : foldBound n k 0 = 0 := by
  rw [foldBound, if_neg hk.ne, Nat.zero_mul]

theorem foldBound_self (n k : ℕ) : foldBound n k k = n := if_pos rfl

theorem foldBound_le {n k fold : ℕ} (hfold : fold < k) :
    foldBound n k fold ≤ foldBound n k (fold + 1) ∧ foldBound n k (fold + 1) ≤ n := by
  have htotal : k * (n / k) ≤ n := Nat.mul_div_le n k
  have hnext : (fold + 1) * (n / k) ≤ k * (n / k) := Nat.mul_le_mul_right _ hfold
  rw [foldBound, if_neg hfold.ne, foldBound]
  split
  · exact ⟨(Nat.mul_le_mul_right _ hfold.le).trans htotal, le_rfl⟩
  · exact ⟨Nat.mul_le_mul_right _ (Nat.le_succ fold), hnext.trans htotal⟩

theorem filter_zipIdx_append {α : Type} (before inside behind : List α) :
    ((before ++ inside ++ behind).zipIdx.filter fun e =>
        e.2 < before.length || before.length + inside.length ≤ e.2).map Prod.fst =
      before ++ behind := by
  have hbefore : ∀ e ∈ before.zipIdx, e.2 < before.length := by
    rintro ⟨a, k⟩ he
    have hk := (List.mem_zipIdx he).2.1
    rwa [Nat.zero_add] at hk
  have hinside : ∀ e ∈ inside.zipIdx before.length,
      ¬ (e.2 < before.length ∨ before.length + inside.length ≤ e.2) := by
    rintro ⟨a, k⟩ he
    obtain ⟨hle, hlt, -⟩ := List.mem_zipIdx he
    simp only
    omega
  have hbehind : ∀ e ∈ behind.zipIdx (before.length + inside.length),
      before.length + inside.length ≤ e.2 := by
    rintro ⟨a, k⟩ he
    exact (List.mem_zipIdx he).1
  rw [List.zipIdx_append, List.zipIdx_append, List.filter_append, List.filter_append,
    List.filter_eq_self.mpr (by simpa using fun a k he => .inl (hbefore (a, k) he)),
    List.filter_eq_nil_iff.mpr (by simpa using fun a k he => hinside (a, k) he),
    List.filter_eq_self.mpr (by simpa using fun a k he => .inr (hbehind (a, k) he)),
    List.append_nil, List.map_append, List.zipIdx_map_fst, List.zipIdx_map_fst]

/-- The items outside a window are those before and those behind it. -/
theorem filter_zipIdx_outside {α : Type} {i j : ℕ} (hij : i ≤ j) (items : List α)
    (hj : j ≤ items.length) :
    (items.zipIdx.filter fun e => e.2 < i || j ≤ e.2).map Prod.fst =
      window items 0 i ++ window items j items.length := by
  have hsplit : window items 0 i ++ window items i j ++ window items j items.length = items := by
    rw [window_append hij, window_append hj, window_all]
  have hbefore : (window items 0 i).length = i := length_window (hij.trans hj)
  have hinside : i + (window items i j).length = j := by
    rw [length_window hj, Nat.add_sub_cancel' hij]
  have hfilter := filter_zipIdx_append (window items 0 i) (window items i j)
    (window items j items.length)
  rwa [hsplit, hbefore, hinside] at hfilter

theorem foldParts_eq {α : Type} {k fold : ℕ} (hfold : fold < k) (items : List α) :
    foldParts items k fold = some
      (window items 0 (foldBound items.length k fold) ++
          window items (foldBound items.length k (fold + 1)) items.length,
        window items (foldBound items.length k fold) (foldBound items.length k (fold + 1))) := by
  have hbounds := foldBound_le (n := items.length) hfold
  have hstart : fold * (items.length / k) = foldBound items.length k fold := by
    rw [foldBound, if_neg hfold.ne]
  have hend : (if fold = k - 1 then items.length else (fold + 1) * (items.length / k)) =
      foldBound items.length k (fold + 1) := by
    have hlast : fold = k - 1 ↔ fold + 1 = k := by omega
    rw [foldBound]
    simp only [hlast]
  rw [foldParts, if_neg (by omega)]
  dsimp only
  rw [hstart, hend]
  simp only [slice, if_pos hbounds, Option.map_some,
    filter_zipIdx_outside hbounds.1 items hbounds.2]

/-- The training, validation and test part of a fold. -/
def foldCuts {α : Type} (k fold : ℕ) (items : List α) : List α × List α × List α :=
  let val := window items (foldBound items.length k fold) (foldBound items.length k (fold + 1))
  (window items 0 (foldBound items.length k fold) ++
    window items (foldBound items.length k (fold + 1)) items.length, val, val)

theorem foldBounds_unmixed_iff {n k fold : ℕ} (hfold : fold < k) :
    (foldBound n k fold = foldBound n k (fold + 1) ∨
        foldBound n k fold = 0 ∧ foldBound n k (fold + 1) = n) ↔ k = 1 ∨ n < k := by
  rcases Nat.lt_or_ge n k with hfew | hmany
  · have hsize : n / k = 0 := Nat.div_eq_of_lt hfew
    simp only [foldBound, hsize, Nat.mul_zero, if_neg hfold.ne, hfew, or_true, iff_true]
    split <;> simp
  · have hsize : 0 < n / k := Nat.div_pos hmany (by omega)
    have htotal : k * (n / k) ≤ n := Nat.mul_div_le n k
    have hk : k = 1 ∨ k = fold + 1 ∧ 0 < fold ∨ fold + 1 < k := by omega
    rcases hk with rfl | ⟨rfl, hpos⟩ | hnext
    · obtain rfl : fold = 0 := by omega
      simp [foldBound]
    · have hbound : foldBound n (fold + 1) fold = fold * (n / (fold + 1)) :=
        if_neg (Nat.lt_succ_self fold).ne
      have hstart : 0 < fold * (n / (fold + 1)) := Nat.mul_pos hpos hsize
      have hless : fold * (n / (fold + 1)) < n :=
        ((Nat.mul_lt_mul_right hsize).mpr (Nat.lt_succ_self fold)).trans_le htotal
      rw [hbound, foldBound_self]
      omega
    · have hstart : foldBound n k fold = fold * (n / k) := if_neg hfold.ne
      have hend : foldBound n k (fold + 1) = (fold + 1) * (n / k) := if_neg hnext.ne
      have hless : (fold + 1) * (n / k) < n :=
        ((Nat.mul_lt_mul_right hsize).mpr hnext).trans_le htotal
      have hstep : fold * (n / k) < (fold + 1) * (n / k) :=
        (Nat.mul_lt_mul_right hsize).mpr (Nat.lt_succ_self fold)
      rw [hstart, hend]
      omega

theorem sameTriple_foldCuts_iff {α : Type} {k fold : ℕ} (hfold : fold < k) {l : List α}
    (hl : l.Nodup) :
    (∀ t t', t.Perm l → t'.Perm l → SameTriple (foldCuts k fold t) (foldCuts k fold t')) ↔
      k = 1 ∨ l.length < k := by
  obtain ⟨hij, hj⟩ := foldBound_le (n := l.length) hfold
  have hval := window_perm_const_iff hl hij hj
  rw [foldBounds_unmixed_iff hfold] at hval
  rw [← hval]
  constructor
  · intro hsame t t' ht ht'
    have heq := (hsame t t' ht ht').2.1
    simp only [foldCuts] at heq
    rwa [ht.length_eq, ht'.length_eq] at heq
  · intro hsame t t' ht ht'
    have hinside := hsame t t' ht ht'
    simp only [SameTriple, foldCuts]
    rw [ht.length_eq, ht'.length_eq]
    refine ⟨?_, hinside, hinside⟩
    rcases (foldBounds_unmixed_iff hfold).mpr (hval.mp hsame) with heq | ⟨hzero, hall⟩
    · rw [heq, window_append hj, window_append hj, ← ht.length_eq, window_all, ht.length_eq,
        ← ht'.length_eq, window_all]
      exact ht.trans ht'.symm
    · rw [hzero, hall, window_self, window_self, window_self, window_self]

theorem kfold_split_eq {k fold : ℕ} (hfold : fold < k) (order : HashOrder) :
    kfold_split order g config k fold = some (ofParts
      (foldCuts k fold (shuffledNodes g config order))
      (foldCuts k fold (shuffledEdges g config order))) := by
  simp only [kfold_split, shuffle_keysOf, foldParts_eq hfold, Option.bind_some, Option.map_some]
  rfl

theorem flatMap_foldCuts {α : Type} {k : ℕ} (hk : 0 < k) (items : List α) :
    ((List.range k).flatMap fun fold => (foldCuts k fold items).2.1) = items := by
  have hwindows := flatMap_windows items (foldBound_zero (n := items.length) hk) k
    fun fold hfold => (foldBound_le hfold).1
  rwa [foldBound_self, window_all] at hwindows

theorem kfold_meetsContract_iff {k fold : ℕ} (hfold : fold < k)
    (hkfold : config.strategy = .kFold k fold) :
    MeetsContract g config ↔ Determined g config := by
  have hsplit : ∀ order, split order g config = some _ := fun order => by
    rw [split, hkfold]
    exact kfold_split_eq hfold order
  rw [meetsContract_iff_of_parts hsplit, and_iff_right]
  · simp only [SameParts, forall_and, Determined, hkfold, or_and_left, ← countWhere_true,
      ← length_keysWhere]
    rw [← sameTriple_foldCuts_iff hfold (keysWhere_nodup .insertion g.nodes _),
      ← sameTriple_foldCuts_iff hfold (keysWhere_nodup .insertion g.edges _),
      ← forall_shuffledKeys_iff (.new config.random_seed)
        (R := fun t t' => SameTriple (foldCuts k fold t) (foldCuts k fold t')),
      ← forall_shuffledKeys_iff (rngAfterNodes g config)
        (R := fun t t' => SameTriple (foldCuts k fold t) (foldCuts k fold t'))]
    rfl
  · intro order
    simp only [Promised, hkfold]
    refine ⟨fun fold' => ofParts (foldCuts k fold' (shuffledNodes g config order))
      (foldCuts k fold' (shuffledEdges g config order)), fun fold' hfold' =>
        kfold_split_eq hfold' order, ?_, ?_⟩
    · exact (List.Perm.of_eq (flatMap_foldCuts (by omega) _)).trans (shuffledNodes_perm order)
    · exact (List.Perm.of_eq (flatMap_foldCuts (by omega) _)).trans (shuffledEdges_perm order)

end KFold

end Contract

end Datasynth.Graphs.SplitContract
