import Datasynth.Graphs.Models
import Datasynth.Lib.SeededShuffle
import Mathlib.Algebra.Order.Floor.Semiring
import Mathlib.Data.Rat.Floor

/-!
Splits of a graph for training, validation and test, with exact ratios.  A slice out of
range is a panic of the source; it is `none` here.
-/

namespace Datasynth.Graphs.DataSplits

open Datasynth.Graphs.Models
open Datasynth.Lib.CivilCalendar
open Datasynth.Lib.HashIteration
open Datasynth.Lib.SeededShuffle
open Datasynth.Lib.SortedEntries

inductive SplitStrategy where
  | random
  | temporal (train_cutoff val_cutoff : Date)
  | stratified
  | kFold (k fold : ℕ)
  | transductive

structure SplitConfig where
  train_ratio : ℚ
  val_ratio : ℚ
  random_seed : UInt64
  strategy : SplitStrategy

def SplitConfig.default : SplitConfig := ⟨7 / 10, 3 / 20, 42, .random⟩

structure DataSplit where
  train_nodes : List NodeId
  val_nodes : List NodeId
  test_nodes : List NodeId
  train_edges : List EdgeId
  val_edges : List EdgeId
  test_edges : List EdgeId
deriving DecidableEq

section Generator

/-- The xorshift generator. -/
structure SimpleRng where
  state : UInt64

def SimpleRng.new (seed : UInt64) : SimpleRng := ⟨if seed = 0 then 1 else seed⟩

def SimpleRng.next (rng : SimpleRng) : UInt64 × SimpleRng :=
  let x := rng.state ^^^ (rng.state <<< 13)
  let x := x ^^^ (x >>> 7)
  let x := x ^^^ (x <<< 17)
  (x, ⟨x⟩)

def SimpleRng.draw (rng : SimpleRng) : ℕ × SimpleRng := (rng.next.1.toNat, rng.next.2)

variable {α : Type}

def shuffle (items : List α) (rng : SimpleRng) : List α × SimpleRng :=
  fisherYates SimpleRng.draw (items.length - 1) items rng

/-- `items[start..end]` -/
def slice (items : List α) (i j : ℕ) : Option (List α) :=
  if i ≤ j ∧ j ≤ items.length then some (window items i j) else none

def partSize (n : ℕ) (ratio : ℚ) : ℕ := ⌊n * ratio⌋₊

def split_by_ratio (items : List α) (train_ratio val_ratio : ℚ) :
    Option (List α × List α × List α) :=
  let train_size := partSize items.length train_ratio
  let val_size := partSize items.length val_ratio
  (slice items 0 train_size).bind fun train =>
    (slice items train_size (train_size + val_size)).bind fun val =>
      (slice items (train_size + val_size) items.length).map fun test => (train, val, test)

/-- The items outside the fold and those of the fold. -/
def foldParts (items : List α) (k fold : ℕ) : Option (List α × List α) :=
  if k = 0 then none
  else
    let fold_size := items.length / k
    let val_start := fold * fold_size
    let val_end := if fold = k - 1 then items.length else (fold + 1) * fold_size
    (slice items val_start val_end).map fun val =>
      ((items.zipIdx.filter fun e => e.2 < val_start || val_end ≤ e.2).map Prod.fst, val)

end Generator

section Splits

variable {F : Type} (order : HashOrder) (g : Graph F) (config : SplitConfig)

/-- `keys().copied().collect()` -/
def keysOf {V : Type} (m : OrderedMap ℕ V) : List ℕ := (order.iter m.entries).map Prod.fst

/-- `iter().filter(p).map(id).collect()` -/
def keysWhere {V : Type} (m : OrderedMap ℕ V) (p : V → Bool) : List ℕ :=
  ((order.iter m.entries).filter fun e => p e.2).map Prod.fst

def random_split : Option DataSplit :=
  let (node_ids, rng) := shuffle (keysOf order g.nodes) (.new config.random_seed)
  let (edge_ids, _) := shuffle (keysOf order g.edges) rng
  (split_by_ratio node_ids config.train_ratio config.val_ratio).bind fun (train, val, test) =>
    (split_by_ratio edge_ids config.train_ratio config.val_ratio).map
      fun (train_e, val_e, test_e) => ⟨train, val, test, train_e, val_e, test_e⟩

inductive Part where
  | train
  | val
  | test
deriving DecidableEq

/-- An edge without a date is assigned by its id. -/
def temporalPart (train_cutoff val_cutoff : Date) (edge_id : EdgeId) (edge : GraphEdge F) : Part :=
  match edge.timestamp with
  | some timestamp =>
      if timestamp < train_cutoff then .train
      else if timestamp < val_cutoff then .val
      else .test
  | none =>
      let r := edge_id % 100
      if (r : ℚ) < config.train_ratio * ((100 : ℕ) : ℚ) then .train
      else if (r : ℚ) < (config.train_ratio + config.val_ratio) * ((100 : ℕ) : ℚ) then .val
      else .test

/-- The edges of a part, in the order in which they are pushed. -/
def edgesIn (train_cutoff val_cutoff : Date) (part : Part) : List EdgeId :=
  ((order.iter g.edges.entries).filter fun e =>
    temporalPart config train_cutoff val_cutoff e.1 e.2 = part).map Prod.fst

/-- Insert the ends of an edge that pass `keep`. -/
def insertEnds (keep : NodeId → Bool) (nodes : List NodeId) (edge_id : EdgeId) : List NodeId :=
  match g.edges.find? edge_id with
  | some edge =>
      let nodes := if keep edge.source then nodes.insert edge.source else nodes
      if keep edge.target then nodes.insert edge.target else nodes
  | none => nodes

/-- The ends of the edges that pass `keep`, as a hash set. -/
def endsWhere (keep : NodeId → Bool) (edge_ids : List EdgeId) : List NodeId :=
  edge_ids.foldl (insertEnds g keep) []

def temporal_split (train_cutoff val_cutoff : Date) : DataSplit :=
  let train_edges := edgesIn order g config train_cutoff val_cutoff .train
  let val_edges := edgesIn order g config train_cutoff val_cutoff .val
  let test_edges := edgesIn order g config train_cutoff val_cutoff .test
  let train_nodes := endsWhere g (fun _ => true) train_edges
  let val_nodes := endsWhere g (fun id => id ∉ train_nodes) val_edges
  let test_nodes := endsWhere g (fun id => id ∉ train_nodes && id ∉ val_nodes) test_edges
  { train_nodes := order.iter train_nodes
    val_nodes := order.iter val_nodes
    test_nodes := order.iter test_nodes
    train_edges, val_edges, test_edges }

/-- Both classes are split by the ratios, one after the other. -/
def splitClasses {V : Type} (m : OrderedMap ℕ V) (is_anomaly : V → Bool) (rng : SimpleRng) :
    Option (List ℕ × List ℕ × List ℕ) × SimpleRng :=
  let (normal, rng) := shuffle (keysWhere order m fun v => !is_anomaly v) rng
  let (anomalous, rng) := shuffle (keysWhere order m is_anomaly) rng
  ((split_by_ratio normal config.train_ratio config.val_ratio).bind fun (train, val, test) =>
    (split_by_ratio anomalous config.train_ratio config.val_ratio).map
      fun (train', val', test') => (train ++ train', val ++ val', test ++ test'), rng)

def stratified_split : Option DataSplit :=
  let (nodes, rng) := splitClasses order config g.nodes (·.is_anomaly) (.new config.random_seed)
  let (edges, _) := splitClasses order config g.edges (·.is_anomaly) rng
  nodes.bind fun (train, val, test) =>
    edges.map fun (train_e, val_e, test_e) => ⟨train, val, test, train_e, val_e, test_e⟩

def kfold_split (k fold : ℕ) : Option DataSplit :=
  let (node_ids, rng) := shuffle (keysOf order g.nodes) (.new config.random_seed)
  let (edge_ids, _) := shuffle (keysOf order g.edges) rng
  (foldParts node_ids k fold).bind fun (train, val) =>
    (foldParts edge_ids k fold).map fun (train_e, val_e) =>
      ⟨train, val, val, train_e, val_e, val_e⟩

def transductive_split : Option DataSplit :=
  let all_nodes := keysOf order g.nodes
  let (edge_ids, _) := shuffle (keysOf order g.edges) (.new config.random_seed)
  (split_by_ratio edge_ids config.train_ratio config.val_ratio).map
    fun (train_e, val_e, test_e) => ⟨all_nodes, all_nodes, all_nodes, train_e, val_e, test_e⟩

def split : Option DataSplit :=
  match config.strategy with
  | .random => random_split order g config
  | .temporal train_cutoff val_cutoff =>
      some (temporal_split order g config train_cutoff val_cutoff)
  | .stratified => stratified_split order g config
  | .kFold k fold => kfold_split order g config k fold
  | .transductive => transductive_split order g config

end Splits

end Datasynth.Graphs.DataSplits

/-!
Lists that come in the order of a hash map, shuffled and cut into three parts: the parts
are the same in every run only when they hold nothing or everything.
-/

namespace Datasynth.Graphs.SplitParts

open Datasynth.Graphs.DataSplits
open Datasynth.Lib.HashIteration
open Datasynth.Lib.SeededShuffle
open Datasynth.Lib.SortedEntries

/-- Parts that hold the same items. -/
def SameTriple {α : Type} (x y : List α × List α × List α) : Prop :=
  x.1.Perm y.1 ∧ x.2.1.Perm y.2.1 ∧ x.2.2.Perm y.2.2

section Orders

variable {V : Type} {m : OrderedMap ℕ V} {p : V → Bool} {t : List ℕ}

theorem keysWhere_perm (order : HashOrder) (m : OrderedMap ℕ V) (p : V → Bool) :
    (keysWhere order m p).Perm (keysWhere .insertion m p) :=
  ((order.perm m.entries).filter _).map _

theorem keysOf_perm (order : HashOrder) (m : OrderedMap ℕ V) : (keysOf order m).Perm m.keys :=
  (order.perm m.entries).map _

theorem keysWhere_nodup (order : HashOrder) (m : OrderedMap ℕ V) (p : V → Bool) :
    (keysWhere order m p).Nodup := by
  apply (keysWhere_perm order m p).nodup_iff.mpr
  exact m.keys_nodup.sublist (List.filter_sublist.map _)

theorem keysWhere_true (order : HashOrder) (m : OrderedMap ℕ V) :
    keysWhere order m (fun _ => true) = keysOf order m := by
  rw [keysWhere, keysOf, List.filter_true]

/-- A map can be iterated so that the chosen keys come in any given order. -/
theorem exists_keysWhere_eq (ht : t.Perm (keysWhere .insertion m p)) :
    ∃ order, keysWhere order m p = t := by
  have hlift := congrFun (congrFun (List.eq_map_comp_perm (Prod.fst : ℕ × V → ℕ)) t)
    (m.entries.filter fun e => p e.2)
  obtain ⟨chosen, rfl, hchosen⟩ := hlift.mpr ht
  have hmem : ∀ e ∈ chosen, p e.2 = true := by
    intro e he
    exact (List.mem_filter.mp (hchosen.mem_iff.mp he)).2
  have hrest : (chosen ++ m.entries.filter fun e => !p e.2).Perm m.entries :=
    (hchosen.append_right _).trans (List.filter_append_perm _ _)
  obtain ⟨order, horder⟩ := HashOrder.exists_iter_eq hrest
  refine ⟨order, ?_⟩
  rw [keysWhere, horder, List.filter_append, List.filter_filter, List.filter_eq_self.mpr hmem]
  simp

end Orders

section Shuffled

variable {α : Type} {l : List α} (rng : SimpleRng)

theorem shuffle_perm (l : List α) : (shuffle l rng).1.Perm l := fisherYates_perm _ _ l rng

/-- The generator after a shuffle depends on the number of items only. -/
theorem shuffle_state {l l' : List α} (h : l.Perm l') :
    (shuffle l rng).2 = (shuffle l' rng).2 := by
  rw [shuffle, shuffle, h.length_eq]
  exact fisherYates_state _ _ l l' rng

/-- The chosen keys of a map, shuffled. -/
def shuffledKeys {V : Type} (order : HashOrder) (m : OrderedMap ℕ V) (p : V → Bool) : List ℕ :=
  (shuffle (keysWhere order m p) rng).1

variable {V : Type} {m : OrderedMap ℕ V} {p : V → Bool}

theorem shuffledKeys_perm (order : HashOrder) (m : OrderedMap ℕ V) (p : V → Bool) :
    (shuffledKeys rng order m p).Perm (keysWhere .insertion m p) :=
  (shuffle_perm rng _).trans (keysWhere_perm order m p)

/-- A map can be iterated so that its shuffled keys come in any given order. -/
theorem exists_shuffledKeys_eq {t : List ℕ} (ht : t.Perm (keysWhere .insertion m p)) :
    ∃ order, shuffledKeys rng order m p = t := by
  obtain ⟨items, hperm, heq⟩ := exists_fisherYates_eq SimpleRng.draw (le_refl (t.length - 1)) rng
  obtain ⟨order, horder⟩ := exists_keysWhere_eq (hperm.trans ht)
  refine ⟨order, ?_⟩
  rw [shuffledKeys, horder, shuffle, hperm.length_eq, heq]

theorem forall_shuffledKeys_iff {R : List ℕ → List ℕ → Prop} :
    (∀ order order', R (shuffledKeys rng order m p) (shuffledKeys rng order' m p)) ↔
      ∀ t t', t.Perm (keysWhere .insertion m p) → t'.Perm (keysWhere .insertion m p) → R t t' := by
  constructor
  · intro h t t' ht ht'
    obtain ⟨order, rfl⟩ := exists_shuffledKeys_eq rng ht
    obtain ⟨order', rfl⟩ := exists_shuffledKeys_eq rng ht'
    exact h order order'
  · intro h order order'
    exact h _ _ (shuffledKeys_perm rng order m p) (shuffledKeys_perm rng order' m p)

end Shuffled

section Cuts

variable (config : SplitConfig)

/-- The ratios are not negative and leave something for the test part. -/
structure ValidRatios : Prop where
  train_nonneg : 0 ≤ config.train_ratio
  val_nonneg : 0 ≤ config.val_ratio
  sum_le_one : config.train_ratio + config.val_ratio ≤ 1

/-- One of the three parts of `n` items has all of them. -/
def Unmixed (n : ℕ) : Prop :=
  partSize n config.train_ratio = n ∨ partSize n config.val_ratio = n ∨
    partSize n config.train_ratio + partSize n config.val_ratio = 0

/-- The three parts, cut one after the other. -/
def cuts {α : Type} (items : List α) : List α × List α × List α :=
  let train_size := partSize items.length config.train_ratio
  let val_size := partSize items.length config.val_ratio
  (window items 0 train_size, window items train_size (train_size + val_size),
    window items (train_size + val_size) items.length)

variable {config}

theorem partSizes_le (h : ValidRatios config) (n : ℕ) :
    partSize n config.train_ratio + partSize n config.val_ratio ≤ n := by
  have hn : (0 : ℚ) ≤ n := Nat.cast_nonneg n
  have htrain : (partSize n config.train_ratio : ℚ) ≤ n * config.train_ratio :=
    Nat.floor_le (mul_nonneg hn h.train_nonneg)
  have hval : (partSize n config.val_ratio : ℚ) ≤ n * config.val_ratio :=
    Nat.floor_le (mul_nonneg hn h.val_nonneg)
  have hsum : (n : ℚ) * (config.train_ratio + config.val_ratio) ≤ n :=
    mul_le_of_le_one_right hn h.sum_le_one
  rw [mul_add] at hsum
  exact_mod_cast (add_le_add htrain hval).trans hsum

theorem split_by_ratio_eq {α : Type} (h : ValidRatios config) (items : List α) :
    split_by_ratio items config.train_ratio config.val_ratio = some (cuts config items) := by
  have hsizes := partSizes_le h items.length
  rw [split_by_ratio, slice, slice, slice, if_pos (by omega), if_pos (by omega),
    if_pos (by omega)]
  rfl

theorem append_cuts {α : Type} (h : ValidRatios config) (items : List α) :
    (cuts config items).1 ++ (cuts config items).2.1 ++ (cuts config items).2.2 = items := by
  have hsizes := partSizes_le h items.length
  rw [cuts, window_append (Nat.le_add_right _ _), window_append hsizes, window_all]

/-- The parts of a list are the same for all its orders when one of them has everything. -/
theorem sameTriple_cuts_iff {α : Type} (h : ValidRatios config) {l : List α} (hl : l.Nodup) :
    (∀ t t', t.Perm l → t'.Perm l → SameTriple (cuts config t) (cuts config t')) ↔
      Unmixed config l.length := by
  have hsizes := partSizes_le h l.length
  have htrain := window_perm_const_iff hl (Nat.zero_le (partSize l.length config.train_ratio))
    (by omega)
  have hval := window_perm_const_iff hl
    (Nat.le_add_right (partSize l.length config.train_ratio) (partSize l.length config.val_ratio))
    hsizes
  have htest := window_perm_const_iff hl hsizes le_rfl
  have hall : Unmixed config l.length ↔
      (0 = partSize l.length config.train_ratio ∨
        0 = 0 ∧ partSize l.length config.train_ratio = l.length) ∧
      (partSize l.length config.train_ratio = partSize l.length config.train_ratio +
          partSize l.length config.val_ratio ∨ partSize l.length config.train_ratio = 0 ∧
        partSize l.length config.train_ratio + partSize l.length config.val_ratio = l.length) ∧
      (partSize l.length config.train_ratio + partSize l.length config.val_ratio = l.length ∨
        partSize l.length config.train_ratio + partSize l.length config.val_ratio = 0 ∧
          l.length = l.length) := by
    rw [Unmixed]
    omega
  rw [hall, ← htrain, ← hval, ← htest]
  simp only [SameTriple, cuts]
  constructor
  · intro hsame
    refine ⟨?_, ?_, ?_⟩ <;> intro t t' ht ht'
    · have heq := (hsame t t' ht ht').1
      rwa [ht.length_eq, ht'.length_eq] at heq
    · have heq := (hsame t t' ht ht').2.1
      rwa [ht.length_eq, ht'.length_eq] at heq
    · have heq := (hsame t t' ht ht').2.2
      rwa [ht.length_eq, ht'.length_eq] at heq
  · rintro ⟨h₁, h₂, h₃⟩ t t' ht ht'
    rw [ht.length_eq, ht'.length_eq]
    exact ⟨h₁ t t' ht ht', h₂ t t' ht ht', h₃ t t' ht ht'⟩

end Cuts

end Datasynth.Graphs.SplitParts
