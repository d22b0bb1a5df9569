import Datasynth.Graphs.Models
import Datasynth.Lib.ByteEncoding
import Mathlib.Algebra.BigOperators.Group.List.Basic
import Mathlib.Algebra.GroupWithZero.Nat

/-!
NPY files as they are written: a header that declares a shape, and the values in row
order.
-/

namespace Datasynth.Graphs.NpyWriter

open Datasynth.Lib.ByteEncoding

inductive Shape
  | vector (length : ℕ)
  | matrix (rows cols : ℕ)
deriving DecidableEq

namespace Shape

def text : Shape → String
  | vector length => "(" ++ length.repr ++ ",)"
  | matrix rows cols => "(" ++ rows.repr ++ ", " ++ cols.repr ++ ")"

/-- The number of values that a file of the shape holds. -/
def size : Shape → ℕ
  | vector length => length
  | matrix rows cols => rows * cols

def rows : Shape → ℕ
  | vector length => length
  | matrix rows _ => rows

end Shape

def headerDict (dtype shape : String) : String :=
  "\x7b'descr': '" ++ dtype ++ "', 'fortran_order': False, 'shape': " ++ shape ++ " \x7d"

/-- The spaces after the dictionary; ten bytes come before it and a newline at the end. -/
def headerPadding (header_len : ℕ) : ℕ := (64 - (10 + header_len + 1) % 64) % 64

def write_npy_header (dtype shape : String) : List Byte :=
  let header := utf8Bytes (headerDict dtype shape)
  let padding := headerPadding header.length
  [0x93] ++ utf8Bytes "NUMPY" ++ [0x01, 0x00] ++ leBytes 2 (header.length + 1 + padding) ++
    header ++ List.replicate padding 0x20 ++ [0x0a]

structure NpyFile (V : Type) where
  dtype : String
  shape : Shape
  values : List V
deriving DecidableEq

namespace NpyFile

variable {V : Type}

def header (file : NpyFile V) : List Byte := write_npy_header file.dtype file.shape.text

/-- The file holds the values that its header declares. -/
def Whole (file : NpyFile V) : Prop := file.values.length = file.shape.size

instance (file : NpyFile V) : Decidable file.Whole := by
  unfold Whole
  infer_instance

end NpyFile

def write_npy_1d_i64 (data : List ℤ) : NpyFile ℤ := ⟨"<i8", .vector data.length, data⟩

def write_npy_1d_bool (data : List Bool) : NpyFile Bool := ⟨"|b1", .vector data.length, data⟩

section Rows

variable {V : Type} (zero : V) (data : List (List V))

/-- The length of the first row. -/
def columns : ℕ := ((data.head?).map List.length).getD 0

/-- Short rows are filled up with zeros; longer rows are written as they are. -/
def paddedRows : List V :=
  data.flatMap fun row => row ++ List.replicate (columns data - row.length) zero

theorem length_paddedRows :
    (paddedRows zero data).length = (data.map fun row => max row.length (columns data)).sum := by
  rw [paddedRows, List.length_flatMap]
  congr 1
  apply List.map_congr_left
  intro row _
  rw [List.length_append, List.length_replicate]
  omega

end Rows

def write_npy_2d_i64 (data : List (List ℤ)) : NpyFile ℤ :=
  ⟨"<i8", .matrix data.length (columns data), paddedRows 0 data⟩

def write_npy_2d_f64 {F : Type} [Zero F] (data : List (List F)) : NpyFile F :=
  ⟨"<f8", .matrix data.length (columns data), paddedRows 0 data⟩

theorem whole_1d_i64 (data : List ℤ) : (write_npy_1d_i64 data).Whole := rfl

theorem whole_1d_bool (data : List Bool) : (write_npy_1d_bool data).Whole := rfl

theorem sum_max_eq_iff {lengths : List ℕ} {n : ℕ} :
    (lengths.map fun l => max l n).sum = lengths.length * n ↔ ∀ l ∈ lengths, l ≤ n := by
  have hge : ∀ lengths : List ℕ, lengths.length * n ≤ (lengths.map fun l => max l n).sum := by
    intro lengths
    induction lengths with
    | nil => simp
    | cons l rest ih =>
        rw [List.length_cons, List.map_cons, List.sum_cons, Nat.add_mul, Nat.one_mul]
        omega
  induction lengths with
  | nil => simp
  | cons l rest ih =>
      have hrest := hge rest
      rw [List.length_cons, List.map_cons, List.sum_cons, Nat.add_mul, Nat.one_mul,
        List.forall_mem_cons]
      constructor
      · intro h
        exact ⟨by omega, ih.mp (by omega)⟩
      · rintro ⟨hl, hall⟩
        have hsum := ih.mpr hall
        omega

/-- A matrix is whole if no row is longer than the first one. -/
theorem whole_2d_iff {F : Type} [Zero F] (data : List (List F)) :
    (write_npy_2d_f64 data).Whole ↔ ∀ row ∈ data, row.length ≤ columns data := by
  have hsum : (data.map fun row => max row.length (columns data)).sum =
      ((data.map List.length).map fun l => max l (columns data)).sum := by
    rw [List.map_map]
    rfl
  rw [NpyFile.Whole, write_npy_2d_f64, length_paddedRows, hsum, Shape.size]
  have hiff := @sum_max_eq_iff (data.map List.length) (columns data)
  rw [List.length_map] at hiff
  rw [hiff, List.forall_mem_map]

section Even

variable {V : Type} {data : List (List V)} {n : ℕ}

theorem columns_eq (h : ∀ row ∈ data, row.length = n) :
    ∀ row ∈ data, columns data = row.length := by
  intro row hrow
  obtain ⟨first, rest, rfl⟩ := List.exists_cons_of_ne_nil (List.ne_nil_of_mem hrow)
  rw [h row hrow]
  exact h first List.mem_cons_self

/-- Rows of one length are not filled up. -/
theorem paddedRows_eq_flatten (zero : V) (h : ∀ row ∈ data, row.length = n) :
    paddedRows zero data = data.flatten := by
  rw [paddedRows, ← List.flatMap_id]
  apply List.flatMap_congr
  intro row hrow
  rw [columns_eq h row hrow, Nat.sub_self, List.replicate_zero, List.append_nil, id]

end Even

theorem whole_2d_i64 {data : List (List ℤ)} {n : ℕ} (h : ∀ row ∈ data, row.length = n) :
    (write_npy_2d_i64 data).Whole := by
  have hlengths : (data.map fun row => max row.length (columns data)) =
      List.replicate data.length (columns data) := by
    rw [List.eq_replicate_iff]
    refine ⟨List.length_map .., ?_⟩
    rw [List.forall_mem_map]
    intro row hrow
    rw [columns_eq h row hrow, max_self]
  rw [NpyFile.Whole, write_npy_2d_i64, length_paddedRows, Shape.size, hlengths,
    List.sum_replicate_nat]

section Masks

/-- The state of the generator; a seed of zero stands for one. -/
def SimpleRng.new (seed : UInt64) : UInt64 := if seed = 0 then 1 else seed

def SimpleRng.next_u64 (state : UInt64) : UInt64 :=
  let x := state ^^^ (state <<< 13)
  let x := x ^^^ (x >>> 7)
  x ^^^ (x <<< 17)

/-- The swaps of the shuffle at the positions `i` down to one. -/
def shuffleFrom : ℕ → UInt64 → Array ℕ → Array ℕ
  | 0, _, indices => indices
  | i + 1, state, indices =>
      let x := SimpleRng.next_u64 state
      let j := x.toNat % (i + 2)
      shuffleFrom i x (indices.swapIfInBounds (i + 1) j)

/-- Set the marks of the places given. -/
def maskOf (n : ℕ) (places : List ℕ) : List Bool :=
  places.foldl (fun mask idx => mask.set idx true) (List.replicate n false)

structure Masks where
  train_mask : NpyFile Bool
  val_mask : NpyFile Bool
  test_mask : NpyFile Bool

/-- `truncated n ratio` is the float product `n * ratio` cut to a whole number. -/
def export_masks {F : Type} (truncated : ℕ → F → ℕ) (n : ℕ) (seed : UInt64)
    (train_ratio val_ratio : F) : Masks :=
  let train_size := truncated n train_ratio
  let val_size := truncated n val_ratio
  let indices := (shuffleFrom (n - 1) (SimpleRng.new seed) (Array.range n)).toList
  { train_mask := write_npy_1d_bool (maskOf n (indices.take train_size))
    val_mask := write_npy_1d_bool (maskOf n ((indices.drop train_size).take val_size))
    test_mask := write_npy_1d_bool (maskOf n (indices.drop (train_size + val_size))) }

end Masks

end Datasynth.Graphs.NpyWriter

/-!
The arrays that the PyTorch Geometric and the DGL exporter write for a graph.  The rows
of the features and the labels follow the ids of the edges; the edge index follows the
order in which the map of edges is iterated.
-/

namespace Datasynth.Graphs.ArrayExport

open Datasynth.Lib.HashIteration
open Datasynth.Lib.SortedEntries
open Datasynth.Graphs.Models
open Datasynth.Graphs.Models.Graph
open Datasynth.Graphs.NpyWriter

structure CommonExportConfig (F : Type) where
  export_node_features : Bool
  export_edge_features : Bool
  export_node_labels : Bool
  export_edge_labels : Bool
  export_masks : Bool
  train_ratio : F
  val_ratio : F
  seed : UInt64

structure DGLExportConfig (F : Type) where
  common : CommonExportConfig F
  heterogeneous : Bool

/-- The files of an export; those that are switched off are not there. -/
structure GraphFiles (F : Type) where
  edge_index : NpyFile ℤ
  node_features : Option (NpyFile F)
  edge_features : Option (NpyFile F)
  node_labels : Option (NpyFile ℤ)
  edge_labels : Option (NpyFile ℤ)
  masks : Option Masks
  node_type_indices : Option (NpyFile ℤ)
  edge_type_indices : Option (NpyFile ℤ)

variable {F : Type} (order : HashOrder) (g : Graph F)

/-- The row of a node in the arrays of the nodes. -/
def node_index (id : NodeId) : Option ℤ := ((sortedIds order g.nodes).idxOf? id).map Nat.cast

/-- The ends of an edge as rows, if both are nodes of the graph. -/
def remap (ends : NodeId × NodeId) : Option (ℤ × ℤ) :=
  (node_index order g ends.1).bind fun s => (node_index order g ends.2).map fun d => (s, d)

/-- Edges with missing node ids are skipped. -/
def remapped_edges : List (ℤ × ℤ) :=
  let (sources, targets) := g.edge_index order
  (sources.zip targets).filterMap (remap order g)

def PyGExporter.export_edge_index : NpyFile ℤ :=
  let remapped := remapped_edges order g
  write_npy_2d_i64 [remapped.map Prod.fst, remapped.map Prod.snd]

def DGLExporter.export_edge_index : NpyFile ℤ :=
  write_npy_2d_i64 ((remapped_edges order g).map fun e => [e.1, e.2])

def export_node_features [Zero F] : NpyFile F := write_npy_2d_f64 (g.node_features order)

def export_edge_features [Zero F] : NpyFile F := write_npy_2d_f64 (g.edge_features order)

def export_node_labels : NpyFile ℤ :=
  write_npy_1d_i64 ((g.node_anomaly_mask order).map fun b => if b then 1 else 0)

def export_edge_labels : NpyFile ℤ :=
  write_npy_1d_i64 ((g.edge_anomaly_mask order).map fun b => if b then 1 else 0)

/-- The place of a type among the keys of its index, an unknown one at the first. -/
def typeIndex {τ : Type} [DecidableEq τ] (types : List (τ × List ℕ)) (t : τ) : ℤ :=
  (((order.iter (types.map Prod.fst)).idxOf? t).getD 0 : ℕ)

def export_node_types : NpyFile ℤ :=
  write_npy_1d_i64 (((sortedIds order g.nodes).filterMap g.nodes.find?).map fun node =>
    typeIndex order g.nodes_by_type node.node_type)

def export_edge_types : NpyFile ℤ :=
  write_npy_1d_i64 (((sortedIds order g.edges).filterMap g.edges.find?).map fun edge =>
    typeIndex order g.edges_by_type edge.edge_type)

section Export

variable [Zero F] (truncated : ℕ → F → ℕ)

/-- The files that both exporters write alike, beside their edge index. -/
def export_common (config : CommonExportConfig F) (edge_index : NpyFile ℤ) : GraphFiles F where
  edge_index := edge_index
  node_features := if config.export_node_features then some (export_node_features order g) else none
  edge_features := if config.export_edge_features then some (export_edge_features order g) else none
  node_labels := if config.export_node_labels then some (export_node_labels order g) else none
  edge_labels := if config.export_edge_labels then some (export_edge_labels order g) else none
  masks := if config.export_masks then
      some (export_masks truncated g.nodes.entries.length config.seed config.train_ratio
        config.val_ratio)
    else none
  node_type_indices := none
  edge_type_indices := none

def PyGExporter.export_graph (config : CommonExportConfig F) : GraphFiles F :=
  export_common order g truncated config (PyGExporter.export_edge_index order g)

def DGLExporter.export_graph (config : DGLExportConfig F) : GraphFiles F :=
  { export_common order g truncated config.common (DGLExporter.export_edge_index order g) with
    node_type_indices :=
      if config.heterogeneous then some (export_node_types order g) else none
    edge_type_indices :=
      if config.heterogeneous then some (export_edge_types order g) else none }

end Export

/-- The edges whose features and labels are the rows of the arrays. -/
def rowEdges : List (GraphEdge F) := (sortedIds order g.edges).filterMap g.edges.find?

/-- The entries of an edge index of two rows, as it is loaded. -/
def columnPairs (file : NpyFile ℤ) : List (ℤ × ℤ) :=
  match file.shape with
  | .matrix _ cols => (file.values.take cols).zip (file.values.drop cols)
  | .vector _ => []

def pairs : List ℤ → List (ℤ × ℤ)
  | s :: d :: rest => (s, d) :: pairs rest
  | _ => []

/-- The entries of an edge index of two columns, as it is loaded. -/
def rowPairs (file : NpyFile ℤ) : List (ℤ × ℤ) := pairs file.values

/-- Every file holds the values that its header declares. -/
structure GraphFiles.AllWhole (files : GraphFiles F) : Prop where
  edge_index : files.edge_index.Whole
  node_features : ∀ file ∈ files.node_features, file.Whole
  edge_features : ∀ file ∈ files.edge_features, file.Whole
  node_labels : ∀ file ∈ files.node_labels, file.Whole
  edge_labels : ∀ file ∈ files.edge_labels, file.Whole
  masks : ∀ masks ∈ files.masks,
    masks.train_mask.Whole ∧ masks.val_mask.Whole ∧ masks.test_mask.Whole
  node_type_indices : ∀ file ∈ files.node_type_indices, file.Whole
  edge_type_indices : ∀ file ∈ files.edge_type_indices, file.Whole

/-- The files describe one graph, `entries` being those of the edge index. -/
structure DescribesOneGraph (files : GraphFiles F) (entries : List (ℤ × ℤ)) : Prop where
  feature_rows : ∀ file ∈ files.edge_features, file.shape.rows = entries.length
  label_rows : ∀ file ∈ files.edge_labels, file.shape.rows = entries.length
  same_edges : files.edge_features.isSome ∨ files.edge_labels.isSome →
    ∀ (k : ℕ) (edge : GraphEdge F), (rowEdges order g)[k]? = some edge →
      ∃ entry, remap order g edge.ends = some entry ∧ entries[k]? = some entry
  whole : files.AllWhole

/-- The ends of every edge are nodes of the graph. -/
def NoMissingNodes : Prop :=
  ∀ edge ∈ g.edges.values,
    (g.nodes.find? edge.source).isSome ∧ (g.nodes.find? edge.target).isSome

/-- The iteration comes upon the ends that the edges have in the order of their ids. -/
def VisitsInIdOrder : Prop :=
  (order.iter g.edges.values).map GraphEdge.ends = g.edges.values.map GraphEdge.ends

/-- No row has more features than the first one. -/
def FeaturesFit (rows : List (List F)) : Prop := ∀ row ∈ rows, row.length ≤ columns rows

/-- What the exports of a configuration rest on. -/
structure Exportable (config : CommonExportConfig F) : Prop where
  edges : config.export_edge_features ∨ config.export_edge_labels →
    NoMissingNodes g ∧ VisitsInIdOrder order g
  edge_features : config.export_edge_features → FeaturesFit (g.edges.values.map (·.features))
  node_features : config.export_node_features → FeaturesFit (g.nodes.values.map (·.features))

section Index

variable {order g}

theorem node_index_eq_none_iff {id : NodeId} :
    node_index order g id = none ↔ g.nodes.find? id = none := by
  rw [node_index, Option.map_eq_none_iff, List.idxOf?_eq_none_iff, sortedIds_eq_keys,
    OrderedMap.mem_keys_iff, Option.not_isSome_iff_eq_none]

theorem isSome_remap_iff {ends : NodeId × NodeId} :
    (remap order g ends).isSome ↔
      (g.nodes.find? ends.1).isSome ∧ (g.nodes.find? ends.2).isSome := by
  have hindex : ∀ id, (node_index order g id).isSome ↔ (g.nodes.find? id).isSome := by
    intro id
    rw [Option.isSome_iff_ne_none, Option.isSome_iff_ne_none, ne_eq, node_index_eq_none_iff]
  rw [← hindex, ← hindex, remap]
  cases node_index order g ends.1 <;> simp

theorem node_index_injective {a b : NodeId} {i : ℤ} (ha : node_index order g a = some i)
    (hb : node_index order g b = some i) : a = b := by
  obtain ⟨m, hm, rfl⟩ := Option.map_eq_some_iff.mp ha
  obtain ⟨n, hn, hmn⟩ := Option.map_eq_some_iff.mp hb
  obtain rfl := Int.ofNat_inj.mp hmn
  obtain ⟨hlt, hma, -⟩ := List.idxOf?_eq_some_iff.mp hm
  obtain ⟨hlt', hnb, -⟩ := List.idxOf?_eq_some_iff.mp hn
  exact hma.symm.trans hnb

theorem remap_injective {a b : NodeId × NodeId} {entry : ℤ × ℤ}
    (ha : remap order g a = some entry) (hb : remap order g b = some entry) : a = b := by
  obtain ⟨s, hs, ha⟩ := Option.bind_eq_some_iff.mp ha
  obtain ⟨d, hd, rfl⟩ := Option.map_eq_some_iff.mp ha
  obtain ⟨s', hs', hb⟩ := Option.bind_eq_some_iff.mp hb
  obtain ⟨d', hd', heq⟩ := Option.map_eq_some_iff.mp hb
  cases heq
  exact Prod.ext (node_index_injective hs hs') (node_index_injective hd hd')

theorem remapped_edges_eq :
    remapped_edges order g =
      ((order.iter g.edges.values).map GraphEdge.ends).filterMap (remap order g) := by
  show ((_ : List NodeId).zip _).filterMap _ = _
  rw [List.zip_map']
  rfl

theorem rowEdges_eq : rowEdges order g = g.edges.values := filterMap_sortedIds order g.edges

end Index

section Loaded

theorem columnPairs_export_edge_index :
    columnPairs (PyGExporter.export_edge_index order g) = remapped_edges order g := by
  generalize hentries : remapped_edges order g = entries
  have hvalues : (PyGExporter.export_edge_index order g).values =
      entries.map Prod.fst ++ entries.map Prod.snd := by
    simp [PyGExporter.export_edge_index, hentries, write_npy_2d_i64, paddedRows, columns]
  have hcols : (PyGExporter.export_edge_index order g).shape = .matrix 2 entries.length := by
    simp [PyGExporter.export_edge_index, hentries, write_npy_2d_i64, columns]
  rw [columnPairs, hcols, hvalues]
  dsimp only
  rw [List.take_left' (List.length_map _), List.drop_left' (List.length_map _), List.zip_map']
  exact List.map_id _

theorem whole_pyg_edge_index : (PyGExporter.export_edge_index order g).Whole := by
  apply whole_2d_i64 (n := (remapped_edges order g).length)
  simp

theorem rowPairs_export_edge_index :
    rowPairs (DGLExporter.export_edge_index order g) = remapped_edges order g := by
  have hpairs : ∀ entries : List (ℤ × ℤ),
      pairs (entries.map fun e => [e.1, e.2]).flatten = entries := by
    intro entries
    induction entries with
    | nil => rfl
    | cons e rest ih =>
        rw [List.map_cons, List.flatten_cons, List.cons_append, List.cons_append,
          List.nil_append, pairs, ih]
  rw [rowPairs, DGLExporter.export_edge_index, write_npy_2d_i64]
  dsimp only
  rw [paddedRows_eq_flatten (n := 2) 0 (List.forall_mem_map.mpr fun _ _ => rfl), hpairs]

theorem whole_dgl_edge_index : (DGLExporter.export_edge_index order g).Whole := by
  apply whole_2d_i64 (n := 2)
  exact List.forall_mem_map.mpr fun _ _ => rfl

end Loaded

theorem eq_of_map_eq {α β : Type} {f : α → β} {l l' : List α}
    (hinj : ∀ a ∈ l, ∀ b ∈ l', f a = f b → a = b) (h : l.map f = l'.map f) : l = l' := by
  induction l generalizing l' with
  | nil => rw [List.map_nil, eq_comm, List.map_eq_nil_iff] at h; exact h.symm
  | cons a l ih =>
      obtain ⟨b, l', rfl, hb, hl⟩ := List.map_eq_cons_iff.mp h.symm
      rw [hinj a List.mem_cons_self b List.mem_cons_self hb.symm,
        ih (fun a ha b hb => hinj a (List.mem_cons_of_mem _ ha) b (List.mem_cons_of_mem _ hb))
          hl.symm]

theorem map_some_filterMap {α β : Type} {f : α → Option β} {l : List α}
    (h : ∀ a ∈ l, (f a).isSome) : (l.filterMap f).map some = l.map f := by
  induction l with
  | nil => rfl
  | cons a l ih =>
      obtain ⟨b, hb⟩ := Option.isSome_iff_exists.mp (h a List.mem_cons_self)
      rw [List.filterMap_cons_some hb, List.map_cons, List.map_cons, hb,
        ih fun a' ha' => h a' (List.mem_cons_of_mem _ ha')]

variable {order g}

/-- The rows are aligned if no edge is skipped and none comes out of order. -/
theorem aligned_iff :
    ((remapped_edges order g).length = g.edges.values.length ∧
        ∀ (k : ℕ) (edge : GraphEdge F), (rowEdges order g)[k]? = some edge →
          ∃ entry, remap order g edge.ends = some entry ∧
            (remapped_edges order g)[k]? = some entry) ↔
      NoMissingNodes g ∧ VisitsInIdOrder order g := by
  have hperm := order.perm g.edges.values
  have hlength : ((order.iter g.edges.values).map GraphEdge.ends).length =
      g.edges.values.length := by
    rw [List.length_map, hperm.length_eq]
  have hall : (∀ ends ∈ (order.iter g.edges.values).map GraphEdge.ends,
      (remap order g ends).isSome) ↔ NoMissingNodes g := by
    rw [List.forall_mem_map]
    simp only [isSome_remap_iff, hperm.mem_iff]
    rfl
  rw [remapped_edges_eq, rowEdges_eq, ← hlength, List.filterMap_length_eq_length, hall]
  apply and_congr_right
  intro hno
  have hsome := hall.mpr hno
  have hentries := map_some_filterMap hsome
  have hat : ∀ k : ℕ, ((((order.iter g.edges.values).map GraphEdge.ends).filterMap
      (remap order g))[k]?).map some =
        (((order.iter g.edges.values).map GraphEdge.ends)[k]?).map (remap order g) := by
    intro k
    rw [← List.getElem?_map, hentries, List.getElem?_map]
  constructor
  · intro h
    -- Where the entries are the same, so are the ends: both are nodes of the graph.
    apply eq_of_map_eq (f := remap order g)
    · intro a ha b _ hab
      obtain ⟨entry, hentry⟩ := Option.isSome_iff_exists.mp (hsome a ha)
      exact remap_injective hentry (hab ▸ hentry)
    · apply List.ext_getElem?
      intro k
      rw [List.getElem?_map, ← hat, List.getElem?_map, List.getElem?_map]
      cases hk : g.edges.values[k]? with
      | none =>
          have hlast := List.getElem?_eq_none_iff.mp hk
          rw [List.getElem?_eq_none]
          · rfl
          · have hle := List.length_filterMap_le (remap order g)
              ((order.iter g.edges.values).map GraphEdge.ends)
            omega
      | some edge =>
          obtain ⟨entry, hremap, hentry⟩ := h k edge hk
          rw [hentry, Option.map_some, Option.map_some, Option.map_some, hremap]
  · intro hvisits k edge hk
    have hnodes := hno edge (List.mem_of_getElem? hk)
    obtain ⟨entry, hentry⟩ :=
      Option.isSome_iff_exists.mp ((@isSome_remap_iff _ order g edge.ends).mpr hnodes)
    have hk' := hat k
    rw [hvisits, List.getElem?_map, hk, Option.map_some, Option.map_some, hentry] at hk'
    obtain ⟨entry', hentry', heq⟩ := Option.map_eq_some_iff.mp hk'
    cases Option.some.inj heq
    rw [hvisits]
    exact ⟨entry, hentry, hentry'⟩

section Files

variable [Zero F] {truncated : ℕ → F → ℕ}

theorem whole_node_features_iff :
    (export_node_features order g).Whole ↔ FeaturesFit (g.nodes.values.map (·.features)) := by
  rw [export_node_features, whole_2d_iff, node_features, filterMap_sortedIds]
  rfl

theorem whole_edge_features_iff :
    (export_edge_features order g).Whole ↔ FeaturesFit (g.edges.values.map (·.features)) := by
  rw [export_edge_features, whole_2d_iff, edge_features, filterMap_sortedIds]
  rfl

theorem rows_edge_features : (export_edge_features order g).shape.rows = g.edges.values.length := by
  show (g.edge_features order).length = _
  rw [edge_features, filterMap_sortedIds, List.length_map]

omit [Zero F] in
theorem rows_edge_labels : (export_edge_labels order g).shape.rows = g.edges.values.length := by
  show ((g.edge_anomaly_mask order).map _).length = _
  rw [edge_anomaly_mask, filterMap_sortedIds, List.length_map, List.length_map]

theorem forall_mem_ite_iff {α : Type} {p : Prop} [Decidable p] {a : α} {P : α → Prop} :
    (∀ x ∈ (if p then some a else none), P x) ↔ (p → P a) := by
  by_cases hp : p <;> simp [hp]

/-- The common files describe the graph of an edge index that is whole. -/
theorem describesOneGraph_common (truncated : ℕ → F → ℕ) {config : CommonExportConfig F}
    {edge_index : NpyFile ℤ} (hindex : edge_index.Whole) :
    DescribesOneGraph order g (export_common order g truncated config edge_index)
        (remapped_edges order g) ↔ Exportable order g config := by
  have hswitched : (export_common order g truncated config edge_index).edge_features.isSome ∨
      (export_common order g truncated config edge_index).edge_labels.isSome ↔
        config.export_edge_features ∨ config.export_edge_labels := by
    simp [export_common]
  constructor
  · intro h
    refine ⟨fun hon => ?_, ?_, ?_⟩
    · refine aligned_iff.mp ⟨?_, h.same_edges (hswitched.mpr hon)⟩
      rcases hon with hfeatures | hlabels
      · rw [← h.feature_rows _ (if_pos hfeatures), rows_edge_features]
      · rw [← h.label_rows _ (if_pos hlabels), rows_edge_labels]
    · intro hon
      exact whole_edge_features_iff.mp (h.whole.edge_features _ (if_pos hon))
    · intro hon
      exact whole_node_features_iff.mp (h.whole.node_features _ (if_pos hon))
  · intro h
    refine ⟨?_, ?_, fun hon => (aligned_iff.mpr (h.edges (hswitched.mp hon))).2, ?_⟩
    · exact forall_mem_ite_iff.mpr fun hon =>
        rows_edge_features.trans (aligned_iff.mpr (h.edges (.inl hon))).1.symm
    · exact forall_mem_ite_iff.mpr fun hon =>
        rows_edge_labels.trans (aligned_iff.mpr (h.edges (.inr hon))).1.symm
    · constructor
      · exact hindex
      · exact forall_mem_ite_iff.mpr fun hon => whole_node_features_iff.mpr (h.node_features hon)
      · exact forall_mem_ite_iff.mpr fun hon => whole_edge_features_iff.mpr (h.edge_features hon)
      · exact forall_mem_ite_iff.mpr fun _ => whole_1d_i64 _
      · exact forall_mem_ite_iff.mpr fun _ => whole_1d_i64 _
      · refine forall_mem_ite_iff.mpr fun _ => ⟨?_, ?_, ?_⟩ <;> exact whole_1d_bool _
      · simp [export_common]
      · simp [export_common]

theorem describesOneGraph_pyg {config : CommonExportConfig F} :
    DescribesOneGraph order g (PyGExporter.export_graph order g truncated config)
        (columnPairs (PyGExporter.export_edge_index order g)) ↔ Exportable order g config := by
  rw [columnPairs_export_edge_index]
  exact describesOneGraph_common truncated (whole_pyg_edge_index order g)

theorem describesOneGraph_dgl {config : DGLExportConfig F} :
    DescribesOneGraph order g (DGLExporter.export_graph order g truncated config)
        (rowPairs (DGLExporter.export_edge_index order g)) ↔
      Exportable order g config.common := by
  rw [rowPairs_export_edge_index,
    ← describesOneGraph_common truncated (whole_dgl_edge_index order g)]
  -- The files of the types, which the others lack, are whole in any case.
  constructor
  · rintro ⟨hfeatures, hlabels, hsame, hwhole⟩
    obtain ⟨h1, h2, h3, h4, h5, h6, -, -⟩ := hwhole
    refine ⟨hfeatures, hlabels, hsame, h1, h2, h3, h4, h5, h6, ?_, ?_⟩
    · simp [export_common]
    · simp [export_common]
  · rintro ⟨hfeatures, hlabels, hsame, hwhole⟩
    obtain ⟨h1, h2, h3, h4, h5, h6, -, -⟩ := hwhole
    refine ⟨hfeatures, hlabels, hsame, h1, h2, h3, h4, h5, h6, ?_, ?_⟩
    · exact forall_mem_ite_iff.mpr fun _ => whole_1d_i64 _
    · exact forall_mem_ite_iff.mpr fun _ => whole_1d_i64 _

end Files

/-- Both exporters write one graph exactly where no end is missing, the map of edges is
iterated in the order of the ids and no row is longer than the first. -/
theorem exports_describe_one_graph_iff [Zero F] (truncated : ℕ → F → ℕ) (order : HashOrder)
    (g : Graph F) (pyg : CommonExportConfig F) (dgl : DGLExportConfig F) :
    (DescribesOneGraph order g (PyGExporter.export_graph order g truncated pyg)
          (columnPairs (PyGExporter.export_edge_index order g)) ↔ Exportable order g pyg) ∧
      (DescribesOneGraph order g (DGLExporter.export_graph order g truncated dgl)
          (rowPairs (DGLExporter.export_edge_index order g)) ↔
        Exportable order g dgl.common) :=
  ⟨describesOneGraph_pyg, describesOneGraph_dgl⟩

section LaterEdgeFirst

def reversed : HashOrder := ⟨List.reverse, fun entries => entries.reverse_perm⟩

def accountNode : GraphNode ℤ := GraphNode.new 0 .account

/-- Two payments in a row, the second one anomalous. -/
def twoPayments : Graph ℤ :=
  ((((Graph.new.add_node accountNode).add_node accountNode).add_node accountNode).add_edge
    { GraphEdge.new 0 1 2 .transaction with features := [10] }).add_edge
      { GraphEdge.new 0 2 3 .transaction with features := [20], is_anomaly := true }

def allFiles : CommonExportConfig ℤ where
  export_node_features := true
  export_edge_features := true
  export_node_labels := true
  export_edge_labels := true
  export_masks := true
  train_ratio := 1
  val_ratio := 0
  seed := 42

theorem not_exportable_reversed : ¬ Exportable reversed twoPayments allFiles := by
  intro h
  have hvisits := (h.edges (.inl rfl)).2
  exact absurd hvisits (by unfold VisitsInIdOrder; decide)

/-- An iteration that comes upon the later edge first permutes the edge index only. -/
theorem reversed_iteration_permutes_labels :
    ¬ DescribesOneGraph reversed twoPayments
          (PyGExporter.export_graph reversed twoPayments (fun n _ => n) allFiles)
          (columnPairs (PyGExporter.export_edge_index reversed twoPayments)) ∧
      ¬ DescribesOneGraph reversed twoPayments
          (DGLExporter.export_graph reversed twoPayments (fun n _ => n) ⟨allFiles, false⟩)
          (rowPairs (DGLExporter.export_edge_index reversed twoPayments)) :=
  ⟨fun h => not_exportable_reversed (describesOneGraph_pyg.mp h),
    fun h => not_exportable_reversed (describesOneGraph_dgl.mp h)⟩

end LaterEdgeFirst

end Datasynth.Graphs.ArrayExport
