import Mathlib.Tactic.NormNum
import Datasynth.Graphs.SplitContract

/-!
Splits by date: edges go by their dates, nodes with the first edge they are an end of, so
that a node without edges goes nowhere.
-/

namespace Datasynth.Graphs.TemporalSplits

open Datasynth.Graphs.DataSplits
open Datasynth.Graphs.Models
open Datasynth.Graphs.SplitContract
open Datasynth.Graphs.SplitParts
open Datasynth.Lib.CivilCalendar
open Datasynth.Lib.HashIteration
open Datasynth.Lib.SortedEntries

section Temporal

variable {F : Type} {g : Graph F} {config : SplitConfig} {order order' : HashOrder}
variable {train_cutoff val_cutoff : Date}

theorem mem_edgesIn_iff {part : Part} {id : EdgeId} :
    id ∈ edgesIn order g config train_cutoff val_cutoff part ↔
      ∃ edge, g.edges.find? id = some edge ∧
        temporalPart config train_cutoff val_cutoff id edge = part := by
  rw [edgesIn, List.mem_map]
  constructor
  · rintro ⟨⟨id, edge⟩, he, rfl⟩
    obtain ⟨hmem, hpart⟩ := List.mem_filter.mp he
    exact ⟨edge, (g.edges.mem_entries_iff).mp ((order.perm _).mem_iff.mp hmem),
      of_decide_eq_true hpart⟩
  · rintro ⟨edge, hfind, hpart⟩
    have hmem := (order.perm _).mem_iff.mpr ((g.edges.mem_entries_iff).mpr hfind)
    exact ⟨(id, edge), List.mem_filter.mpr ⟨hmem, decide_eq_true hpart⟩, rfl⟩

theorem filter_parts_perm {α : Type} (part : α → Part) (l : List α) :
    (l.filter (part · = .train) ++ l.filter (part · = .val) ++ l.filter (part · = .test)).Perm
      l := by
  induction l with
  | nil => exact List.Perm.refl []
  | cons a l ih =>
      cases hpart : part a with
      | train => simpa [hpart] using ih.cons a
      | val =>
          simp only [List.filter_cons, hpart, reduceCtorEq, decide_false, decide_true, if_true,
            Bool.false_eq_true, if_false, List.append_assoc, List.cons_append]
          apply List.perm_middle.trans
          rw [← List.append_assoc]
          exact ih.cons a
      | test =>
          simp only [List.filter_cons, hpart, reduceCtorEq, decide_false, decide_true, if_true,
            Bool.false_eq_true, if_false]
          exact List.perm_middle.trans (ih.cons a)

theorem edgesIn_perm :
    (edgesIn order g config train_cutoff val_cutoff .train ++
      edgesIn order g config train_cutoff val_cutoff .val ++
      edgesIn order g config train_cutoff val_cutoff .test).Perm g.edges.keys := by
  rw [edgesIn, edgesIn, edgesIn, ← List.map_append, ← List.map_append]
  apply List.Perm.map
  exact (filter_parts_perm
    (fun e : EdgeId × GraphEdge F => temporalPart config train_cutoff val_cutoff e.1 e.2) _).trans
    (order.perm _)

section Ends

variable (g) (keep : NodeId → Bool)

theorem mem_insertEnds_iff {nodes : List NodeId} {id : EdgeId} {x : NodeId} :
    x ∈ insertEnds g keep nodes id ↔ x ∈ nodes ∨ keep x = true ∧
      ∃ edge, g.edges.find? id = some edge ∧ (x = edge.source ∨ x = edge.target) := by
  have hinsert : ∀ (nodes : List NodeId) (y : NodeId),
      x ∈ (if keep y then nodes.insert y else nodes) ↔ x ∈ nodes ∨ keep x = true ∧ x = y := by
    intro nodes y
    split
    · rename_i hkeep
      rw [List.mem_insert_iff]
      constructor
      · rintro (rfl | hx)
        · exact .inr ⟨hkeep, rfl⟩
        · exact .inl hx
      · rintro (hx | ⟨-, rfl⟩)
        · exact .inr hx
        · exact .inl rfl
    · rename_i hdrop
      refine ⟨.inl, ?_⟩
      rintro (hx | ⟨hkeep, rfl⟩)
      · exact hx
      · exact absurd hkeep hdrop
  rw [insertEnds]
  cases hfind : g.edges.find? id with
  | none => simp
  | some edge =>
      dsimp only
      rw [hinsert, hinsert]
      simp only [Option.some.injEq, exists_eq_left']
      tauto

theorem mem_endsWhere_iff {ids : List EdgeId} {x : NodeId} :
    x ∈ endsWhere g keep ids ↔ keep x = true ∧
      ∃ id ∈ ids, ∃ edge, g.edges.find? id = some edge ∧ (x = edge.source ∨ x = edge.target) := by
  have hfold : ∀ nodes, x ∈ ids.foldl (insertEnds g keep) nodes ↔ x ∈ nodes ∨ keep x = true ∧
      ∃ id ∈ ids, ∃ edge, g.edges.find? id = some edge ∧ (x = edge.source ∨ x = edge.target) := by
    induction ids with
    | nil => simp
    | cons id ids ih =>
        intro nodes
        rw [List.foldl_cons, ih, mem_insertEnds_iff, or_assoc, ← and_or_left]
        simp only [List.mem_cons, exists_eq_or_imp]
  rw [endsWhere, hfold]
  simp

theorem endsWhere_nodup (ids : List EdgeId) : (endsWhere g keep ids).Nodup := by
  have hstep : ∀ nodes id, List.Nodup nodes → (insertEnds g keep nodes id).Nodup := by
    intro nodes id hnodes
    have hinsert : ∀ (nodes : List NodeId) (y : NodeId), nodes.Nodup →
        (if keep y then nodes.insert y else nodes).Nodup := by
      intro nodes y h
      split
      · exact h.insert
      · exact h
    rw [insertEnds]
    split
    · exact hinsert _ _ (hinsert _ _ hnodes)
    · exact hnodes
  have hfold : ∀ nodes, List.Nodup nodes → (ids.foldl (insertEnds g keep) nodes).Nodup := by
    induction ids with
    | nil => exact fun nodes h => h
    | cons id ids ih => exact fun nodes h => ih _ (hstep nodes id h)
  exact hfold [] List.nodup_nil

end Ends

/-- An end of an edge of the part. -/
def EndIn (g : Graph F) (config : SplitConfig) (train_cutoff val_cutoff : Date) (part : Part)
    (x : NodeId) : Prop :=
  ∃ id edge, g.edges.find? id = some edge ∧
    temporalPart config train_cutoff val_cutoff id edge = part ∧
    (x = edge.source ∨ x = edge.target)

theorem mem_endsWhere_edgesIn_iff (keep : NodeId → Bool) {part : Part} {x : NodeId} :
    x ∈ endsWhere g keep (edgesIn order g config train_cutoff val_cutoff part) ↔
      keep x = true ∧ EndIn g config train_cutoff val_cutoff part x := by
  rw [mem_endsWhere_iff]
  apply and_congr_right
  intro _
  constructor
  · rintro ⟨id, hid, edge, hfind, hend⟩
    obtain ⟨edge', hfind', hpart⟩ := mem_edgesIn_iff.mp hid
    cases hfind.symm.trans hfind'
    exact ⟨id, edge, hfind, hpart, hend⟩
  · rintro ⟨id, edge, hfind, hpart, hend⟩
    exact ⟨id, mem_edgesIn_iff.mpr ⟨edge, hfind, hpart⟩, edge, hfind, hend⟩

theorem mem_train_nodes_iff {x : NodeId} :
    x ∈ (temporal_split order g config train_cutoff val_cutoff).train_nodes ↔
      EndIn g config train_cutoff val_cutoff .train x := by
  simp only [temporal_split, (order.perm _).mem_iff, mem_endsWhere_edgesIn_iff, true_and]

theorem mem_val_nodes_iff {x : NodeId} :
    x ∈ (temporal_split order g config train_cutoff val_cutoff).val_nodes ↔
      ¬ EndIn g config train_cutoff val_cutoff .train x ∧
        EndIn g config train_cutoff val_cutoff .val x := by
  simp only [temporal_split, (order.perm _).mem_iff, mem_endsWhere_edgesIn_iff, true_and,
    decide_eq_true_eq]

theorem mem_test_nodes_iff {x : NodeId} :
    x ∈ (temporal_split order g config train_cutoff val_cutoff).test_nodes ↔
      ¬ EndIn g config train_cutoff val_cutoff .train x ∧
        ¬ EndIn g config train_cutoff val_cutoff .val x ∧
        EndIn g config train_cutoff val_cutoff .test x := by
  simp only [temporal_split, (order.perm _).mem_iff, mem_endsWhere_edgesIn_iff, true_and,
    decide_eq_true_eq, Bool.and_eq_true]
  tauto

theorem exists_endIn_iff (g : Graph F) (config : SplitConfig) (train_cutoff val_cutoff : Date)
    (x : NodeId) :
    (EndIn g config train_cutoff val_cutoff .train x ∨
      EndIn g config train_cutoff val_cutoff .val x ∨
      EndIn g config train_cutoff val_cutoff .test x) ↔
      ∃ edge ∈ g.edges.values, x = edge.source ∨ x = edge.target := by
  constructor
  · have hany : ∀ {part}, EndIn g config train_cutoff val_cutoff part x →
        ∃ edge ∈ g.edges.values, x = edge.source ∨ x = edge.target := by
      rintro part ⟨id, edge, hfind, -, hend⟩
      exact ⟨edge, (g.edges.mem_values_iff).mpr ⟨id, hfind⟩, hend⟩
    rintro (h | h | h)
    · exact hany h
    · exact hany h
    · exact hany h
  · rintro ⟨edge, hedge, hend⟩
    obtain ⟨id, hfind⟩ := (g.edges.mem_values_iff).mp hedge
    cases hpart : temporalPart config train_cutoff val_cutoff id edge with
    | train => exact .inl ⟨id, edge, hfind, hpart, hend⟩
    | val => exact .inr (.inl ⟨id, edge, hfind, hpart, hend⟩)
    | test => exact .inr (.inr ⟨id, edge, hfind, hpart, hend⟩)

theorem nodeParts_nodup :
    ((temporal_split order g config train_cutoff val_cutoff).train_nodes ++
      (temporal_split order g config train_cutoff val_cutoff).val_nodes ++
      (temporal_split order g config train_cutoff val_cutoff).test_nodes).Nodup := by
  have hnodup : ∀ keep ids, (order.iter (endsWhere g keep ids)).Nodup :=
    fun keep ids => (order.perm _).nodup_iff.mpr (endsWhere_nodup g keep ids)
  rw [List.nodup_append', List.nodup_append']
  refine ⟨⟨hnodup _ _, hnodup _ _, ?_⟩, hnodup _ _, ?_⟩
  · intro x htrain hval
    exact (mem_val_nodes_iff.mp hval).1 (mem_train_nodes_iff.mp htrain)
  · intro x hx htest
    obtain ⟨hnottrain, hnotval, -⟩ := mem_test_nodes_iff.mp htest
    rcases List.mem_append.mp hx with htrain | hval
    · exact hnottrain (mem_train_nodes_iff.mp htrain)
    · exact hnotval (mem_val_nodes_iff.mp hval).2

/-- The nodes are partitioned when each of them is an end of an edge. -/
theorem temporal_partitions_iff (hgraph : g.Adjacent) :
    Partitions g (temporal_split order g config train_cutoff val_cutoff) ↔
      ∀ id ∈ g.nodes.keys, ∃ edge ∈ g.edges.values, id = edge.source ∨ id = edge.target := by
  have hmem : ∀ x, x ∈ (temporal_split order g config train_cutoff val_cutoff).train_nodes ++
      (temporal_split order g config train_cutoff val_cutoff).val_nodes ++
      (temporal_split order g config train_cutoff val_cutoff).test_nodes ↔
        ∃ edge ∈ g.edges.values, x = edge.source ∨ x = edge.target := by
    intro x
    rw [← exists_endIn_iff g config train_cutoff val_cutoff x, List.mem_append, List.mem_append,
      mem_train_nodes_iff, mem_val_nodes_iff, mem_test_nodes_iff]
    tauto
  constructor
  · intro h id hid
    exact (hmem id).mp (h.nodes.mem_iff.mpr hid)
  · intro hends
    refine ⟨(List.perm_ext_iff_of_nodup nodeParts_nodup g.nodes.keys_nodup).mpr ?_, edgesIn_perm⟩
    intro x
    rw [hmem]
    refine ⟨?_, hends x⟩
    rintro ⟨edge, hedge, hend⟩
    obtain ⟨id, hfind⟩ := (g.edges.mem_values_iff).mp hedge
    rw [OrderedMap.mem_keys_iff]
    rcases hend with rfl | rfl
    · exact (hgraph.ends hfind).1
    · exact (hgraph.ends hfind).2

theorem temporal_datedInOrder :
    DatedInOrder g (temporal_split order g config train_cutoff val_cutoff) := by
  intro id id' edge edge' date date' hfind hfind' hdate hdate' hlt
  have hpart : temporalPart config train_cutoff val_cutoff id edge =
      if date < train_cutoff then .train else if date < val_cutoff then .val else .test := by
    rw [temporalPart, hdate]
  have hpart' : temporalPart config train_cutoff val_cutoff id' edge' =
      if date' < train_cutoff then .train else if date' < val_cutoff then .val else .test := by
    rw [temporalPart, hdate']
  constructor
  · intro htrain
    obtain ⟨_, hsame, hin⟩ := mem_edgesIn_iff.mp htrain
    cases hfind'.symm.trans hsame
    rw [hpart'] at hin
    have hbefore : date' < train_cutoff := by
      by_contra hlate
      rw [if_neg hlate] at hin
      split at hin <;> cases hin
    exact mem_edgesIn_iff.mpr ⟨edge, hfind, hpart.trans (if_pos (hlt.trans hbefore))⟩
  · intro hval htest
    obtain ⟨_, hsame, hin⟩ := mem_edgesIn_iff.mp hval
    cases hfind'.symm.trans hsame
    obtain ⟨_, hsame', hlate⟩ := mem_edgesIn_iff.mp htest
    cases hfind.symm.trans hsame'
    rw [hpart'] at hin
    rw [hpart] at hlate
    have hbefore : date' < val_cutoff := by
      by_contra hafter
      rw [if_neg hafter] at hin
      split at hin <;> cases hin
    rw [if_pos (hlt.trans hbefore)] at hlate
    split at hlate <;> cases hlate

theorem temporal_sameParts :
    SameParts (temporal_split order g config train_cutoff val_cutoff)
      (temporal_split order' g config train_cutoff val_cutoff) := by
  have hedges : ∀ part, (edgesIn order g config train_cutoff val_cutoff part).Perm
      (edgesIn order' g config train_cutoff val_cutoff part) := by
    intro part
    exact (((order.perm _).trans (order'.perm _).symm).filter _).map _
  have hnodup : ∀ (order : HashOrder) keep ids, (order.iter (endsWhere g keep ids)).Nodup :=
    fun order keep ids => (order.perm _).nodup_iff.mpr (endsWhere_nodup g keep ids)
  refine ⟨⟨?_, ?_, ?_⟩, hedges .train, hedges .val, hedges .test⟩ <;>
    apply (List.perm_ext_iff_of_nodup (hnodup _ _ _) (hnodup _ _ _)).mpr <;>
    intro x
  · exact mem_train_nodes_iff.trans mem_train_nodes_iff.symm
  · exact mem_val_nodes_iff.trans mem_val_nodes_iff.symm
  · exact mem_test_nodes_iff.trans mem_test_nodes_iff.symm

theorem temporal_meetsContract_iff (hgraph : g.Adjacent)
    (htemporal : config.strategy = .temporal train_cutoff val_cutoff) :
    MeetsContract g config ↔ Determined g config := by
  have hsplit : ∀ order, split order g config =
      some (temporal_split order g config train_cutoff val_cutoff) := fun order => by
    rw [split, htemporal]
  rw [meetsContract_iff_of_parts hsplit]
  simp only [Promised, htemporal, Determined, temporal_partitions_iff hgraph]
  constructor
  · rintro ⟨hparts, -⟩
    exact (hparts .insertion).1
  · intro hends
    exact ⟨fun _ => ⟨hends, temporal_datedInOrder⟩, fun _ _ => temporal_sameParts⟩

/-- A split is what it promises, in every run, exactly when what is shuffled goes into
one part and, for dates, no node is isolated. -/
theorem split_meetsContract_iff (hgraph : g.Multigraph) (hratios : ValidRatios config)
    (hfold : ValidFold config) : MeetsContract g config ↔ Determined g config := by
  cases hstrategy : config.strategy with
  | random => exact random_meetsContract_iff hratios hstrategy
  | temporal => exact temporal_meetsContract_iff hgraph.adjacent hstrategy
  | stratified => exact stratified_meetsContract_iff hratios hstrategy
  | kFold k fold =>
      rw [ValidFold, hstrategy] at hfold
      exact kfold_meetsContract_iff hfold hstrategy
  | transductive => exact transductive_meetsContract_iff hratios hstrategy

end Temporal

def twoAccounts : Graph ℚ := (Graph.new.add_node (.new 0 .account)).add_node (.new 0 .account)

def linkedAccounts : Graph ℚ := twoAccounts.add_edge (.new 0 1 2 .transaction)

theorem twoAccounts_multigraph : twoAccounts.Multigraph := .add_node (.add_node .new _) _

theorem linkedAccounts_multigraph : linkedAccounts.Multigraph :=
  twoAccounts_multigraph.add_edge _ rfl rfl

def byDate : SplitConfig :=
  { SplitConfig.default with strategy := .temporal (.ofYmd 2024 1 1) (.ofYmd 2024 7 1) }

theorem default_ratios : ValidRatios SplitConfig.default := by
  constructor <;> simp only [SplitConfig.default] <;> norm_num

/-- Two linked accounts are split by date as promised. -/
theorem linkedAccounts_split : MeetsContract linkedAccounts byDate := by
  have hratios : ValidRatios byDate :=
    ⟨default_ratios.train_nonneg, default_ratios.val_nonneg, default_ratios.sum_le_one⟩
  apply (split_meetsContract_iff linkedAccounts_multigraph hratios trivial).mpr
  intro id hid
  have hkeys : linkedAccounts.nodes.keys = [1, 2] := rfl
  rw [hkeys, List.mem_pair] at hid
  exact ⟨_, List.mem_singleton_self _, hid⟩

/-- Without a link no part of a split by date has the accounts, and a random split of
the linked ones depends on the order of the hash map. -/
theorem twoAccounts_split_fails :
    ¬ MeetsContract twoAccounts byDate ∧ ¬ MeetsContract linkedAccounts SplitConfig.default := by
  constructor
  · intro hmeets
    have hends : Determined twoAccounts byDate :=
      (temporal_meetsContract_iff twoAccounts_multigraph.adjacent rfl).mp hmeets
    have hfirst : 1 ∈ twoAccounts.nodes.keys := by decide
    obtain ⟨edge, hedge, -⟩ := hends 1 hfirst
    cases hedge
  · rw [random_meetsContract_iff default_ratios rfl]
    rintro ⟨hnodes, -⟩
    have htrain : partSize 2 SplitConfig.default.train_ratio = 1 := by
      norm_num [partSize, SplitConfig.default, Nat.floor_eq_iff]
    have hval : partSize 2 SplitConfig.default.val_ratio = 0 := by
      norm_num [partSize, SplitConfig.default, Nat.floor_eq_iff]
    have hcount : linkedAccounts.nodes.values.length = 2 := rfl
    rw [hcount, Unmixed, htrain, hval] at hnodes
    omega

end Datasynth.Graphs.TemporalSplits
