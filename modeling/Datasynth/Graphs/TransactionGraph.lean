import Mathlib.Algebra.BigOperators.Ring.List
import Mathlib.Algebra.Order.BigOperators.Group.List
import Mathlib.Algebra.Order.Field.Basic
import Mathlib.Algebra.Order.Ring.Rat
import Mathlib.Data.Prod.Lex
import Mathlib.Algebra.Order.Field.Rat
import Mathlib.Data.String.Basic
import Mathlib.Tactic.Positivity
import Mathlib.Tactic.Ring
import Datasynth.Core.JournalEntries
import Datasynth.Graphs.Models
import Datasynth.Lib.ProportionalShares

/-!
The transaction graph of journal entries: an edge from every account debited to every
account credited, weighted with its share of the amounts.  Amounts and weights are exact
rationals.
-/

namespace Datasynth.Graphs.TransactionGraph

open Datasynth.Core.JournalEntries
open Datasynth.Graphs.Models
open Datasynth.Graphs.Models.Graph
open Datasynth.Lib.CivilCalendar
open Datasynth.Lib.HashIteration
open Datasynth.Lib.ProportionalShares
open Datasynth.Lib.SortedEntries

structure TransactionGraphConfig where
  min_edge_weight : ℚ
  aggregate_parallel_edges : Bool

structure FlaggedEntry extends JournalEntry where
  is_anomaly : Bool

structure AggregatedEdge where
  total_weight : ℚ
  count : ℕ
  first_date : Date
  last_date : Date

/-- The features of nodes and edges: logarithms and the like, of which nothing is used. -/
structure Features where
  account : String → List ℚ
  transaction : ℚ → Date → List ℚ
  aggregated : AggregatedEdge → List ℚ

structure TransactionGraphBuilder where
  config : TransactionGraphConfig
  graph : Graph ℚ
  account_nodes : OrderedMap String NodeId
  edge_aggregation : OrderedMap (NodeId ×ₗ NodeId) AggregatedEdge

def debitLines (entry : FlaggedEntry) : List JournalEntryLine :=
  entry.lines.filter fun l => 0 < l.debit_amount

def creditLines (entry : FlaggedEntry) : List JournalEntryLine :=
  entry.lines.filter fun l => 0 < l.credit_amount

/-- The proportional allocation to a pair of lines. -/
def edgeAmount (entry : FlaggedEntry) (debit credit : JournalEntryLine) : ℚ :=
  let total_debit := ((debitLines entry).map (·.debit_amount)).sum
  let total_credit := ((creditLines entry).map (·.credit_amount)).sum
  let proportion := (debit.debit_amount / total_debit) * (credit.credit_amount / total_credit)
  debit.debit_amount * proportion

/-- What an entry adds to the weight of the edges. -/
def entryWeight (entry : FlaggedEntry) : ℚ :=
  ((debitLines entry).map fun debit =>
    ((creditLines entry).map (edgeAmount entry debit)).sum).sum

namespace TransactionGraphBuilder

def new (config : TransactionGraphConfig) : TransactionGraphBuilder :=
  ⟨config, Graph.new, OrderedMap.empty, OrderedMap.empty⟩

variable (features : Features)

def get_or_create_account_node (b : TransactionGraphBuilder) (account_code company_code : String) :
    TransactionGraphBuilder × NodeId :=
  let key := company_code ++ "_" ++ account_code
  match b.account_nodes.find? key with
  | some id => (b, id)
  | none =>
      let node : GraphNode ℚ :=
        { (GraphNode.new 0 .account : GraphNode ℚ) with
          features := features.account account_code }
      ({ b with
          graph := b.graph.add_node node
          account_nodes := b.account_nodes.insert key b.graph.next_node_id },
        b.graph.next_node_id)

def aggregate_edge (b : TransactionGraphBuilder) (source target : NodeId) (weight : ℚ)
    (entry : FlaggedEntry) : TransactionGraphBuilder :=
  let posting_date := entry.header.posting_date
  { b with
    edge_aggregation := b.edge_aggregation.upsert (toLex (source, target)) fun agg? =>
      let agg := agg?.getD ⟨0, 0, posting_date, posting_date⟩
      { total_weight := agg.total_weight + weight
        count := agg.count + 1
        first_date := if posting_date < agg.first_date then posting_date else agg.first_date
        last_date := if agg.last_date < posting_date then posting_date else agg.last_date } }

/-- The edge of a transaction, with the flag of its entry. -/
def transactionEdge (source target : NodeId) (amount : ℚ) (entry : FlaggedEntry) : GraphEdge ℚ :=
  { (GraphEdge.new 0 source target .transaction : GraphEdge ℚ) with
    weight := |amount|
    features := features.transaction amount entry.header.posting_date
    is_anomaly := entry.is_anomaly
    timestamp := some entry.header.posting_date }

/-- One round of the inner loop: the edge of a debit line to a credit line. -/
def connect (entry : FlaggedEntry) (debit : JournalEntryLine) (source_id : NodeId)
    (b : TransactionGraphBuilder) (credit : JournalEntryLine) : TransactionGraphBuilder :=
  let (b, target_id) :=
    b.get_or_create_account_node features credit.gl_account entry.header.company_code
  let edge_amount := edgeAmount entry debit credit
  if edge_amount < b.config.min_edge_weight then b
  else if b.config.aggregate_parallel_edges then
    b.aggregate_edge source_id target_id edge_amount entry
  else
    { b with
      graph := b.graph.add_edge (transactionEdge features source_id target_id edge_amount entry) }

def add_journal_entry_debit_credit (b : TransactionGraphBuilder) (entry : FlaggedEntry) :
    TransactionGraphBuilder :=
  (debitLines entry).foldl (fun b debit =>
    let (b, source_id) :=
      b.get_or_create_account_node features debit.gl_account entry.header.company_code
    (creditLines entry).foldl (connect features entry debit source_id) b) b

def add_journal_entries (b : TransactionGraphBuilder) (entries : List FlaggedEntry) :
    TransactionGraphBuilder :=
  entries.foldl (add_journal_entry_debit_credit features) b

def aggregatedEdge (e : (NodeId ×ₗ NodeId) × AggregatedEdge) : GraphEdge ℚ :=
  { (GraphEdge.new 0 (ofLex e.1).1 (ofLex e.1).2 .transaction : GraphEdge ℚ) with
    weight := e.2.total_weight
    features := features.aggregated e.2
    timestamp := some e.2.last_date }

def build (order : HashOrder) (b : TransactionGraphBuilder) : Graph ℚ :=
  if b.config.aggregate_parallel_edges then
    (order.iter b.edge_aggregation.entries).foldl
      (fun graph e => graph.add_edge (aggregatedEdge features e)) b.graph
  else b.graph

end TransactionGraphBuilder

def totalWeight (g : Graph ℚ) : ℚ := (g.edges.values.map (·.weight)).sum

theorem totalWeight_eq_sumOver (g : Graph ℚ) :
    totalWeight g = g.edges.sumOver fun _ edge => edge.weight := by
  rw [totalWeight, OrderedMap.values, List.map_map]
  rfl

theorem totalWeight_add_edge {g : Graph ℚ} (h : g.IdsBelow) (edge : GraphEdge ℚ) :
    totalWeight (g.add_edge edge) = totalWeight g + edge.weight := by
  rw [totalWeight_eq_sumOver, totalWeight_eq_sumOver, add_edge_edges, OrderedMap.insert,
    OrderedMap.sumOver_upsert, h.find?_next_edge, Option.elim_none, sub_zero]

namespace TransactionGraphBuilder

variable (features : Features)

/-- The weight of the edges, those not yet drawn included. -/
def held (b : TransactionGraphBuilder) : ℚ :=
  totalWeight b.graph + b.edge_aggregation.sumOver fun _ agg => agg.total_weight

/-- Edges are kept apart only if parallel ones are to be aggregated. -/
structure Sound (config : TransactionGraphConfig) (b : TransactionGraphBuilder) : Prop where
  config_eq : b.config = config
  ids : b.graph.IdsBelow
  drawn : config.aggregate_parallel_edges = false → b.edge_aggregation = OrderedMap.empty

variable {config : TransactionGraphConfig} {b : TransactionGraphBuilder}

theorem sound_new (config : TransactionGraphConfig) : Sound config (new config) :=
  ⟨rfl, idsBelow_new, fun _ => rfl⟩

theorem held_new (config : TransactionGraphConfig) : (new config).held = 0 := by
  simp [held, new, totalWeight, Graph.new, OrderedMap.empty, OrderedMap.values,
    OrderedMap.sumOver, sumEntries]

theorem Sound.get_or_create (h : Sound config b) (account_code company_code : String) :
    Sound config (b.get_or_create_account_node features account_code company_code).1 ∧
      (b.get_or_create_account_node features account_code company_code).1.held = b.held := by
  rw [get_or_create_account_node]
  split
  · exact ⟨h, rfl⟩
  · exact ⟨⟨h.config_eq, h.ids.add_node _, h.drawn⟩, rfl⟩

theorem held_aggregate_edge (source target : NodeId) (weight : ℚ) (entry : FlaggedEntry) :
    (b.aggregate_edge source target weight entry).held = b.held + weight := by
  rw [held, held, aggregate_edge, OrderedMap.sumOver_upsert]
  cases b.edge_aggregation.find? (toLex (source, target)) with
  | none => simp [add_assoc]
  | some agg =>
      simp only [Option.elim_some, Option.getD_some]
      ring

/-- An edge that is heavy enough adds its weight. -/
theorem Sound.connect (h : Sound config b) {entry : FlaggedEntry} {debit credit : JournalEntryLine}
    (source_id : NodeId) (hheavy : config.min_edge_weight ≤ edgeAmount entry debit credit)
    (hnonneg : 0 ≤ edgeAmount entry debit credit) :
    Sound config (b.connect features entry debit source_id credit) ∧
      (b.connect features entry debit source_id credit).held =
        b.held + edgeAmount entry debit credit := by
  obtain ⟨hnode, hheld⟩ :=
    h.get_or_create features credit.gl_account entry.header.company_code
  rw [TransactionGraphBuilder.connect]
  generalize b.get_or_create_account_node features credit.gl_account entry.header.company_code =
    found at hnode hheld
  obtain ⟨b', target_id⟩ := found
  dsimp only at hnode hheld ⊢
  obtain ⟨rfl, hids, hdrawn⟩ := hnode
  rw [if_neg (not_lt.mpr hheavy), ← hheld]
  split
  · rename_i hagg
    refine ⟨⟨rfl, hids, fun hoff => ?_⟩, held_aggregate_edge ..⟩
    rw [hoff] at hagg
    cases hagg
  · refine ⟨⟨rfl, hids.add_edge _, hdrawn⟩, ?_⟩
    rw [held, totalWeight_add_edge hids, transactionEdge, abs_of_nonneg hnonneg, held]
    ring

theorem Sound.foldl_connect (h : Sound config b) {entry : FlaggedEntry} {debit : JournalEntryLine}
    (source_id : NodeId) {credits : List JournalEntryLine}
    (hheavy : ∀ credit ∈ credits, config.min_edge_weight ≤ edgeAmount entry debit credit)
    (hnonneg : ∀ credit ∈ credits, 0 ≤ edgeAmount entry debit credit) :
    Sound config
        (credits.foldl (TransactionGraphBuilder.connect features entry debit source_id) b) ∧
      (credits.foldl (TransactionGraphBuilder.connect features entry debit source_id) b).held =
        b.held + (credits.map (edgeAmount entry debit)).sum := by
  induction credits generalizing b with
  | nil => exact ⟨h, by simp⟩
  | cons credit credits ih =>
      rw [List.forall_mem_cons] at hheavy hnonneg
      obtain ⟨hsound, hheld⟩ := h.connect features source_id hheavy.1 hnonneg.1
      obtain ⟨hfinal, hsum⟩ := ih hsound hheavy.2 hnonneg.2
      refine ⟨hfinal, ?_⟩
      rw [List.foldl_cons, hsum, hheld, List.map_cons, List.sum_cons, add_assoc]

theorem Sound.add_entry (h : Sound config b) {entry : FlaggedEntry}
    (hheavy : ∀ debit ∈ debitLines entry, ∀ credit ∈ creditLines entry,
      config.min_edge_weight ≤ edgeAmount entry debit credit)
    (hnonneg : ∀ debit ∈ debitLines entry, ∀ credit ∈ creditLines entry,
      0 ≤ edgeAmount entry debit credit) :
    Sound config (b.add_journal_entry_debit_credit features entry) ∧
      (b.add_journal_entry_debit_credit features entry).held = b.held + entryWeight entry := by
  rw [add_journal_entry_debit_credit, entryWeight]
  revert hheavy hnonneg
  generalize debitLines entry = debits
  intro hheavy hnonneg
  induction debits generalizing b with
  | nil => exact ⟨h, by simp⟩
  | cons debit debits ih =>
      rw [List.forall_mem_cons] at hheavy hnonneg
      obtain ⟨hnode, hkept⟩ :=
        h.get_or_create features debit.gl_account entry.header.company_code
      obtain ⟨hsound, hheld⟩ := hnode.foldl_connect features
        (b.get_or_create_account_node features debit.gl_account entry.header.company_code).2
        hheavy.1 hnonneg.1
      obtain ⟨hfinal, hsum⟩ := ih hsound hheavy.2 hnonneg.2
      refine ⟨hfinal, ?_⟩
      rw [List.foldl_cons, List.map_cons, List.sum_cons, ← add_assoc, ← hkept, ← hheld]
      exact hsum

theorem totalWeight_build (order : HashOrder) (h : Sound config b) :
    totalWeight (b.build features order) = b.held := by
  rw [build, h.config_eq]
  split
  · have hfold : ∀ (l : List ((NodeId ×ₗ NodeId) × AggregatedEdge)) (g : Graph ℚ), g.IdsBelow →
        totalWeight (l.foldl (fun graph e => graph.add_edge (aggregatedEdge features e)) g) =
          totalWeight g + (l.map fun e => e.2.total_weight).sum := by
      intro l
      induction l with
      | nil => simp
      | cons e l ih =>
          intro g hg
          rw [List.foldl_cons, ih _ (hg.add_edge _), totalWeight_add_edge hg, List.map_cons,
            List.sum_cons, ← add_assoc]
          rfl
    rw [hfold _ _ h.ids, ((order.perm _).map _).sum_eq]
    rfl
  · rename_i hoff
    rw [held, h.drawn (by simpa using hoff)]
    exact (add_zero _).symm

end TransactionGraphBuilder

section Entries

variable {entry : FlaggedEntry}

/-- A balanced entry with amounts that are not negative. -/
structure Postable (entry : FlaggedEntry) : Prop where
  balanced : entry.total_debit = entry.total_credit
  nonneg : ∀ l ∈ entry.lines, 0 ≤ l.debit_amount ∧ 0 ≤ l.credit_amount

/-- The edges out of a debit line and those into a credit line carry its amount. -/
structure ConservesEntry (entry : FlaggedEntry) : Prop where
  out_of_debit : ∀ debit ∈ debitLines entry,
    ((creditLines entry).map (edgeAmount entry debit)).sum = debit.debit_amount
  into_credit : ∀ credit ∈ creditLines entry,
    ((debitLines entry).map fun debit => edgeAmount entry debit credit).sum = credit.credit_amount

theorem debit_pos : ∀ x ∈ (debitLines entry).map (·.debit_amount), 0 < x := by
  rw [List.forall_mem_map]
  intro debit hdebit
  exact of_decide_eq_true (List.mem_filter.mp hdebit).2

theorem credit_pos : ∀ x ∈ (creditLines entry).map (·.credit_amount), 0 < x := by
  rw [List.forall_mem_map]
  intro credit hcredit
  exact of_decide_eq_true (List.mem_filter.mp hcredit).2

theorem Postable.sum_debitLines (h : Postable entry) :
    ((debitLines entry).map (·.debit_amount)).sum = entry.total_debit :=
  sum_filter_pos _ fun l hl => (h.nonneg l hl).1

theorem Postable.sum_creditLines (h : Postable entry) :
    ((creditLines entry).map (·.credit_amount)).sum = entry.total_debit := by
  rw [h.balanced]
  exact sum_filter_pos _ fun l hl => (h.nonneg l hl).2

theorem Postable.total_pos (h : Postable entry) {debit : JournalEntryLine}
    (hdebit : debit ∈ debitLines entry) : 0 < entry.total_debit := by
  rw [← h.sum_debitLines]
  exact List.sum_pos _ debit_pos (List.ne_nil_of_mem (List.mem_map_of_mem hdebit))

theorem Postable.edgeAmount_eq (h : Postable entry) (debit credit : JournalEntryLine) :
    edgeAmount entry debit credit =
      debit.debit_amount * (debit.debit_amount / entry.total_debit) / entry.total_debit *
        credit.credit_amount := by
  simp only [edgeAmount, h.sum_debitLines, h.sum_creditLines]
  ring

theorem Postable.edgeAmount_nonneg (h : Postable entry) {debit credit : JournalEntryLine}
    (hdebit : debit ∈ debitLines entry) (hcredit : credit ∈ creditLines entry) :
    0 ≤ edgeAmount entry debit credit := by
  have hd : 0 < debit.debit_amount := debit_pos _ (List.mem_map_of_mem hdebit)
  have hc : 0 < credit.credit_amount := credit_pos _ (List.mem_map_of_mem hcredit)
  have ht := h.total_pos hdebit
  rw [h.edgeAmount_eq]
  positivity

/-- The edges out of a debit line carry its share of itself. -/
theorem Postable.sum_out_of_debit (h : Postable entry) {debit : JournalEntryLine}
    (hdebit : debit ∈ debitLines entry) :
    ((creditLines entry).map (edgeAmount entry debit)).sum =
      debit.debit_amount * (debit.debit_amount / entry.total_debit) := by
  rw [List.map_congr_left fun credit _ => h.edgeAmount_eq debit credit, List.sum_map_mul_left,
    h.sum_creditLines, div_mul_cancel₀ _ (h.total_pos hdebit).ne']

theorem Postable.sum_into_credit (h : Postable entry) (credit : JournalEntryLine) :
    ((debitLines entry).map fun debit => edgeAmount entry debit credit).sum =
      ((debitLines entry).map fun debit =>
          debit.debit_amount * (debit.debit_amount / entry.total_debit)).sum *
        (credit.credit_amount / entry.total_debit) := by
  rw [← List.sum_map_mul_right]
  congr 1
  apply List.map_congr_left
  intro debit _
  rw [h.edgeAmount_eq]
  ring

theorem Postable.entryWeight_eq (h : Postable entry) :
    entryWeight entry = ((debitLines entry).map fun debit =>
      debit.debit_amount * (debit.debit_amount / entry.total_debit)).sum := by
  rw [entryWeight]
  congr 1
  exact List.map_congr_left fun debit hdebit => h.sum_out_of_debit hdebit

theorem Postable.share_eq (h : Postable entry) (hone : (debitLines entry).length ≤ 1) :
    ∀ debit ∈ debitLines entry,
      debit.debit_amount * (debit.debit_amount / entry.total_debit) = debit.debit_amount := by
  intro debit hdebit
  rw [← h.sum_debitLines]
  exact share_of_length_le_one debit_pos (by rwa [List.length_map]) _
    (List.mem_map_of_mem hdebit)

theorem Postable.share_lt (h : Postable entry) (htwo : 2 ≤ (debitLines entry).length) :
    ∀ debit ∈ debitLines entry,
      debit.debit_amount * (debit.debit_amount / entry.total_debit) < debit.debit_amount := by
  intro debit hdebit
  rw [← h.sum_debitLines]
  exact share_lt_of_two debit_pos (by rwa [List.length_map]) _ (List.mem_map_of_mem hdebit)

/-- An entry with two debit lines loses weight on each of them. -/
theorem Postable.entryWeight_lt (h : Postable entry) (htwo : 2 ≤ (debitLines entry).length) :
    entryWeight entry < entry.total_debit := by
  rw [h.entryWeight_eq]
  exact (List.sum_lt_sum_of_ne_nil (List.ne_nil_of_length_pos (by omega)) _ _
    (h.share_lt htwo)).trans_eq h.sum_debitLines

theorem Postable.entryWeight_of_single (h : Postable entry)
    (hone : (debitLines entry).length ≤ 1) : entryWeight entry = entry.total_debit := by
  rw [h.entryWeight_eq, List.map_congr_left (h.share_eq hone)]
  exact h.sum_debitLines

theorem Postable.entryWeight_le (h : Postable entry) : entryWeight entry ≤ entry.total_debit := by
  rcases Nat.lt_or_ge (debitLines entry).length 2 with hone | htwo
  · exact (h.entryWeight_of_single (Nat.le_of_lt_succ hone)).le
  · exact (h.entryWeight_lt htwo).le

theorem Postable.conservesEntry_iff (h : Postable entry) :
    ConservesEntry entry ↔ (debitLines entry).length ≤ 1 := by
  constructor
  · intro hconserves
    by_contra hmany
    have hpos : 0 < (debitLines entry).length := by omega
    obtain ⟨debit, hdebit⟩ := List.exists_mem_of_length_pos hpos
    have hlt := h.share_lt (by omega) debit hdebit
    rw [← h.sum_out_of_debit hdebit, hconserves.out_of_debit debit hdebit] at hlt
    exact lt_irrefl _ hlt
  · intro hone
    refine ⟨fun debit hdebit => ?_, fun credit hcredit => ?_⟩
    · rw [h.sum_out_of_debit hdebit, h.share_eq hone debit hdebit]
    · have hpos : 0 < entry.total_debit := by
        rw [← h.sum_creditLines]
        exact List.sum_pos _ credit_pos (List.ne_nil_of_mem (List.mem_map_of_mem hcredit))
      rw [h.sum_into_credit, ← h.entryWeight_eq, h.entryWeight_of_single hone,
        mul_div_cancel₀ _ hpos.ne']

end Entries

section Total

variable (features : Features) (order : HashOrder) {entries : List FlaggedEntry}

/-- The graph built from entries, with no weight too small for an edge. -/
def transactionGraph (aggregate : Bool) (entries : List FlaggedEntry) : Graph ℚ :=
  ((TransactionGraphBuilder.new ⟨0, aggregate⟩).add_journal_entries features entries).build
    features order

theorem totalWeight_transactionGraph (h : ∀ entry ∈ entries, Postable entry) (aggregate : Bool) :
    totalWeight (transactionGraph features order aggregate entries) =
      (entries.map entryWeight).sum := by
  have hrun : ∀ b, TransactionGraphBuilder.Sound ⟨0, aggregate⟩ b →
      TransactionGraphBuilder.Sound ⟨0, aggregate⟩ (b.add_journal_entries features entries) ∧
        (b.add_journal_entries features entries).held =
          b.held + (entries.map entryWeight).sum := by
    induction entries with
    | nil =>
        intro b hb
        exact ⟨hb, by simp [TransactionGraphBuilder.add_journal_entries]⟩
    | cons entry entries ih =>
        intro b hb
        rw [List.forall_mem_cons] at h
        have hnonneg : ∀ debit ∈ debitLines entry, ∀ credit ∈ creditLines entry,
            0 ≤ edgeAmount entry debit credit :=
          fun debit hdebit credit hcredit => h.1.edgeAmount_nonneg hdebit hcredit
        obtain ⟨hsound, hheld⟩ := hb.add_entry features hnonneg hnonneg
        obtain ⟨hfinal, hsum⟩ := ih h.2 _ hsound
        refine ⟨hfinal, ?_⟩
        rw [List.map_cons, List.sum_cons, ← add_assoc, ← hheld]
        exact hsum
  obtain ⟨hsound, hheld⟩ := hrun _ (TransactionGraphBuilder.sound_new _)
  rw [transactionGraph, TransactionGraphBuilder.totalWeight_build features order hsound, hheld,
    TransactionGraphBuilder.held_new, zero_add]

/-- The weight is kept in total only if every entry keeps its own. -/
theorem totalWeight_eq_iff (h : ∀ entry ∈ entries, Postable entry) (aggregate : Bool) :
    totalWeight (transactionGraph features order aggregate entries) =
        (entries.map fun entry => entry.total_debit).sum ↔
      ∀ entry ∈ entries, (debitLines entry).length ≤ 1 := by
  rw [totalWeight_transactionGraph features order h]
  constructor
  · intro hsum
    by_contra hmany
    push Not at hmany
    obtain ⟨entry, hentry, htwo⟩ := hmany
    have hlt := List.sum_lt_sum entryWeight (fun entry => entry.total_debit)
      (fun entry hentry => (h entry hentry).entryWeight_le)
      ⟨entry, hentry, (h entry hentry).entryWeight_lt htwo⟩
    exact hlt.ne hsum
  · intro hone
    congr 1
    exact List.map_congr_left fun entry hentry =>
      (h entry hentry).entryWeight_of_single (hone entry hentry)

/-- Value is conserved on every line, and in total with and without aggregation. -/
def ConservesValue (entries : List FlaggedEntry) : Prop :=
  (∀ entry ∈ entries, ConservesEntry entry) ∧
    ∀ aggregate, totalWeight (transactionGraph features order aggregate entries) =
      (entries.map fun entry => entry.total_debit).sum

/-- Value is conserved exactly where no entry has two debit lines. -/
theorem conservesValue_iff (h : ∀ entry ∈ entries, Postable entry) :
    ConservesValue features order entries ↔
      ∀ entry ∈ entries, (debitLines entry).length ≤ 1 := by
  constructor
  · rintro ⟨hentries, -⟩ entry hentry
    exact (h entry hentry).conservesEntry_iff.mp (hentries entry hentry)
  · intro hone
    refine ⟨fun entry hentry => ?_, fun aggregate => ?_⟩
    · exact (h entry hentry).conservesEntry_iff.mpr (hone entry hentry)
    · exact (totalWeight_eq_iff features order h aggregate).mpr hone

end Total

section SplitPurchase

/-- Debit lines of the amounts against one credit line of all of them. -/
def purchase (amounts : List ℚ) : FlaggedEntry where
  header := JournalEntryHeader.new "C001" (Date.ofYmd 2024 1 15)
  lines := amounts.map (JournalEntryLine.debit 1 "5000") ++
    [JournalEntryLine.credit 2 "2000" amounts.sum]
  is_anomaly := false

def noFeatures : Features := ⟨fun _ => [], fun _ _ => [], fun _ => []⟩

theorem postable_purchase {amounts : List ℚ} (h : ∀ x ∈ amounts, 0 ≤ x) :
    Postable (purchase amounts) where
  balanced := by
    simp [purchase, JournalEntry.total_debit, JournalEntry.total_credit, JournalEntryLine.debit,
      JournalEntryLine.credit, Function.comp_def]
  nonneg := by
    rw [purchase, List.forall_mem_append, List.forall_mem_map, List.forall_mem_singleton]
    exact ⟨fun x hx => ⟨h x hx, le_rfl⟩, le_rfl, List.sum_nonneg h⟩

theorem single_purchase_conserves :
    ConservesValue noFeatures HashOrder.insertion [purchase [100]] := by
  refine (conservesValue_iff noFeatures HashOrder.insertion ?_).mpr ?_
  · rw [List.forall_mem_singleton]
    exact postable_purchase (by simp)
  · rw [List.forall_mem_singleton]
    decide

/-- Of a hundred split over two lines only the half arrives. -/
theorem split_purchase_loses_value :
    (∀ entry ∈ [purchase [50, 50]], Postable entry) ∧
      ¬ ConservesValue noFeatures HashOrder.insertion [purchase [50, 50]] := by
  have hpost : Postable (purchase [50, 50]) := postable_purchase (by simp)
  refine ⟨List.forall_mem_singleton.mpr hpost, ?_⟩
  rintro ⟨hentries, -⟩
  have hone := hpost.conservesEntry_iff.mp (hentries _ List.mem_cons_self)
  revert hone
  decide

end SplitPurchase

end Datasynth.Graphs.TransactionGraph
