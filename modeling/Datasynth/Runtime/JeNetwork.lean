import Mathlib.Data.List.Nodup
import Mathlib.Data.String.Basic
import Datasynth.Core.FlowDocuments
import Datasynth.Lib.DoubleValues
import Datasynth.Lib.ProportionalShares
import Datasynth.Lib.SortedEntries
import Datasynth.Output.CsvRecords

/-!
The network of journal entries: a flow from every credit line of an entry to every debit
line, with the identifier of the flow it continues.  Amounts are exact rationals.
-/

namespace Datasynth.Runtime.JeNetwork

open Datasynth.Core.FlowEntries (BusinessProcess Uuid)
open Datasynth.Core.JournalEntries
open Datasynth.Lib.ByteEncoding
open Datasynth.Lib.CivilCalendar
open Datasynth.Lib.DoubleValues
open Datasynth.Lib.ProportionalShares
open Datasynth.Lib.SortedEntries
open Datasynth.Output.CsvRecords (FraudType)

section Entries

/-- The texts of the version 5 identifiers of a namespace, by the bytes named. -/
structure UuidTexts where
  new_v5 : List Byte → String
  length_text : ∀ input, (new_v5 input).length = 36

def businessProcessName : BusinessProcess → String
  | .o2c => "O2C"
  | .p2p => "P2P"
  | .r2r => "R2R"
  | .h2r => "H2R"
  | .a2r => "A2R"
  | .s2c => "S2C"
  | .mfg => "Mfg"
  | .bank => "Bank"
  | .audit => "Audit"
  | .treasury => "Treasury"
  | .tax => "Tax"
  | .intercompany => "Intercompany"
  | .projectAccounting => "ProjectAccounting"
  | .esg => "Esg"

structure NetworkHeader extends JournalEntryHeader where
  document_id : Uuid
  business_process : Option BusinessProcess
  is_fraud : Bool
  is_anomaly : Bool
  fraud_type : Option FraudType

structure NetworkLine extends JournalEntryLine where
  document_id : Uuid
  transaction_id : Option String
  predecessor_line_id : Option String

structure NetworkEntry where
  header : NetworkHeader
  lines : List NetworkLine

namespace NetworkEntry

variable (je : NetworkEntry)

def total_debit : ℚ := (je.lines.map (·.debit_amount)).sum

def total_credit : ℚ := (je.lines.map (·.credit_amount)).sum

def is_balanced : Bool := je.total_debit = je.total_credit

/-- The debit lines, each with its index. -/
def debits : List (NetworkLine × ℕ) := je.lines.zipIdx.filter fun l => 0 < l.1.debit_amount

def credits : List (NetworkLine × ℕ) := je.lines.zipIdx.filter fun l => 0 < l.1.credit_amount

def debitTotal : ℚ := (je.debits.map (·.1.debit_amount)).sum

def creditTotal : ℚ := (je.credits.map (·.1.credit_amount)).sum

end NetworkEntry

variable (uuids : UuidTexts)

def derive_transaction_id (document_id : Uuid) (line_number : ℕ) : String :=
  uuids.new_v5 (document_id.bytes ++ leBytes 4 line_number)

def line_id (line : NetworkLine) : String :=
  line.transaction_id.getD (derive_transaction_id uuids line.document_id line.line_number)

end Entries

section Edges

inductive JeNetworkMethod where
  | cartesian
  | a
deriving DecidableEq, Repr

def JeNetworkMethod.default : JeNetworkMethod := .a

structure JeNetworkEdge where
  edge_id : String
  document_id : Uuid
  posting_date : Date
  from_account : String
  to_account : String
  from_line_id : String
  to_line_id : String
  amount : ℚ
  confidence : F64
  predecessor_edge_id : String
  business_process : String
  is_fraud : Bool
  is_anomaly : Bool
  fraud_type : Option String
  ic_pair_id : Option String
  ic_partner_entity : Option String

structure JeNetworkEdgeBuilder where
  method : JeNetworkMethod
  edges : List JeNetworkEdge
  line_id_to_edge_id : OrderedMap String String

variable (uuids : UuidTexts)

def edge_id (je : NetworkEntry) (debit_line credit_line : NetworkLine) : String :=
  uuids.new_v5 (je.header.document_id.bytes ++ leBytes 4 debit_line.line_number ++
    leBytes 4 credit_line.line_number)

def allocated (je : NetworkEntry) (debit_line credit_line : NetworkLine) : ℚ :=
  let proportion :=
    (debit_line.debit_amount / je.debitTotal) * (credit_line.credit_amount / je.creditTotal)
  debit_line.debit_amount * proportion

def confidence (je : NetworkEntry) : F64 :=
  if je.debits.length = 1 ∧ je.credits.length = 1 then .finite 1
  else .finite (nearest (1 / nearest (je.debits.length * je.credits.length : ℕ)))

/-- The line whose edge is looked up: what the credit line names, else what the debit line
names. -/
def predecessorLine (debit_line credit_line : NetworkLine) : Option String :=
  credit_line.predecessor_line_id.or debit_line.predecessor_line_id

/-- The edge from a credit line to a debit line. -/
def edge (je : NetworkEntry) (debit_line credit_line : NetworkLine)
    (predecessor : Option String) : JeNetworkEdge where
  edge_id := edge_id uuids je debit_line credit_line
  document_id := je.header.document_id
  posting_date := je.header.posting_date
  from_account := credit_line.gl_account
  to_account := debit_line.gl_account
  from_line_id := line_id uuids credit_line
  to_line_id := line_id uuids debit_line
  amount := allocated je debit_line credit_line
  confidence := confidence je
  predecessor_edge_id := predecessor.getD ""
  business_process := (je.header.business_process.map businessProcessName).getD ""
  is_fraud := je.header.is_fraud
  is_anomaly := je.header.is_anomaly
  fraud_type := je.header.fraud_type.map FraudType.name
  ic_pair_id := je.header.ic_pair_id.map IcPairId.toHex
  ic_partner_entity := je.header.ic_partner_entity

namespace JeNetworkEdgeBuilder

def new (method : JeNetworkMethod) : JeNetworkEdgeBuilder := ⟨method, [], OrderedMap.empty⟩

/-- One round of the inner loop: a credit line keeps the first edge drawn from it. -/
def draw (je : NetworkEntry) (debit : NetworkLine × ℕ) (b : JeNetworkEdgeBuilder)
    (credit : NetworkLine × ℕ) : JeNetworkEdgeBuilder :=
  let predecessor := (predecessorLine debit.1 credit.1).bind b.line_id_to_edge_id.find?
  { b with
    edges := b.edges ++ [edge uuids je debit.1 credit.1 predecessor]
    line_id_to_edge_id := b.line_id_to_edge_id.upsert (line_id uuids credit.1) fun known =>
      known.getD (edge_id uuids je debit.1 credit.1) }

def push_je (b : JeNetworkEdgeBuilder) (je : NetworkEntry) : JeNetworkEdgeBuilder :=
  if je.debits.isEmpty || je.credits.isEmpty then b
  else if b.method = .a && !(je.debits.length = 1 && je.credits.length = 1) then b
  else if je.debitTotal = 0 || je.creditTotal = 0 then b
  else
    je.debits.foldl (fun b debit => je.credits.foldl (draw uuids je debit) b) b

def push_jes (b : JeNetworkEdgeBuilder) (jes : List NetworkEntry) : JeNetworkEdgeBuilder :=
  jes.foldl (push_je uuids) b

def drain_edges (b : JeNetworkEdgeBuilder) : List JeNetworkEdge × JeNetworkEdgeBuilder :=
  (b.edges, { b with edges := [], line_id_to_edge_id := OrderedMap.empty })

end JeNetworkEdgeBuilder

def build_je_network_edges (jes : List NetworkEntry) (method : JeNetworkMethod) :
    List JeNetworkEdge :=
  ((JeNetworkEdgeBuilder.new method).push_jes uuids jes).edges

end Edges

section Flows

/-- The pairs of a debit and a credit line an edge is drawn for, in their order. -/
def flows (method : JeNetworkMethod) (je : NetworkEntry) :
    List ((NetworkLine × ℕ) × (NetworkLine × ℕ)) :=
  if method = .a ∧ ¬ (je.debits.length = 1 ∧ je.credits.length = 1) then []
  else je.debits ×ˢ je.credits

variable {uuids : UuidTexts} {method : JeNetworkMethod} {b : JeNetworkEdgeBuilder}
  {je : NetworkEntry}

theorem debits_pos : ∀ x ∈ je.debits.map (·.1.debit_amount), 0 < x := by
  rw [List.forall_mem_map]
  intro l hl
  exact of_decide_eq_true (List.mem_filter.mp hl).2

theorem credits_pos : ∀ x ∈ je.credits.map (·.1.credit_amount), 0 < x := by
  rw [List.forall_mem_map]
  intro l hl
  exact of_decide_eq_true (List.mem_filter.mp hl).2

theorem debitTotal_pos (h : je.debits ≠ []) : 0 < je.debitTotal :=
  List.sum_pos _ debits_pos (by simpa using h)

theorem creditTotal_pos (h : je.credits ≠ []) : 0 < je.creditTotal :=
  List.sum_pos _ credits_pos (by simpa using h)

/-- An entry adds an edge for each of its flows, one after the other. -/
theorem push_je_eq_foldl :
    b.push_je uuids je =
      (flows b.method je).foldl (fun b flow => b.draw uuids je flow.1 flow.2) b := by
  have hloops : (je.debits ×ˢ je.credits).foldl
      (fun b flow => b.draw uuids je flow.1 flow.2) b =
        je.debits.foldl (fun b debit => je.credits.foldl (.draw uuids je debit) b) b := by
    have hproduct : je.debits ×ˢ je.credits =
        je.debits.flatMap fun debit => je.credits.map (Prod.mk debit) := rfl
    rw [hproduct, List.foldl_flatMap]
    simp only [List.foldl_map]
  rw [JeNetworkEdgeBuilder.push_je, flows]
  split
  · rename_i hempty
    have hproduct : je.debits ×ˢ je.credits = [] := by
      rcases Bool.or_eq_true_iff.mp hempty with h | h
      · rw [List.isEmpty_iff.mp h]
        rfl
      · rw [List.isEmpty_iff.mp h, List.product_nil]
    rw [hproduct, ite_self]
    rfl
  · rename_i hfilled
    rw [Bool.or_eq_true, not_or, List.isEmpty_iff, List.isEmpty_iff] at hfilled
    have hpos : ¬ (je.debitTotal = 0 || je.creditTotal = 0) := by
      simp [(debitTotal_pos hfilled.1).ne', (creditTotal_pos hfilled.2).ne']
    rw [if_neg hpos, hloops.symm]
    by_cases hmethod : b.method = .a ∧ ¬ (je.debits.length = 1 ∧ je.credits.length = 1)
    · rw [if_pos (by simpa [-not_and, not_and_or] using hmethod), if_pos hmethod]
      rfl
    · rw [if_neg (by simpa [-not_and, not_and_or] using hmethod), if_neg hmethod]

end Flows

section Runs

/-- A pair of lines of an entry, for which an edge is drawn. -/
structure Draw where
  entry : NetworkEntry
  debit : NetworkLine × ℕ
  credit : NetworkLine × ℕ

def draws (method : JeNetworkMethod) (je : NetworkEntry) : List Draw :=
  (flows method je).map fun flow => ⟨je, flow.1, flow.2⟩

variable (uuids : UuidTexts)

namespace Draw

def from_line_id (d : Draw) : String := line_id uuids d.credit.1

def edge_id (d : Draw) : String := JeNetwork.edge_id uuids d.entry d.debit.1 d.credit.1

def predecessorLine (d : Draw) : Option String :=
  JeNetwork.predecessorLine d.debit.1 d.credit.1

end Draw

/-- The edge kept for a line, the first one drawn from it. -/
def edgeFrom (drawn : List Draw) (tx_id : String) : Option String :=
  (drawn.find? fun d => d.from_line_id uuids = tx_id).map (Draw.edge_id uuids)

def edgeAfter (drawn : List Draw) (d : Draw) : JeNetworkEdge :=
  edge uuids d.entry d.debit.1 d.credit.1 (d.predecessorLine.bind (edgeFrom uuids drawn))

/-- The edges of draws that follow others. -/
def edgesAfter (drawn : List Draw) : List Draw → List JeNetworkEdge
  | [] => []
  | d :: ds => edgeAfter uuids drawn d :: edgesAfter (drawn ++ [d]) ds

variable {uuids} {method : JeNetworkMethod} {drawn ds ds' : List Draw} {d : Draw}
  {b : JeNetworkEdgeBuilder} {je : NetworkEntry}

theorem edgesAfter_append :
    edgesAfter uuids drawn (ds ++ ds') =
      edgesAfter uuids drawn ds ++ edgesAfter uuids (drawn ++ ds) ds' := by
  induction ds generalizing drawn with
  | nil => simp [edgesAfter]
  | cons d ds ih => simp [edgesAfter, ih]

theorem getElem?_edgesAfter (n : ℕ) :
    (edgesAfter uuids drawn ds)[n]? = ds[n]?.map (edgeAfter uuids (drawn ++ ds.take n)) := by
  induction ds generalizing drawn n with
  | nil => rfl
  | cons d ds ih =>
      cases n with
      | zero => simp [edgesAfter]
      | succ n => simp [edgesAfter, ih]

/-- What an edge shows of its lines and its entry does not depend on the edges before it. -/
theorem map_edgesAfter {α : Type} (shown : JeNetworkEdge → α) (g : Draw → α)
    (h : ∀ drawn d, shown (edgeAfter uuids drawn d) = g d) :
    (edgesAfter uuids drawn ds).map shown = ds.map g := by
  induction ds generalizing drawn with
  | nil => rfl
  | cons d ds ih => rw [edgesAfter, List.map_cons, List.map_cons, ih, h]

theorem edgeFrom_append_singleton (tx_id : String) :
    edgeFrom uuids (drawn ++ [d]) tx_id =
      if d.from_line_id uuids = tx_id then
        some ((edgeFrom uuids drawn tx_id).getD (d.edge_id uuids))
      else edgeFrom uuids drawn tx_id := by
  rw [edgeFrom, List.find?_append, edgeFrom]
  cases hfind : drawn.find? fun d => d.from_line_id uuids = tx_id with
  | some first =>
      rw [Option.some_or, Option.map_some, Option.getD_some, ite_self]
  | none =>
      rw [Option.none_or, List.find?_singleton]
      split
      · rename_i h
        rw [if_pos (of_decide_eq_true h)]
        rfl
      · rename_i h
        rw [if_neg fun heq => h (decide_eq_true heq), Option.map_none]

variable (uuids) in
/-- What a builder holds after some draws. -/
structure Holds (drawn : List Draw) (b : JeNetworkEdgeBuilder) : Prop where
  edges : b.edges = edgesAfter uuids [] drawn
  lookup : ∀ tx_id, b.line_id_to_edge_id.find? tx_id = edgeFrom uuids drawn tx_id

theorem holds_new : Holds uuids [] (.new method) := ⟨rfl, fun _ => rfl⟩

theorem Holds.draw (h : Holds uuids drawn b) (d : Draw) :
    Holds uuids (drawn ++ [d]) (b.draw uuids d.entry d.debit d.credit) where
  edges := by
    have hlookup : b.line_id_to_edge_id.find? = edgeFrom uuids drawn := funext h.lookup
    rw [edgesAfter_append, List.nil_append, ← h.edges, JeNetworkEdgeBuilder.draw, hlookup]
    rfl
  lookup := fun tx_id => by
    rw [edgeFrom_append_singleton, ← h.lookup]
    have hstored := OrderedMap.find?_upsert b.line_id_to_edge_id (d.from_line_id uuids) tx_id
      fun known => known.getD (d.edge_id uuids)
    rw [Draw.from_line_id] at hstored ⊢
    rw [JeNetworkEdgeBuilder.draw]
    refine hstored.trans ?_
    split
    · rename_i h
      rw [if_pos h.symm, h]
    · rename_i h
      rw [if_neg fun heq => h heq.symm]

theorem Holds.draws (h : Holds uuids drawn b) (ds : List Draw) :
    Holds uuids (drawn ++ ds)
      (ds.foldl (fun b d => b.draw uuids d.entry d.debit d.credit) b) := by
  induction ds generalizing drawn b with
  | nil => simpa using h
  | cons d ds ih =>
      rw [List.append_cons]
      exact ih (h.draw d)

theorem Holds.push_je (h : Holds uuids drawn b) (je : NetworkEntry) :
    Holds uuids (drawn ++ JeNetwork.draws b.method je) (b.push_je uuids je) := by
  have hdraws := h.draws (JeNetwork.draws b.method je)
  rwa [JeNetwork.draws, List.foldl_map, ← push_je_eq_foldl] at hdraws

theorem method_push_je : (b.push_je uuids je).method = b.method := by
  rw [push_je_eq_foldl]
  generalize flows b.method je = l
  induction l generalizing b with
  | nil => rfl
  | cons flow l ih => exact ih

theorem Holds.push_jes (h : Holds uuids drawn b) (jes : List NetworkEntry) :
    Holds uuids (drawn ++ jes.flatMap (JeNetwork.draws b.method)) (b.push_jes uuids jes) := by
  induction jes generalizing drawn b with
  | nil => simpa [JeNetworkEdgeBuilder.push_jes] using h
  | cons je jes ih =>
      have hrest := ih (h.push_je je)
      rwa [method_push_je, List.append_assoc, ← List.flatMap_cons] at hrest

/-- The network of entries: an edge for every draw, in their order. -/
theorem build_je_network_edges_eq (jes : List NetworkEntry) :
    build_je_network_edges uuids jes method =
      edgesAfter uuids [] (jes.flatMap (draws method)) :=
  (holds_new.push_jes jes).edges

end Runs

end Datasynth.Runtime.JeNetwork
