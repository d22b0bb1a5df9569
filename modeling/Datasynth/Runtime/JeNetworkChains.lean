import Mathlib
import Datasynth.Runtime.JeNetwork

/-!
The edges that continue others.  An edge is found by the credit line it was drawn from, so
that a line which names any other line of an earlier entry is not followed.
-/

namespace Datasynth.Runtime.JeNetworkChains

open Datasynth.Core.FlowEntries (Uuid)
open Datasynth.Core.JournalEntries
open Datasynth.Lib.ByteEncoding
open Datasynth.Runtime.JeNetwork

variable (uuids : UuidTexts) (method : JeNetworkMethod) (jes : List NetworkEntry)

section Chains

/-- All draws of a run, each with the index of its entry. -/
def indexedDraws : List (Draw × ℕ) :=
  jes.zipIdx.flatMap fun e => (draws method e.1).map (·, e.2)

/-- A text is the identifier of a line of an entry that has edges, before an entry. -/
def NamesEmitted (index : ℕ) (tx_id : String) : Prop :=
  ∃ i < index, ∃ je, jes[i]? = some je ∧ flows method je ≠ [] ∧
    ∃ line ∈ je.lines, line_id uuids line = tx_id

/-- One of the lines of an edge names a line of an entry with edges, before its own. -/
def Continues (d : Draw × ℕ) : Prop :=
  ∃ line ∈ [d.1.credit.1, d.1.debit.1], ∃ tx_id, line.predecessor_line_id = some tx_id ∧
    NamesEmitted uuids method jes d.2 tx_id

structure PredecessorsResolved : Prop where
  earlier : ∀ (n : ℕ) (edge : JeNetworkEdge),
    (build_je_network_edges uuids jes method)[n]? = some edge →
    edge.predecessor_edge_id ≠ "" →
      ∃ m < n, ∃ first : JeNetworkEdge,
        (build_je_network_edges uuids jes method)[m]? = some first ∧
          first.edge_id = edge.predecessor_edge_id
  resolved : ∀ (n : ℕ) (d : Draw × ℕ) (edge : JeNetworkEdge),
    (indexedDraws method jes)[n]? = some d →
    (build_je_network_edges uuids jes method)[n]? = some edge →
    Continues uuids method jes d → edge.predecessor_edge_id ≠ ""

/-- The line looked up for an edge is a credit line of an edge drawn before. -/
def NamesDrawnCredit (n : ℕ) (d : Draw) : Prop :=
  ∃ tx_id, d.predecessorLine = some tx_id ∧
    ∃ first ∈ (jes.flatMap (draws method)).take n, first.from_line_id uuids = tx_id

variable {uuids method jes}

theorem map_fst_indexedDraws :
    (indexedDraws method jes).map Prod.fst = jes.flatMap (draws method) := by
  rw [indexedDraws, List.map_flatMap]
  simp only [List.map_map]
  conv_rhs => rw [← List.zipIdx_map_fst 0 jes, List.flatMap_map]
  congr 1
  funext e
  exact List.map_id _

theorem edge_id_ne_empty (d : Draw) : d.edge_id uuids ≠ "" := by
  intro h
  have hlength : (d.edge_id uuids).length = 36 := uuids.length_text _
  rw [h] at hlength
  cases hlength

/-- An edge found for a line is drawn from it. -/
theorem mem_of_edgeFrom {drawn : List Draw} {tx_id found : String}
    (h : edgeFrom uuids drawn tx_id = some found) :
    ∃ first ∈ drawn, first.from_line_id uuids = tx_id ∧ first.edge_id uuids = found := by
  obtain ⟨first, hfirst, hfound⟩ := Option.map_eq_some_iff.mp h
  have hid := List.find?_some hfirst
  exact ⟨first, List.mem_of_find?_eq_some hfirst, of_decide_eq_true hid, hfound⟩

theorem isSome_edgeFrom_iff {drawn : List Draw} {tx_id : String} :
    (edgeFrom uuids drawn tx_id).isSome ↔
      ∃ first ∈ drawn, first.from_line_id uuids = tx_id := by
  rw [edgeFrom, Option.isSome_map, List.find?_isSome]
  simp only [decide_eq_true_eq]

theorem predecessor_edge_id_edgeAfter (drawn : List Draw) (d : Draw) :
    (edgeAfter uuids drawn d).predecessor_edge_id =
      (d.predecessorLine.bind (edgeFrom uuids drawn)).getD "" := rfl

/-- A predecessor is written exactly if the line looked up is known. -/
theorem predecessor_edge_id_ne_empty_iff {drawn : List Draw} {d : Draw} :
    (edgeAfter uuids drawn d).predecessor_edge_id ≠ "" ↔
      ∃ tx_id, d.predecessorLine = some tx_id ∧
        ∃ first ∈ drawn, first.from_line_id uuids = tx_id := by
  rw [predecessor_edge_id_edgeAfter]
  constructor
  · intro h
    cases hline : d.predecessorLine with
    | none => simp [hline] at h
    | some tx_id =>
        refine ⟨tx_id, rfl, isSome_edgeFrom_iff.mp ?_⟩
        by_contra hnone
        rw [Option.not_isSome_iff_eq_none] at hnone
        simp [hline, hnone] at h
  · rintro ⟨tx_id, hline, hfirst⟩
    obtain ⟨found, hfound⟩ := Option.isSome_iff_exists.mp (isSome_edgeFrom_iff.mpr hfirst)
    obtain ⟨first, -, -, rfl⟩ := mem_of_edgeFrom hfound
    rw [hline, Option.bind_some, hfound]
    exact edge_id_ne_empty first

/-- The edge at a place of the network, from the draws before it. -/
theorem getElem?_build (n : ℕ) :
    (build_je_network_edges uuids jes method)[n]? =
      (jes.flatMap (draws method))[n]?.map
        (edgeAfter uuids ((jes.flatMap (draws method)).take n)) := by
  rw [build_je_network_edges_eq, getElem?_edgesAfter, List.nil_append]

/-- Every predecessor that is written is the identifier of an edge drawn earlier. -/
theorem predecessor_earlier {n : ℕ} {edge : JeNetworkEdge}
    (hedge : (build_je_network_edges uuids jes method)[n]? = some edge)
    (hwritten : edge.predecessor_edge_id ≠ "") :
    ∃ m < n, ∃ first, (build_je_network_edges uuids jes method)[m]? = some first ∧
      first.edge_id = edge.predecessor_edge_id := by
  rw [getElem?_build] at hedge
  obtain ⟨d, hd, rfl⟩ := Option.map_eq_some_iff.mp hedge
  obtain ⟨tx_id, hline, hfirst⟩ := predecessor_edge_id_ne_empty_iff.mp hwritten
  obtain ⟨found, hfound⟩ := Option.isSome_iff_exists.mp (isSome_edgeFrom_iff.mpr hfirst)
  obtain ⟨first, hmem, -, hid⟩ := mem_of_edgeFrom hfound
  obtain ⟨m, hm, hget⟩ := List.mem_take_iff_getElem.mp hmem
  refine ⟨m, by omega, edgeAfter uuids ((jes.flatMap (draws method)).take m) first, ?_, ?_⟩
  · rw [getElem?_build, List.getElem?_eq_getElem (by omega), hget]
    rfl
  · rw [predecessor_edge_id_edgeAfter, hline, Option.bind_some, hfound, Option.getD_some, ← hid]
    rfl

theorem predecessorsResolved_iff :
    PredecessorsResolved uuids method jes ↔
      ∀ n d, (indexedDraws method jes)[n]? = some d → Continues uuids method jes d →
        NamesDrawnCredit uuids method jes n d.1 := by
  have hedge : ∀ n d, (indexedDraws method jes)[n]? = some d →
      (build_je_network_edges uuids jes method)[n]? =
        some (edgeAfter uuids ((jes.flatMap (draws method)).take n) d.1) := by
    intro n d hd
    rw [getElem?_build, ← map_fst_indexedDraws, List.getElem?_map, hd]
    rfl
  constructor
  · intro h n d hd hcontinues
    exact predecessor_edge_id_ne_empty_iff.mp (h.resolved n d _ hd (hedge n d hd) hcontinues)
  · intro h
    refine ⟨fun n edge => predecessor_earlier, fun n d edge hd hat hcontinues => ?_⟩
    obtain rfl := Option.some.inj (hat.symm.trans (hedge n d hd))
    exact predecessor_edge_id_ne_empty_iff.mpr (h n d hd hcontinues)

end Chains

section Receipts

def zeroUuid : Uuid := ⟨List.replicate 16 0, Uuid.length_zeros⟩

def oneUuid : Uuid := ⟨List.replicate 16 1, rfl⟩

/-- The identifiers of the lines and edges of an invoice and its receipt; other names are not
used. -/
def chainTexts : UuidTexts where
  new_v5 := fun input =>
    if input = zeroUuid.bytes ++ leBytes 4 1 then "f4271f8d-f1d1-5257-81ce-93064fd4551f"
    else if input = zeroUuid.bytes ++ leBytes 4 2 then "20dc5889-3314-57a4-bfd2-dca97b5a1c9f"
    else if input = oneUuid.bytes ++ leBytes 4 1 then "fd4675e6-5c96-5666-9e4d-bdab08c08680"
    else if input = oneUuid.bytes ++ leBytes 4 2 then "91bfcb54-603d-5ab0-9c27-5174f43b61da"
    else if input = zeroUuid.bytes ++ leBytes 4 1 ++ leBytes 4 2 then
      "bfcfc6f8-9e3c-5fae-b81b-27a749dd9087"
    else if input = oneUuid.bytes ++ leBytes 4 1 ++ leBytes 4 2 then
      "3a9d98fa-1453-5dc7-a2b8-d40a7abd03aa"
    else "00000000-0000-0000-0000-000000000000"
  length_text := by
    intro input
    split_ifs <;> rfl

/-- A debit and a credit of 100; the credit line may continue another line. -/
def posting (document_id : Uuid) (debit_account credit_account : String)
    (predecessor : Option String) : NetworkEntry where
  header :=
    { toJournalEntryHeader := .new "C001" (.ofYmd 2026 5 9)
      document_id := document_id
      business_process := some .o2c
      is_fraud := false
      is_anomaly := false
      fraud_type := none }
  lines :=
    [{ toJournalEntryLine := .debit 1 debit_account 100
       document_id := document_id
       transaction_id := none
       predecessor_line_id := none },
     { toJournalEntryLine := .credit 2 credit_account 100
       document_id := document_id
       transaction_id := none
       predecessor_line_id := predecessor }]

/-- The debit line of the invoice. -/
def receivableLine : String := "f4271f8d-f1d1-5257-81ce-93064fd4551f"

def invoice : NetworkEntry := posting zeroUuid "1100" "4000" none

/-- The receipt clears the receivable of the invoice. -/
def receipt : NetworkEntry :=
  posting oneUuid "1000" "1100" (some receivableLine)

theorem namesEmitted_receivableLine :
    NamesEmitted chainTexts .a [invoice, receipt] 1 receivableLine := by
  have hflows : flows .a invoice ≠ [] := List.length_pos_iff.mp (by decide)
  refine ⟨0, Nat.one_pos, invoice, rfl, hflows, _, List.mem_cons_self, ?_⟩
  decide

/-- The receipt names the debit line of the invoice and is not followed to it. -/
theorem receipt_not_followed : ¬ PredecessorsResolved chainTexts .a [invoice, receipt] := by
  intro h
  have hwritten : (build_je_network_edges chainTexts [invoice, receipt] .a).map
      (·.predecessor_edge_id) = ["", ""] := by decide_cbv
  have hnamed : (indexedDraws .a [invoice, receipt]).map
      (fun d => (d.1.credit.1.predecessor_line_id, d.2)) =
        [(none, 0), (some receivableLine, 1)] := by decide
  have hdraw := congrArg (·[1]?) hnamed
  have hedge := congrArg (·[1]?) hwritten
  rw [List.getElem?_map] at hdraw hedge
  obtain ⟨d, hd, hline⟩ := Option.map_eq_some_iff.mp hdraw
  obtain ⟨edge, hat, hempty⟩ := Option.map_eq_some_iff.mp hedge
  obtain ⟨hcredit, hindex⟩ := Prod.mk.inj hline
  refine h.resolved 1 d edge hd hat ?_ hempty
  refine ⟨d.1.credit.1, List.mem_cons_self, receivableLine, hcredit, ?_⟩
  rw [hindex]
  exact namesEmitted_receivableLine

end Receipts

end Datasynth.Runtime.JeNetworkChains
