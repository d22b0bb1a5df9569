import Datasynth.Generators.ClearedChains
import Datasynth.Runtime.JeNetwork

/-!
The lines of a document chain's entries, each linked to a line of the entry before its own.
-/

namespace Datasynth.Generators.PredecessorChains

open Datasynth.Core.BehavioralPriors
open Datasynth.Core.FlowDocuments
open Datasynth.Core.FlowEntries
open Datasynth.Generators.BalancedFlows
open Datasynth.Generators.ClearedChains
open Datasynth.Generators.DocumentFlow
open Datasynth.Lib.CivilCalendar
open Datasynth.Runtime.JeNetwork

section Model

structure IdentifiedLine extends FlowLine where
  transaction_id : Option String

structure WiredLine extends IdentifiedLine where
  predecessor_line_id : Option String

/-- A line as the document flow builds it, without an identifier and a link. -/
def WiredLine.of (line : FlowLine) : WiredLine := ⟨⟨line, none⟩, none⟩

structure WiredEntry where
  header : FlowHeader
  lines : List WiredLine

def WiredEntry.of (entry : FlowEntry) : WiredEntry := ⟨entry.header, entry.lines.map .of⟩

variable (uuids : UuidTexts)

def IdentifiedLine.tx_id (line : IdentifiedLine) : String :=
  line.transaction_id.getD (derive_transaction_id uuids line.document_id line.line_number)

def prev_lines (prev : WiredEntry) : List (String × String) :=
  prev.lines.map fun l => (l.gl_account, l.tx_id uuids)

def wire_line (prev_lines : List (String × String)) (line : WiredLine) : WiredLine :=
  if line.predecessor_line_id.isSome then line
  else
    match prev_lines.find? fun l => l.1 = line.gl_account with
    | some found => { line with predecessor_line_id := some found.2 }
    | none => line

def wire_entry (prev entry : WiredEntry) : WiredEntry :=
  { entry with lines := entry.lines.map (wire_line (prev_lines uuids prev)) }

/-- The loop over the entries that follow another one. -/
def wire_after (prev : WiredEntry) : List WiredEntry → List WiredEntry
  | [] => []
  | entry :: entries =>
      wire_entry uuids prev entry :: wire_after (wire_entry uuids prev entry) entries

def wire_predecessor_chain : List WiredEntry → List WiredEntry
  | [] => []
  | first :: entries => first :: wire_after uuids first entries

inductive DocumentChain where
  | p2p (chain : P2PDocumentChain)
  | o2c (chain : O2CDocumentChain)

variable {ρ : Type} [Rng ρ] (g : DocumentFlowJeGenerator ρ)

/-- The entries of a chain before they are linked. -/
def unwired : DocumentChain → Option (List WiredEntry)
  | .p2p chain => (g.generate_from_p2p_chain chain).map fun r => r.1.map .of
  | .o2c chain => (g.generate_from_o2c_chain chain).map fun r => r.1.map .of

def generate_from_chain (chain : DocumentChain) : Option (List WiredEntry) :=
  (unwired g chain).map (wire_predecessor_chain uuids)

end Model

section Links

variable {uuids : UuidTexts} {entries : List WiredEntry}

def IdentifiedLine.is_debit (line : IdentifiedLine) : Prop := 0 < line.debit_amount

def IdentifiedLine.is_credit (line : IdentifiedLine) : Prop := 0 < line.credit_amount

/-- A line takes back, on the other side, what an earlier one posts to the same account. -/
def Clears (line earlier : IdentifiedLine) : Prop :=
  earlier.gl_account = line.gl_account ∧
    (line.is_debit ∧ earlier.is_credit ∨ line.is_credit ∧ earlier.is_debit)

instance (line earlier : IdentifiedLine) : Decidable (Clears line earlier) :=
  inferInstanceAs (Decidable (_ ∧ (0 < _ ∧ 0 < _ ∨ 0 < _ ∧ 0 < _)))

/-- The lines of the entries in front of a position. -/
def earlierLines (entries : List WiredEntry) (i : ℕ) : List IdentifiedLine :=
  (entries.take i).flatMap fun entry => entry.lines.map (·.toIdentifiedLine)

variable (uuids) in
/-- A link names an earlier line that is cleared, and there is one if such a line exists. -/
def Followed (entries : List WiredEntry) (i : ℕ) (line : WiredLine) : Prop :=
  (∀ id ∈ line.predecessor_line_id,
      ∃ earlier ∈ earlierLines entries i,
        Clears line.toIdentifiedLine earlier ∧ earlier.tx_id uuids = id) ∧
    ((∃ earlier ∈ earlierLines entries i, Clears line.toIdentifiedLine earlier) →
      line.predecessor_line_id ≠ none)

variable (uuids) in
def AllFollowed (entries : List WiredEntry) : Prop :=
  ∀ i entry, entries[i]? = some entry → ∀ line ∈ entry.lines, Followed uuids entries i line

/-- The entry directly in front of a position. -/
def prevEntry (entries : List WiredEntry) : ℕ → Option WiredEntry
  | 0 => none
  | i + 1 => entries[i]?

/-- The first line of the entry in front that is on the account of a line. -/
def firstOnAccount (entries : List WiredEntry) (i : ℕ) (line : WiredLine) : Option WiredLine :=
  (prevEntry entries i).bind fun prev => prev.lines.find? fun l => l.gl_account = line.gl_account

variable (uuids) in
/-- The first line on the account in the entry in front is the one to clear, or shares its
identifier with one to clear; and without such a line there is none to clear at all. -/
def ClearsInFront (entries : List WiredEntry) (i : ℕ) (line : WiredLine) : Prop :=
  match firstOnAccount entries i line with
  | some first => Clears line.toIdentifiedLine first.toIdentifiedLine ∨
      ∃ earlier ∈ earlierLines entries i, Clears line.toIdentifiedLine earlier ∧
        earlier.tx_id uuids = first.tx_id uuids
  | none => ¬∃ earlier ∈ earlierLines entries i, Clears line.toIdentifiedLine earlier

theorem wire_line_eq (prev_lines : List (String × String)) (line : WiredLine) :
    wire_line prev_lines line = { line with
      predecessor_line_id := line.predecessor_line_id.or
        ((prev_lines.find? fun l => l.1 = line.gl_account).map Prod.snd) } := by
  obtain ⟨identified, predecessor⟩ := line
  cases predecessor with
  | some id => rfl
  | none =>
      rw [wire_line, Option.isSome_none, if_neg Bool.false_ne_true, Option.none_or]
      split
      · rename_i found hfound
        rw [hfound]
        rfl
      · rename_i hnone
        rw [hnone]
        rfl

variable (uuids) in
theorem lines_wire_entry (prev entry : WiredEntry) :
    (wire_entry uuids prev entry).lines.map (·.toIdentifiedLine) =
      entry.lines.map (·.toIdentifiedLine) := by
  rw [wire_entry, List.map_map]
  refine List.map_congr_left fun line _ => ?_
  rw [Function.comp_apply, wire_line_eq]

theorem prev_lines_wire_entry (prev entry : WiredEntry) :
    prev_lines uuids (wire_entry uuids prev entry) = prev_lines uuids entry := by
  have hlines := congrArg (List.map fun l : IdentifiedLine => (l.gl_account, l.tx_id uuids))
    (lines_wire_entry uuids prev entry)
  rwa [List.map_map, List.map_map] at hlines

theorem wire_entry_wire_entry (prev entry : WiredEntry) :
    wire_entry uuids (wire_entry uuids prev entry) = wire_entry uuids entry := by
  funext next
  rw [wire_entry, prev_lines_wire_entry, ← wire_entry]

theorem wire_after_wire_entry (prev entry : WiredEntry) (entries : List WiredEntry) :
    wire_after uuids (wire_entry uuids prev entry) entries = wire_after uuids entry entries := by
  cases entries with
  | nil => rfl
  | cons next entries => rw [wire_after, wire_after, wire_entry_wire_entry]

theorem getElem?_wire_after (prev : WiredEntry) (entries : List WiredEntry) (i : ℕ) :
    (wire_after uuids prev entries)[i]? =
      entries[i]?.bind fun entry => (prev :: entries)[i]?.map fun prev =>
        wire_entry uuids prev entry := by
  induction entries generalizing prev i with
  | nil => rfl
  | cons entry entries ih =>
      rw [wire_after, wire_after_wire_entry]
      cases i with
      | zero => rfl
      | succ i =>
          rw [List.getElem?_cons_succ, List.getElem?_cons_succ, List.getElem?_cons_succ]
          exact ih entry i

/-- Every entry but the first is linked to the one in front of it. -/
theorem getElem?_wire_predecessor_chain (entries : List WiredEntry) (i : ℕ) :
    (wire_predecessor_chain uuids entries)[i]? = entries[i]?.map fun entry =>
      (prevEntry entries i).elim entry fun prev => wire_entry uuids prev entry := by
  cases entries with
  | nil => rfl
  | cons first entries =>
      cases i with
      | zero => rfl
      | succ i =>
          rw [wire_predecessor_chain, List.getElem?_cons_succ, List.getElem?_cons_succ,
            getElem?_wire_after, prevEntry]
          cases hentry : entries[i]? with
          | none => rfl
          | some entry =>
              have hlt : i < (first :: entries).length := by
                obtain ⟨hi, -⟩ := List.getElem?_eq_some_iff.mp hentry
                rw [List.length_cons]
                omega
              rw [List.getElem?_eq_getElem hlt]
              rfl

theorem earlierLines_wire (entries : List WiredEntry) (i : ℕ) :
    earlierLines (wire_predecessor_chain uuids entries) i = earlierLines entries i := by
  have hlines : (wire_predecessor_chain uuids entries).map
      (fun entry => entry.lines.map (·.toIdentifiedLine)) =
        entries.map fun entry => entry.lines.map (·.toIdentifiedLine) := by
    refine List.ext_getElem? fun i => ?_
    rw [List.getElem?_map, List.getElem?_map, getElem?_wire_predecessor_chain, Option.map_map]
    refine Option.map_congr fun entry _ => ?_
    rw [Function.comp_apply]
    cases prevEntry entries i with
    | none => rfl
    | some prev => exact lines_wire_entry uuids prev entry
  rw [earlierLines, earlierLines, List.flatMap, List.flatMap, List.map_take, List.map_take, hlines]

theorem mem_earlierLines_of_firstOnAccount {i : ℕ} {line first : WiredLine}
    (h : firstOnAccount entries i line = some first) :
    first.toIdentifiedLine ∈ earlierLines entries i := by
  obtain ⟨prev, hprev, hfirst⟩ := Option.bind_eq_some_iff.mp h
  cases i with
  | zero => cases hprev
  | succ i =>
      obtain ⟨hi, rfl⟩ := List.getElem?_eq_some_iff.mp hprev
      refine List.mem_flatMap.mpr ⟨entries[i], ?_, ?_⟩
      · exact List.mem_take_iff_getElem.mpr ⟨i, by omega, rfl⟩
      · exact List.mem_map_of_mem (List.mem_of_find?_eq_some hfirst)

/-- A line without a link gets the identifier of the first line on its account in front. -/
theorem wire_line_eq_firstOnAccount {i : ℕ} {line : WiredLine}
    (hline : line.predecessor_line_id = none) :
    ((prevEntry entries i).elim line fun prev => wire_line (prev_lines uuids prev) line) =
      { line with
        predecessor_line_id := (firstOnAccount entries i line).map (·.tx_id uuids) } := by
  rw [firstOnAccount]
  cases prevEntry entries i with
  | none =>
      obtain ⟨identified, predecessor⟩ := line
      cases hline
      rfl
  | some prev =>
      rw [Option.elim_some, wire_line_eq, hline, Option.none_or, prev_lines, List.find?_map,
        Option.map_map, Option.bind_some]
      rfl

theorem followed_wire_line_iff {i : ℕ} {line : WiredLine}
    (hline : line.predecessor_line_id = none) :
    Followed uuids (wire_predecessor_chain uuids entries) i
        ((prevEntry entries i).elim line fun prev => wire_line (prev_lines uuids prev) line) ↔
      ClearsInFront uuids entries i line := by
  rw [wire_line_eq_firstOnAccount hline, Followed, earlierLines_wire, ClearsInFront]
  cases hfirst : firstOnAccount entries i line with
  | none =>
      constructor
      · intro h hcleared
        exact h.2 hcleared rfl
      · intro h
        exact ⟨by rintro _ ⟨⟩, fun hcleared => absurd hcleared h⟩
  | some first =>
      constructor
      · intro h
        exact .inr (h.1 _ rfl)
      · intro h
        refine ⟨?_, fun _ => Option.some_ne_none _⟩
        intro id hid
        cases hid
        rcases h with hclears | hshared
        · exact ⟨first.toIdentifiedLine, mem_earlierLines_of_firstOnAccount hfirst, hclears, rfl⟩
        · exact hshared

/-- No line is linked before the entries are. -/
def Unlinked (entries : List WiredEntry) : Prop :=
  ∀ entry ∈ entries, ∀ line ∈ entry.lines, line.predecessor_line_id = none

theorem allFollowed_wire_iff (hunlinked : Unlinked entries) :
    AllFollowed uuids (wire_predecessor_chain uuids entries) ↔
      ∀ i entry, entries[i]? = some entry → ∀ line ∈ entry.lines,
        ClearsInFront uuids entries i line := by
  rw [AllFollowed]
  refine forall_congr' fun i => ?_
  rw [getElem?_wire_predecessor_chain]
  cases hentry : entries[i]? with
  | none => simp
  | some entry =>
      have hlines := hunlinked entry (List.mem_of_getElem? hentry)
      simp only [Option.map_some, Option.some.injEq, forall_eq']
      have hwired : ((prevEntry entries i).elim entry fun prev =>
          wire_entry uuids prev entry).lines = entry.lines.map fun line =>
            (prevEntry entries i).elim line fun prev =>
              wire_line (prev_lines uuids prev) line := by
        cases prevEntry entries i with
        | none => exact (List.map_id _).symm
        | some prev => rfl
      rw [hwired, List.forall_mem_map]
      refine forall₂_congr fun line hline => ?_
      exact followed_wire_line_iff (hlines line hline)

end Links

section Result

variable {ρ : Type} [Rng ρ]

theorem unlinked_unwired {g : DocumentFlowJeGenerator ρ} {chain : DocumentChain}
    {entries : List WiredEntry} (h : unwired g chain = some entries) : Unlinked entries := by
  have hof : ∀ l : List FlowEntry, Unlinked (l.map .of) := by
    intro l entry hentry line hline
    obtain ⟨flow, -, rfl⟩ := List.mem_map.mp hentry
    obtain ⟨flowLine, -, rfl⟩ := List.mem_map.mp hline
    rfl
  cases chain with
  | p2p chain =>
      obtain ⟨r, -, rfl⟩ := Option.map_eq_some_iff.mp h
      exact hof _
  | o2c chain =>
      obtain ⟨r, -, rfl⟩ := Option.map_eq_some_iff.mp h
      exact hof _

/-- The links follow the lines that are cleared, just if for every line the first one on its
account in the entry in front is such a line. -/
theorem allFollowed_iff (uuids : UuidTexts) (g : DocumentFlowJeGenerator ρ)
    (chain : DocumentChain) :
    (∀ entries ∈ generate_from_chain uuids g chain, AllFollowed uuids entries) ↔
      ∀ entries ∈ unwired g chain, ∀ i entry, entries[i]? = some entry → ∀ line ∈ entry.lines,
        ClearsInFront uuids entries i line := by
  rw [generate_from_chain]
  cases hunwired : unwired g chain with
  | none => exact iff_of_true (by rintro _ ⟨⟩) (by rintro _ ⟨⟩)
  | some entries =>
      simp only [Option.map_some, Option.mem_some_iff, forall_eq']
      exact allFollowed_wire_iff (unlinked_unwired hunwired)

/-- Two receipts of goods one after the other, and no invoice. -/
def twoReceipts : P2PDocumentChain where
  purchase_order := .new "PO-1" "1000" (Date.ofYmd 2024 1 8)
  goods_receipts := [receivedGoods, receivedGoods]
  vendor_invoice := none
  payment := none
  remainder_payments := []
  is_complete := false

/-- The inventory line of the second receipt is linked to the one of the first. -/
theorem receipt_linked_to_receipt : ¬∃ uuids,
    ∀ entries ∈ generate_from_chain uuids plainGenerator (.p2p twoReceipts),
      AllFollowed uuids entries := by
  rintro ⟨uuids, hall⟩
  -- which line is linked is decided on the entries before the texts of the identifiers are used
  have hlinked : ∃ entries ∈ unwired plainGenerator (.p2p twoReceipts), ∃ entry ∈ entries[1]?,
      ∃ line ∈ entry.lines, (firstOnAccount entries 1 line).isSome ∧
        ∀ earlier ∈ earlierLines entries 1, ¬Clears line.toIdentifiedLine earlier := by
    decide +kernel
  obtain ⟨entries, hentries, entry, hentry, line, hline, hfirst, hnone⟩ := hlinked
  rw [Option.mem_def] at hentries
  have hgenerated : wire_predecessor_chain uuids entries ∈
      generate_from_chain uuids plainGenerator (.p2p twoReceipts) := by
    rw [generate_from_chain, hentries]
    rfl
  have hfollowed := hall _ hgenerated
  rw [allFollowed_wire_iff (unlinked_unwired hentries)] at hfollowed
  have hfront := hfollowed 1 entry hentry line hline
  obtain ⟨first, hfirst⟩ := Option.isSome_iff_exists.mp hfirst
  rw [ClearsInFront, hfirst] at hfront
  rcases hfront with hclears | ⟨earlier, hearlier, hclears, -⟩
  · exact hnone _ (mem_earlierLines_of_firstOnAccount hfirst) hclears
  · exact hnone earlier hearlier hclears

end Result

end Datasynth.Generators.PredecessorChains
