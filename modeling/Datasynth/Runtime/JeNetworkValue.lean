import Mathlib.Data.List.Permutation
import Mathlib.Data.List.Sigma
import Datasynth.Runtime.JeNetwork

/-!
What the edges of a journal entry carry, against the amounts of its lines.
-/

namespace Datasynth.Runtime.JeNetworkValue

open Datasynth.Core.FlowEntries (Uuid)
open Datasynth.Lib.ByteEncoding
open Datasynth.Lib.ProportionalShares
open Datasynth.Runtime.JeNetwork

variable {uuids : UuidTexts} {method : JeNetworkMethod} {je : NetworkEntry}

section Amounts

variable (uuids method je) in
/-- The edges of an entry, each with the pair of lines it is drawn for. -/
def flowEdges : List (((NetworkLine × ℕ) × (NetworkLine × ℕ)) × JeNetworkEdge) :=
  (flows method je).zip (build_je_network_edges uuids [je] method)

variable (uuids method) in
/-- What the edges into a debit line carry. -/
def amountInto (je : NetworkEntry) (debit : NetworkLine × ℕ) : ℚ :=
  (((flowEdges uuids method je).filter (·.1.1.2 = debit.2)).map (·.2.amount)).sum

variable (uuids method) in
/-- What the edges out of a credit line carry. -/
def amountOutOf (je : NetworkEntry) (credit : NetworkLine × ℕ) : ℚ :=
  (((flowEdges uuids method je).filter (·.1.2.2 = credit.2)).map (·.2.amount)).sum

variable (uuids method) in
def edgeTotal (je : NetworkEntry) : ℚ :=
  ((build_je_network_edges uuids [je] method).map (·.amount)).sum

theorem build_singleton :
    build_je_network_edges uuids [je] method = edgesAfter uuids [] (draws method je) := by
  rw [build_je_network_edges_eq, List.flatMap_singleton]

theorem map_amount_build_singleton :
    (build_je_network_edges uuids [je] method).map (·.amount) =
      (flows method je).map fun flow => allocated je flow.1.1 flow.2.1 := by
  rw [build_singleton,
    map_edgesAfter (·.amount) (fun d => allocated d.entry d.debit.1 d.credit.1) fun _ _ => rfl,
    draws, List.map_map]
  rfl

theorem map_filter_zip {α β γ : Type} (P : α → Bool) {f : α → γ} {g : β → γ} {l : List α}
    {l' : List β} (h : l'.map g = l.map f) :
    (((l.zip l').filter (P ·.1)).map (g ·.2)) = (l.filter P).map f := by
  induction l generalizing l' with
  | nil => rfl
  | cons a l ih =>
      cases l' with
      | nil => cases h
      | cons b l' =>
          rw [List.map_cons, List.map_cons, List.cons.injEq] at h
          rw [List.zip_cons_cons, List.filter_cons, List.filter_cons]
          split
          · rw [List.map_cons, List.map_cons, h.1, ih h.2]
          · exact ih h.2

theorem nodup_index_debits : (je.debits.map Prod.snd).Nodup :=
  (List.nodup_zipIdx_map_snd je.lines).sublist (List.filter_sublist.map Prod.snd)

theorem nodup_index_credits : (je.credits.map Prod.snd).Nodup :=
  (List.nodup_zipIdx_map_snd je.lines).sublist (List.filter_sublist.map Prod.snd)

variable (method je) in
/-- The entry has edges between all its debit and credit lines. -/
def DrawsAll : Prop := method = .a → je.debits.length = 1 ∧ je.credits.length = 1

theorem flows_of_drawsAll (h : DrawsAll method je) : flows method je = je.debits ×ˢ je.credits :=
  if_neg fun hnot => hnot.2 (h hnot.1)

theorem flows_of_not_drawsAll (h : ¬ DrawsAll method je) : flows method je = [] := by
  apply if_pos
  rwa [DrawsAll, Classical.not_imp] at h

theorem amountInto_eq (h : DrawsAll method je) (hcredits : je.credits ≠ [])
    {debit : NetworkLine × ℕ} (hdebit : debit ∈ je.debits) :
    amountInto uuids method je debit =
      debit.1.debit_amount * (debit.1.debit_amount / je.debitTotal) := by
  have hflows : (flows method je).filter (·.1.2 = debit.2) = [debit] ×ˢ je.credits := by
    rw [flows_of_drawsAll h,
      filter_product_left fun l : NetworkLine × ℕ => decide (l.2 = debit.2),
      filter_key_eq Prod.snd nodup_index_debits hdebit]
  have hrow := sum_rowShare_of_row je.debitTotal
    (creditTotal_pos hcredits).ne' debit.1.debit_amount
  rw [List.map_map] at hrow
  rw [amountInto, flowEdges,
    map_filter_zip (fun flow => decide (flow.1.2 = debit.2)) map_amount_build_singleton, hflows,
    List.product_cons, List.nil_product, List.append_nil, List.map_map]
  exact hrow

theorem amountOutOf_eq (h : DrawsAll method je) {credit : NetworkLine × ℕ}
    (hcredit : credit ∈ je.credits) :
    amountOutOf uuids method je credit =
      (je.debits.map fun debit =>
          debit.1.debit_amount * (debit.1.debit_amount / je.debitTotal)).sum *
        (credit.1.credit_amount / je.creditTotal) := by
  have hflows : (flows method je).filter (·.2.2 = credit.2) = je.debits ×ˢ [credit] := by
    rw [flows_of_drawsAll h,
      filter_product_right fun l : NetworkLine × ℕ => decide (l.2 = credit.2),
      filter_key_eq Prod.snd nodup_index_credits hcredit]
  have hcolumn := sum_rowShare_of_column je.debitTotal je.creditTotal
    (je.debits.map (·.1.debit_amount)) credit.1.credit_amount
  rw [List.map_map, List.map_map] at hcolumn
  rw [amountOutOf, flowEdges,
    map_filter_zip (fun flow => decide (flow.2.2 = credit.2)) map_amount_build_singleton, hflows,
    product_singleton, List.map_map]
  exact hcolumn

theorem edgeTotal_eq (h : DrawsAll method je) (hcredits : je.credits ≠ []) :
    edgeTotal uuids method je =
      (je.debits.map fun debit =>
        debit.1.debit_amount * (debit.1.debit_amount / je.debitTotal)).sum := by
  rw [edgeTotal, map_amount_build_singleton, flows_of_drawsAll h, sum_map_product]
  congr 1
  apply List.map_congr_left
  intro debit _
  have hrow := sum_rowShare_of_row je.debitTotal
    (creditTotal_pos hcredits).ne' debit.1.debit_amount
  rw [List.map_map] at hrow
  exact hrow

/-- Without edges nothing is carried. -/
theorem amountInto_of_flows_eq_nil (h : flows method je = []) (debit : NetworkLine × ℕ) :
    amountInto uuids method je debit = 0 := by
  rw [amountInto, flowEdges, h]
  rfl

theorem amountOutOf_of_flows_eq_nil (h : flows method je = []) (credit : NetworkLine × ℕ) :
    amountOutOf uuids method je credit = 0 := by
  rw [amountOutOf, flowEdges, h]
  rfl

theorem edgeTotal_of_flows_eq_nil (h : flows method je = []) :
    edgeTotal uuids method je = 0 := by
  rw [edgeTotal, map_amount_build_singleton, h]
  rfl

end Amounts

section Conservation

variable (uuids method) in
structure ConservesValue (je : NetworkEntry) : Prop where
  into_debit : ∀ debit ∈ je.debits, amountInto uuids method je debit = debit.1.debit_amount
  out_of_credit : ∀ credit ∈ je.credits,
    amountOutOf uuids method je credit = credit.1.credit_amount
  total : edgeTotal uuids method je = je.total_debit

/-- No amount is negative. -/
def NonNegative (je : NetworkEntry) : Prop :=
  ∀ line ∈ je.lines, 0 ≤ line.debit_amount ∧ 0 ≤ line.credit_amount

theorem forall_mem_zipIdx {P : NetworkLine → Prop} {lines : List NetworkLine} :
    (∀ l ∈ lines.zipIdx, P l.1) ↔ ∀ line ∈ lines, P line := by
  conv_rhs => rw [← List.zipIdx_map_fst 0 lines]
  rw [List.forall_mem_map]

theorem sum_map_zipIdx (amount : NetworkLine → ℚ) (lines : List NetworkLine) :
    (lines.zipIdx.map fun l => amount l.1).sum = (lines.map amount).sum := by
  conv_rhs => rw [← List.zipIdx_map_fst 0 lines, List.map_map]
  rfl

theorem debitTotal_eq_iff :
    je.debitTotal = je.total_debit ↔ ∀ line ∈ je.lines, 0 ≤ line.debit_amount := by
  rw [NetworkEntry.total_debit, ← sum_map_zipIdx, ← forall_mem_zipIdx]
  exact sum_filter_pos_eq_iff fun l : NetworkLine × ℕ => l.1.debit_amount

theorem creditTotal_eq_iff :
    je.creditTotal = je.total_credit ↔ ∀ line ∈ je.lines, 0 ≤ line.credit_amount := by
  rw [NetworkEntry.total_credit, ← sum_map_zipIdx, ← forall_mem_zipIdx]
  exact sum_filter_pos_eq_iff fun l : NetworkLine × ℕ => l.1.credit_amount

theorem nonNegative_iff :
    NonNegative je ↔ je.debitTotal = je.total_debit ∧ je.creditTotal = je.total_credit := by
  rw [debitTotal_eq_iff, creditTotal_eq_iff, NonNegative]
  exact forall₂_and

/-- A single debit line is its own share. -/
theorem sum_shares_of_single (hone : je.debits.length ≤ 1) :
    (je.debits.map fun debit =>
      debit.1.debit_amount * (debit.1.debit_amount / je.debitTotal)).sum = je.debitTotal := by
  have hshare : ∀ x ∈ je.debits.map (·.1.debit_amount), x * (x / je.debitTotal) = x :=
    share_of_length_le_one debits_pos (by rwa [List.length_map])
  rw [List.map_congr_left fun debit hdebit => hshare _ (List.mem_map_of_mem hdebit)]
  rfl

theorem eq_nil_of_forall_zero {l : List (NetworkLine × ℕ)} {amount : NetworkLine × ℕ → ℚ}
    (hpos : ∀ x ∈ l.map amount, 0 < x) (h : ∀ a ∈ l, 0 = amount a) : l = [] := by
  apply List.eq_nil_iff_forall_not_mem.mpr
  intro a ha
  exact (hpos _ (List.mem_map_of_mem ha)).ne (h a ha)

/-- Where edges are drawn, value is conserved by a single debit line that carries all of the
entry. -/
theorem conservesValue_iff_of_drawn (hdraws : DrawsAll method je) (hdebits : je.debits ≠ [])
    (hcredits : je.credits ≠ []) :
    ConservesValue uuids method je ↔
      je.debits.length ≤ 1 ∧ je.debitTotal = je.creditTotal ∧
        je.debitTotal = je.total_debit := by
  have hcreditTotal := creditTotal_pos hcredits
  constructor
  · intro h
    have hone : je.debits.length ≤ 1 := by
      by_contra hmany
      obtain ⟨debit, hdebit⟩ := List.exists_mem_of_ne_nil _ hdebits
      have hlt := share_lt_of_two debits_pos (by rw [List.length_map]; omega) _
        (List.mem_map_of_mem hdebit)
      have hinto := h.into_debit debit hdebit
      rw [amountInto_eq hdraws hcredits hdebit] at hinto
      exact hlt.ne hinto
    obtain ⟨credit, hcredit⟩ := List.exists_mem_of_ne_nil _ hcredits
    have hpos : 0 < credit.1.credit_amount := credits_pos _ (List.mem_map_of_mem hcredit)
    have hout := h.out_of_credit credit hcredit
    rw [amountOutOf_eq hdraws hcredit, sum_shares_of_single hone, mul_div_left_comm,
      mul_eq_left₀ hpos.ne', div_eq_one_iff_eq hcreditTotal.ne'] at hout
    have htotal := h.total
    rw [edgeTotal_eq hdraws hcredits, sum_shares_of_single hone] at htotal
    exact ⟨hone, hout, htotal⟩
  · rintro ⟨hone, hequal, htotal⟩
    refine ⟨fun debit hdebit => ?_, fun credit hcredit => ?_, ?_⟩
    · rw [amountInto_eq hdraws hcredits hdebit]
      exact share_of_length_le_one debits_pos (by rwa [List.length_map]) _
        (List.mem_map_of_mem hdebit)
    · rw [amountOutOf_eq hdraws hcredit, sum_shares_of_single hone, hequal,
        mul_div_cancel₀ _ hcreditTotal.ne']
    · rw [edgeTotal_eq hdraws hcredits, sum_shares_of_single hone, htotal]

/-- Without edges value is conserved if there is none. -/
theorem conservesValue_iff_of_not_drawn (h : flows method je = []) :
    ConservesValue uuids method je ↔
      je.debits = [] ∧ je.credits = [] ∧ je.total_debit = 0 := by
  constructor
  · intro hconserves
    refine ⟨eq_nil_of_forall_zero debits_pos fun debit hdebit => ?_,
      eq_nil_of_forall_zero credits_pos fun credit hcredit => ?_, ?_⟩
    · rw [← hconserves.into_debit debit hdebit, amountInto_of_flows_eq_nil h]
    · rw [← hconserves.out_of_credit credit hcredit, amountOutOf_of_flows_eq_nil h]
    · rw [← hconserves.total, edgeTotal_of_flows_eq_nil h]
  · rintro ⟨hdebits, hcredits, htotal⟩
    refine ⟨by simp [hdebits], by simp [hcredits], ?_⟩
    rw [edgeTotal_of_flows_eq_nil h, htotal]

theorem flows_ne_nil_iff :
    flows method je ≠ [] ↔ DrawsAll method je ∧ je.debits ≠ [] ∧ je.credits ≠ [] := by
  by_cases hdraws : DrawsAll method je
  · rw [flows_of_drawsAll hdraws, ne_eq, ← List.length_eq_zero_iff, List.length_product,
      Nat.mul_eq_zero, List.length_eq_zero_iff, List.length_eq_zero_iff, not_or]
    exact (and_iff_right hdraws).symm
  · simp [flows_of_not_drawsAll hdraws, hdraws]

/-- The edges of a balanced entry conserve value if no amount is negative and a single debit
line carries the entry; the method for simple entries asks the same of the credit lines. -/
theorem flows_conserveValue_iff (h : je.is_balanced) :
    ConservesValue uuids method je ↔
      NonNegative je ∧ je.debits.length ≤ 1 ∧ (method = .a → je.credits.length ≤ 1) := by
  have hbalanced : je.total_debit = je.total_credit := of_decide_eq_true h
  rw [nonNegative_iff, ← hbalanced]
  by_cases hflows : flows method je = []
  · rw [conservesValue_iff_of_not_drawn hflows]
    constructor
    · rintro ⟨hdebits, hcredits, htotal⟩
      rw [NetworkEntry.debitTotal, NetworkEntry.creditTotal, hdebits, hcredits, htotal]
      exact ⟨⟨rfl, rfl⟩, Nat.zero_le 1, fun _ => Nat.zero_le 1⟩
    · rintro ⟨⟨hdebit, hcredit⟩, hone, hmethod⟩
      have hequal : je.debitTotal = je.creditTotal := hdebit.trans hcredit.symm
      -- A debit line would need a credit line, and then an edge were drawn.
      have hdebits : je.debits = [] := by
        by_contra hdebits
        have hcredits : je.credits ≠ [] := by
          rintro hnil
          have hpos := debitTotal_pos hdebits
          rw [hequal, NetworkEntry.creditTotal, hnil] at hpos
          exact lt_irrefl _ hpos
        have hlength {l : List (NetworkLine × ℕ)} (hne : l ≠ []) (hle : l.length ≤ 1) :
            l.length = 1 := le_antisymm hle (List.length_pos_iff.mpr hne)
        exact flows_ne_nil_iff.mpr
          ⟨fun ha => ⟨hlength hdebits hone, hlength hcredits (hmethod ha)⟩, hdebits, hcredits⟩
          hflows
      have hzero : je.debitTotal = 0 := by
        rw [NetworkEntry.debitTotal, hdebits]
        rfl
      refine ⟨hdebits, ?_, by rw [← hdebit, hzero]⟩
      by_contra hcredits
      exact (creditTotal_pos hcredits).ne' (hequal ▸ hzero)
  · obtain ⟨hdraws, hdebits, hcredits⟩ := flows_ne_nil_iff.mp hflows
    rw [conservesValue_iff_of_drawn hdraws hdebits hcredits]
    constructor
    · rintro ⟨hone, hequal, htotal⟩
      exact ⟨⟨htotal, hequal.symm.trans htotal⟩, hone, fun hmethod => (hdraws hmethod).2.le⟩
    · rintro ⟨⟨hdebit, hcredit⟩, hone, -⟩
      exact ⟨hone, hdebit.trans hcredit.symm, hdebit⟩

section Splits

def zeroUuid : Uuid := ⟨List.replicate 16 0, Uuid.length_zeros⟩

/-- The identifiers of the lines and edges of entries with the zero identifier; other names
are not used. -/
def zeroTexts : UuidTexts where
  new_v5 := fun input =>
    if input = zeroUuid.bytes ++ leBytes 4 1 then "f4271f8d-f1d1-5257-81ce-93064fd4551f"
    else if input = zeroUuid.bytes ++ leBytes 4 2 then "20dc5889-3314-57a4-bfd2-dca97b5a1c9f"
    else if input = zeroUuid.bytes ++ leBytes 4 3 then "2dded3fc-ceec-5921-8000-e55664952518"
    else if input = zeroUuid.bytes ++ leBytes 4 1 ++ leBytes 4 2 then
      "bfcfc6f8-9e3c-5fae-b81b-27a749dd9087"
    else if input = zeroUuid.bytes ++ leBytes 4 1 ++ leBytes 4 3 then
      "aee781d5-6008-5b3b-b9ac-f620c254a7d9"
    else if input = zeroUuid.bytes ++ leBytes 4 2 ++ leBytes 4 3 then
      "854a1124-752e-583a-8f64-d71612ec6cc0"
    else "00000000-0000-0000-0000-000000000000"
  length_text := by
    intro input
    split_ifs <;> rfl

def line (line_number : ℕ) (gl_account : String) (debit credit : ℚ) : NetworkLine where
  line_number := line_number
  gl_account := gl_account
  debit_amount := debit
  credit_amount := credit
  document_id := zeroUuid
  transaction_id := none
  predecessor_line_id := none

def entryOf (lines : List NetworkLine) : NetworkEntry where
  header :=
    { toJournalEntryHeader := .new "C001" (.ofYmd 2026 5 9)
      document_id := zeroUuid
      business_process := some .r2r
      is_fraud := false
      is_anomaly := false
      fraud_type := none }
  lines := lines

def splitCredit : NetworkEntry :=
  entryOf [line 1 "1000" 150 0, line 2 "2000" 0 80, line 3 "2010" 0 70]

def splitDebit : NetworkEntry :=
  entryOf [line 1 "1000" 80 0, line 2 "1010" 70 0, line 3 "2000" 0 150]

/-- One debit line against two credit lines conserves value. -/
theorem splitCredit_conservesValue :
    splitCredit.is_balanced ∧ ConservesValue zeroTexts .cartesian splitCredit := by
  have hbalanced : splitCredit.is_balanced := by decide_cbv
  refine ⟨hbalanced, (flows_conserveValue_iff hbalanced).mpr
    ⟨?_, by decide, fun hmethod => by cases hmethod⟩⟩
  unfold NonNegative
  decide

/-- Two debit lines against one credit line do not. -/
theorem splitDebit_loses_value :
    splitDebit.is_balanced ∧ ¬ ConservesValue zeroTexts .cartesian splitDebit := by
  refine ⟨by decide_cbv, fun h => ?_⟩
  have hdraws : DrawsAll .cartesian splitDebit := fun hmethod => by cases hmethod
  have hdebits : splitDebit.debits ≠ [] := List.length_pos_iff.mp (by decide)
  have hcredits : splitDebit.credits ≠ [] := List.length_pos_iff.mp (by decide)
  have hone := ((conservesValue_iff_of_drawn hdraws hdebits hcredits).mp h).1
  have htwo : splitDebit.debits.length = 2 := by decide
  omega

end Splits

end Conservation

end Datasynth.Runtime.JeNetworkValue
