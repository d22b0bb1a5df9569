import Mathlib
import Datasynth.Generators.FlowPostings

/-! When the entry of a document is balanced, with no priors loaded. -/

namespace Datasynth.Generators.BalancedFlows

open Datasynth.Core.BehavioralPriors
open Datasynth.Core.FlowDocuments
open Datasynth.Core.FlowEntries
open Datasynth.Generators.DocumentFlow
open Datasynth.Generators.FlowPostings
open Datasynth.Lib.CivilCalendar

def Built : FlowDocument → Prop
  | .goodsReceipt gr => gr.Built
  | .vendorInvoice invoice => invoice.Built
  | .apPayment payment => payment.Built
  | .delivery delivery => delivery.Built
  | .customerInvoice invoice => invoice.Built
  | .arReceipt payment => payment.Built

section Balance

variable {ρ : Type} [Rng ρ]

def EmitsBalanced (g : DocumentFlowJeGenerator ρ) (document : FlowDocument) : Prop :=
  ∀ entry ∈ (g.generate document).1, entry.total_debit = entry.total_credit

omit [Rng ρ] in
theorem sum_postings (entry : FlowEntry) :
    (entry.postings.map Prod.snd).sum = entry.total_debit - entry.total_credit := by
  rw [FlowEntry.postings, FlowEntry.total_debit, FlowEntry.total_credit]
  induction entry.lines with
  | nil => exact (sub_zero (0 : ℚ)).symm
  | cons line lines ih =>
      rw [List.map_cons, List.map_cons, List.map_cons, List.map_cons, List.sum_cons,
        List.sum_cons, List.sum_cons, ih]
      ring

/-- Without priors an entry is balanced when the postings of its document cancel. -/
theorem emitsBalanced_iff_sum {g : DocumentFlowJeGenerator ρ} (hpriors : g.loaded_priors = none)
    (document : FlowDocument) :
    EmitsBalanced g document ↔
      ((documentPostings g.config g.config.gr_ir_clearing_account document).map Prod.snd).sum =
        0 := by
  have hkept : Kept g fun _ => true := .inl hpriors
  have haccount : g.debit_account.1 = g.config.gr_ir_clearing_account := by
    rw [DocumentFlowJeGenerator.debit_account, hpriors]
  have hpostings := filter_postings_generate document hkept
  rw [List.filter_true, List.filter_true, haccount] at hpostings
  rw [← hpostings, EmitsBalanced]
  cases (g.generate document).1 with
  | none => exact iff_of_true (fun _ h => nomatch h) rfl
  | some entry =>
      show (∀ e, some entry = some e → _) ↔ ((entryPostings [entry]).map Prod.snd).sum = 0
      rw [entryPostings, List.flatMap_singleton, sum_postings, sub_eq_zero]
      constructor
      · intro h
        exact h entry rfl
      · rintro h _ ⟨⟩
        exact h

end Balance

section Documents

theorem sum_transfer (amount : ℚ) (debited credited : String) :
    ((transfer amount debited credited).map Prod.snd).sum = 0 := by
  rw [transfer]
  split
  · rfl
  · simp

/-- What is withheld from a vendor is nothing, or goes with no tax, or is all. -/
def WithholdingPosted (invoice : VendorInvoice) : Prop :=
  (invoice.items.map (·.base.tax_amount)).sum ≤ 0 ∨
    (invoice.items.map (·.withholding_tax_amount)).sum = 0 ∨
      (invoice.items.map (·.base.net_amount)).sum + (invoice.items.map (·.base.tax_amount)).sum =
        (invoice.items.map (·.withholding_tax_amount)).sum

def WithholdingAgrees : FlowDocument → Prop
  | .vendorInvoice invoice => WithholdingPosted invoice
  | _ => True

theorem sum_vendor_invoice (config : DocumentFlowJeConfig) {invoice : VendorInvoice}
    (htotalled : invoice.Totalled) :
    ((documentPostings config config.gr_ir_clearing_account
        (.vendorInvoice invoice)).map Prod.snd).sum = 0 ↔ WithholdingPosted invoice := by
  have hpayable := htotalled.payable
  rw [WithholdingPosted, ← htotalled.net, ← htotalled.tax, documentPostings, invoicedNet]
  generalize (invoice.items.map (·.withholding_tax_amount)).sum = withheld at hpayable ⊢
  by_cases hzero : invoice.payable_amount = 0
  · rw [if_pos hzero]
    refine iff_of_true rfl (.inr (.inr ?_))
    rw [hzero] at hpayable
    linear_combination -hpayable
  · rw [if_neg hzero]
    by_cases htax : 0 < invoice.tax_amount
    · rw [if_pos htax, if_pos htax]
      have hsum : ∀ net tax payable : ℚ, (net + tax - payable = 0 ↔ payable = net + tax) :=
        fun net tax payable => ⟨fun h => by linear_combination -h, fun h => by rw [h, sub_self]⟩
      have hall : invoice.net_amount + invoice.tax_amount ≠ withheld := by
        intro h
        exact hzero (by rw [hpayable, h, sub_self])
      show invoice.net_amount + (invoice.tax_amount + (-invoice.payable_amount + 0)) = 0 ↔ _
      rw [add_zero, ← sub_eq_add_neg, ← add_sub_assoc, hsum, hpayable, sub_eq_self,
        or_iff_right (not_le.mpr htax), or_iff_left hall]
    · rw [if_neg htax, if_neg htax]
      refine iff_of_true ?_ (.inl (not_lt.mp htax))
      show invoice.payable_amount + (-invoice.payable_amount + 0) = 0
      rw [add_zero, add_neg_cancel]

theorem sum_customer_invoice (config : DocumentFlowJeConfig) (debit_gl : String)
    {invoice : CustomerInvoice}
    (hgross : invoice.total_gross_amount = invoice.total_net_amount + invoice.total_tax_amount) :
    ((documentPostings config debit_gl (.customerInvoice invoice)).map Prod.snd).sum = 0 := by
  rw [documentPostings]
  split
  · rfl
  · split
    · show invoice.total_gross_amount +
        (-invoice.total_net_amount + (-invoice.total_tax_amount + 0)) = 0
      rw [hgross]
      ring
    · show invoice.total_gross_amount + (-invoice.total_gross_amount + 0) = 0
      rw [add_zero, add_neg_cancel]

/-- The entry of a document built by its operations is balanced exactly when the tax withheld
from a vendor is posted with it. -/
theorem emitsBalanced_iff {ρ : Type} [Rng ρ] {g : DocumentFlowJeGenerator ρ}
    (hpriors : g.loaded_priors = none) {document : FlowDocument} (hbuilt : Built document) :
    EmitsBalanced g document ↔ WithholdingAgrees document := by
  rw [emitsBalanced_iff_sum hpriors]
  cases document with
  | goodsReceipt gr => exact iff_of_true (sum_transfer _ _ _) trivial
  | vendorInvoice invoice => exact sum_vendor_invoice _ (VendorInvoice.Built.totalled hbuilt)
  | apPayment payment => exact iff_of_true (sum_transfer _ _ _) trivial
  | delivery delivery => exact iff_of_true (sum_transfer _ _ _) trivial
  | customerInvoice invoice =>
      exact iff_of_true (sum_customer_invoice _ _ (CustomerInvoice.Built.gross hbuilt)) trivial
  | arReceipt payment => exact iff_of_true (sum_transfer _ _ _) trivial

def plainGenerator : DocumentFlowJeGenerator (List ℚ) := .with_config_and_seed .default 0 []

/-- An invoice of 1000 with a tax of 190, of which 50 are withheld. -/
def withheldInvoice (tax : ℚ) : VendorInvoice :=
  (VendorInvoice.new "VI-1" "1000" "V-1" "INV-1" (Date.ofYmd 2024 1 15)).add_item
    (((VendorInvoiceItem.new 1 10 100).with_tax tax).with_withholding_tax 50)

theorem withheldInvoice_built (tax : ℚ) : (withheldInvoice tax).Built := .add_item _ (.new _ _ _ _ _)

theorem emitsBalanced_untaxed :
    EmitsBalanced plainGenerator (.vendorInvoice (withheldInvoice 0)) := by
  have hbuilt : Built (.vendorInvoice (withheldInvoice 0)) := withheldInvoice_built 0
  refine (emitsBalanced_iff rfl hbuilt).mpr (.inl ?_)
  decide_cbv

/-- The debits are 1190, the credits 1140. -/
theorem not_emitsBalanced_taxed :
    Built (.vendorInvoice (withheldInvoice 190)) ∧
      ¬EmitsBalanced plainGenerator (.vendorInvoice (withheldInvoice 190)) := by
  refine ⟨withheldInvoice_built 190, ?_⟩
  rw [emitsBalanced_iff_sum rfl]
  decide +kernel

end Documents

end Datasynth.Generators.BalancedFlows

/-!
What a chain of purchasing documents leaves on the clearing account and on accounts payable once
it is paid.
-/

namespace Datasynth.Generators.ClearedChains

open Datasynth.Core.BehavioralPriors
open Datasynth.Core.FlowDocuments
open Datasynth.Core.FlowEntries
open Datasynth.Generators.BalancedFlows
open Datasynth.Generators.DocumentFlow
open Datasynth.Generators.FlowPostings
open Datasynth.Lib.CivilCalendar
open Datasynth.Lib.DoubleValues
open Datasynth.Lib.SignedPostings

section Chains

variable {ρ : Type} [Rng ρ]

/-- If the chain is lettered, the identifier of its order has a code. -/
def Letterable (g : DocumentFlowJeGenerator ρ) (chain : P2PDocumentChain) : Prop :=
  g.config.populate_fec_fields = true → chain.is_complete = true → chain.payment ≠ none →
    lettrage_code chain.purchase_order.document_id ≠ none

def paid (chain : P2PDocumentChain) : ℚ := (chain.payments.map (·.amount)).sum

/-- The chain is posted, clears the goods received, and once paid leaves nothing payable. -/
def Clears (g : DocumentFlowJeGenerator ρ) (chain : P2PDocumentChain) (invoice : VendorInvoice) :
    Prop :=
  ∃ entries g', g.generate_from_p2p_chain chain = some (entries, g') ∧
    netOn g.config.gr_ir_clearing_account (entryPostings entries) = 0 ∧
      (paid chain = invoice.payable_amount →
        netOn g.config.ap_account (entryPostings entries) = 0)

theorem entryPostings_of_generate {g : DocumentFlowJeGenerator ρ} {chain : P2PDocumentChain}
    {entries : List FlowEntry} {g' : DocumentFlowJeGenerator ρ}
    (h : g.generate_from_p2p_chain chain = some (entries, g')) :
    entryPostings entries = entryPostings (g.generate_all chain.documents).1 := by
  obtain ⟨lettered, hlettered, hpair⟩ := Option.map_eq_some_iff.mp h
  cases hpair
  split at hlettered
  · split at hlettered
    · rw [DocumentFlowJeGenerator.apply_lettrage] at hlettered
      split at hlettered
      · obtain ⟨code, -, rfl⟩ := Option.map_eq_some_iff.mp hlettered
        exact entryPostings_map_letter _ _ _
      · cases hlettered
        rfl
    · cases hlettered
      rfl
  · cases hlettered
    rfl

theorem generate_ne_none_iff {g : DocumentFlowJeGenerator ρ} {chain : P2PDocumentChain} :
    g.generate_from_p2p_chain chain ≠ none ↔ Letterable g chain := by
  rw [DocumentFlowJeGenerator.generate_from_p2p_chain, Letterable]
  simp only [DocumentFlowJeGenerator.apply_lettrage,
    (sameSetup_generate_all chain.documents).config, ne_eq, Option.map_eq_none_iff]
  cases hpayment : chain.payment with
  | none => simp
  | some payment =>
      by_cases hfec : g.config.populate_fec_fields = true
      · by_cases hcomplete : chain.is_complete = true
        · simp [hfec, hcomplete]
        · simp [hfec, hcomplete]
      · simp [hfec]

/-- What the documents of a chain leave on the two accounts. -/
def PlanClears (config : DocumentFlowJeConfig) (debit_gl : String) (chain : P2PDocumentChain)
    (invoice : VendorInvoice) : Prop :=
  netOn config.gr_ir_clearing_account
      (chain.documents.flatMap (documentPostings config debit_gl)) = 0 ∧
    (paid chain = invoice.payable_amount →
      netOn config.ap_account (chain.documents.flatMap (documentPostings config debit_gl)) = 0)

theorem netOn_generate_all {g : DocumentFlowJeGenerator ρ} (chain : P2PDocumentChain)
    {account : String} (h : account ∈ g.no_split_accounts) :
    netOn account (entryPostings (g.generate_all chain.documents).1) =
      netOn account (chain.documents.flatMap
        (documentPostings g.config (chainAccount g chain))) := by
  rw [← netWhere_decide, ← netWhere_decide, ← plannedPostings_p2p]
  apply netWhere_generate_all
  refine .inr fun a ha => ?_
  rw [of_decide_eq_true ha]
  exact h

theorem clears_iff_plan (g : DocumentFlowJeGenerator ρ) (chain : P2PDocumentChain)
    (invoice : VendorInvoice) :
    Clears g chain invoice ↔
      Letterable g chain ∧ PlanClears g.config (chainAccount g chain) chain invoice := by
  have hmem : g.config.gr_ir_clearing_account ∈ g.no_split_accounts ∧
      g.config.ap_account ∈ g.no_split_accounts := by
    simp [DocumentFlowJeGenerator.no_split_accounts]
  have hgr_ir := netOn_generate_all chain hmem.1
  have hap := netOn_generate_all chain hmem.2
  rw [PlanClears, ← hgr_ir, ← hap, ← generate_ne_none_iff]
  constructor
  · rintro ⟨entries, g', hgenerate, hclears⟩
    rw [entryPostings_of_generate hgenerate] at hclears
    exact ⟨by rw [hgenerate]; exact Option.some_ne_none _, hclears⟩
  · rintro ⟨hsome, hclears⟩
    obtain ⟨⟨entries, g'⟩, hgenerate⟩ := Option.ne_none_iff_exists'.mp hsome
    refine ⟨entries, g', hgenerate, ?_⟩
    rw [entryPostings_of_generate hgenerate]
    exact hclears

end Chains

section Amounts

/-- The control accounts are used for nothing else. -/
structure ControlsApart (config : DocumentFlowJeConfig) : Prop where
  gr_ir : config.gr_ir_clearing_account ∉
    [config.inventory_account, config.ap_account, config.cash_account, config.vat_input_account]
  ap : config.ap_account ∉
    [config.inventory_account, config.gr_ir_clearing_account, config.cash_account,
      config.vat_input_account]

theorem controlsApart_default : ControlsApart .default := ⟨by decide, by decide⟩

/-- The invoice and the receipts of a chain meet on the clearing account. -/
def NetCleared (config : DocumentFlowJeConfig) (debit_gl : String) (chain : P2PDocumentChain)
    (invoice : VendorInvoice) : Prop :=
  if invoice.payable_amount = 0 then invoice.net_amount = 0
  else if debit_gl = config.gr_ir_clearing_account then
    0 < invoice.tax_amount ∨ invoice.payable_amount = invoice.net_amount
  else
    invoice.net_amount = 0 ∧
      (debit_gl = config.ap_account →
        0 < invoice.tax_amount ∨ paid chain ≠ invoice.payable_amount)

theorem netOn_flatMap_transfer {α : Type} (account debited credited : String) (amount : α → ℚ)
    (rows : List α) :
    netOn account (rows.flatMap fun row => transfer (amount row) debited credited) =
      (if debited = account then (rows.map amount).sum else 0) -
        (if credited = account then (rows.map amount).sum else 0) := by
  rw [← netWhere_decide, netWhere_flatMap_transfer]
  simp only [decide_eq_true_eq]

theorem netOn_vendor_invoice (config : DocumentFlowJeConfig) (debit_gl account : String)
    {invoice : VendorInvoice} (hpayable : invoice.payable_amount ≠ 0)
    (hvat : config.vat_input_account ≠ account) :
    netOn account (documentPostings config debit_gl (.vendorInvoice invoice)) =
      (if debit_gl = account then invoicedNet invoice else 0) -
        (if config.ap_account = account then invoice.payable_amount else 0) := by
  rw [documentPostings, if_neg hpayable, netOn_append, netOn_cons, netOn_cons, netOn_nil, add_zero,
    sub_eq_add_neg]
  have hvat_line : netOn account (if 0 < invoice.tax_amount then
      [(config.vat_input_account, invoice.tax_amount)] else []) = 0 := by
    split
    · rw [netOn_cons, if_neg hvat, netOn_nil, add_zero]
    · rfl
  rw [hvat_line, add_zero]
  congr 1
  split
  · rfl
  · exact neg_zero.symm

theorem receivedValue_of_built {gr : GoodsReceipt} (h : gr.Built) :
    receivedValue gr = gr.total_value := by
  have htotal : gr.total_value = (gr.items.map (·.base.net_amount)).sum := by
    induction h with
    | new => rfl
    | from_purchase_order => rfl
    | recalculate_totals _ _ => rfl
    | add_item _ _ _ => rfl
    | post _ _ ih => exact ih
  rw [receivedValue, ← htotal]
  split
  · rename_i hempty
    rw [htotal, hempty]
    rfl
  · exact ite_self _

theorem planClears_iff {config : DocumentFlowJeConfig} (hconfig : ControlsApart config)
    {debit_gl : String} {chain : P2PDocumentChain} {invoice : VendorInvoice}
    (hinvoice : chain.vendor_invoice = some invoice)
    (hbuilt : ∀ gr ∈ chain.goods_receipts, gr.Built)
    (hvalue : (chain.goods_receipts.map (·.total_value)).sum = invoice.net_amount) :
    PlanClears config debit_gl chain invoice ↔ NetCleared config debit_gl chain invoice := by
  have hgr_ir := hconfig.gr_ir
  have hap := hconfig.ap
  simp only [List.mem_cons, List.not_mem_nil, or_false, not_or] at hgr_ir hap
  have hreceived : (chain.goods_receipts.map receivedValue).sum = invoice.net_amount := by
    rw [← hvalue]
    exact congrArg List.sum
      (List.map_congr_left fun gr hgr => receivedValue_of_built (hbuilt gr hgr))
  have hnet : ∀ account, netOn account
      (chain.documents.flatMap (documentPostings config debit_gl)) =
        ((if config.inventory_account = account then invoice.net_amount else 0) -
          (if config.gr_ir_clearing_account = account then invoice.net_amount else 0)) +
        netOn account (documentPostings config debit_gl (.vendorInvoice invoice)) +
        ((if config.ap_account = account then paid chain else 0) -
          (if config.cash_account = account then paid chain else 0)) := by
    intro account
    rw [P2PDocumentChain.documents, hinvoice, List.flatMap_append, List.flatMap_append,
      netOn_append, netOn_append, List.flatMap_map, List.flatMap_map, List.flatMap_map,
      ← hreceived, paid,
      ← netOn_flatMap_transfer, ← netOn_flatMap_transfer]
    show _ + netOn account (_ ++ []) + _ = _
    rw [List.append_nil]
    rfl
  rw [PlanClears, hnet, hnet, if_neg (Ne.symm hgr_ir.1), if_pos rfl, if_neg (Ne.symm hgr_ir.2.1),
    if_neg (Ne.symm hgr_ir.2.2.1), if_neg (Ne.symm hap.1), if_neg (Ne.symm hap.2.1), if_pos rfl,
    if_neg (Ne.symm hap.2.2.1), NetCleared]
  by_cases hpayable : invoice.payable_amount = 0
  · have hnone : documentPostings config debit_gl (.vendorInvoice invoice) = [] := by
      rw [documentPostings, if_pos hpayable]
    rw [if_pos hpayable, hnone, netOn_nil, netOn_nil, hpayable]
    constructor
    · rintro ⟨hzero, -⟩
      linarith
    · intro hzero
      exact ⟨by rw [hzero]; ring, fun hpaid => by rw [hpaid]; ring⟩
  · rw [if_neg hpayable, netOn_vendor_invoice config debit_gl _ hpayable (Ne.symm hgr_ir.2.2.2),
      netOn_vendor_invoice config debit_gl _ hpayable (Ne.symm hap.2.2.2), if_pos rfl,
      if_neg (Ne.symm hgr_ir.2.1), invoicedNet]
    by_cases hdirect : debit_gl = config.gr_ir_clearing_account
    · have hother : debit_gl ≠ config.ap_account := hdirect.trans_ne hgr_ir.2.1
      rw [if_pos hdirect, if_neg hother, if_pos hdirect]
      constructor
      · rintro ⟨hzero, -⟩
        by_cases htax : 0 < invoice.tax_amount
        · exact .inl htax
        · rw [if_neg htax] at hzero
          exact .inr (by linarith)
      · intro h
        have hposted : (if 0 < invoice.tax_amount then invoice.net_amount
            else invoice.payable_amount) = invoice.net_amount := by
          rcases h with htax | heq
          · exact if_pos htax
          · rw [heq, ite_self]
        exact ⟨by rw [hposted]; ring, fun hpaid => by rw [hpaid]; ring⟩
    · rw [if_neg hdirect, if_neg hdirect]
      by_cases hpayables : debit_gl = config.ap_account
      · rw [if_pos hpayables]
        constructor
        · rintro ⟨hzero, hsettled⟩
          refine ⟨by linarith, fun _ => ?_⟩
          by_cases htax : 0 < invoice.tax_amount
          · exact .inl htax
          · refine .inr fun hpaid => hpayable ?_
            have := hsettled hpaid
            rw [if_neg htax] at this
            linarith
        · rintro ⟨hzero, hsettled⟩
          refine ⟨by rw [hzero]; ring, fun hpaid => ?_⟩
          rcases hsettled hpayables with htax | hunpaid
          · rw [if_pos htax, hzero, hpaid]
            ring
          · exact absurd hpaid hunpaid
      · rw [if_neg hpayables]
        constructor
        · rintro ⟨hzero, -⟩
          exact ⟨by linarith, fun h => absurd h hpayables⟩
        · rintro ⟨hzero, -⟩
          exact ⟨by rw [hzero]; ring, fun hpaid => by rw [hpaid]; ring⟩

end Amounts

section Settlement

variable {ρ : Type} [Rng ρ]

/-- A chain is cleared exactly when the postings of its documents cancel; where the control
accounts are used for nothing else, when its receipts and its invoice meet. -/
theorem clears_iff (g : DocumentFlowJeGenerator ρ) {chain : P2PDocumentChain}
    {invoice : VendorInvoice} (hinvoice : chain.vendor_invoice = some invoice)
    (hvalue : (chain.goods_receipts.map (·.total_value)).sum = invoice.net_amount) :
    (Clears g chain invoice ↔
        Letterable g chain ∧ PlanClears g.config (chainAccount g chain) chain invoice) ∧
      (ControlsApart g.config → (∀ gr ∈ chain.goods_receipts, gr.Built) →
        (Clears g chain invoice ↔
          Letterable g chain ∧ NetCleared g.config (chainAccount g chain) chain invoice)) := by
  refine ⟨clears_iff_plan g chain invoice, ?_⟩
  intro hconfig hbuilt
  rw [clears_iff_plan, planClears_iff hconfig hinvoice hbuilt hvalue]

def receivedGoods : GoodsReceipt :=
  (GoodsReceipt.from_purchase_order "GR-1" "1000" "V-1" (Date.ofYmd 2024 1 10)).add_item
    (.new 1 10 100)

theorem receivedGoods_built : receivedGoods.Built := .add_item _ (.from_purchase_order _ _ _ _)

/-- A receipt of 1000 with its invoice and the payment of what is payable. -/
def settledChain (invoice : VendorInvoice) : P2PDocumentChain where
  purchase_order := .new "PO-1000-0000000001" "1000" (Date.ofYmd 2024 1 2)
  goods_receipts := [receivedGoods]
  vendor_invoice := some invoice
  payment := some (.new_ap_payment "PAY-1" "1000" "V-1" invoice.payable_amount
    (Date.ofYmd 2024 2 15))
  remainder_payments := []
  is_complete := true

def taxedInvoice : VendorInvoice :=
  (VendorInvoice.new "VI-2" "1000" "V-1" "INV-2" (Date.ofYmd 2024 1 15)).add_item
    ((VendorInvoiceItem.new 1 10 100).with_tax 190)

theorem clears_taxed : Clears plainGenerator (settledChain taxedInvoice) taxedInvoice := by
  have hinvoice : (settledChain taxedInvoice).vendor_invoice = some taxedInvoice := rfl
  have hclears := clears_iff plainGenerator hinvoice (by decide_cbv)
  refine (hclears.2 controlsApart_default ?_).mpr ⟨?_, ?_⟩
  · intro gr hgr
    rw [List.mem_singleton.mp hgr]
    exact receivedGoods_built
  · intro hfec
    exact absurd hfec Bool.false_ne_true
  · rw [NetCleared]
    decide +kernel

/-- Every vendor invoice goes to an expense account. -/
def expensing : DocumentFlowJeGenerator (List ℚ) :=
  let config := { DocumentFlowJeConfig.default with direct_expense_share := .finite 1 }
  (DocumentFlowJeGenerator.with_config_and_seed config 0 []).set_loaded_priors
    ⟨⟨[], [], rfl⟩, [], none, none⟩

/-- Receipts and invoice are of one value and everything is paid, but 50 stay on the clearing
account where they are withheld, and 1000 where the invoice goes to an expense account. -/
theorem not_clears_settledChain :
    ¬Clears plainGenerator (settledChain (withheldInvoice 0)) (withheldInvoice 0) ∧
      ¬Clears expensing (settledChain taxedInvoice) taxedInvoice := by
  constructor
  · rw [clears_iff_plan]
    rintro ⟨-, hzero, -⟩
    exact absurd hzero (by decide +kernel)
  · rw [clears_iff_plan]
    rintro ⟨-, hzero, -⟩
    exact absurd hzero (by decide +kernel)

end Settlement

end Datasynth.Generators.ClearedChains
