import Mathlib.Tactic.Ring
import Datasynth.Generators.DocumentFlow
import Datasynth.Lib.SignedPostings

/-!
What a document posts, account by account, and that its entry posts this: on every account when
no priors are loaded, on the accounts whose lines stay single in any case.
-/

namespace Datasynth.Generators.FlowPostings

open Datasynth.Core.BehavioralPriors
open Datasynth.Core.FlowDocuments
open Datasynth.Core.FlowEntries
open Datasynth.Generators.DocumentFlow
open Datasynth.Lib.CivilCalendar
open Datasynth.Lib.SignedPostings

section Plans

def transfer (amount : ℚ) (debited credited : String) : List (String × ℚ) :=
  if amount = 0 then [] else [(debited, amount), (credited, -amount)]

theorem netWhere_transfer (control : String → Bool) (amount : ℚ) (debited credited : String) :
    netWhere control (transfer amount debited credited) =
      (if control debited then amount else 0) - (if control credited then amount else 0) := by
  rw [transfer]
  split
  · rename_i hzero
    rw [hzero, ite_self, ite_self, sub_zero, netWhere_nil]
  · rw [netWhere_cons, netWhere_cons, netWhere_nil, add_zero, sub_eq_add_neg]
    congr 1
    split
    · rfl
    · exact neg_zero.symm

theorem netWhere_flatMap_transfer {α : Type} (control : String → Bool)
    (debited credited : String) (amount : α → ℚ) (rows : List α) :
    netWhere control (rows.flatMap fun row => transfer (amount row) debited credited) =
      (if control debited then (rows.map amount).sum else 0) -
        (if control credited then (rows.map amount).sum else 0) := by
  induction rows with
  | nil => simp
  | cons row rows ih =>
      rw [List.flatMap_cons, netWhere_append, netWhere_transfer, ih, List.map_cons, List.sum_cons]
      split_ifs <;> ring

def receivedValue (gr : GoodsReceipt) : ℚ :=
  if gr.items = [] then 0
  else if 0 < gr.total_value then gr.total_value else (gr.items.map (·.base.net_amount)).sum

/-- The first amount of a vendor invoice. -/
def invoicedNet (invoice : VendorInvoice) : ℚ :=
  if 0 < invoice.tax_amount then invoice.net_amount else invoice.payable_amount

/-- The postings of a document, a vendor invoice on the account that is chosen for it. -/
def documentPostings (config : DocumentFlowJeConfig) (debit_gl : String) :
    FlowDocument → List (String × ℚ)
  | .goodsReceipt gr =>
      transfer (receivedValue gr) config.inventory_account config.gr_ir_clearing_account
  | .vendorInvoice invoice =>
      if invoice.payable_amount = 0 then []
      else
        (debit_gl, invoicedNet invoice) ::
          (if 0 < invoice.tax_amount then [(config.vat_input_account, invoice.tax_amount)] else []) ++
          [(config.ap_account, -invoice.payable_amount)]
  | .apPayment payment => transfer payment.amount config.ap_account config.cash_account
  | .delivery delivery =>
      transfer (delivery.items.map (·.base.net_amount)).sum config.cogs_account
        config.inventory_account
  | .customerInvoice invoice =>
      if invoice.total_gross_amount = 0 then []
      else if 0 < invoice.total_tax_amount then
        [(config.ar_account, invoice.total_gross_amount),
          (config.revenue_account, -invoice.total_net_amount),
          (config.vat_output_account, -invoice.total_tax_amount)]
      else
        [(config.ar_account, invoice.total_gross_amount),
          (config.revenue_account, -invoice.total_gross_amount)]
  | .arReceipt payment => transfer payment.amount config.cash_account config.ar_account

variable {ρ : Type} [Rng ρ]

/-- The postings of documents one after the other. -/
def plannedPostings (g : DocumentFlowJeGenerator ρ) : List FlowDocument → List (String × ℚ)
  | [] => []
  | document :: documents =>
      documentPostings g.config g.debit_account.1 document ++
        plannedPostings (g.generate document).2 documents

end Plans

section Lines

variable {ρ : Type} (g : DocumentFlowJeGenerator ρ)

def linePosting (line : FlowLine) : String × ℚ :=
  (line.gl_account, line.debit_amount - line.credit_amount)

theorem postings_eq_map (entry : FlowEntry) : entry.postings = entry.lines.map linePosting := rfl

@[simp] theorem linePosting_debit (document_id : Uuid) (n : ℕ) (gl_account : String)
    (amount : ℚ) :
    linePosting (.debit document_id n gl_account amount) = (gl_account, amount) :=
  Prod.ext rfl (sub_zero amount)

@[simp] theorem linePosting_credit (document_id : Uuid) (n : ℕ) (gl_account : String)
    (amount : ℚ) :
    linePosting (.credit document_id n gl_account amount) = (gl_account, -amount) :=
  Prod.ext rfl (zero_sub amount)

@[simp] theorem linePosting_partnered (line : FlowLine) (partner_id : String) :
    linePosting (g.partnered line partner_id) = linePosting line := by
  rw [DocumentFlowJeGenerator.partnered, DocumentFlowJeGenerator.set_auxiliary_fields]
  split <;> rfl

theorem postings_enrich_line_items (entry : FlowEntry) :
    (g.enrich_line_items entry).postings = entry.postings := by
  show (entry.lines.zipIdx.map fun e => g.enrich_line entry.header e.1 e.2).map linePosting = _
  rw [List.map_map]
  show (entry.lines.zipIdx.map (linePosting ∘ Prod.fst)) = _
  rw [← List.map_map, List.zipIdx_map_fst]
  rfl

theorem postings_foldl_add_line (lines : List FlowLine) (entry : FlowEntry) :
    (lines.foldl FlowEntry.add_line entry).postings = entry.postings ++ lines.map linePosting := by
  induction lines generalizing entry with
  | nil => exact (List.append_nil _).symm
  | cons line lines ih =>
      rw [List.foldl_cons, ih, List.map_cons, ← List.singleton_append, ← List.append_assoc]
      congr 1
      rw [FlowEntry.postings, FlowEntry.add_line, List.map_append]
      rfl

theorem map_linePosting_renumber (lines : List FlowLine) :
    (DocumentFlowJeGenerator.renumber lines).map linePosting = lines.map linePosting := by
  rw [DocumentFlowJeGenerator.renumber, List.map_map]
  show (lines.zipIdx.map (linePosting ∘ Prod.fst)) = _
  rw [← List.map_map, List.zipIdx_map_fst]

end Lines

section Splits

variable {ρ : Type} (g : DocumentFlowJeGenerator ρ)

theorem largest_of_foldl {amount : FlowLine → ℚ} {b : ℕ × ℚ} (rows : List (FlowLine × ℕ))
    (best : Option (ℕ × ℚ))
    (h : rows.foldl (fun best e =>
      if 0 < amount e.1 ∧ best.all (fun b => b.2 < amount e.1) then some (e.2, amount e.1)
      else best) best = some b) :
    best = some b ∨ ∃ e ∈ rows, e.2 = b.1 ∧ 0 < amount e.1 := by
  induction rows generalizing best with
  | nil => exact .inl h
  | cons e rows ih =>
      rw [List.foldl_cons] at h
      rcases ih _ h with hbest | ⟨e', he', hb⟩
      · split at hbest
        · rename_i hlarger
          cases hbest
          exact .inr ⟨e, List.mem_cons_self, rfl, hlarger.1⟩
        · exact .inl hbest
      · exact .inr ⟨e', List.mem_cons_of_mem _ he', hb⟩

theorem exists_of_largest {amount : FlowLine → ℚ} {lines : List FlowLine} {i : ℕ}
    (h : DocumentFlowJeGenerator.largest amount lines = some i) :
    ∃ line, lines[i]? = some line ∧ 0 < amount line := by
  obtain ⟨b, hb, rfl⟩ := Option.map_eq_some_iff.mp h
  rcases largest_of_foldl _ _ hb with hnone | ⟨e, he, hindex, hpos⟩
  · cases hnone
  · rw [List.mem_zipIdx_iff_getElem?, hindex] at he
    exact ⟨e.1, he, hpos⟩

theorem not_mem_of_splittable_idx {lines : List FlowLine} {i : ℕ} {line : FlowLine}
    (h : g.splittable_idx lines = some i) (hline : lines[i]? = some line) :
    line.gl_account ∉ g.no_split_accounts := by
  have hamount : ∀ side : FlowLine → ℚ, DocumentFlowJeGenerator.largest (fun line =>
      if line.gl_account ∈ g.no_split_accounts then 0 else side line) lines = some i →
      line.gl_account ∉ g.no_split_accounts := by
    intro side hlargest hmem
    obtain ⟨line', hline', hpos⟩ := exists_of_largest hlargest
    rw [hline] at hline'
    cases hline'
    rw [if_pos hmem] at hpos
    exact lt_irrefl 0 hpos
  rcases Option.or_eq_some_iff.mp h with h | ⟨-, h⟩
  · exact hamount _ h
  · exact hamount _ h

variable [Rng ρ]

theorem not_mem_of_draw_gl_accounts (priors : LoadedPriors) (doc_type role : String)
    (n_splits attempts : ℕ) (gl_accounts : List String) (rng : ρ)
    (h : ∀ gl ∈ gl_accounts, gl ∉ g.no_split_accounts) :
    ∀ gl ∈ (g.draw_gl_accounts priors doc_type role n_splits attempts gl_accounts rng).1,
      gl ∉ g.no_split_accounts := by
  induction attempts generalizing gl_accounts rng with
  | zero => exact h
  | succ attempts ih =>
      rw [DocumentFlowJeGenerator.draw_gl_accounts]
      split
      · exact h
      · split
        · exact h
        · rename_i gl _ _
          apply ih
          split
          · rename_i hgl
            intro gl' hmem
            rcases List.mem_append.mp hmem with hmem | hmem
            · exact h gl' hmem
            · rw [List.mem_singleton.mp hmem]
              exact hgl.1
          · exact h

variable {g} {select : String → Bool}

/-- The selected accounts are among those whose lines stay single, when lines are split. -/
def Kept (g : DocumentFlowJeGenerator ρ) (select : String → Bool) : Prop :=
  g.loaded_priors = none ∨ ∀ a, select a = true → a ∈ g.no_split_accounts

omit [Rng ρ] in
theorem filter_split_lines {lines : List FlowLine} {idx : ℕ} {line : FlowLine}
    {gl_accounts : List String} (document_id : Uuid) (amounts : List ℚ)
    (hselect : ∀ a, select a = true → a ∈ g.no_split_accounts)
    (hidx : lines[idx]? = some line) (hline : line.gl_account ∉ g.no_split_accounts)
    (haccounts : ∀ gl ∈ gl_accounts, gl ∉ g.no_split_accounts) :
    ((DocumentFlowJeGenerator.split_lines document_id lines idx line gl_accounts amounts).map
        linePosting).filter (fun p => select p.1) =
      (lines.map linePosting).filter fun p => select p.1 := by
  have hdropped : ∀ a ∉ g.no_split_accounts, select a = false :=
    fun a ha => Bool.eq_false_iff.mpr fun hsel => ha (hselect a hsel)
  have hlines : lines = lines.take idx ++ line :: lines.drop (idx + 1) := by
    obtain ⟨hlt, rfl⟩ := List.getElem?_eq_some_iff.mp hidx
    rw [List.getElem_cons_drop, List.take_append_drop]
  have hparts : (((gl_accounts.zip amounts).zipIdx.map fun e =>
      DocumentFlowJeGenerator.split_line document_id line e.2 e.1.1 e.1.2).map
        linePosting).filter (fun p => select p.1) = [] := by
    rw [List.filter_eq_nil_iff]
    intro p hp
    obtain ⟨part, hpart, rfl⟩ := List.mem_map.mp hp
    obtain ⟨e, he, rfl⟩ := List.mem_map.mp hpart
    have hgl : e.1.1 ∈ gl_accounts := (List.of_mem_zip (List.fst_mem_of_mem_zipIdx he)).1
    have haccount : (DocumentFlowJeGenerator.split_line document_id line e.2 e.1.1
        e.1.2).gl_account = e.1.1 := by
      unfold DocumentFlowJeGenerator.split_line
      dsimp only
      split <;> rfl
    show ¬select (DocumentFlowJeGenerator.split_line document_id line e.2 e.1.1
      e.1.2).gl_account = true
    rw [haccount, hdropped _ (haccounts _ hgl)]
    exact Bool.false_ne_true
  have hsingle : ([line].map linePosting).filter (fun p => select p.1) = [] := by
    rw [List.map_singleton, List.filter_singleton]
    show (bif select line.gl_account then _ else []) = []
    rw [hdropped _ hline]
    rfl
  unfold DocumentFlowJeGenerator.split_lines
  rw [map_linePosting_renumber, List.map_append, List.map_append, List.filter_append,
    List.filter_append, hparts, List.append_nil]
  nth_rewrite 3 [hlines]
  rw [← List.singleton_append, List.map_append, List.map_append, List.filter_append,
    List.filter_append, hsingle, List.nil_append]

theorem filter_postings_split (entry : FlowEntry) (hselect : Kept g select) :
    (g.split_je_expense_lines entry).1.postings.filter (fun p => select p.1) =
      entry.postings.filter fun p => select p.1 := by
  rw [DocumentFlowJeGenerator.split_je_expense_lines]
  cases hpriors : g.loaded_priors with
  | none => rfl
  | some priors =>
      have hmem : ∀ a, select a = true → a ∈ g.no_split_accounts := by
        rcases hselect with hnone | hmem
        · rw [hnone] at hpriors
          cases hpriors
        · exact hmem
      dsimp only
      split
      · rfl
      · split
        · rfl
        · rename_i idx line hsplittable
          obtain ⟨i, hi, hline⟩ := Option.bind_eq_some_iff.mp hsplittable
          obtain ⟨line', hline', hpair⟩ := Option.map_eq_some_iff.mp hline
          cases hpair
          split
          · rfl
          · split
            · rfl
            · exact filter_split_lines _ _ hmem hline' (not_mem_of_splittable_idx g hi hline')
                (not_mem_of_draw_gl_accounts g _ _ _ _ _ _ _ fun _ h => absurd h List.not_mem_nil)

end Splits

section Documents

variable {ρ : Type} [Rng ρ] {g : DocumentFlowJeGenerator ρ} {select : String → Bool}

def entryPostings (entries : List FlowEntry) : List (String × ℚ) :=
  entries.flatMap FlowEntry.postings

theorem posted_postings (source : DocumentHeader) (document_id : Uuid)
    (text : DocumentFlowJeGenerator.PostingText) (lines : List FlowLine)
    (hselect : Kept g select) :
    (entryPostings (g.posted source document_id text lines).1.toList).filter
        (fun p => select p.1) = (lines.map linePosting).filter fun p => select p.1 := by
  unfold DocumentFlowJeGenerator.posted
  show (entryPostings [_]).filter _ = _
  rw [entryPostings, List.flatMap_singleton, filter_postings_split _ hselect,
    postings_enrich_line_items, postings_foldl_add_line]
  rfl

/-- Two states of a generator with one configuration and the same priors. -/
structure SameSetup (g g' : DocumentFlowJeGenerator ρ) : Prop where
  config : g'.config = g.config
  loaded_priors : g'.loaded_priors = g.loaded_priors

omit [Rng ρ] in
theorem SameSetup.kept {g' : DocumentFlowJeGenerator ρ} (h : SameSetup g g')
    (hselect : Kept g select) : Kept g' select := by
  rw [Kept, DocumentFlowJeGenerator.no_split_accounts, h.config, h.loaded_priors]
  exact hselect

/-- What can become of a document: nothing, or the posting of its lines. -/
inductive Outcome (g : DocumentFlowJeGenerator ρ) (document : FlowDocument) :
    Option FlowEntry × DocumentFlowJeGenerator ρ → Prop
  | nothing {g' : DocumentFlowJeGenerator ρ} (hsetup : SameSetup g g')
      (hpostings : documentPostings g.config g.debit_account.1 document = []) :
      Outcome g document (none, g')
  | posting (rng : ρ) (source : DocumentHeader) (document_id : Uuid)
      (text : DocumentFlowJeGenerator.PostingText) (lines : List FlowLine)
      (hpostings : lines.map linePosting =
        documentPostings g.config g.debit_account.1 document)
      (hlettrage : ∀ line ∈ lines, line.lettrage = none) :
      Outcome g document ((g.next_id.2.with_rng rng).posted source document_id text lines)

theorem transfer_of_ne_zero {amount : ℚ} (h : amount ≠ 0) (debited credited : String) :
    transfer amount debited credited = [(debited, amount), (credited, -amount)] := if_neg h

theorem transfer_zero (debited credited : String) : transfer 0 debited credited = [] :=
  if_pos rfl

omit [Rng ρ] in
theorem lettrage_partnered (line : FlowLine) (partner_id : String) :
    (g.partnered line partner_id).lettrage = line.lettrage := by
  rw [DocumentFlowJeGenerator.partnered, DocumentFlowJeGenerator.set_auxiliary_fields]
  split <;> rfl

theorem outcome_goods_receipt (gr : GoodsReceipt) :
    Outcome g (.goodsReceipt gr) (g.generate_from_goods_receipt gr) := by
  have hpostings : documentPostings g.config g.debit_account.1 (.goodsReceipt gr) =
      transfer (receivedValue gr) g.config.inventory_account g.config.gr_ir_clearing_account := rfl
  rw [receivedValue] at hpostings
  rw [DocumentFlowJeGenerator.generate_from_goods_receipt]
  split
  · rename_i hempty
    rw [if_pos hempty, transfer_zero] at hpostings
    exact .nothing ⟨rfl, rfl⟩ hpostings
  · rename_i hempty
    rw [if_neg hempty] at hpostings
    dsimp only
    generalize (if 0 < gr.total_value then gr.total_value
      else (gr.items.map (·.base.net_amount)).sum) = total_amount at hpostings ⊢
    split
    · rename_i hzero
      rw [hzero, transfer_zero] at hpostings
      exact .nothing ⟨rfl, rfl⟩ hpostings
    · rename_i hzero
      rw [transfer_of_ne_zero hzero] at hpostings
      refine .posting g.rng _ _ _ _ ?_ ?_
      · rw [hpostings]
        show [linePosting (FlowLine.debit g.next_id.1 1 _ _),
          linePosting (FlowLine.credit g.next_id.1 2 _ _)] = _
        rw [linePosting_debit, linePosting_credit]
        rfl
      · simp [FlowLine.debit, FlowLine.credit, FlowLine.of]

theorem outcome_vendor_invoice (invoice : VendorInvoice) :
    Outcome g (.vendorInvoice invoice) (g.generate_from_vendor_invoice invoice) := by
  rw [DocumentFlowJeGenerator.generate_from_vendor_invoice]
  split
  · rename_i hzero
    exact .nothing ⟨rfl, rfl⟩ (if_pos hzero)
  · rename_i hzero
    refine .posting _ _ _ _ _ ?_ ?_
    · rw [documentPostings, if_neg hzero, invoicedNet]
      by_cases htax : 0 < invoice.tax_amount
      · simp only [htax, decide_true, if_true, List.map_append, List.map_cons, List.map_nil,
          linePosting_debit, linePosting_partnered, linePosting_credit]
        rfl
      · simp only [htax, decide_false, if_false, Bool.false_eq_true, List.map_append,
          List.map_cons, List.map_nil, linePosting_debit, linePosting_partnered,
          linePosting_credit]
        rfl
    · intro line hline
      rcases List.mem_append.mp hline with hline | hline
      · rcases List.mem_cons.mp hline with rfl | hline
        · rfl
        · split at hline
          · rw [List.mem_singleton.mp hline]
            rfl
          · cases hline
      · rw [List.mem_singleton.mp hline, lettrage_partnered]
        rfl

theorem outcome_ap_payment (payment : Payment) :
    Outcome g (.apPayment payment) (g.generate_from_ap_payment payment) := by
  rw [DocumentFlowJeGenerator.generate_from_ap_payment]
  split
  · rename_i hzero
    exact .nothing ⟨rfl, rfl⟩ (if_pos hzero)
  · rename_i hzero
    refine .posting g.rng _ _ _ _ ?_ ?_
    · rw [List.map_cons, List.map_singleton, linePosting_partnered, linePosting_debit,
        linePosting_credit, documentPostings, transfer_of_ne_zero hzero]
    · intro line hline
      rcases List.mem_cons.mp hline with rfl | hline
      · rw [lettrage_partnered]
        rfl
      · rw [List.mem_singleton.mp hline]
        rfl

theorem outcome_delivery (delivery : Delivery) :
    Outcome g (.delivery delivery) (g.generate_from_delivery delivery) := by
  rw [DocumentFlowJeGenerator.generate_from_delivery]
  split
  · rename_i hempty
    refine .nothing ⟨rfl, rfl⟩ ?_
    rw [documentPostings, hempty, List.map_nil, List.sum_nil, transfer_zero]
  · dsimp only
    split
    · rename_i hzero
      exact .nothing ⟨rfl, rfl⟩ (if_pos hzero)
    · rename_i hzero
      refine .posting g.rng _ _ _ _ ?_ ?_
      · rw [List.map_cons, List.map_singleton, linePosting_debit, linePosting_credit,
          documentPostings, transfer_of_ne_zero hzero]
        rfl
      · simp [FlowLine.debit, FlowLine.credit, FlowLine.of]

theorem outcome_customer_invoice (invoice : CustomerInvoice) :
    Outcome g (.customerInvoice invoice) (g.generate_from_customer_invoice invoice) := by
  rw [DocumentFlowJeGenerator.generate_from_customer_invoice]
  split
  · rename_i hzero
    exact .nothing ⟨rfl, rfl⟩ (if_pos hzero)
  · rename_i hzero
    refine .posting g.rng _ _ _ _ ?_ ?_
    · rw [documentPostings, if_neg hzero]
      split
      · rw [List.map_cons, List.map_cons, List.map_singleton, linePosting_partnered,
          linePosting_debit, linePosting_credit, linePosting_credit]
      · rw [List.map_cons, List.map_cons, List.map_nil, linePosting_partnered, linePosting_debit,
          linePosting_credit]
    · intro line hline
      rcases List.mem_cons.mp hline with rfl | hline
      · rw [lettrage_partnered]
        rfl
      · rcases List.mem_cons.mp hline with rfl | hline
        · rfl
        · split at hline
          · rw [List.mem_singleton.mp hline]
            rfl
          · cases hline

theorem outcome_ar_receipt (payment : Payment) :
    Outcome g (.arReceipt payment) (g.generate_from_ar_receipt payment) := by
  rw [DocumentFlowJeGenerator.generate_from_ar_receipt]
  split
  · rename_i hzero
    exact .nothing ⟨rfl, rfl⟩ (if_pos hzero)
  · rename_i hzero
    refine .posting g.rng _ _ _ _ ?_ ?_
    · rw [List.map_cons, List.map_singleton, linePosting_partnered, linePosting_debit,
        linePosting_credit, documentPostings, transfer_of_ne_zero hzero]
    · intro line hline
      rcases List.mem_cons.mp hline with rfl | hline
      · rfl
      · rw [List.mem_singleton.mp hline, lettrage_partnered]
        rfl

theorem outcome_generate (g : DocumentFlowJeGenerator ρ) (document : FlowDocument) :
    Outcome g document (g.generate document) := by
  cases document with
  | goodsReceipt gr => exact outcome_goods_receipt gr
  | vendorInvoice invoice => exact outcome_vendor_invoice invoice
  | apPayment payment => exact outcome_ap_payment payment
  | delivery delivery => exact outcome_delivery delivery
  | customerInvoice invoice => exact outcome_customer_invoice invoice
  | arReceipt payment => exact outcome_ar_receipt payment

/-- An entry posts what its document says, as far as the accounts are selected. -/
theorem filter_postings_generate (document : FlowDocument) (hselect : Kept g select) :
    (entryPostings (g.generate document).1.toList).filter (fun p => select p.1) =
      (documentPostings g.config g.debit_account.1 document).filter fun p => select p.1 := by
  have houtcome := outcome_generate g document
  generalize g.generate document = r at houtcome ⊢
  cases houtcome with
  | nothing _ hpostings => rw [hpostings]; rfl
  | posting rng source document_id text lines hpostings _ =>
      have hkept : Kept (g.next_id.2.with_rng rng) select := hselect
      rw [posted_postings _ _ _ _ hkept, hpostings]

end Documents

section Lists

variable {ρ : Type} [Rng ρ] {g : DocumentFlowJeGenerator ρ} {select : String → Bool}

theorem sameSetup_split (entry : FlowEntry) : SameSetup g (g.split_je_expense_lines entry).2 := by
  have hrng : ∀ rng, SameSetup g (g.with_rng rng) := fun _ => ⟨rfl, rfl⟩
  rw [DocumentFlowJeGenerator.split_je_expense_lines]
  cases hpriors : g.loaded_priors with
  | none => exact hrng g.rng
  | some priors =>
      dsimp only
      split
      · exact hrng _
      · split
        · exact hrng _
        · split
          · exact hrng _
          · split
            · exact hrng _
            · exact hrng _

theorem sameSetup_posted (source : DocumentHeader) (document_id : Uuid)
    (text : DocumentFlowJeGenerator.PostingText) (lines : List FlowLine) :
    SameSetup g (g.posted source document_id text lines).2 := sameSetup_split _

/-- Generating entries leaves the configuration and the priors alone. -/
theorem sameSetup_generate (document : FlowDocument) :
    SameSetup g (g.generate document).2 := by
  have houtcome := outcome_generate g document
  generalize g.generate document = r at houtcome ⊢
  cases houtcome with
  | nothing hsetup _ => exact hsetup
  | posting rng source document_id text lines _ _ =>
      have hposted := sameSetup_posted (g := g.next_id.2.with_rng rng) source document_id text lines
      exact ⟨hposted.config, hposted.loaded_priors⟩

theorem filter_postings_generate_all (documents : List FlowDocument) (hselect : Kept g select) :
    (entryPostings (g.generate_all documents).1).filter (fun p => select p.1) =
      (plannedPostings g documents).filter fun p => select p.1 := by
  induction documents generalizing g with
  | nil => rfl
  | cons document documents ih =>
      have hkept : Kept (g.generate document).2 select :=
        (sameSetup_generate document).kept hselect
      rw [DocumentFlowJeGenerator.generate_all, plannedPostings, entryPostings,
        List.flatMap_append, List.filter_append, List.filter_append,
        ← filter_postings_generate document hselect, ← ih hkept]
      rfl

/-- What entries leave on the selected accounts is what their documents post there. -/
theorem netWhere_generate_all (documents : List FlowDocument) (hselect : Kept g select) :
    netWhere select (entryPostings (g.generate_all documents).1) =
      netWhere select (plannedPostings g documents) := by
  rw [netWhere_eq_sum_filter, netWhere_eq_sum_filter,
    filter_postings_generate_all documents hselect]

omit [Rng ρ] in
theorem entryPostings_map_letter (code : String) (lettrage_date : Date)
    (entries : List FlowEntry) :
    entryPostings (entries.map (g.letter code lettrage_date)) = entryPostings entries := by
  rw [entryPostings, entryPostings, List.flatMap_map]
  congr 1
  funext entry
  rw [FlowEntry.postings, DocumentFlowJeGenerator.letter, List.map_map]
  apply List.map_congr_left
  intro line _
  rw [Function.comp_apply]
  split <;> rfl

end Lists

section Chains

variable {ρ : Type} [Rng ρ] {g : DocumentFlowJeGenerator ρ}

theorem sameSetup_generate_all (documents : List FlowDocument) :
    SameSetup g (g.generate_all documents).2 := by
  induction documents generalizing g with
  | nil => exact ⟨rfl, rfl⟩
  | cons document documents ih =>
      have hfirst := sameSetup_generate (g := g) document
      have hrest := ih (g := (g.generate document).2)
      exact ⟨hrest.config.trans hfirst.config, hrest.loaded_priors.trans hfirst.loaded_priors⟩

theorem plannedPostings_append (documents documents' : List FlowDocument) :
    plannedPostings g (documents ++ documents') =
      plannedPostings g documents ++ plannedPostings (g.generate_all documents).2 documents' := by
  induction documents generalizing g with
  | nil => rfl
  | cons document documents ih =>
      rw [List.cons_append, plannedPostings, plannedPostings, ih, ← List.append_assoc]
      rfl

/-- Only a vendor invoice is posted on an account that is chosen for it. -/
theorem plannedPostings_eq_flatMap (debit_gl : String) {documents : List FlowDocument}
    (h : ∀ document ∈ documents, ∀ invoice, document ≠ .vendorInvoice invoice) :
    plannedPostings g documents = documents.flatMap (documentPostings g.config debit_gl) := by
  induction documents generalizing g with
  | nil => rfl
  | cons document documents ih =>
      rw [List.forall_mem_cons] at h
      have hdocument : documentPostings g.config g.debit_account.1 document =
          documentPostings g.config debit_gl document := by
        cases document with
        | vendorInvoice invoice => exact absurd rfl (h.1 invoice)
        | _ => rfl
      rw [plannedPostings, List.flatMap_cons, hdocument, ih h.2,
        (sameSetup_generate document).config]

/-- The account the vendor invoice of a chain is posted to. -/
def chainAccount (g : DocumentFlowJeGenerator ρ) (chain : P2PDocumentChain) : String :=
  (g.generate_all (chain.goods_receipts.map .goodsReceipt)).2.debit_account.1

theorem plannedPostings_p2p (chain : P2PDocumentChain) :
    plannedPostings g chain.documents =
      chain.documents.flatMap (documentPostings g.config (chainAccount g chain)) := by
  have hnoInvoice : ∀ document ∈ chain.goods_receipts.map FlowDocument.goodsReceipt,
      ∀ invoice, document ≠ .vendorInvoice invoice := by
    simp
  have hreceipts := plannedPostings_eq_flatMap (g := g) (chainAccount g chain) hnoInvoice
  rw [P2PDocumentChain.documents, List.append_assoc, plannedPostings_append,
    List.flatMap_append, hreceipts, List.flatMap_append, plannedPostings_append]
  have hsetup := sameSetup_generate_all (g := g) (chain.goods_receipts.map .goodsReceipt)
  congr 1
  congr 1
  · cases chain.vendor_invoice with
    | none => rfl
    | some invoice =>
        show documentPostings _ _ _ ++ [] = documentPostings _ _ _ ++ []
        rw [hsetup.config]
        rfl
  · rw [plannedPostings_eq_flatMap (chainAccount g chain) (by simp),
      (sameSetup_generate_all _).config, hsetup.config]

theorem plannedPostings_o2c (chain : O2CDocumentChain) :
    plannedPostings g chain.documents =
      chain.documents.flatMap (documentPostings g.config "") := by
  apply plannedPostings_eq_flatMap
  simp only [O2CDocumentChain.documents, List.mem_append, List.mem_map]
  rintro _ ((⟨_, _, rfl⟩ | ⟨_, _, rfl⟩) | ⟨_, _, rfl⟩) invoice h <;> cases h

end Chains

end Datasynth.Generators.FlowPostings
