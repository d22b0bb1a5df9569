import Datasynth.Generators.ThreeWayMatch

/-!
What a passed three-way match says about the documents.  The match looks at the first invoice
line of each order line only, and compares nothing with a quantity or price of zero.
-/

namespace Datasynth.Generators.MatchSoundness

open Datasynth.Core.PurchasingDocuments
open Datasynth.Generators.ThreeWayMatch
open Datasynth.Lib.SignedPostings
open Datasynth.Lib.SortedEntries
open Datasynth.Lib.VarianceChecks

variable (config : ThreeWayMatchConfig)

section Documents

/-- What the receipts deliver of a line of the order. -/
def received (grs : List GoodsReceipt) (po_line : ℕ) : ℚ :=
  (grs.map fun gr => ((gr.items.filter fun item => item.po_item = some po_line).map
    (·.base.quantity)).sum).sum

/-- The invoice lines that refer to a line of the order. -/
def invoiceLines (invoice : VendorInvoice) (po_line : ℕ) : List VendorInvoiceItem :=
  invoice.items.filter fun item => item.po_item = some po_line

def invoiced (invoice : VendorInvoice) (po_line : ℕ) : ℚ :=
  ((invoiceLines invoice po_line).map (·.invoiced_quantity)).sum

theorem find?_gr_quantities (grs : List GoodsReceipt) (po_line : ℕ) :
    ((gr_quantities grs).find? po_line).getD 0 = received grs po_line := by
  rw [gr_quantities, find?_tally]
  induction grs with
  | nil => rfl
  | cons gr grs ih =>
      rw [List.flatMap_cons, netOn_append, ih, received, received, List.map_cons, List.sum_cons]
      congr 1
      induction gr.items with
      | nil => rfl
      | cons item items ihItems =>
          rw [List.filterMap_cons, List.filter_cons]
          cases hpo : item.po_item with
          | none => simpa using ihItems
          | some line =>
              rw [Option.map_some, netOn_cons, ihItems]
              by_cases hline : line = po_line
              · simp [hline]
              · simp [hline]

end Documents

section Passing

/-- The flags that decide whether a match passes. -/
def Matched (result : ThreeWayMatchResult) : Prop :=
  result.quantity_matched = true ∧ result.price_matched = true ∧ result.amount_matched = true

/-- What the match looks at on a line of the order. -/
def LineFine (grs : List GoodsReceipt) (invoice : VendorInvoice) (po_item : PurchaseOrderItem) :
    Prop :=
  let gr_qty := received grs po_item.base.line_number
  ¬config.UnderDelivered po_item.base.quantity gr_qty ∧
    ¬config.OverDelivered po_item.base.quantity gr_qty ∧
    ∃ inv_item, (invoiceLines invoice po_item.base.line_number).head? = some inv_item ∧
      ¬config.Deviates config.price_tolerance po_item.base.unit_price inv_item.base.unit_price ∧
      ¬config.Deviates config.quantity_tolerance gr_qty inv_item.invoiced_quantity

/-- What the match looks at: deliveries, first invoice lines and the total. -/
structure Checked (po : PurchaseOrder) (grs : List GoodsReceipt) (invoice : VendorInvoice) :
    Prop where
  lines : ∀ po_item ∈ po.items, LineFine config grs invoice po_item
  total : ¬config.Deviates config.price_tolerance po.total_net_amount invoice.net_amount

variable {config}

theorem matched_ite {failed : Prop} [Decidable failed] {rejected result : ThreeWayMatchResult}
    (hrejected : ¬Matched rejected) :
    Matched (if failed then rejected else result) ↔ Matched result ∧ ¬failed := by
  split
  · rename_i hfailed
    exact iff_of_false hrejected fun h => h.2 hfailed
  · rename_i hfine
    exact (and_iff_left hfine).symm

variable {po_item : PurchaseOrderItem} {gr_qty : ℚ} {inv_item : VendorInvoiceItem}
  {result : ThreeWayMatchResult}

theorem matched_checkUnderDelivery :
    Matched (config.checkUnderDelivery po_item gr_qty result) ↔
      Matched result ∧ ¬config.UnderDelivered po_item.base.quantity gr_qty :=
  matched_ite fun h => Bool.false_ne_true h.1

theorem matched_checkOverDelivery :
    Matched (config.checkOverDelivery po_item gr_qty result) ↔
      Matched result ∧ ¬config.OverDelivered po_item.base.quantity gr_qty :=
  matched_ite fun h => Bool.false_ne_true h.1

theorem matched_checkPrice :
    Matched (config.checkPrice po_item inv_item result) ↔ Matched result ∧
      ¬config.Deviates config.price_tolerance po_item.base.unit_price inv_item.base.unit_price :=
  matched_ite fun h => Bool.false_ne_true h.2.1

theorem matched_checkInvoicedQuantity :
    Matched (config.checkInvoicedQuantity po_item gr_qty inv_item result) ↔ Matched result ∧
      ¬config.Deviates config.quantity_tolerance gr_qty inv_item.invoiced_quantity :=
  matched_ite fun h => Bool.false_ne_true h.1

theorem matched_checkTotal {po : PurchaseOrder} {invoice : VendorInvoice} :
    Matched (config.checkTotal po invoice result) ↔ Matched result ∧
      ¬config.Deviates config.price_tolerance po.total_net_amount invoice.net_amount :=
  matched_ite fun h => Bool.false_ne_true h.2.2

theorem matched_checkItem (grs : List GoodsReceipt) (invoice : VendorInvoice)
    (result : ThreeWayMatchResult) (po_item : PurchaseOrderItem) :
    Matched (config.checkItem (gr_quantities grs) invoice result po_item) ↔
      Matched result ∧ LineFine config grs invoice po_item := by
  rw [ThreeWayMatchConfig.checkItem, LineFine, invoiceLines, List.head?_filter]
  simp only [find?_gr_quantities]
  cases invoice.items.find? fun i => i.po_item = some po_item.base.line_number with
  | none =>
      refine iff_of_false (fun h => Bool.false_ne_true h.2.2) ?_
      rintro ⟨-, -, -, inv_item, hnone, -⟩
      cases hnone
  | some inv_item =>
      simp only [matched_checkInvoicedQuantity, matched_checkPrice, matched_checkOverDelivery,
        matched_checkUnderDelivery, Option.some.injEq, exists_eq_left', and_assoc]

theorem validate_passed (po : PurchaseOrder) (grs : List GoodsReceipt) (invoice : VendorInvoice) :
    (config.validate po grs invoice).passed = true ↔
      Matched (config.checkTotal po invoice
        (po.items.foldl (config.checkItem (gr_quantities grs) invoice) .success)) := by
  rw [Matched, ← and_assoc, ← Bool.and_eq_true, ← Bool.and_eq_true,
    ThreeWayMatchConfig.validate]
  split
  · rfl
  · rfl

theorem passed_iff (po : PurchaseOrder) (grs : List GoodsReceipt) (invoice : VendorInvoice) :
    (config.validate po grs invoice).passed = true ↔ Checked config po grs invoice := by
  rw [validate_passed, matched_checkTotal, holds_foldl_iff (matched_checkItem grs invoice)]
  constructor
  · rintro ⟨⟨-, hlines⟩, htotal⟩
    exact ⟨hlines, htotal⟩
  · rintro ⟨hlines, htotal⟩
    exact ⟨⟨⟨rfl, rfl, rfl⟩, hlines⟩, htotal⟩

end Passing

section Soundness

variable (po : PurchaseOrder) (grs : List GoodsReceipt) (invoice : VendorInvoice)

def QuantityFine (po_line : ℕ) : Prop :=
  WithinTolerance config.quantity_tolerance config.absolute_amount_tolerance
    (received grs po_line) (invoiced invoice po_line)

def PriceFine (po_item : PurchaseOrderItem) (item : VendorInvoiceItem) : Prop :=
  WithinTolerance config.price_tolerance config.absolute_amount_tolerance
    po_item.base.unit_price item.base.unit_price

/-- What a match is for: nothing is invoiced but what was ordered and received. -/
structure Sound : Prop where
  quantities : ∀ po_item ∈ po.items, QuantityFine config grs invoice po_item.base.line_number
  prices : ∀ po_item ∈ po.items, ∀ item ∈ invoiceLines invoice po_item.base.line_number,
    PriceFine config po_item item
  references : ∀ item ∈ invoice.items,
    ∃ po_item ∈ po.items, item.po_item = some po_item.base.line_number
  deliveries : ∀ item ∈ invoice.items, 0 < item.invoiced_quantity →
    ∃ po_line, item.po_item = some po_line ∧ 0 < received grs po_line

/-- The same for what the match does not look at: invoice lines without a line of the order,
further invoice lines for one line, lines without a price and lines not received. -/
structure UncheckedFine : Prop where
  references : ∀ item ∈ invoice.items,
    ∃ po_item ∈ po.items, item.po_item = some po_item.base.line_number
  repeated : ∀ po_item ∈ po.items,
    1 < (invoiceLines invoice po_item.base.line_number).length →
      QuantityFine config grs invoice po_item.base.line_number ∧
        ∀ item ∈ (invoiceLines invoice po_item.base.line_number).tail,
          PriceFine config po_item item
  unpriced : ∀ po_item ∈ po.items, po_item.base.unit_price ≤ 0 →
    ∀ item ∈ (invoiceLines invoice po_item.base.line_number).head?, PriceFine config po_item item
  unreceived : ∀ po_item ∈ po.items, received grs po_item.base.line_number ≤ 0 →
    QuantityFine config grs invoice po_item.base.line_number ∧
      ∀ item ∈ invoiceLines invoice po_item.base.line_number, item.invoiced_quantity ≤ 0

variable {config po grs invoice}

theorem mem_invoiceLines {item : VendorInvoiceItem} {po_line : ℕ} :
    item ∈ invoiceLines invoice po_line ↔ item ∈ invoice.items ∧ item.po_item = some po_line := by
  rw [invoiceLines, List.mem_filter, decide_eq_true_iff]

theorem sound_of_checked (hchecked : Checked config po grs invoice)
    (hunchecked : UncheckedFine config po grs invoice) : Sound config po grs invoice := by
  refine ⟨?_, ?_, hunchecked.references, ?_⟩
  · intro po_item hpo
    obtain ⟨-, -, first, hfirst, -, hquantity⟩ := hchecked.lines po_item hpo
    obtain ⟨rest, hlines⟩ := List.head?_eq_some_iff.mp hfirst
    rcases le_or_gt (received grs po_item.base.line_number) 0 with hnone | hpos
    · exact (hunchecked.unreceived po_item hpo hnone).1
    cases rest with
    | nil =>
        have hinvoiced : invoiced invoice po_item.base.line_number = first.invoiced_quantity := by
          rw [invoiced, hlines, List.map_singleton, List.sum_singleton]
        rw [QuantityFine, withinTolerance_iff_of_pos hpos, hinvoiced]
        exact hquantity
    | cons next rest =>
        have hrepeated : 1 < (invoiceLines invoice po_item.base.line_number).length := by
          simp [hlines]
        exact (hunchecked.repeated po_item hpo hrepeated).1
  · intro po_item hpo item hitem
    obtain ⟨-, -, first, hfirst, hprice, -⟩ := hchecked.lines po_item hpo
    obtain ⟨rest, hlines⟩ := List.head?_eq_some_iff.mp hfirst
    rw [hlines] at hitem
    rcases List.mem_cons.mp hitem with rfl | hrest
    · rcases le_or_gt po_item.base.unit_price 0 with hnone | hpos
      · exact hunchecked.unpriced po_item hpo hnone item hfirst
      · exact (withinTolerance_iff_of_pos hpos).mpr hprice
    · have hrepeated : 1 < (invoiceLines invoice po_item.base.line_number).length := by
        rw [hlines, List.length_cons]
        exact Nat.succ_lt_succ (List.length_pos_of_mem hrest)
      apply (hunchecked.repeated po_item hpo hrepeated).2
      rw [hlines]
      exact hrest
  · intro item hitem hpos
    obtain ⟨po_item, hpo, hrefers⟩ := hunchecked.references item hitem
    refine ⟨_, hrefers, ?_⟩
    by_contra hnone
    have hzero := (hunchecked.unreceived po_item hpo (not_lt.mp hnone)).2 item
      (mem_invoiceLines.mpr ⟨hitem, hrefers⟩)
    exact absurd hpos (not_lt.mpr hzero)

theorem uncheckedFine_of_sound (h : Sound config po grs invoice) :
    UncheckedFine config po grs invoice := by
  refine ⟨h.references, ?_, ?_, ?_⟩
  · intro po_item hpo _
    exact ⟨h.quantities po_item hpo, fun item hitem =>
      h.prices po_item hpo item (List.mem_of_mem_tail hitem)⟩
  · intro po_item hpo _ item hitem
    exact h.prices po_item hpo item (List.mem_of_mem_head? hitem)
  · intro po_item hpo hnone
    refine ⟨h.quantities po_item hpo, ?_⟩
    intro item hitem
    obtain ⟨hmem, hrefers⟩ := mem_invoiceLines.mp hitem
    by_contra hpos
    obtain ⟨po_line, hline, hreceived⟩ := h.deliveries item hmem (not_le.mp hpos)
    obtain rfl := Option.some.inj (hrefers.symm.trans hline)
    exact absurd hreceived (not_lt.mpr hnone)

theorem passed_sound_iff (config : ThreeWayMatchConfig) (po : PurchaseOrder)
    (grs : List GoodsReceipt) (invoice : VendorInvoice) :
    ((config.validate po grs invoice).passed = true → Sound config po grs invoice) ↔
      (Checked config po grs invoice → UncheckedFine config po grs invoice) := by
  rw [passed_iff]
  constructor
  · intro h hchecked
    exact uncheckedFine_of_sound (h hchecked)
  · intro h hchecked
    exact sound_of_checked hchecked (h hchecked)

def orderOf (quantity unit_price : ℚ) : PurchaseOrder :=
  PurchaseOrder.new.add_item (.new 10 quantity unit_price)

def receiptOf (quantity unit_price : ℚ) : GoodsReceipt :=
  GoodsReceipt.new.add_item (.from_po 10 quantity unit_price 10)

/-- Five more pieces are invoiced in a second line. -/
def twoLineInvoice : VendorInvoice :=
  (VendorInvoice.new.add_item (.from_po_gr 1 100 50 10)).add_item (.from_po_gr 2 5 50 10)

theorem second_line_passes :
    (ThreeWayMatchConfig.default.validate (orderOf 100 50) [receiptOf 100 50]
      twoLineInvoice).passed = true ∧
    ¬Sound .default (orderOf 100 50) [receiptOf 100 50] twoLineInvoice := by
  refine ⟨by decide +kernel, ?_⟩
  intro h
  have hquantity := h.quantities (.new 10 100 50) (List.mem_singleton.mpr rfl)
  revert hquantity
  rw [QuantityFine]
  decide +kernel

end Soundness

section QuickChecks

/-- The match reports no variance between the order and the receipts. -/
def DeliveryMatched (result : ThreeWayMatchResult) : Prop :=
  ∀ variance ∈ result.variances, variance.variance_type ≠ .quantityPoGr

/-- What the match looks at between a line of the order and the receipts. -/
def DeliveryFine (grs : List GoodsReceipt) (po_item : PurchaseOrderItem) : Prop :=
  let gr_qty := received grs po_item.base.line_number
  ¬config.UnderDelivered po_item.base.quantity gr_qty ∧
    ¬config.OverDelivered po_item.base.quantity gr_qty

/-- A line that only the quick check measures against the quantity tolerance: nothing is
missing. -/
def Exceeds (grs : List GoodsReceipt) (po_item : PurchaseOrderItem) : Prop :=
  let gr_qty := received grs po_item.base.line_number
  0 ≤ gr_qty - po_item.base.quantity ∧ config.QuantityVaries po_item.base.quantity gr_qty

/-- Both checks turn a delivery away for what is missing, or agree on what is too much. -/
def SameLimits (po : PurchaseOrder) (grs : List GoodsReceipt) : Prop :=
  (∃ po_item ∈ po.items, config.UnderDelivered po_item.base.quantity
      (received grs po_item.base.line_number)) ∨
    ((∃ po_item ∈ po.items, Exceeds config grs po_item) ↔
      ∃ po_item ∈ po.items, config.OverDelivered po_item.base.quantity
        (received grs po_item.base.line_number))

variable {config} {po_item : PurchaseOrderItem} {gr_qty : ℚ} {inv_item : VendorInvoiceItem}
  {result : ThreeWayMatchResult}

theorem deliveryMatched_with_variance (variance : MatchVariance) :
    DeliveryMatched (result.with_variance variance) ↔
      DeliveryMatched result ∧ variance.variance_type ≠ .quantityPoGr := by
  rw [DeliveryMatched, ThreeWayMatchResult.with_variance, List.forall_mem_append,
    List.forall_mem_singleton]
  rfl

theorem deliveryMatched_ite {failed : Prop} [Decidable failed] {rejected : ThreeWayMatchResult}
    (variance : MatchVariance)
    (hrejected : rejected.variances = result.variances ++ [variance]) :
    DeliveryMatched (if failed then rejected else result) ↔
      DeliveryMatched result ∧ (variance.variance_type = .quantityPoGr → ¬failed) := by
  split
  · rename_i hfailed
    have hvariance : DeliveryMatched (result.with_variance variance) ↔
        DeliveryMatched result ∧ variance.variance_type ≠ .quantityPoGr :=
      deliveryMatched_with_variance variance
    rw [DeliveryMatched, ThreeWayMatchResult.with_variance, ← hrejected] at hvariance
    exact hvariance.trans (and_congr_right' (imp_congr_right fun _ =>
      (not_iff_false_intro hfailed).symm))
  · rename_i hfine
    exact (and_iff_left fun _ => hfine).symm

theorem deliveryMatched_checkUnderDelivery :
    DeliveryMatched (config.checkUnderDelivery po_item gr_qty result) ↔
      DeliveryMatched result ∧ ¬config.UnderDelivered po_item.base.quantity gr_qty :=
  (deliveryMatched_ite _ rfl).trans (and_congr_right' (forall_prop_of_true rfl))

theorem deliveryMatched_checkOverDelivery :
    DeliveryMatched (config.checkOverDelivery po_item gr_qty result) ↔
      DeliveryMatched result ∧ ¬config.OverDelivered po_item.base.quantity gr_qty :=
  (deliveryMatched_ite _ rfl).trans (and_congr_right' (forall_prop_of_true rfl))

theorem deliveryMatched_checkPrice :
    DeliveryMatched (config.checkPrice po_item inv_item result) ↔ DeliveryMatched result :=
  (deliveryMatched_ite _ rfl).trans (and_iff_left nofun)

theorem deliveryMatched_checkInvoicedQuantity :
    DeliveryMatched (config.checkInvoicedQuantity po_item gr_qty inv_item result) ↔
      DeliveryMatched result :=
  (deliveryMatched_ite _ rfl).trans (and_iff_left nofun)

theorem deliveryMatched_checkTotal {po : PurchaseOrder} {invoice : VendorInvoice} :
    DeliveryMatched (config.checkTotal po invoice result) ↔ DeliveryMatched result :=
  (deliveryMatched_ite _ rfl).trans (and_iff_left nofun)

theorem deliveryMatched_checkItem (grs : List GoodsReceipt) (invoice : VendorInvoice)
    (result : ThreeWayMatchResult) (po_item : PurchaseOrderItem) :
    DeliveryMatched (config.checkItem (gr_quantities grs) invoice result po_item) ↔
      DeliveryMatched result ∧ DeliveryFine config grs po_item := by
  rw [ThreeWayMatchConfig.checkItem, DeliveryFine]
  simp only [find?_gr_quantities]
  split
  · rw [deliveryMatched_checkInvoicedQuantity, deliveryMatched_checkPrice,
      deliveryMatched_checkOverDelivery, deliveryMatched_checkUnderDelivery, and_assoc]
  · refine (deliveryMatched_with_variance _).trans ((and_iff_left nofun).trans ?_)
    rw [deliveryMatched_checkOverDelivery, deliveryMatched_checkUnderDelivery, and_assoc]

theorem deliveryMatched_validate (po : PurchaseOrder) (grs : List GoodsReceipt)
    (invoice : VendorInvoice) :
    DeliveryMatched (config.validate po grs invoice) ↔
      ∀ po_item ∈ po.items, DeliveryFine config grs po_item := by
  have hvariances : (config.validate po grs invoice).variances = (config.checkTotal po invoice
      (po.items.foldl (config.checkItem (gr_quantities grs) invoice) .success)).variances := by
    rw [ThreeWayMatchConfig.validate]
    split
    · rfl
    · rfl
  have htotal : DeliveryMatched (config.validate po grs invoice) ↔
      DeliveryMatched (config.checkTotal po invoice
        (po.items.foldl (config.checkItem (gr_quantities grs) invoice) .success)) := by
    rw [DeliveryMatched, hvariances]
    rfl
  rw [htotal, deliveryMatched_checkTotal, holds_foldl_iff (deliveryMatched_checkItem grs invoice)]
  exact and_iff_right (List.forall_mem_nil _)

theorem check_quantities_iff (po : PurchaseOrder) (grs : List GoodsReceipt) :
    config.check_quantities po grs = true ↔ ∀ po_item ∈ po.items,
      ¬config.QuantityVaries po_item.base.quantity (received grs po_item.base.line_number) := by
  rw [ThreeWayMatchConfig.check_quantities, List.all_eq_true]
  simp only [find?_gr_quantities, Bool.not_eq_true', decide_eq_false_iff_not]

/-- Too little, or not too little and still beyond the tolerance. -/
theorem quantityVaries_iff (grs : List GoodsReceipt) (po_item : PurchaseOrderItem) :
    config.QuantityVaries po_item.base.quantity (received grs po_item.base.line_number) ↔
      config.UnderDelivered po_item.base.quantity (received grs po_item.base.line_number) ∨
        Exceeds config grs po_item := by
  rw [ThreeWayMatchConfig.UnderDelivered, Exceeds]
  constructor
  · intro h
    rcases lt_or_ge (received grs po_item.base.line_number - po_item.base.quantity) 0 with
      hless | hmore
    · exact .inl ⟨hless, h⟩
    · exact .inr ⟨hmore, h⟩
  · rintro (h | h)
    · exact h.2
    · exact h.2

/-- The quick check agrees with the match exactly if both have the same limits. -/
theorem check_quantities_agrees_iff (config : ThreeWayMatchConfig) (po : PurchaseOrder)
    (grs : List GoodsReceipt) (invoice : VendorInvoice) :
    (config.check_quantities po grs = true ↔
        DeliveryMatched (config.validate po grs invoice)) ↔
      SameLimits config po grs := by
  rw [check_quantities_iff, deliveryMatched_validate, ← not_iff_not (a := ∀ _, _)]
  simp only [DeliveryFine, quantityVaries_iff, SameLimits, not_forall, not_not, not_and_or,
    exists_prop, and_or_left, exists_or]
  rcases em (∃ po_item ∈ po.items, config.UnderDelivered po_item.base.quantity
    (received grs po_item.base.line_number)) with hunder | hnone
  · simp [hunder]
  · simp [hnone]

/-- Five pieces of a hundred too many are within the limit of the match only. -/
theorem over_delivery_turned_away :
    ¬ ∀ (config : ThreeWayMatchConfig) (po : PurchaseOrder) (grs : List GoodsReceipt)
      (invoice : VendorInvoice), config.check_quantities po grs = true ↔
        DeliveryMatched (config.validate po grs invoice) := by
  intro h
  have hreceived : received [receiptOf 105 50] 10 = 105 := by
    simp [received, receiptOf, GoodsReceipt.new, GoodsReceipt.add_item, GoodsReceiptItem.from_po,
      DocumentLineItem.new]
  have hfine : ∀ po_item ∈ (orderOf 100 50).items,
      DeliveryFine .default [receiptOf 105 50] po_item := by
    intro po_item hpo
    obtain rfl := List.mem_singleton.mp hpo
    constructor
    · rintro ⟨hless, -⟩
      revert hless
      norm_num [PurchaseOrderItem.new, DocumentLineItem.new, hreceived]
    · rintro ⟨-, hlimit⟩
      revert hlimit
      norm_num [PurchaseOrderItem.new, DocumentLineItem.new, hreceived, variancePercent,
        ThreeWayMatchConfig.default]
  have hquick := (check_quantities_iff _ _).mp
    ((h .default _ _ twoLineInvoice).mpr ((deliveryMatched_validate _ _ _).mpr hfine))
  apply hquick (.new 10 100 50) (List.mem_singleton.mpr rfl)
  norm_num [ThreeWayMatchConfig.QuantityVaries, PurchaseOrderItem.new, DocumentLineItem.new,
    hreceived, variancePercent, ThreeWayMatchConfig.default]

end QuickChecks

end Datasynth.Generators.MatchSoundness
