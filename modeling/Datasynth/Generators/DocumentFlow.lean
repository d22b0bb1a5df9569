import Datasynth.Core.LineCountHistograms
import Datasynth.Core.FlowDocuments

/-!
The journal entries of a document flow, one for each posted document: goods receipts, vendor
invoices and payments to vendors, deliveries, customer invoices and receipts from customers.
With priors loaded a vendor invoice may go to an expense account, and the largest line of an
entry is split over several accounts.
-/

namespace Datasynth.Generators.DocumentFlow

open Datasynth.Core.BehavioralPriors
open Datasynth.Core.FlowDocuments
open Datasynth.Core.FlowEntries
open Datasynth.Lib.CivilCalendar
open Datasynth.Lib.DoubleValues

structure DocumentFlowJeConfig where
  inventory_account : String
  gr_ir_clearing_account : String
  ap_account : String
  cash_account : String
  ar_account : String
  revenue_account : String
  cogs_account : String
  vat_output_account : String
  vat_input_account : String
  populate_fec_fields : Bool
  direct_expense_share : F64
deriving DecidableEq

def DocumentFlowJeConfig.default : DocumentFlowJeConfig where
  inventory_account := "1200"
  gr_ir_clearing_account := "2900"
  ap_account := "2000"
  cash_account := "1000"
  ar_account := "1100"
  revenue_account := "4000"
  cogs_account := "5000"
  vat_output_account := "2110"
  vat_input_account := "1160"
  populate_fec_fields := false
  direct_expense_share := .finite (nearest (7 / 10))

def DocumentFlowJeConfig.french_gaap : DocumentFlowJeConfig where
  inventory_account := "310000"
  gr_ir_clearing_account := "408000"
  ap_account := "401000"
  cash_account := "512000"
  ar_account := "411000"
  revenue_account := "701000"
  cogs_account := "603000"
  vat_output_account := "445710"
  vat_input_account := "445660"
  populate_fec_fields := true
  direct_expense_share := .finite (nearest (7 / 10))

structure DocumentFlowJeGenerator (ρ : Type) where
  config : DocumentFlowJeConfig
  uuid_factory : DeterministicUuidFactory
  auxiliary_account_lookup : List (String × String)
  cost_center_pool : List String
  profit_center_pool : List String
  loaded_priors : Option LoadedPriors
  rng : ρ

namespace DocumentFlowJeGenerator

variable {ρ : Type}

def with_config_and_seed (config : DocumentFlowJeConfig) (seed : UInt64) (rng : ρ) :
    DocumentFlowJeGenerator ρ :=
  ⟨config, .new seed DeterministicUuidFactory.documentFlow, [], [], [], none, rng⟩

def set_loaded_priors (g : DocumentFlowJeGenerator ρ) (priors : LoadedPriors) :
    DocumentFlowJeGenerator ρ :=
  { g with loaded_priors := some priors }

def with_rng (g : DocumentFlowJeGenerator ρ) (rng : ρ) : DocumentFlowJeGenerator ρ :=
  { g with rng := rng }

variable (g : DocumentFlowJeGenerator ρ)

section Enrichment

/-- Later rows describe an account in the place of earlier ones. -/
def account_description_map : List (String × String) :=
  [(g.config.vat_input_account, "Input VAT"),
    (g.config.vat_output_account, "VAT Payable"),
    (g.config.cogs_account, "Cost of Goods Sold"),
    (g.config.revenue_account, "Product Revenue"),
    (g.config.ar_account, "Accounts Receivable"),
    (g.config.cash_account, "Cash and Cash Equivalents"),
    (g.config.ap_account, "Accounts Payable"),
    (g.config.gr_ir_clearing_account, "GR/IR Clearing"),
    (g.config.inventory_account, "Inventory")]

def COST_CENTER_POOL : List String := ["CC1000", "CC2000", "CC3000", "CC4000", "CC5000"]

/-- The member of a pool for an index, among the members of the company when it has any. -/
def pooled (pool : List String) (company_code : String) (index : ℕ) : Option String :=
  let needle := "-" ++ company_code ++ "-"
  let candidates := pool.filter fun id => needle.toList <:+: id.toList
  let pool := if candidates = [] then pool else candidates
  pool[index % pool.length]?

/-- The text after the last occurrence of a separator. -/
def afterLast (separator text : String) : String :=
  match (text.toList.tails.filter (separator.toList.isPrefixOf ·)).getLast? with
  | some rest => String.ofList (rest.drop separator.length)
  | none => text

def is_control (gl_account : String) : Bool :=
  gl_account = g.config.ap_account ∨ gl_account = g.config.ar_account

def cost_center (company_code gl_account : String) (index : ℕ) : Option String :=
  let first_char := gl_account.toList.headD '0'
  if first_char = '5' ∨ first_char = '6' then
    if g.cost_center_pool = [] then COST_CENTER_POOL[index % COST_CENTER_POOL.length]?
    else pooled g.cost_center_pool company_code index
  else none

def profit_center (company_code : String) (business_process : Option BusinessProcess)
    (index : ℕ) : Option String :=
  if g.profit_center_pool = [] then
    let suffix := match business_process with
      | some .p2p => "-P2P"
      | some .o2c => "-O2C"
      | _ => ""
    some ("PC-" ++ company_code ++ suffix)
  else pooled g.profit_center_pool company_code index

def enrich_line (header : FlowHeader) (line : FlowLine) (i : ℕ) : FlowLine :=
  let index := (header.document_id.bytes.map (·.val)).sum + i
  let controlled := g.is_control line.gl_account
  { line with
    account_description :=
      line.account_description.or (g.account_description_map.lookup line.gl_account)
    cost_center := line.cost_center.or (g.cost_center header.company_code line.gl_account index)
    profit_center := line.profit_center.or
      (g.profit_center header.company_code header.business_process index)
    line_text := line.line_text.or header.header_text
    value_date := line.value_date.or (if controlled then some header.posting_date else none)
    assignment := line.assignment.or
      (if controlled then header.header_text.map (afterLast " - ") else none) }

def enrich_line_items (entry : FlowEntry) : FlowEntry where
  header :=
    if entry.header.sap_source_code = none ∧ entry.header.document_type ≠ "" then
      { entry.header with sap_source_code := some entry.header.document_type }
    else entry.header
  lines := entry.lines.zipIdx.map fun e => g.enrich_line entry.header e.1 e.2

def set_auxiliary_fields (line : FlowLine) (partner_id partner_label : String) : FlowLine :=
  if g.config.populate_fec_fields ∧ g.is_control line.gl_account then
    { line with
      auxiliary_account_number :=
        some ((g.auxiliary_account_lookup.lookup partner_id).getD partner_id)
      auxiliary_account_label := some partner_label }
  else line

/-- A line of a control account, with its partner. -/
def partnered (line : FlowLine) (partner_id : String) : FlowLine :=
  { g.set_auxiliary_fields line partner_id partner_id with trading_partner := some partner_id }

end Enrichment

section Splits

variable [Rng ρ]

/-- The accounts whose lines stay single. -/
def no_split_accounts : List String :=
  [g.config.ap_account, g.config.ar_account, g.config.cash_account,
    g.config.gr_ir_clearing_account, g.config.inventory_account, g.config.vat_input_account,
    g.config.vat_output_account, "1100", "2000", "1200", "2900", "1000", "1010", "1030", "9000"]

/-- The position of the first line of the largest positive amount. -/
def largest (amount : FlowLine → ℚ) (lines : List FlowLine) : Option ℕ :=
  (lines.zipIdx.foldl (fun best e =>
    if 0 < amount e.1 ∧ best.all (fun b => b.2 < amount e.1) then some (e.2, amount e.1)
    else best) none).map Prod.fst

def splittable_idx (lines : List FlowLine) : Option ℕ :=
  let amount (side : FlowLine → ℚ) (line : FlowLine) : ℚ :=
    if line.gl_account ∈ g.no_split_accounts then 0 else side line
  (largest (amount fun line => line.debit_amount) lines).or
    (largest (amount fun line => if 0 < line.debit_amount then 0 else line.credit_amount) lines)

/-- Distinct accounts drawn for the parts of a line. -/
def draw_gl_accounts (priors : LoadedPriors) (doc_type role : String) (n_splits : ℕ) :
    ℕ → List String → ρ → List String × ρ
  | 0, gl_accounts, rng => (gl_accounts, rng)
  | attempts + 1, gl_accounts, rng =>
      if n_splits ≤ gl_accounts.length then (gl_accounts, rng)
      else
        match priors.sample_gl doc_type role rng with
        | (none, rng) => (gl_accounts, rng)
        | (some gl, rng) =>
            let gl_accounts :=
              if gl ∉ g.no_split_accounts ∧ gl ∉ gl_accounts then gl_accounts ++ [gl]
              else gl_accounts
            draw_gl_accounts priors doc_type role n_splits attempts gl_accounts rng

def draw_weights : ℕ → ρ → List ℚ × ρ
  | 0, rng => ([], rng)
  | n + 1, rng =>
      let (weight, rng) := Rng.random_range (1 / 2) (3 / 2) rng
      let (weights, rng) := draw_weights n rng
      (weight :: weights, rng)

/-- The share of a weight, in floating point to the cent. -/
def proportional_amount (total_f64 weight_sum weight : ℚ) : ℚ :=
  let proportion := nearest (weight / weight_sum)
  let raw := nearest (roundAway (nearest (nearest (proportion * total_f64) * 100)) / 100)
  (F64.finite (nearest (raw * 100))).toI64 / 100

/-- The amounts of the parts; the last ones take what rounding leaves. -/
def split_amounts (total_amount : ℚ) (raw_weights : List ℚ) : List ℚ :=
  let n_actual := raw_weights.length
  let amounts :=
    raw_weights.map (proportional_amount (nearest total_amount) (roundedSum raw_weights))
  let residual := total_amount - (amounts.take (n_actual - 1)).sum
  let last_two_sum := (amounts.drop (n_actual - 2)).sum + residual
  if 0 < residual then amounts.set (n_actual - 1) residual
  else if 0 < last_two_sum then
    (amounts.set (n_actual - 2) (last_two_sum / 2)).set (n_actual - 1)
      (last_two_sum - last_two_sum / 2)
  else amounts

/-- The role of the accounts a line is split over, and the amount it has. -/
def split_side (line : FlowLine) : String × ℚ :=
  if 0 < line.debit_amount then ("DR", line.debit_amount) else ("CR", line.credit_amount)

def split_line (document_id : Uuid) (line : FlowLine) (i : ℕ) (gl_account : String)
    (amount : ℚ) : FlowLine :=
  let line_number := line.line_number + i
  let part :=
    if 0 < line.debit_amount then FlowLine.debit document_id line_number gl_account amount
    else FlowLine.credit document_id line_number gl_account amount
  { part with
    cost_center := line.cost_center
    profit_center := line.profit_center
    trading_partner := line.trading_partner
    line_text := line.line_text }

def renumber (lines : List FlowLine) : List FlowLine :=
  lines.zipIdx.map fun e => { e.1 with line_number := e.2 + 1 }

def split_lines (document_id : Uuid) (lines : List FlowLine) (idx : ℕ) (line : FlowLine)
    (gl_accounts : List String) (amounts : List ℚ) : List FlowLine :=
  let parts := (gl_accounts.zip amounts).zipIdx.map fun e =>
    split_line document_id line e.2 e.1.1 e.1.2
  renumber (lines.take idx ++ parts ++ lines.drop (idx + 1))

def split_je_expense_lines (entry : FlowEntry) : FlowEntry × DocumentFlowJeGenerator ρ :=
  match g.loaded_priors with
  | none => (entry, g)
  | some priors =>
      let doc_type := entry.header.document_type
      let (sampled, rng) := priors.sample_target_lines doc_type g.rng
      let target := max 2 (min 10 sampled)
      let current := entry.lines.length
      if target ≤ current then (entry, g.with_rng rng)
      else
        match (g.splittable_idx entry.lines).bind fun idx =>
            entry.lines[idx]?.map fun line => (idx, line) with
        | none => (entry, g.with_rng rng)
        | some (idx, line) =>
            let n_splits := max 2 (min 8 (target - current + 1))
            let (split_line_role, total_amount) := split_side line
            let (gl_accounts, rng) :=
              g.draw_gl_accounts priors doc_type split_line_role n_splits 50 [] rng
            if gl_accounts.length < 2 then (entry, g.with_rng rng)
            else
              let (raw_weights, rng) := draw_weights gl_accounts.length rng
              let amounts := split_amounts total_amount raw_weights
              if ∃ amount ∈ amounts, amount ≤ 0 then (entry, g.with_rng rng)
              else
                ({ entry with
                    lines := split_lines entry.header.document_id entry.lines idx line
                      gl_accounts amounts }, g.with_rng rng)

end Splits

section Postings

variable [Rng ρ]

/-- What the posting of a document says in the header of its entry. -/
structure PostingText where
  business_process : BusinessProcess
  document_type : String
  reference : String
  source_document : DocumentRef
  header_text : String

def posted (source : DocumentHeader) (document_id : Uuid) (text : PostingText)
    (lines : List FlowLine) : Option FlowEntry × DocumentFlowJeGenerator ρ :=
  let posting_date := source.posting_date.getD source.document_date
  let header := FlowHeader.with_deterministic_id source.company_code posting_date document_id
  let header : FlowHeader := { header with
    business_process := some text.business_process
    document_type := text.document_type
    reference := some text.reference
    source_document := some text.source_document
    header_text := some text.header_text }
  let entry := g.enrich_line_items (lines.foldl FlowEntry.add_line (.new header))
  let (entry, g) := g.split_je_expense_lines entry
  (some entry, g)

def next_id : Uuid × DocumentFlowJeGenerator ρ :=
  let (document_id, uuid_factory) := g.uuid_factory.next
  (document_id, { g with uuid_factory := uuid_factory })

def generate_from_goods_receipt (gr : GoodsReceipt) :
    Option FlowEntry × DocumentFlowJeGenerator ρ :=
  if gr.items = [] then (none, g)
  else
    let (document_id, g) := g.next_id
    let total_amount :=
      if 0 < gr.total_value then gr.total_value else (gr.items.map (·.base.net_amount)).sum
    if total_amount = 0 then (none, g)
    else
      g.posted gr.header document_id
        { business_process := .p2p
          document_type := "WE"
          reference := "GR:" ++ gr.header.document_id
          source_document := .goodsReceipt gr.header.document_id
          header_text :=
            "Goods Receipt " ++ gr.header.document_id ++ " - " ++ gr.vendor_id.getD "Unknown" }
        [.debit document_id 1 g.config.inventory_account total_amount,
          { FlowLine.credit document_id 2 g.config.gr_ir_clearing_account total_amount with
            trading_partner := gr.vendor_id }]

/-- The account a vendor invoice is posted to: the clearing account, or with priors loaded and
as often as the share says, an expense account. -/
def debit_account : String × ρ :=
  match g.loaded_priors with
  | none => (g.config.gr_ir_clearing_account, g.rng)
  | some priors =>
      let (r, rng) := Rng.random_range 0 1 g.rng
      if (F64.finite r).lt (g.config.direct_expense_share.clamp 0 1) then
        let (expense_gl, rng) := priors.sample_gl "KR" "DR" rng
        (expense_gl.getD "6000", rng)
      else (g.config.gr_ir_clearing_account, rng)

def generate_from_vendor_invoice (invoice : VendorInvoice) :
    Option FlowEntry × DocumentFlowJeGenerator ρ :=
  if invoice.payable_amount = 0 then (none, g)
  else
    let (document_id, g) := g.next_id
    let has_vat : Bool := 0 < invoice.tax_amount
    let debit_net_amount := if has_vat then invoice.net_amount else invoice.payable_amount
    let (debit_gl, rng) := g.debit_account
    let vat_lines :=
      if has_vat then
        [FlowLine.debit document_id 2 g.config.vat_input_account invoice.tax_amount]
      else []
    let credit_line := FlowLine.credit document_id (if has_vat then 3 else 2)
      g.config.ap_account invoice.payable_amount
    (g.with_rng rng).posted invoice.header document_id
      { business_process := .p2p
        document_type := "KR"
        reference := "VI:" ++ invoice.header.document_id
        source_document := .vendorInvoice invoice.header.document_id
        header_text :=
          "Vendor Invoice " ++ invoice.vendor_invoice_number ++ " - " ++ invoice.vendor_id }
      (.debit document_id 1 debit_gl debit_net_amount :: vat_lines ++
        [g.partnered credit_line invoice.vendor_id])

def generate_from_ap_payment (payment : Payment) :
    Option FlowEntry × DocumentFlowJeGenerator ρ :=
  if payment.amount = 0 then (none, g)
  else
    let (document_id, g) := g.next_id
    let debit_line := FlowLine.debit document_id 1 g.config.ap_account payment.amount
    g.posted payment.header document_id
      { business_process := .p2p
        document_type := "KZ"
        reference := "PAY:" ++ payment.header.document_id
        source_document := .payment payment.header.document_id
        header_text :=
          "Payment " ++ payment.header.document_id ++ " - " ++ payment.business_partner_id }
      [g.partnered debit_line payment.business_partner_id,
        .credit document_id 2 g.config.cash_account payment.amount]

def generate_from_delivery (delivery : Delivery) :
    Option FlowEntry × DocumentFlowJeGenerator ρ :=
  if delivery.items = [] then (none, g)
  else
    let (document_id, g) := g.next_id
    let total_cost := (delivery.items.map (·.base.net_amount)).sum
    if total_cost = 0 then (none, g)
    else
      g.posted delivery.header document_id
        { business_process := .o2c
          document_type := "WL"
          reference := "DEL:" ++ delivery.header.document_id
          source_document := .delivery delivery.header.document_id
          header_text :=
            "Delivery " ++ delivery.header.document_id ++ " - " ++ delivery.customer_id }
        [.debit document_id 1 g.config.cogs_account total_cost,
          .credit document_id 2 g.config.inventory_account total_cost]

def generate_from_customer_invoice (invoice : CustomerInvoice) :
    Option FlowEntry × DocumentFlowJeGenerator ρ :=
  if invoice.total_gross_amount = 0 then (none, g)
  else
    let (document_id, g) := g.next_id
    let debit_line := FlowLine.debit document_id 1 g.config.ar_account invoice.total_gross_amount
    let revenue_amount :=
      if 0 < invoice.total_tax_amount then invoice.total_net_amount else invoice.total_gross_amount
    let vat_lines :=
      if 0 < invoice.total_tax_amount then
        [FlowLine.credit document_id 3 g.config.vat_output_account invoice.total_tax_amount]
      else []
    g.posted invoice.header document_id
      { business_process := .o2c
        document_type := "DR"
        reference := "CI:" ++ invoice.header.document_id
        source_document := .customerInvoice invoice.header.document_id
        header_text :=
          "Customer Invoice " ++ invoice.header.document_id ++ " - " ++ invoice.customer_id }
      (g.partnered debit_line invoice.customer_id ::
        .credit document_id 2 g.config.revenue_account revenue_amount :: vat_lines)

def generate_from_ar_receipt (payment : Payment) :
    Option FlowEntry × DocumentFlowJeGenerator ρ :=
  if payment.amount = 0 then (none, g)
  else
    let (document_id, g) := g.next_id
    let credit_line := FlowLine.credit document_id 2 g.config.ar_account payment.amount
    g.posted payment.header document_id
      { business_process := .o2c
        document_type := "DZ"
        reference := "RCP:" ++ payment.header.document_id
        source_document := .receipt payment.header.document_id
        header_text :=
          "Customer Receipt " ++ payment.header.document_id ++ " - " ++ payment.business_partner_id }
      [.debit document_id 1 g.config.cash_account payment.amount,
        g.partnered credit_line payment.business_partner_id]

end Postings

end DocumentFlowJeGenerator

end Datasynth.Generators.DocumentFlow

/-!
The journal entries of whole chains of documents, from the order to the payments, and the
matching codes set on the payable and receivable lines of a settled chain.
-/

namespace Datasynth.Generators.DocumentFlow

open Datasynth.Core.BehavioralPriors
open Datasynth.Core.FlowDocuments
open Datasynth.Core.FlowEntries
open Datasynth.Lib.CivilCalendar

inductive FlowDocument where
  | goodsReceipt (gr : GoodsReceipt)
  | vendorInvoice (invoice : VendorInvoice)
  | apPayment (payment : Payment)
  | delivery (delivery : Delivery)
  | customerInvoice (invoice : CustomerInvoice)
  | arReceipt (payment : Payment)
deriving DecidableEq

structure P2PDocumentChain where
  purchase_order : DocumentHeader
  goods_receipts : List GoodsReceipt
  vendor_invoice : Option VendorInvoice
  payment : Option Payment
  remainder_payments : List Payment
  is_complete : Bool
deriving DecidableEq

structure O2CDocumentChain where
  sales_order : DocumentHeader
  deliveries : List Delivery
  customer_invoice : Option CustomerInvoice
  customer_receipt : Option Payment
  remainder_receipts : List Payment
deriving DecidableEq

def P2PDocumentChain.payments (chain : P2PDocumentChain) : List Payment :=
  chain.payment.toList ++ chain.remainder_payments

def P2PDocumentChain.documents (chain : P2PDocumentChain) : List FlowDocument :=
  chain.goods_receipts.map .goodsReceipt ++ chain.vendor_invoice.toList.map .vendorInvoice ++
    chain.payments.map .apPayment

def O2CDocumentChain.receipts (chain : O2CDocumentChain) : List Payment :=
  chain.customer_receipt.toList ++ chain.remainder_receipts

def O2CDocumentChain.documents (chain : O2CDocumentChain) : List FlowDocument :=
  chain.deliveries.map .delivery ++ chain.customer_invoice.toList.map .customerInvoice ++
    chain.receipts.map .arReceipt

/-- The start of a text of so many bytes, when it ends at a character. -/
def takeBytes : ℕ → List Char → Option (List Char)
  | 0, _ => some []
  | _ + 1, [] => none
  | n + 1, c :: cs =>
      if c.utf8Size ≤ n + 1 then (takeBytes (n + 1 - c.utf8Size) cs).map (c :: ·) else none

/-- The first eight bytes of an identifier.  Where they end inside a character the source
panics. -/
def lettrage_code (chain_id : String) : Option String :=
  (takeBytes (min chain_id.utf8ByteSize 8) chain_id.toList).map fun start =>
    "LTR-" ++ String.ofList start

namespace DocumentFlowJeGenerator

variable {ρ : Type} (g : DocumentFlowJeGenerator ρ)

def letter (code : String) (lettrage_date : Date) (entry : FlowEntry) : FlowEntry :=
  { entry with
    lines := entry.lines.map fun line =>
      if g.is_control line.gl_account then
        { line with lettrage := some code, lettrage_date := some lettrage_date }
      else line }

def apply_lettrage (entries : List FlowEntry) (chain_id : String) (lettrage_date : Date) :
    Option (List FlowEntry) :=
  if g.config.populate_fec_fields then
    (lettrage_code chain_id).map fun code => entries.map (g.letter code lettrage_date)
  else some entries

variable [Rng ρ]

def generate : FlowDocument → Option FlowEntry × DocumentFlowJeGenerator ρ
  | .goodsReceipt gr => g.generate_from_goods_receipt gr
  | .vendorInvoice invoice => g.generate_from_vendor_invoice invoice
  | .apPayment payment => g.generate_from_ap_payment payment
  | .delivery delivery => g.generate_from_delivery delivery
  | .customerInvoice invoice => g.generate_from_customer_invoice invoice
  | .arReceipt payment => g.generate_from_ar_receipt payment

/-- The entries of documents one after the other. -/
def generate_all (g : DocumentFlowJeGenerator ρ) :
    List FlowDocument → List FlowEntry × DocumentFlowJeGenerator ρ
  | [] => ([], g)
  | document :: documents =>
      let (entry, g) := g.generate document
      let (entries, g) := generate_all g documents
      (entry.toList ++ entries, g)

def generate_from_p2p_chain (chain : P2PDocumentChain) :
    Option (List FlowEntry × DocumentFlowJeGenerator ρ) :=
  let (entries, g) := g.generate_all chain.documents
  let lettered :=
    match chain.payment with
    | some payment =>
        if g.config.populate_fec_fields ∧ chain.is_complete then
          g.apply_lettrage entries chain.purchase_order.document_id
            (payment.header.posting_date.getD payment.header.document_date)
        else some entries
    | none => some entries
  lettered.map fun entries => (entries, g)

def generate_from_o2c_chain (chain : O2CDocumentChain) :
    Option (List FlowEntry × DocumentFlowJeGenerator ρ) :=
  let (entries, g) := g.generate_all chain.documents
  let lettered :=
    match chain.customer_receipt with
    | some receipt =>
        if g.config.populate_fec_fields then
          g.apply_lettrage entries chain.sales_order.document_id
            (receipt.header.posting_date.getD receipt.header.document_date)
        else some entries
    | none => some entries
  lettered.map fun entries => (entries, g)

end DocumentFlowJeGenerator

end Datasynth.Generators.DocumentFlow
