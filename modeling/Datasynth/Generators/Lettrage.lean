import Datasynth.Generators.ClearedChains
import Datasynth.Lib.ListRearrangement

/-!
The matching codes of a set of chains: every lettered chain has a code of its own, and what is
lettered cancels.
-/

namespace Datasynth.Generators.Lettrage

open Datasynth.Core.BehavioralPriors
open Datasynth.Core.FlowDocuments
open Datasynth.Core.FlowEntries
open Datasynth.Generators.ClearedChains
open Datasynth.Generators.DocumentFlow
open Datasynth.Generators.FlowPostings
open Datasynth.Lib.CivilCalendar
open Datasynth.Lib.ListRearrangement
open Datasynth.Lib.SignedPostings

section Runs

inductive FlowChain where
  | p2p (chain : P2PDocumentChain)
  | o2c (chain : O2CDocumentChain)
deriving DecidableEq

namespace FlowChain

def order_id : FlowChain → String
  | .p2p chain => chain.purchase_order.document_id
  | .o2c chain => chain.sales_order.document_id

def documents : FlowChain → List FlowDocument
  | .p2p chain => chain.documents
  | .o2c chain => chain.documents

/-- A purchase is lettered when it is complete, a sale when there is a receipt for it. -/
def lettered : FlowChain → Bool
  | .p2p chain => chain.is_complete && chain.payment.isSome
  | .o2c chain => chain.customer_receipt.isSome

end FlowChain

variable {ρ : Type} [Rng ρ]

def generateFromChain (g : DocumentFlowJeGenerator ρ) :
    FlowChain → Option (List FlowEntry × DocumentFlowJeGenerator ρ)
  | .p2p chain => g.generate_from_p2p_chain chain
  | .o2c chain => g.generate_from_o2c_chain chain

/-- The entries of every chain, chain by chain. -/
def generateFromChains (g : DocumentFlowJeGenerator ρ) :
    List FlowChain → Option (List (List FlowEntry) × DocumentFlowJeGenerator ρ)
  | [] => some ([], g)
  | chain :: chains =>
      (generateFromChain g chain).bind fun r =>
        (generateFromChains r.2 chains).map fun s => (r.1 :: s.1, s.2)

def letteredLines (entries : List FlowEntry) (code : String) : List FlowLine :=
  (entries.flatMap (·.lines)).filter fun line => line.lettrage = some code

def netUnder (entries : List FlowEntry) (code : String) : ℚ :=
  ((letteredLines entries code).map fun line => line.debit_amount - line.credit_amount).sum

/-- All chains are posted, no two of them share a code, and under every code the lines cancel. -/
def LettersSettled (g : DocumentFlowJeGenerator ρ) (chains : List FlowChain) : Prop :=
  ∃ ledgers g', generateFromChains g chains = some (ledgers, g') ∧
    ledgers.Pairwise (fun entries entries' =>
      ∀ code, letteredLines entries code ≠ [] → letteredLines entries' code = []) ∧
    ∀ code, netUnder ledgers.flatten code = 0

end Runs

section Unlettered

variable {ρ : Type} {g : DocumentFlowJeGenerator ρ}

def Unlettered (entry : FlowEntry) : Prop := ∀ line ∈ entry.lines, line.lettrage = none

theorem unlettered_foldl {lines : List FlowLine} (hlines : ∀ line ∈ lines, line.lettrage = none)
    {entry : FlowEntry} (h : Unlettered entry) :
    Unlettered (lines.foldl FlowEntry.add_line entry) := by
  induction lines generalizing entry with
  | nil => exact h
  | cons line lines ih =>
      rw [List.forall_mem_cons] at hlines
      apply ih hlines.2
      intro line' hline'
      rcases List.mem_append.mp hline' with hline' | hline'
      · exact h line' hline'
      · rw [List.mem_singleton.mp hline']
        exact hlines.1

theorem unlettered_enrich {entry : FlowEntry} (h : Unlettered entry) :
    Unlettered (g.enrich_line_items entry) := by
  intro line hline
  obtain ⟨e, he, rfl⟩ := List.mem_map.mp hline
  exact h e.1 (List.fst_mem_of_mem_zipIdx he)

theorem unlettered_split_lines {lines : List FlowLine} (h : ∀ line ∈ lines, line.lettrage = none)
    (document_id : Uuid) (idx : ℕ) (line : FlowLine) (gl_accounts : List String)
    (amounts : List ℚ) :
    ∀ line' ∈ DocumentFlowJeGenerator.split_lines document_id lines idx line gl_accounts amounts,
      line'.lettrage = none := by
  intro line' hline'
  obtain ⟨e, he, rfl⟩ := List.mem_map.mp hline'
  show e.1.lettrage = none
  rcases List.mem_append.mp (List.fst_mem_of_mem_zipIdx he) with hmem | hmem
  · rcases List.mem_append.mp hmem with hmem | hmem
    · exact h _ (List.mem_of_mem_take hmem)
    · obtain ⟨part, -, hpart⟩ := List.mem_map.mp hmem
      rw [← hpart, DocumentFlowJeGenerator.split_line]
      dsimp only
      split <;> rfl
  · exact h _ (List.mem_of_mem_drop hmem)

variable [Rng ρ]

theorem unlettered_split {entry : FlowEntry} (h : Unlettered entry) :
    Unlettered (g.split_je_expense_lines entry).1 := by
  rw [DocumentFlowJeGenerator.split_je_expense_lines]
  cases g.loaded_priors with
  | none => exact h
  | some priors =>
      dsimp only
      split
      · exact h
      · split
        · exact h
        · split
          · exact h
          · split
            · exact h
            · exact unlettered_split_lines h _ _ _ _ _

theorem unlettered_posted {lines : List FlowLine} (hlines : ∀ line ∈ lines, line.lettrage = none)
    (source : DocumentHeader) (document_id : Uuid) (text : DocumentFlowJeGenerator.PostingText) :
    ∀ entry ∈ (g.posted source document_id text lines).1, Unlettered entry := by
  rintro _ ⟨⟩
  apply unlettered_split
  apply unlettered_enrich
  apply unlettered_foldl hlines
  intro line hline
  cases hline

/-- No line is lettered when it is posted. -/
theorem unlettered_generate (document : FlowDocument) :
    ∀ entry ∈ (g.generate document).1, Unlettered entry := by
  have houtcome := outcome_generate g document
  generalize g.generate document = r at houtcome ⊢
  cases houtcome with
  | nothing _ _ =>
      intro entry hentry
      cases hentry
  | posting rng source document_id text lines _ hlettrage =>
      exact unlettered_posted hlettrage source document_id text

theorem unlettered_generate_all (documents : List FlowDocument) :
    ∀ entry ∈ (g.generate_all documents).1, Unlettered entry := by
  induction documents generalizing g with
  | nil =>
      intro entry hentry
      cases hentry
  | cons document documents ih =>
      intro entry hentry
      rcases List.mem_append.mp hentry with hentry | hentry
      · exact unlettered_generate document entry (Option.mem_toList.mp hentry)
      · exact ih entry hentry

end Unlettered

section Ledgers

theorem exists_mem_iff_filter_ne_nil {α : Type} {P : α → Bool} {l : List α} :
    (∃ a ∈ l, P a = true) ↔ l.filter P ≠ [] := by
  rw [Ne, List.filter_eq_nil_iff]
  push Not
  rfl

theorem entryPostings_eq_map (entries : List FlowEntry) :
    entryPostings entries = (entries.flatMap (·.lines)).map linePosting := by
  rw [entryPostings, List.map_flatMap]
  rfl

variable {ρ : Type} [Rng ρ] {g : DocumentFlowJeGenerator ρ}

/-- For every chain the code it is lettered with, and what its documents post. -/
def planRows (g : DocumentFlowJeGenerator ρ) :
    List FlowChain → List (Option String × List (String × ℚ))
  | [] => []
  | chain :: chains =>
      (if chain.lettered then lettrage_code chain.order_id else none,
        plannedPostings g chain.documents) ::
      planRows (g.generate_all chain.documents).2 chains

/-- A ledger whose lettered lines are those of a row. -/
structure Describes (control : String → Bool) (entries : List FlowEntry)
    (row : Option String × List (String × ℚ)) : Prop where
  lettered : ∀ code, letteredLines entries code ≠ [] ↔
    row.1 = some code ∧ ∃ p ∈ row.2, control p.1 = true
  net : ∀ code, netUnder entries code = if row.1 = some code then netWhere control row.2 else 0

omit [Rng ρ] in
theorem is_control_of_sameSetup {g' : DocumentFlowJeGenerator ρ} (h : SameSetup g g') :
    g'.is_control = g.is_control := by
  funext account
  rw [DocumentFlowJeGenerator.is_control, DocumentFlowJeGenerator.is_control, h.config]

omit [Rng ρ] in
theorem kept_is_control : Kept g g.is_control := by
  refine .inr ?_
  intro account haccount
  rcases of_decide_eq_true haccount with rfl | rfl <;>
    simp [DocumentFlowJeGenerator.no_split_accounts]

theorem generateFromChain_eq (hfec : g.config.populate_fec_fields = true) (chain : FlowChain) :
    ∃ lettrage_date, generateFromChain g chain =
      if chain.lettered then
        (lettrage_code chain.order_id).map fun code =>
          ((g.generate_all chain.documents).1.map
            ((g.generate_all chain.documents).2.letter code lettrage_date),
            (g.generate_all chain.documents).2)
      else some (g.generate_all chain.documents) := by
  cases chain with
  | p2p chain =>
      have hconfig := (sameSetup_generate_all (g := g) chain.documents).config
      show ∃ _, g.generate_from_p2p_chain chain = _
      rw [DocumentFlowJeGenerator.generate_from_p2p_chain]
      cases hpayment : chain.payment with
      | none =>
          exact ⟨Date.ofYmd 1970 1 1, by simp [FlowChain.lettered, FlowChain.documents, hpayment]⟩
      | some payment =>
          refine ⟨payment.header.posting_date.getD payment.header.document_date, ?_⟩
          by_cases hcomplete : chain.is_complete = true
          · simp [FlowChain.lettered, FlowChain.documents, FlowChain.order_id, hpayment, hcomplete,
              DocumentFlowJeGenerator.apply_lettrage, hconfig, hfec, Function.comp_def]
          · simp [FlowChain.lettered, FlowChain.documents, hcomplete]
  | o2c chain =>
      have hconfig := (sameSetup_generate_all (g := g) chain.documents).config
      show ∃ _, g.generate_from_o2c_chain chain = _
      rw [DocumentFlowJeGenerator.generate_from_o2c_chain]
      cases hreceipt : chain.customer_receipt with
      | none =>
          exact ⟨Date.ofYmd 1970 1 1, by simp [FlowChain.lettered, FlowChain.documents, hreceipt]⟩
      | some receipt =>
          refine ⟨receipt.header.posting_date.getD receipt.header.document_date, ?_⟩
          simp [FlowChain.lettered, FlowChain.documents, FlowChain.order_id, hreceipt,
            DocumentFlowJeGenerator.apply_lettrage, hconfig, hfec, Function.comp_def]

theorem letteredLines_unlettered {entries : List FlowEntry}
    (h : ∀ entry ∈ entries, Unlettered entry) (code : String) :
    letteredLines entries code = [] := by
  rw [letteredLines, List.filter_eq_nil_iff]
  intro line hline
  obtain ⟨entry, hentry, hline⟩ := List.mem_flatMap.mp hline
  rw [h entry hentry line hline]
  exact Bool.false_ne_true

omit [Rng ρ] in
/-- Under its own code a lettered ledger has its control lines, under others nothing. -/
theorem letteredLines_letter {entries : List FlowEntry} (h : ∀ entry ∈ entries, Unlettered entry)
    (code code' : String) (lettrage_date : Date) :
    (letteredLines (entries.map (g.letter code lettrage_date)) code').map linePosting =
      if code = code' then (entryPostings entries).filter fun p => g.is_control p.1 else [] := by
  have hnone : ∀ line ∈ entries.flatMap (·.lines), line.lettrage = none := by
    intro line hline
    obtain ⟨entry, hentry, hline⟩ := List.mem_flatMap.mp hline
    exact h entry hentry line hline
  have hlines : (entries.map (g.letter code lettrage_date)).flatMap (·.lines) =
      (entries.flatMap (·.lines)).map fun line =>
        if g.is_control line.gl_account then
          { line with lettrage := some code, lettrage_date := some lettrage_date }
        else line := by
    rw [List.flatMap_map, List.map_flatMap]
    rfl
  rw [letteredLines, hlines, entryPostings_eq_map]
  generalize entries.flatMap (·.lines) = lines at hnone
  induction lines with
  | nil => exact (ite_self _).symm
  | cons line lines ih =>
      rw [List.forall_mem_cons] at hnone
      rw [List.map_cons, List.map_cons, List.filter_cons, List.filter_cons]
      show _ = if code = code' then if g.is_control line.gl_account then _ else _ else _
      have ih := ih hnone.2
      by_cases hcontrol : g.is_control line.gl_account = true
      · rw [if_pos hcontrol, if_pos hcontrol]
        by_cases hcode : code = code'
        · rw [if_pos hcode] at ih ⊢
          rw [if_pos (by simp [hcode]), List.map_cons, ih]
          rfl
        · rw [if_neg hcode] at ih ⊢
          rw [if_neg (by simp [hcode]), ih]
      · rw [if_neg hcontrol, if_neg hcontrol, if_neg (by simp [hnone.1]), ih]

/-- A chain whose order has no code fails; any other is described by its row. -/
theorem describes_generateFromChain (hfec : g.config.populate_fec_fields = true)
    (chain : FlowChain) :
    (generateFromChain g chain = none ↔
        chain.lettered = true ∧ lettrage_code chain.order_id = none) ∧
      ∀ r, generateFromChain g chain = some r →
        r.2 = (g.generate_all chain.documents).2 ∧
          Describes g.is_control r.1
            (if chain.lettered then lettrage_code chain.order_id else none,
              plannedPostings g chain.documents) := by
  obtain ⟨lettrage_date, hgenerate⟩ := generateFromChain_eq hfec chain
  have hunlettered := unlettered_generate_all (g := g) chain.documents
  have hsetup := sameSetup_generate_all (g := g) chain.documents
  have hfilter := filter_postings_generate_all (g := g) chain.documents kept_is_control
  rw [hgenerate]
  by_cases hlettered : chain.lettered = true
  · rw [if_pos hlettered, if_pos hlettered, Option.map_eq_none_iff]
    refine ⟨(and_iff_right hlettered).symm, ?_⟩
    intro r hr
    obtain ⟨code, hcode, rfl⟩ := Option.map_eq_some_iff.mp hr
    refine ⟨rfl, ?_⟩
    have hlines := fun code' => letteredLines_letter (g := (g.generate_all chain.documents).2)
      hunlettered code code' lettrage_date
    simp only [is_control_of_sameSetup hsetup, hfilter] at hlines
    rw [hcode]
    refine ⟨fun code' => ?_, fun code' => ?_⟩
    · have hexists := exists_mem_iff_filter_ne_nil
        (P := fun p : String × ℚ => g.is_control p.1) (l := plannedPostings g chain.documents)
      show _ ↔ some code = some code' ∧ ∃ p ∈ plannedPostings g chain.documents, _
      rw [Option.some_inj, hexists, Ne, ← List.map_eq_nil_iff (f := linePosting), hlines]
      by_cases heq : code = code'
      · simp [heq]
      · simp [heq]
    · have hsum : netUnder ((g.generate_all chain.documents).1.map
          ((g.generate_all chain.documents).2.letter code lettrage_date)) code' =
            (((letteredLines ((g.generate_all chain.documents).1.map
              ((g.generate_all chain.documents).2.letter code lettrage_date)) code').map
                linePosting).map Prod.snd).sum := by
        rw [netUnder, List.map_map]
        rfl
      rw [hsum, hlines, netWhere_eq_sum_filter]
      by_cases heq : code = code'
      · rw [if_pos heq, if_pos (congrArg some heq)]
      · rw [if_neg heq, if_neg fun h => heq (Option.some_inj.mp h)]
        rfl
  · rw [if_neg hlettered, if_neg hlettered]
    refine ⟨iff_of_false (Option.some_ne_none _) fun h => hlettered h.1, ?_⟩
    rintro r ⟨⟩
    refine ⟨rfl, fun code => ?_, fun code => ?_⟩
    · rw [letteredLines_unlettered hunlettered]
      simp
    · rw [netUnder, letteredLines_unlettered hunlettered]
      rfl

end Ledgers

section Matching

variable {ρ : Type} [Rng ρ] {g : DocumentFlowJeGenerator ρ}

/-- The chain of a row has a code and a line for it. -/
def Letters (control : String → Bool) (row : Option String × List (String × ℚ)) : Prop :=
  row.1 ≠ none ∧ ∃ p ∈ row.2, control p.1 = true

/-- Every lettered chain has a code of its own, and its documents cancel on the control
accounts. -/
structure Matched (g : DocumentFlowJeGenerator ρ) (chains : List FlowChain) : Prop where
  coded : ∀ chain ∈ chains, chain.lettered = true → lettrage_code chain.order_id ≠ none
  distinct : (planRows g chains).Pairwise fun row row' =>
    Letters g.is_control row → Letters g.is_control row' → row.1 ≠ row'.1
  settled : ∀ row ∈ planRows g chains, row.1 ≠ none → netWhere g.is_control row.2 = 0

theorem describes_generateFromChains (hfec : g.config.populate_fec_fields = true)
    (chains : List FlowChain) :
    (generateFromChains g chains ≠ none ↔
        ∀ chain ∈ chains, chain.lettered = true → lettrage_code chain.order_id ≠ none) ∧
      ∀ r, generateFromChains g chains = some r →
        List.Forall₂ (Describes g.is_control) r.1 (planRows g chains) := by
  induction chains generalizing g with
  | nil =>
      refine ⟨iff_of_true (Option.some_ne_none _) (fun _ h => absurd h List.not_mem_nil), ?_⟩
      rintro r ⟨⟩
      exact .nil
  | cons chain chains ih =>
      obtain ⟨hfails, hrow⟩ := describes_generateFromChain hfec chain
      have hsetup := sameSetup_generate_all (g := g) chain.documents
      obtain ⟨hrest, hrows⟩ := ih (g := (g.generate_all chain.documents).2)
        (by rw [hsetup.config]; exact hfec)
      rw [is_control_of_sameSetup hsetup] at hrows
      rw [generateFromChains, List.forall_mem_cons, ← hrest]
      cases hchain : generateFromChain g chain with
      | none =>
          have hnone := hfails.mp hchain
          refine ⟨iff_of_false (fun h => h rfl) fun h => h.1 hnone.1 hnone.2, ?_⟩
          rintro r ⟨⟩
      | some r =>
          obtain ⟨hstate, hdescribes⟩ := hrow r hchain
          have hcoded : chain.lettered = true → lettrage_code chain.order_id ≠ none := by
            intro hlettered hcode
            rw [hfails.mpr ⟨hlettered, hcode⟩] at hchain
            cases hchain
          rw [Option.bind_some, hstate]
          refine ⟨?_, ?_⟩
          · rw [Ne, Option.map_eq_none_iff, and_iff_right hcoded]
          · intro r' hr'
            obtain ⟨s, hs, rfl⟩ := Option.map_eq_some_iff.mp hr'
            exact .cons hdescribes (hrows s hs)

omit [Rng ρ] in
theorem netUnder_flatten (ledgers : List (List FlowEntry)) (code : String) :
    netUnder ledgers.flatten code = (ledgers.map fun entries => netUnder entries code).sum := by
  induction ledgers with
  | nil => rfl
  | cons entries ledgers ih =>
      rw [List.flatten_cons, List.map_cons, List.sum_cons, ← ih, netUnder, netUnder, netUnder,
        letteredLines, letteredLines, letteredLines, List.flatMap_append, List.filter_append,
        List.map_append, List.sum_append]

/-- The nets of the rows, each under its code. -/
def codedNets (control : String → Bool) (rows : List (Option String × List (String × ℚ))) :
    List (Option String × ℚ) :=
  rows.map fun row => (row.1, if row.1 = none then 0 else netWhere control row.2)

omit [Rng ρ] in
theorem netUnder_of_describes {control : String → Bool} {ledgers : List (List FlowEntry)}
    {rows : List (Option String × List (String × ℚ))}
    (h : List.Forall₂ (Describes control) ledgers rows) (code : String) :
    netUnder ledgers.flatten code = netOn (some code) (codedNets control rows) := by
  rw [netUnder_flatten]
  induction h with
  | nil => rfl
  | @cons entries row ledgers rows hrow _ ih =>
      rw [List.map_cons, List.sum_cons, ih, hrow.net code]
      rw [codedNets, codedNets, List.map_cons, netOn_cons]
      congr 1
      by_cases hcode : row.1 = some code
      · rw [if_pos hcode, if_pos hcode, if_neg (by rw [hcode]; exact Option.some_ne_none _)]
      · rw [if_neg hcode, if_neg hcode]

omit [Rng ρ] in
theorem disjoint_of_describes {control : String → Bool} {entries entries' : List FlowEntry}
    {row row' : Option String × List (String × ℚ)} (h : Describes control entries row)
    (h' : Describes control entries' row') :
    (∀ code, letteredLines entries code ≠ [] → letteredLines entries' code = []) ↔
      (Letters control row → Letters control row' → row.1 ≠ row'.1) := by
  constructor
  · rintro hdisjoint ⟨hcode, hline⟩ ⟨-, hline'⟩ heq
    obtain ⟨code, hcode⟩ := Option.ne_none_iff_exists'.mp hcode
    have hempty := hdisjoint code ((h.lettered code).mpr ⟨hcode, hline⟩)
    exact (h'.lettered code).mpr ⟨heq.symm.trans hcode, hline'⟩ hempty
  · intro hdistinct code hlines
    by_contra hlines'
    obtain ⟨hcode, hline⟩ := (h.lettered code).mp hlines
    obtain ⟨hcode', hline'⟩ := (h'.lettered code).mp hlines'
    refine hdistinct ⟨?_, hline⟩ ⟨?_, hline'⟩ (hcode.trans hcode'.symm)
    · rw [hcode]
      exact Option.some_ne_none _
    · rw [hcode']
      exact Option.some_ne_none _

omit [Rng ρ] in
theorem settled_iff_codedNets {control : String → Bool}
    {rows : List (Option String × List (String × ℚ))}
    (hdistinct : rows.Pairwise fun row row' =>
      Letters control row → Letters control row' → row.1 ≠ row'.1) :
    (∀ code, netOn (some code) (codedNets control rows) = 0) ↔
      ∀ row ∈ rows, row.1 ≠ none → netWhere control row.2 = 0 := by
  have hletters : ∀ row : Option String × List (String × ℚ),
      (if row.1 = none then 0 else netWhere control row.2) ≠ 0 → Letters control row := by
    intro row hne
    have hcode : row.1 ≠ none := fun h => hne (if_pos h)
    refine ⟨hcode, ?_⟩
    rw [if_neg hcode] at hne
    by_contra hnone
    refine hne (netWhere_eq_zero ?_)
    intro p hp
    exact Bool.eq_false_iff.mpr fun hcontrol => hnone ⟨p, hp, hcontrol⟩
  constructor
  · intro hnets row hrow hcode
    by_contra hne
    obtain ⟨code, hsome⟩ := Option.ne_none_iff_exists'.mp hcode
    have hnet : netOn row.1 (codedNets control rows) =
        if row.1 = none then 0 else netWhere control row.2 := by
      have hpairwise : (codedNets control rows).Pairwise fun p q =>
          p.2 ≠ 0 → q.2 ≠ 0 → p.1 ≠ q.1 := by
        rw [codedNets, List.pairwise_map]
        apply hdistinct.imp
        intro a b hab ha hb
        exact hab (hletters a ha) (hletters b hb)
      exact netOn_of_pairwise hpairwise (List.mem_map_of_mem hrow) (by rw [if_neg hcode]; exact hne)
    rw [if_neg hcode, hsome, hnets code] at hnet
    exact hne hnet.symm
  · intro hsettled code
    apply List.sum_eq_zero
    intro x hx
    obtain ⟨p, hp, rfl⟩ := List.mem_map.mp hx
    obtain ⟨row, hrow, rfl⟩ := List.mem_map.mp hp
    rw [ite_eq_right_iff]
    intro hcode
    rw [if_neg (by rw [hcode]; exact Option.some_ne_none _)]
    exact hsettled row hrow (by rw [hcode]; exact Option.some_ne_none _)

omit [Rng ρ] in
theorem pairwise_of_describes {control : String → Bool} {ledgers : List (List FlowEntry)}
    {rows : List (Option String × List (String × ℚ))}
    (h : List.Forall₂ (Describes control) ledgers rows) :
    ledgers.Pairwise (fun entries entries' =>
        ∀ code, letteredLines entries code ≠ [] → letteredLines entries' code = []) ↔
      rows.Pairwise fun row row' =>
        Letters control row → Letters control row' → row.1 ≠ row'.1 := by
  refine pairwise_iff_of_forall₂ ?_ h
  intro _ _ _ _ hrow hrow'
  exact disjoint_of_describes hrow hrow'

theorem lettersSettled_iff_matched (hfec : g.config.populate_fec_fields = true)
    (chains : List FlowChain) : LettersSettled g chains ↔ Matched g chains := by
  obtain ⟨hposted, hdescribes⟩ := describes_generateFromChains hfec chains
  constructor
  · rintro ⟨ledgers, g', hgenerate, hdisjoint, hnets⟩
    have hrows := hdescribes _ hgenerate
    have hdistinct := (pairwise_of_describes hrows).mp hdisjoint
    refine ⟨hposted.mp (by rw [hgenerate]; exact Option.some_ne_none _), hdistinct, ?_⟩
    apply (settled_iff_codedNets hdistinct).mp
    intro code
    rw [← netUnder_of_describes hrows]
    exact hnets code
  · rintro ⟨hcoded, hdistinct, hsettled⟩
    obtain ⟨⟨ledgers, g'⟩, hgenerate⟩ := Option.ne_none_iff_exists'.mp (hposted.mpr hcoded)
    have hrows := hdescribes _ hgenerate
    refine ⟨ledgers, g', hgenerate, (pairwise_of_describes hrows).mpr hdistinct, ?_⟩
    intro code
    rw [netUnder_of_describes hrows]
    exact (settled_iff_codedNets hdistinct).mpr hsettled code

end Matching

section OpenAmounts

variable {ρ : Type} [Rng ρ] {g : DocumentFlowJeGenerator ρ}

/-- The payable and the receivable account are used for nothing else. -/
def PartnersApart (config : DocumentFlowJeConfig) : Prop :=
  ∀ account ∈ [config.inventory_account, config.gr_ir_clearing_account, config.cash_account,
      config.revenue_account, config.cogs_account, config.vat_output_account,
      config.vat_input_account],
    account ≠ config.ap_account ∧ account ≠ config.ar_account

/-- What is invoiced and not paid, on the side of the control account. -/
def openAmount : FlowChain → ℚ
  | .p2p chain => paid chain - (chain.vendor_invoice.map (·.payable_amount)).getD 0
  | .o2c chain =>
      (chain.customer_invoice.map (·.total_gross_amount)).getD 0 -
        (chain.receipts.map (·.amount)).sum

/-- The account for the vendor invoice of a chain when no priors are loaded. -/
theorem chainAccount_of_none (hpriors : g.loaded_priors = none) (chain : P2PDocumentChain) :
    chainAccount g chain = g.config.gr_ir_clearing_account := by
  have hsetup := sameSetup_generate_all (g := g) (chain.goods_receipts.map .goodsReceipt)
  rw [chainAccount, DocumentFlowJeGenerator.debit_account, hsetup.loaded_priors, hpriors,
    hsetup.config]

theorem netWhere_planned (hapart : PartnersApart g.config) (hpriors : g.loaded_priors = none)
    (chain : FlowChain) :
    netWhere g.is_control (plannedPostings g chain.documents) = openAmount chain := by
  have hother : ∀ account ∈ [g.config.inventory_account, g.config.gr_ir_clearing_account,
      g.config.cash_account, g.config.revenue_account, g.config.cogs_account,
      g.config.vat_output_account, g.config.vat_input_account],
      g.is_control account = false := by
    intro account haccount
    obtain ⟨hap, har⟩ := hapart account haccount
    exact decide_eq_false fun h => h.elim hap har
  have hap : g.is_control g.config.ap_account = true := decide_eq_true (.inl rfl)
  have har : g.is_control g.config.ar_account = true := decide_eq_true (.inr rfl)
  simp only [List.forall_mem_cons] at hother
  obtain ⟨hinventory, hgr_ir, hcash, hrevenue, hcogs, hvat_output, hvat_input, -⟩ := hother
  cases chain with
  | p2p chain =>
      show netWhere g.is_control (plannedPostings g chain.documents) = _
      rw [plannedPostings_p2p, chainAccount_of_none hpriors, P2PDocumentChain.documents,
        List.flatMap_append, List.flatMap_append, netWhere_append, netWhere_append,
        List.flatMap_map, List.flatMap_map, List.flatMap_map]
      have hreceipts := netWhere_flatMap_transfer g.is_control g.config.inventory_account
        g.config.gr_ir_clearing_account receivedValue chain.goods_receipts
      have hpayments := netWhere_flatMap_transfer g.is_control g.config.ap_account
        g.config.cash_account (fun payment : Payment => payment.amount) chain.payments
      rw [hinventory, hgr_ir, if_neg Bool.false_ne_true, sub_zero] at hreceipts
      rw [hap, hcash, if_pos rfl, if_neg Bool.false_ne_true, sub_zero] at hpayments
      have hinvoice : netWhere g.is_control (chain.vendor_invoice.toList.flatMap fun invoice =>
          documentPostings g.config g.config.gr_ir_clearing_account (.vendorInvoice invoice)) =
            -(chain.vendor_invoice.map (·.payable_amount)).getD 0 := by
        cases chain.vendor_invoice with
        | none => exact neg_zero.symm
        | some invoice =>
            show netWhere g.is_control (documentPostings _ _ _ ++ []) = -invoice.payable_amount
            rw [List.append_nil, documentPostings]
            split
            · rename_i hzero
              rw [hzero]
              exact neg_zero.symm
            · by_cases htax : 0 < invoice.tax_amount
              · simp [htax, hgr_ir, hvat_input, hap]
              · simp [htax, hgr_ir, hap]
      refine (congrArg₂ _ (congrArg₂ _ hreceipts hinvoice) hpayments).trans ?_
      rw [openAmount, paid]
      ring
  | o2c chain =>
      show netWhere g.is_control (plannedPostings g chain.documents) = _
      rw [plannedPostings_o2c, O2CDocumentChain.documents, List.flatMap_append,
        List.flatMap_append, netWhere_append, netWhere_append, List.flatMap_map,
        List.flatMap_map, List.flatMap_map]
      have hdeliveries := netWhere_flatMap_transfer g.is_control g.config.cogs_account
        g.config.inventory_account
        (fun delivery : Delivery => (delivery.items.map (·.base.net_amount)).sum) chain.deliveries
      have hreceipts := netWhere_flatMap_transfer g.is_control g.config.cash_account
        g.config.ar_account (fun payment : Payment => payment.amount) chain.receipts
      rw [hcogs, hinventory, if_neg Bool.false_ne_true, sub_zero] at hdeliveries
      rw [har, hcash, if_pos rfl, if_neg Bool.false_ne_true, zero_sub] at hreceipts
      have hinvoice : netWhere g.is_control (chain.customer_invoice.toList.flatMap fun invoice =>
          documentPostings g.config "" (.customerInvoice invoice)) =
            (chain.customer_invoice.map (·.total_gross_amount)).getD 0 := by
        cases chain.customer_invoice with
        | none => rfl
        | some invoice =>
            show netWhere g.is_control (documentPostings _ _ _ ++ []) = invoice.total_gross_amount
            rw [List.append_nil, documentPostings]
            split
            · rename_i hzero
              rw [hzero]
              rfl
            · split
              · simp [har, hrevenue, hvat_output]
              · simp [har, hrevenue]
      refine (congrArg₂ _ (congrArg₂ _ hdeliveries hinvoice) hreceipts).trans ?_
      rw [openAmount]
      ring

theorem settled_iff_openAmount (hapart : PartnersApart g.config)
    (hpriors : g.loaded_priors = none) (chains : List FlowChain) :
    (∀ row ∈ planRows g chains, row.1 ≠ none → netWhere g.is_control row.2 = 0) ↔
      ∀ chain ∈ chains, chain.lettered = true → lettrage_code chain.order_id ≠ none →
        openAmount chain = 0 := by
  induction chains generalizing g with
  | nil =>
      exact iff_of_true (fun _ h => absurd h List.not_mem_nil) fun _ h => absurd h List.not_mem_nil
  | cons chain chains ih =>
      have hsetup := sameSetup_generate_all (g := g) chain.documents
      have hrest := ih (g := (g.generate_all chain.documents).2)
        (by rw [hsetup.config]; exact hapart) (hsetup.loaded_priors.trans hpriors)
      rw [is_control_of_sameSetup hsetup] at hrest
      rw [planRows, List.forall_mem_cons, List.forall_mem_cons, hrest,
        netWhere_planned hapart hpriors]
      apply and_congr_left
      rintro -
      by_cases hlettered : chain.lettered = true
      · simp [hlettered]
      · simp [hlettered]

/-- The chains are lettered apart and cancel exactly when each lettered order has a code of its
own and its documents cancel, that is, where payables and receivables have their own accounts,
when all that is invoiced is paid. -/
theorem lettersSettled_iff (hfec : g.config.populate_fec_fields = true) (chains : List FlowChain) :
    (LettersSettled g chains ↔ Matched g chains) ∧
      (PartnersApart g.config → g.loaded_priors = none →
        ((∀ row ∈ planRows g chains, row.1 ≠ none → netWhere g.is_control row.2 = 0) ↔
          ∀ chain ∈ chains, chain.lettered = true → lettrage_code chain.order_id ≠ none →
            openAmount chain = 0)) :=
  ⟨lettersSettled_iff_matched hfec chains, fun hapart hpriors =>
    settled_iff_openAmount hapart hpriors chains⟩

def frenchGenerator : DocumentFlowJeGenerator (List ℚ) :=
  .with_config_and_seed .french_gaap 42 []

/-- A settled purchase under an order of its own. -/
def orderedChain (order_id : String) : FlowChain :=
  .p2p { settledChain taxedInvoice with
    purchase_order := .new order_id "1000" (Date.ofYmd 2024 1 2) }

theorem lettersSettled_single :
    LettersSettled frenchGenerator [orderedChain "PO-1000-0000000001"] := by
  refine (lettersSettled_iff (g := frenchGenerator) rfl [orderedChain _]).1.mpr ⟨?_, ?_, ?_⟩
  · intro chain hchain _
    rw [List.mem_singleton.mp hchain]
    decide
  · exact List.pairwise_singleton _ _
  · intro row hrow _
    rw [List.mem_singleton.mp hrow]
    decide +kernel

/-- Two orders of one company: both are settled and share the code of their first eight bytes. -/
theorem not_lettersSettled_company :
    "PO-1000-0000000001" ≠ "PO-1000-0000000002" ∧
      ¬LettersSettled frenchGenerator
        [orderedChain "PO-1000-0000000001", orderedChain "PO-1000-0000000002"] := by
  refine ⟨by decide, ?_⟩
  rw [lettersSettled_iff_matched rfl]
  intro hmatched
  have hdistinct := (List.pairwise_cons.mp hmatched.distinct).1 _ List.mem_cons_self
  refine hdistinct ⟨by decide, ?_⟩ ⟨by decide, ?_⟩ (by decide)
  · decide +kernel
  · decide +kernel

end OpenAmounts

end Datasynth.Generators.Lettrage
