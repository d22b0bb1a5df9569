import Datasynth.Group.ManifestBuilder
import Datasynth.Lib.HalfEvenRounding

/-!
The intercompany pairs an entity's shard has to materialise.  Both sides of a pair
derive the same identifier, amount and date, with opposite roles.
-/

namespace Datasynth.Group.IcPlanning

open Datasynth.Core.JournalEntries
open Datasynth.Group.Config
open Datasynth.Group.IcExpansion
open Datasynth.Group.ManifestBuilder
open Datasynth.Group.ShardPlanning
open Datasynth.Lib.ByteEncoding
open Datasynth.Lib.CivilCalendar
open Datasynth.Lib.HalfEvenRounding

inductive IcRole where
  | seller
  | buyer
deriving DecidableEq, Repr

structure IcPairPlan where
  pair_id : IcPairId
  ic_relationship_id : String
  role : IcRole
  partner_entity : String
  transaction_type : IcTransactionType
  amount : ℚ
  date : Date
  index : ℕ
deriving DecidableEq

def avg_amount : IcTransactionType → ℚ
  | .goodsSale => 50000
  | .serviceProvided => 30000
  | .managementFee => 25000
  | .royalty => 100000
  | .costSharing => 30000
  | .loanInterest => 10000
  | .dividend => 75000
  | .expenseRecharge => 20000

/-- The conversion of a whole decimal to 64 unsigned bits. -/
def to_u64 (n : ℤ) : Option ℕ := if 0 ≤ n ∧ n < 2 ^ 64 then some n.toNat else none

def compute_pair_count (annual_volume avg : ℚ) : Option ℕ :=
  if avg = 0 then none else to_u64 (roundHalfEven (annual_volume / avg))

def spread_date (start last : Date) (i n : ℕ) : Date :=
  let period_days := (start.daysUntil last).toNat
  if n ≤ 1 ∨ period_days = 0 then start
  else start.addDays (saturating_mul period_days i / (n - 1))

/-- The bytes hashed into the identifier of a pair. -/
def pairHashInput (group_seed : ℕ) (ic_relationship_id : String) (pair_index : ℕ) : List Byte :=
  utf8Bytes "ic_pair" ++ leBytes 8 group_seed ++ utf8Bytes ic_relationship_id ++
    leBytes 8 pair_index

def derive_ic_pair_id (blake3 : List Byte → Digest) (group_seed : ℕ)
    (ic_relationship_id : String) (pair_index : ℕ) : Digest :=
  blake3 (pairHashInput group_seed ic_relationship_id pair_index)

section Derivation

variable (blake3 : List Byte → Digest) (manifest : GroupManifest)

/-- The side of pair `i` out of `n` of a relationship. -/
def pairPlan (rel : ResolvedIcRelationship) (tx_type : IcTransactionType) (role : IcRole)
    (partner_entity : String) (n i : ℕ) : IcPairPlan where
  pair_id := .fromBytes (derive_ic_pair_id blake3 manifest.group_seed rel.id i)
  ic_relationship_id := rel.id
  role := role
  partner_entity := partner_entity
  transaction_type := tx_type
  amount := avg_amount tx_type
  date := spread_date manifest.period.start manifest.period.end i n
  index := i

def relationshipPlans (entity_code : String) (rel : ResolvedIcRelationship) : List IcPairPlan :=
  let is_seller := rel.seller = entity_code
  let is_buyer := rel.buyer = entity_code
  if ¬ is_seller ∧ ¬ is_buyer then []
  else
    match rel.types with
    | [] => []
    | tx_type :: _ =>
        let avg := avg_amount tx_type
        if avg = 0 then []
        else
          match compute_pair_count rel.annual_volume avg with
          | none => []
          | some count =>
              let n := max count 1
              let role := if is_seller then IcRole.seller else IcRole.buyer
              let partner_entity := if is_seller then rel.buyer else rel.seller
              (List.range n).map (pairPlan blake3 manifest rel tx_type role partner_entity n)

def derive_ic_pair_plans (entity_code : String) : List IcPairPlan :=
  manifest.ic_relationships.flatMap (relationshipPlans blake3 manifest entity_code)

end Derivation

end Datasynth.Group.IcPlanning

/-!
Conversion of pair plans into balanced two-line journal entries of the shard's
entity.
-/

namespace Datasynth.Group.IcInjection

open Datasynth.Core.JournalEntries
open Datasynth.Group.Config
open Datasynth.Group.IcPlanning

structure InjectionCtx where
  entity_code : String

def seller_accounts : IcTransactionType → String × String
  | .goodsSale | .serviceProvided | .managementFee | .royalty | .costSharing
  | .expenseRecharge => ("1150", "4500")
  | .loanInterest => ("1150", "7000")
  | .dividend => ("1000", "4900")

def buyer_accounts : IcTransactionType → String × String
  | .goodsSale => ("5000", "2050")
  | .serviceProvided | .managementFee | .royalty | .costSharing
  | .expenseRecharge => ("6800", "2050")
  | .loanInterest => ("7100", "2050")
  | .dividend => ("1000", "2050")

def build_je_for_plan (plan : IcPairPlan) (ctx : InjectionCtx) : JournalEntry :=
  let (dr_acct, cr_acct) :=
    match plan.role with
    | .seller => seller_accounts plan.transaction_type
    | .buyer => buyer_accounts plan.transaction_type
  let (seller, buyer) :=
    match plan.role with
    | .seller => (ctx.entity_code, plan.partner_entity)
    | .buyer => (plan.partner_entity, ctx.entity_code)
  let header :=
    { JournalEntryHeader.new ctx.entity_code plan.date with
      ic_pair_id := some plan.pair_id
      ic_partner_entity := some plan.partner_entity
      header_text := some <|
        s!"IC {plan.transaction_type.debugName}: {seller} → {buyer} (pair {plan.index})" }
  ((JournalEntry.new header).add_line (.debit 1 dr_acct plan.amount)).add_line
    (.credit 2 cr_acct plan.amount)

def inject_ic_journal_entries (plans : List IcPairPlan) (ctx : InjectionCtx) :
    List JournalEntry :=
  plans.map fun plan => build_je_for_plan plan ctx

/-- The accounts an entry of this role and type is posted to. -/
def sideAccounts (role : IcRole) (t : IcTransactionType) : String × String :=
  match role with
  | .seller => seller_accounts t
  | .buyer => buyer_accounts t

theorem build_je_for_plan_lines (plan : IcPairPlan) (ctx : InjectionCtx) :
    (build_je_for_plan plan ctx).lines =
      [.debit 1 (sideAccounts plan.role plan.transaction_type).1 plan.amount,
        .credit 2 (sideAccounts plan.role plan.transaction_type).2 plan.amount] := by
  cases hrole : plan.role <;> simp [build_je_for_plan, hrole, sideAccounts, JournalEntry.new]

@[simp] theorem build_je_for_plan_ic_pair_id (plan : IcPairPlan) (ctx : InjectionCtx) :
    (build_je_for_plan plan ctx).header.ic_pair_id = some plan.pair_id := rfl

@[simp] theorem build_je_for_plan_posting_date (plan : IcPairPlan) (ctx : InjectionCtx) :
    (build_je_for_plan plan ctx).header.posting_date = plan.date := rfl

theorem build_je_for_plan_postings (plan : IcPairPlan) (ctx : InjectionCtx) :
    (build_je_for_plan plan ctx).postings =
      [((sideAccounts plan.role plan.transaction_type).1, plan.amount),
        ((sideAccounts plan.role plan.transaction_type).2, -plan.amount)] := by
  simp [JournalEntry.postings, build_je_for_plan_lines, JournalEntryLine.debit,
    JournalEntryLine.credit]

theorem build_je_for_plan_total_debit (plan : IcPairPlan) (ctx : InjectionCtx) :
    (build_je_for_plan plan ctx).total_debit = plan.amount := by
  simp [JournalEntry.total_debit, build_je_for_plan_lines, JournalEntryLine.debit,
    JournalEntryLine.credit]

theorem build_je_for_plan_total_credit (plan : IcPairPlan) (ctx : InjectionCtx) :
    (build_je_for_plan plan ctx).total_credit = plan.amount := by
  simp [JournalEntry.total_credit, build_je_for_plan_lines, JournalEntryLine.debit,
    JournalEntryLine.credit]

end Datasynth.Group.IcInjection

/-!
The manifest-driven matcher: journal entries are grouped by pair identifier and a
group of one seller and one buyer side becomes a matched pair.
-/

namespace Datasynth.Group.IcMatching

open Datasynth.Core.JournalEntries
open Datasynth.Group.Config
open Datasynth.Group.IcPlanning
open Datasynth.Group.ManifestBuilder
open Datasynth.Lib.ByteEncoding
open Datasynth.Lib.ExceptRuns
open Datasynth.Lib.Grouping
open Datasynth.Lib.SortedEntries

structure IcMatchedPair where
  pair_id : IcPairId
  seller_entity : String
  buyer_entity : String
  seller_je : JournalEntry
  buyer_je : JournalEntry
deriving DecidableEq

inductive UnmatchedReason where
  | missingBuyerSide
  | missingSellerSide
  | amountDriftAboveTolerance
deriving DecidableEq, Repr

structure UnmatchedSide where
  pair_id : IcPairId
  present_role : IcRole
  present_entity : String
  present_je : JournalEntry
  reason : UnmatchedReason
deriving DecidableEq

structure IcMatchResult where
  matched : List IcMatchedPair
  unmatched : List UnmatchedSide
  total_planned : ℕ
  coverage : ℚ
deriving DecidableEq

structure ObservedSide where
  entity_code : String
  je : JournalEntry
deriving DecidableEq

def observedSides (entity_jes : List (String × List JournalEntry)) :
    List (IcPairId × ObservedSide) :=
  entity_jes.flatMap fun (entity_code, jes) =>
    jes.filterMap fun je => je.header.ic_pair_id.map fun pair_id => (pair_id, ⟨entity_code, je⟩)

def debugStrings (l : List String) : String :=
  "[" ++ ", ".intercalate (l.map fun s => "\"" ++ s ++ "\"") ++ "]"

section Matching

variable (blake3 : List Byte → Digest) (manifest : GroupManifest)

def plansByPair (entity_code : String) : OrderedMap IcPairId IcPairPlan :=
  OrderedMap.ofList <|
    (derive_ic_pair_plans blake3 manifest entity_code).map fun p => (p.pair_id, p)

def lookup_plan (entity_code : String) (pair_id : IcPairId) : GroupResult IcPairPlan :=
  match (plansByPair blake3 manifest entity_code).find? pair_id with
  | some plan => .ok plan
  | none => .error <| .aggregate <|
      s!"match_ic_pairs: entity `{entity_code}` posted JE for pair " ++ pair_id.toHex ++
        " but the manifest derives no plan with that pair_id for that entity — " ++
        "stale shard output or manifest mismatch"

/-- The amount-drift gate of the fuzzy strategy. -/
def driftViolation (seller buyer : ObservedSide) : Bool :=
  match manifest.matching.strategy with
  | .manifestDriven => false
  | .emergentFuzzy =>
      let seller_amount := |seller.je.total_debit|
      let buyer_amount := |buyer.je.total_debit|
      let max_amount := max seller_amount buyer_amount
      0 < max_amount &&
        manifest.matching.tolerance_percent < |seller_amount - buyer_amount| / max_amount

structure MatchState where
  matched : List IcMatchedPair
  unmatched : List UnmatchedSide

def MatchState.empty : MatchState := ⟨[], []⟩

def MatchState.join (st : MatchState) (pair_id : IcPairId) (seller buyer : ObservedSide) :
    MatchState :=
  if driftViolation manifest seller buyer then
    { st with unmatched := st.unmatched ++
        [⟨pair_id, .seller, seller.entity_code, seller.je, .amountDriftAboveTolerance⟩,
          ⟨pair_id, .buyer, buyer.entity_code, buyer.je, .amountDriftAboveTolerance⟩] }
  else
    { st with matched := st.matched ++
        [⟨pair_id, seller.entity_code, buyer.entity_code, seller.je, buyer.je⟩] }

def MatchState.orphan (st : MatchState) (pair_id : IcPairId) (side : ObservedSide)
    (plan : IcPairPlan) : MatchState :=
  let reason :=
    match plan.role with
    | .seller => UnmatchedReason.missingBuyerSide
    | .buyer => UnmatchedReason.missingSellerSide
  { st with unmatched := st.unmatched ++
      [⟨pair_id, plan.role, side.entity_code, side.je, reason⟩] }

def sameRoleError (pair_id : IcPairId) (role : String) (a b : ObservedSide) : GroupError :=
  .aggregate <|
    "match_ic_pairs: pair " ++ pair_id.toHex ++ s!" has two {role}-side observations " ++
      s!"(entities `{a.entity_code}` and `{b.entity_code}`) — expected one seller + one buyer"

/-- Classify the sides observed under one pair identifier. -/
def matchGroup (st : MatchState) (group : IcPairId × List (IcPairId × ObservedSide)) :
    GroupResult MatchState :=
  let pair_id := group.1
  match group.2.map Prod.snd with
  | [side] =>
      (lookup_plan blake3 manifest side.entity_code pair_id).bind fun plan =>
        .ok (st.orphan pair_id side plan)
  | [a, b] =>
      (lookup_plan blake3 manifest a.entity_code pair_id).bind fun plan_a =>
        (lookup_plan blake3 manifest b.entity_code pair_id).bind fun plan_b =>
          match plan_a.role, plan_b.role with
          | .seller, .buyer => .ok (st.join manifest pair_id a b)
          | .buyer, .seller => .ok (st.join manifest pair_id b a)
          | .seller, .seller => .error (sameRoleError pair_id "seller" a b)
          | .buyer, .buyer => .error (sameRoleError pair_id "buyer" a b)
  | sides => .error <| .aggregate <|
      "match_ic_pairs: pair " ++ pair_id.toHex ++ s!" has {sides.length} observed sides (" ++
        debugStrings (sides.map (·.entity_code)) ++
        ") — expected at most 2 (one seller + one buyer)"

def total_planned_pairs : ℕ :=
  (manifest.ownership_graph.entities.map fun e =>
    ((derive_ic_pair_plans blake3 manifest e.code).filter (·.role = .seller)).length).sum

def match_ic_pairs (entity_jes : List (String × List JournalEntry)) :
    GroupResult IcMatchResult :=
  let by_pair := groupBy Prod.fst (observedSides entity_jes)
  (foldRun (matchGroup blake3 manifest) MatchState.empty by_pair.entries).bind fun st =>
    let matched := st.matched.insertionSort fun a b => a.pair_id ≤ b.pair_id
    let unmatched := st.unmatched.insertionSort fun a b => a.pair_id ≤ b.pair_id
    let total_planned := total_planned_pairs blake3 manifest
    let coverage := if total_planned = 0 then 0 else (matched.length : ℚ) / total_planned
    .ok { matched, unmatched, total_planned, coverage }

end Matching

end Datasynth.Group.IcMatching
