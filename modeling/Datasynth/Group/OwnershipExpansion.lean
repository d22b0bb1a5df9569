import Datasynth.Core.JournalEntries
import Datasynth.Group.Config
import Datasynth.Lib.AmountText
import Datasynth.Lib.ExceptRuns

/-!
Expansion of the ownership configuration into the flat list of entities:
explicit entries first, then every generated block, with collision detection.
-/

namespace Datasynth.Group.OwnershipExpansion

open Datasynth.Core.JournalEntries
open Datasynth.Core.OwnershipChanges
open Datasynth.Group.Config
open Datasynth.Lib.ByteEncoding
open Datasynth.Lib.CivilCalendar
open Datasynth.Lib.DecimalText
open Datasynth.Lib.ExceptRuns

inductive EntitySource where
  | explicit
  | generated
deriving DecidableEq, Repr

structure ExpandedEntity where
  code : String
  name : Option String
  country : String
  functional_currency : String
  scoping_profile : String
  consolidation_method : ConsolidationMethod
  ownership_percent : Option ℚ
  parent_code : Option String
  accounting_framework : Option String
  industry : Option String
  hyperinflation_status : HyperinflationStatus
  ownership_changes : List OwnershipChangeEvent
  source : EntitySource
  generated_block_index : Option ℕ
  rows : Option ℕ
deriving DecidableEq

def entityIn (code scoping_profile : String) : ExpandedEntity where
  code := code
  name := none
  country := "DE"
  functional_currency := "EUR"
  scoping_profile := scoping_profile
  consolidation_method := .full
  ownership_percent := none
  parent_code := none
  accounting_framework := none
  industry := none
  hyperinflation_status := .notHyperinflationary
  ownership_changes := []
  source := .explicit
  generated_block_index := none
  rows := none

/-- The random stream of a generated block: a draw below a positive bound and a
draw from a percentage range. -/
structure BlockRng (σ : Type) where
  from_seed : Digest → σ
  random_range : σ → (bound : ℕ) → [NeZero bound] → Fin bound × σ
  random_percent : σ → ℚ → ℚ → ℚ × σ

section Seeds

variable (blake3 : List Byte → Digest)

def derive_manifest_seed (group_seed : ℕ) (period_start : Date) : Digest :=
  blake3 (utf8Bytes "manifest" ++ leBytes 8 group_seed ++ utf8Bytes (dateText period_start))

def derive_entity_seed (group_seed : ℕ) (entity_code : String) : Digest :=
  blake3 (utf8Bytes "entity" ++ leBytes 8 group_seed ++ utf8Bytes entity_code)

def derive_aggregate_seed (group_seed : ℕ) (period_start : Date) : Digest :=
  blake3 (utf8Bytes "aggregate" ++ leBytes 8 group_seed ++ utf8Bytes (dateText period_start))

/-- The manifest seed with the block index folded into its first eight bytes. -/
def block_seed (group_seed : ℕ) (period_start : Date) (block_idx : ℕ) : Digest :=
  let manifest_seed := derive_manifest_seed blake3 group_seed period_start
  { bytes := (manifest_seed.bytes.take 8).zipWith (· ^^^ ·) (leBytes 8 block_idx) ++
      manifest_seed.bytes.drop 8
    length_bytes := by simp [leBytes_length, manifest_seed.length_bytes] }

end Seeds

def country_to_currency_default (country : String) : String :=
  match country with
  | "CH" => "CHF" | "US" => "USD" | "CA" => "CAD" | "MX" => "MXN" | "BR" => "BRL"
  | "AR" => "ARS" | "GB" => "GBP"
  | "DE" | "FR" | "IT" | "ES" | "NL" | "BE" | "AT" | "IE" | "PT" | "FI" | "LU" => "EUR"
  | "PL" => "PLN" | "SE" => "SEK" | "NO" => "NOK" | "DK" => "DKK" | "CN" => "CNY"
  | "JP" => "JPY" | "KR" => "KRW" | "IN" => "INR" | "ID" => "IDR" | "SG" => "SGD"
  | "TH" => "THB" | "VN" => "VND" | "AU" => "AUD" | "NZ" => "NZD" | "ZA" => "ZAR"
  | "AE" => "AED" | "SA" => "SAR" | "TR" => "TRY" | "RU" => "RUB"
  | other => other

def liftOwnershipChange (code parent_code : String) (entry : OwnershipChangeEntry) :
    OwnershipChangeEvent where
  entity_code := code
  parent_entity_code := parent_code
  event_type := entry.event_type
  effective_date := entry.effective_date
  ownership_percent_before := entry.ownership_percent_before
  ownership_percent_after := entry.ownership_percent_after
  previously_held_interest_carrying := entry.previously_held_interest_carrying
  previously_held_interest_fair_value := entry.previously_held_interest_fair_value
  consideration_paid_or_received := entry.consideration_paid_or_received
  acquisition_date_nci_fair_value := entry.acquisition_date_nci_fair_value
  nci_measurement_method := entry.nci_measurement_method
  currency := entry.currency

def liftOwnershipChanges (e : EntityConfig) : GroupResult (List OwnershipChangeEvent) :=
  match e.ownership_changes with
  | [] => .ok []
  | entries =>
      match e.parent_code with
      | none => .error <| .config <|
          s!"entity {e.code} declares ownership_changes but has no parent_code — " ++
            "every ownership-change event implies a controlling parent"
      | some parent_code => .ok (entries.map (liftOwnershipChange e.code parent_code))

def explicitEntity (e : EntityConfig) (ownership_changes : List OwnershipChangeEvent) :
    ExpandedEntity where
  code := e.code
  name := e.name
  country := e.country
  functional_currency := e.functional_currency
  scoping_profile := e.scoping_profile
  consolidation_method := e.consolidation_method
  ownership_percent := e.ownership_percent
  parent_code := e.parent_code
  accounting_framework := e.accounting_framework
  industry := e.industry
  hyperinflation_status := e.hyperinflation_status
  ownership_changes := ownership_changes
  source := .explicit
  generated_block_index := none
  rows := e.rows

/-- What the expansion has produced so far and the codes it has seen. -/
structure Expansion where
  out : List ExpandedEntity
  seen_codes : List String

def Expansion.empty : Expansion := ⟨[], []⟩

def expandExplicit (st : Expansion) (e : EntityConfig) : GroupResult Expansion :=
  if e.code ∈ st.seen_codes then
    .error (.config s!"entity code {e.code} appears twice in ownership.entities")
  else (liftOwnershipChanges e).bind fun ownership_changes =>
    .ok ⟨st.out ++ [explicitEntity e ownership_changes], st.seen_codes ++ [e.code]⟩

def generatedEntity (block : GeneratedEntityBlock) (block_idx : ℕ) (code country : String)
    (ownership_percent : Option ℚ) : ExpandedEntity where
  code := code
  name := none
  country := country
  functional_currency := block.functional_currency.getD (country_to_currency_default country)
  scoping_profile := block.scoping_profile
  consolidation_method := block.consolidation_method
  ownership_percent := ownership_percent
  parent_code := block.parent_code
  accounting_framework := block.accounting_framework
  industry := block.industry
  hyperinflation_status := .notHyperinflationary
  ownership_changes := []
  source := .generated
  generated_block_index := some block_idx
  rows := none

def generatedCode (block : GeneratedEntityBlock) (i : ℕ) : String :=
  block.code_prefix ++ padded 7 (i + 1)

section Blocks

variable {σ : Type} (blake3 : List Byte → Digest) (rng : BlockRng σ)

/-- One round of the block loop: the code, the country draw and the percentage draw. -/
def expandGenerated (block : GeneratedEntityBlock) (block_idx : ℕ) (st : Expansion × σ)
    (i : ℕ) : GroupResult (Expansion × σ) :=
  let (expansion, stream) := st
  let code := generatedCode block i
  if code ∈ expansion.seen_codes then
    .error <| .config
      s!"generated entity code {code} collides with an existing explicit or generated code"
  else
    match block.country with
    | [] => .error <| .config
        s!"generated block {block_idx} has empty country list — at least one required"
    | first :: others =>
        let (idx, stream) := rng.random_range stream (others.length + 1)
        let country := (first :: others).get idx
        let (ownership_percent, stream) :=
          match block.ownership_percent_range with
          | none => (none, stream)
          | some (lo, hi) =>
              let (percent, stream) := rng.random_percent stream lo hi
              (some percent, stream)
        .ok (⟨expansion.out ++ [generatedEntity block block_idx code country ownership_percent],
          expansion.seen_codes ++ [code]⟩, stream)

def expand_block (group_seed : ℕ) (period_start : Date) (st : Expansion)
    (block : GeneratedEntityBlock × ℕ) : GroupResult Expansion :=
  let stream := rng.from_seed (block_seed blake3 group_seed period_start block.2)
  (foldRun (expandGenerated rng block.1 block.2) (st, stream) (List.range block.1.count)).bind
    fun result => .ok result.1

def expand_ownership (ownership : OwnershipConfig) (group_seed : ℕ) (period_start : Date) :
    GroupResult (List ExpandedEntity) :=
  (foldRun expandExplicit Expansion.empty ownership.entities).bind fun explicit =>
    (foldRun (expand_block blake3 rng group_seed period_start) explicit
      ownership.generated.zipIdx).bind fun expansion => .ok expansion.out

/-- The seen codes are those of the entities produced, each once. -/
structure Expansion.Tracked (st : Expansion) : Prop where
  seen_codes_eq : st.seen_codes = st.out.map (·.code)
  nodup : st.seen_codes.Nodup

theorem Expansion.Tracked.push {st : Expansion} (h : st.Tracked) (e : ExpandedEntity)
    (hnew : e.code ∉ st.seen_codes) :
    Expansion.Tracked ⟨st.out ++ [e], st.seen_codes ++ [e.code]⟩ := by
  refine ⟨by simp [h.seen_codes_eq], ?_⟩
  refine List.nodup_append.mpr ⟨h.nodup, List.nodup_singleton _, ?_⟩
  intro a ha b hb hab
  rw [List.mem_singleton] at hb
  exact hnew (hb ▸ hab ▸ ha)

theorem expandExplicit_tracked {st st' : Expansion} {e : EntityConfig} (h : st.Tracked)
    (hrun : expandExplicit st e = .ok st') : st'.Tracked := by
  rw [expandExplicit] at hrun
  split at hrun
  · cases hrun
  · rename_i hnew
    obtain ⟨ownership_changes, -, heq⟩ := bind_eq_ok_iff.mp hrun
    cases heq
    exact h.push (explicitEntity e ownership_changes) hnew

theorem expandGenerated_tracked {block : GeneratedEntityBlock} {block_idx i : ℕ}
    {st st' : Expansion × σ} (h : st.1.Tracked)
    (hrun : expandGenerated rng block block_idx st i = .ok st') : st'.1.Tracked := by
  obtain ⟨expansion, stream⟩ := st
  simp only [expandGenerated] at hrun
  split at hrun
  · cases hrun
  · rename_i hnew
    split at hrun
    · cases hrun
    · cases hrun
      exact h.push (generatedEntity block block_idx (generatedCode block i) _ _) hnew

theorem expand_block_tracked {group_seed : ℕ} {period_start : Date} {st st' : Expansion}
    {block : GeneratedEntityBlock × ℕ} (h : st.Tracked)
    (hrun : expand_block blake3 rng group_seed period_start st block = .ok st') :
    st'.Tracked := by
  obtain ⟨result, hresult, heq⟩ := bind_eq_ok_iff.mp hrun
  cases heq
  exact foldRun_invariant (fun st _ => st.1.Tracked)
    (fun _ _ _ _ hst hstep => expandGenerated_tracked rng hst hstep) h hresult

theorem expand_ownership_codes_nodup {ownership : OwnershipConfig} {group_seed : ℕ}
    {period_start : Date} {out : List ExpandedEntity}
    (hrun : expand_ownership blake3 rng ownership group_seed period_start = .ok out) :
    (out.map (·.code)).Nodup := by
  obtain ⟨explicit, hexplicit, hrun⟩ := bind_eq_ok_iff.mp hrun
  obtain ⟨expansion, hgenerated, heq⟩ := bind_eq_ok_iff.mp hrun
  cases heq
  have hempty : Expansion.empty.Tracked := ⟨rfl, List.nodup_nil⟩
  have htracked : explicit.Tracked :=
    foldRun_invariant (fun st _ => st.Tracked)
      (fun _ _ _ _ hst hstep => expandExplicit_tracked hst hstep) hempty hexplicit
  have hfinal : expansion.Tracked :=
    foldRun_invariant (fun st _ => st.Tracked)
      (fun _ _ _ _ hst hstep => expand_block_tracked blake3 rng hst hstep) htracked hgenerated
  exact hfinal.seen_codes_eq ▸ hfinal.nodup

end Blocks

end Datasynth.Group.OwnershipExpansion
