import Datasynth.Generators.FlowPostings
import Mathlib.Tactic.Linarith

/-!
The split of an entry's largest line over several accounts, for any number of lines to reach and
any accounts and weights drawn, with the shares of the accounts in exact arithmetic.
-/

namespace Datasynth.Generators.ExpenseSplits

open Datasynth.Core.BehavioralPriors
open Datasynth.Core.FlowEntries
open Datasynth.Generators.DocumentFlow
open Datasynth.Generators.FlowPostings
open Datasynth.Lib.DoubleValues

section Corrections

/-- The last amounts take what the rounding of the shares leaves. -/
def corrected (total_amount : ℚ) (amounts : List ℚ) : List ℚ :=
  let n_actual := amounts.length
  let residual := total_amount - (amounts.take (n_actual - 1)).sum
  let last_two_sum := (amounts.drop (n_actual - 2)).sum + residual
  if 0 < residual then amounts.set (n_actual - 1) residual
  else if 0 < last_two_sum then
    (amounts.set (n_actual - 2) (last_two_sum / 2)).set (n_actual - 1)
      (last_two_sum - last_two_sum / 2)
  else amounts

theorem split_amounts_eq (total_amount : ℚ) (raw_weights : List ℚ) :
    DocumentFlowJeGenerator.split_amounts total_amount raw_weights =
      corrected total_amount (raw_weights.map (DocumentFlowJeGenerator.proportional_amount
        (nearest total_amount) (roundedSum raw_weights))) := by
  simp only [DocumentFlowJeGenerator.split_amounts, corrected, List.length_map]

variable {total : ℚ} {rest : List ℚ} {a b : ℚ}

theorem corrected_append_pair : corrected total (rest ++ [a, b]) =
    if rest.sum + a < total then rest ++ [a, total - (rest.sum + a)]
    else if rest.sum < total + b then
      rest ++ [(total + b - rest.sum) / 2, (total + b - rest.sum) / 2]
    else rest ++ [a, b] := by
  have hlen : (rest ++ [a, b]).length = rest.length + 2 := by simp
  have hlast : rest.length + 2 - 1 = rest.length + 1 := by omega
  have htake : (rest ++ [a, b]).take (rest.length + 1) = rest ++ [a] := by
    rw [List.take_append, List.take_of_length_le (Nat.le_succ _), Nat.add_sub_cancel_left]
    rfl
  have hset : ∀ c x : ℚ, (rest ++ [c, b]).set (rest.length + 1) x = rest ++ [c, x] := by
    intro c x
    rw [List.set_append_right _ _ (Nat.le_add_right _ _), Nat.add_sub_cancel_left]
    rfl
  have hset' : ∀ x : ℚ, (rest ++ [a, b]).set rest.length x = rest ++ [x, b] := by
    intro x
    rw [List.set_append_right _ _ le_rfl, Nat.sub_self]
    rfl
  have hsum : [a, b].sum + (total - (rest.sum + a)) = total + b - rest.sum := by
    rw [List.sum_cons, List.sum_singleton]
    ring
  simp only [corrected, hlen, hlast, Nat.add_sub_cancel, htake, List.drop_left, List.sum_append,
    List.sum_singleton, hsum, hset', hset, sub_pos, sub_half]

theorem length_corrected (total : ℚ) (amounts : List ℚ) :
    (corrected total amounts).length = amounts.length := by
  unfold corrected
  dsimp only
  split
  · exact List.length_set
  · split
    · rw [List.length_set, List.length_set]
    · rfl

/-- The shares that the correction leaves as they are. -/
def keptShares (total : ℚ) (shares : List ℚ) : List ℚ :=
  if shares.dropLast.sum < total then shares.dropLast
  else if shares.dropLast.dropLast.sum < total + shares.getLastD 0 then shares.dropLast.dropLast
  else shares

theorem keptShares_append_pair : keptShares total (rest ++ [a, b]) =
    if rest.sum + a < total then rest ++ [a]
    else if rest.sum < total + b then rest
    else rest ++ [a, b] := by
  have hsplit : rest ++ [a, b] = rest ++ [a] ++ [b] := by simp
  rw [keptShares, hsplit, List.dropLast_concat, List.dropLast_concat, List.sum_append,
    List.sum_singleton, List.getLastD_concat, ← hsplit]

theorem exists_append_pair {l : List ℚ} (hl : 2 ≤ l.length) : ∃ rest a b, l = rest ++ [a, b] := by
  rcases List.eq_nil_or_concat l with rfl | ⟨init, b, rfl⟩
  · cases hl
  · rcases List.eq_nil_or_concat init with rfl | ⟨rest, a, rfl⟩
    · simp at hl
    · exact ⟨rest, a, b, by simp⟩

variable {shares : List ℚ}

/-- No corrected amount is missing, unless a share that is kept was rounded to nothing. -/
theorem corrected_pos_iff (hlen : 2 ≤ shares.length) (hshares : ∀ x ∈ shares, 0 ≤ x) :
    (∀ x ∈ corrected total shares, 0 < x) ↔ 0 ∉ keptShares total shares := by
  obtain ⟨rest, a, b, rfl⟩ := exists_append_pair hlen
  have hpos : ∀ l : List ℚ, (∀ x ∈ l, x ∈ rest ++ [a, b]) →
      ((∀ x ∈ l, 0 < x) ↔ 0 ∉ l) := by
    intro l hl
    constructor
    · intro h hzero
      exact lt_irrefl 0 (h 0 hzero)
    · intro h x hx
      exact (hshares x (hl x hx)).lt_of_ne fun hzero => h (hzero ▸ hx)
  rw [corrected_append_pair, keptShares_append_pair]
  split
  · rename_i hfirst
    have hsplit : ∀ c, rest ++ [a, c] = (rest ++ [a]) ++ [c] := by simp
    rw [← hpos (rest ++ [a]) fun x hx => hsplit b ▸ List.mem_append_left _ hx, hsplit,
      List.forall_mem_append, List.forall_mem_singleton]
    exact and_iff_left (sub_pos.mpr hfirst)
  · split
    · rename_i hsecond
      rw [← hpos rest fun x hx => List.mem_append_left _ hx, List.forall_mem_append]
      refine and_iff_left ?_
      have hhalf : 0 < (total + b - rest.sum) / 2 := half_pos (sub_pos.mpr hsecond)
      simp [hhalf]
    · exact hpos _ fun _ h => h

/-- The corrected amounts add up, just if the last share is not counted a second time. -/
theorem sum_corrected_iff (hlen : 2 ≤ shares.length) (hshares : ∀ x ∈ shares, 0 ≤ x)
    (hkept : 0 ∉ keptShares total shares) : (corrected total shares).sum = total ↔
      shares.dropLast.sum < total ∨ shares.getLastD 0 = 0 := by
  obtain ⟨rest, a, b, rfl⟩ := exists_append_pair hlen
  have hdrop : (rest ++ [a, b]).dropLast.sum = rest.sum + a := by
    have hsplit : rest ++ [a, b] = rest ++ [a] ++ [b] := by simp
    rw [hsplit, List.dropLast_concat, List.sum_append, List.sum_singleton]
  have hlast : (rest ++ [a, b]).getLastD 0 = b := by simp
  rw [hdrop, hlast]
  rw [keptShares_append_pair] at hkept
  rw [corrected_append_pair]
  split
  · rename_i hfirst
    refine iff_of_true ?_ (.inl hfirst)
    simp only [List.sum_append, List.sum_cons, List.sum_nil]
    ring
  · rename_i hfirst
    rw [if_neg hfirst] at hkept
    have hsum : ∀ x y : ℚ, (rest ++ [x, y]).sum = rest.sum + x + y := by
      intro x y
      simp only [List.sum_append, List.sum_cons, List.sum_nil]
      ring
    rw [or_iff_right hfirst]
    split
    · rw [hsum]
      constructor <;> intro h <;> linarith
    · rename_i hsecond
      rw [if_neg hsecond] at hkept
      -- nothing is corrected, and the last share is too much
      have hb : 0 < b := (hshares b (by simp)).lt_of_ne fun hzero => hkept (by simp [← hzero])
      rw [hsum]
      refine iff_of_false ?_ hb.ne'
      intro h
      linarith

end Corrections

section Model

variable {ρ : Type} (g : DocumentFlowJeGenerator ρ)

/-- The share of a weight to the cent; the cents saturate as 64-bit numbers. -/
def exactShare (total weight_sum weight : ℚ) : ℚ :=
  let raw : ℚ := (roundAway (weight / weight_sum * total * 100) : ℚ) / 100
  (F64.finite (raw * 100)).toI64 / 100

def exactShares (total : ℚ) (weights : List ℚ) : List ℚ :=
  weights.map (exactShare total weights.sum)

/-- The shares in floating point. -/
def floatShares (total : ℚ) (weights : List ℚ) : List ℚ :=
  weights.map (DocumentFlowJeGenerator.proportional_amount (nearest total) (roundedSum weights))

/-- The split for a sampled number of lines and for drawn accounts with their weights. -/
def split_drawn (shares : ℚ → List ℚ → List ℚ) (sampled : ℕ) (draws : List (String × ℚ))
    (entry : FlowEntry) : FlowEntry :=
  let target := max 2 (min 10 sampled)
  let current := entry.lines.length
  if target ≤ current then entry
  else
    match (g.splittable_idx entry.lines).bind fun idx =>
        entry.lines[idx]?.map fun line => (idx, line) with
    | none => entry
    | some (idx, line) =>
        let n_splits := max 2 (min 8 (target - current + 1))
        let gl_accounts := (draws.take n_splits).map Prod.fst
        let raw_weights := (draws.take n_splits).map Prod.snd
        let total_amount := (DocumentFlowJeGenerator.split_side line).2
        if gl_accounts.length < 2 then entry
        else
          let amounts := corrected total_amount (shares total_amount raw_weights)
          if ∃ amount ∈ amounts, amount ≤ 0 then entry
          else
            { entry with
              lines := DocumentFlowJeGenerator.split_lines entry.header.document_id entry.lines
                idx line gl_accounts amounts }

/-- The line to split and the accounts and weights to split it over, if there are any. -/
def attempted (sampled : ℕ) (draws : List (String × ℚ)) (entry : FlowEntry) :
    Option (ℕ × FlowLine × List (String × ℚ)) :=
  let target := max 2 (min 10 sampled)
  let drawn := draws.take (max 2 (min 8 (target - entry.lines.length + 1)))
  if target ≤ entry.lines.length ∨ drawn.length < 2 then none
  else ((g.splittable_idx entry.lines).bind fun idx =>
    entry.lines[idx]?.map fun line => (idx, line)).map fun found => (found.1, found.2, drawn)

end Model

section Refinement

variable {ρ : Type} [Rng ρ] (g : DocumentFlowJeGenerator ρ)

theorem length_draw_gl_accounts (priors : LoadedPriors) (doc_type role : String)
    (n_splits attempts : ℕ) {gl_accounts : List String} (rng : ρ)
    (h : gl_accounts.length ≤ n_splits) :
    (g.draw_gl_accounts priors doc_type role n_splits attempts gl_accounts rng).1.length ≤
      n_splits := by
  induction attempts generalizing gl_accounts rng with
  | zero => exact h
  | succ attempts ih =>
      rw [DocumentFlowJeGenerator.draw_gl_accounts]
      split
      · exact h
      · rename_i hmore
        split
        · exact h
        · apply ih
          split
          · rw [List.length_append, List.length_singleton]
            omega
          · exact h

theorem length_draw_weights (n : ℕ) (rng : ρ) :
    (DocumentFlowJeGenerator.draw_weights n rng).1.length = n := by
  induction n generalizing rng with
  | zero => rfl
  | succ n ih =>
      rw [DocumentFlowJeGenerator.draw_weights]
      exact congrArg Nat.succ (ih _)

/-- Every split of the generator is one for what it samples and draws. -/
theorem exists_split_drawn {priors : LoadedPriors} (hpriors : g.loaded_priors = some priors)
    (entry : FlowEntry) : ∃ sampled draws,
      (g.split_je_expense_lines entry).1 = split_drawn g floatShares sampled draws entry := by
  let doc_type := entry.header.document_type
  let sampled := (priors.sample_target_lines doc_type g.rng).1
  let rng := (priors.sample_target_lines doc_type g.rng).2
  let n_splits := max 2 (min 8 (max 2 (min 10 sampled) - entry.lines.length + 1))
  cases hsplittable : (g.splittable_idx entry.lines).bind fun idx =>
      entry.lines[idx]?.map fun line => (idx, line) with
  | none =>
      refine ⟨sampled, [], ?_⟩
      rw [DocumentFlowJeGenerator.split_je_expense_lines, hpriors, split_drawn, hsplittable]
      dsimp only
      split <;> rfl
  | some found =>
      obtain ⟨idx, line⟩ := found
      let role := (DocumentFlowJeGenerator.split_side line).1
      let drawn := g.draw_gl_accounts priors doc_type role n_splits 50 [] rng
      let weights := (DocumentFlowJeGenerator.draw_weights drawn.1.length drawn.2).1
      have hlen : weights.length = drawn.1.length := length_draw_weights _ _
      have hcount : drawn.1.length ≤ n_splits :=
        length_draw_gl_accounts g priors doc_type role n_splits 50 rng (Nat.zero_le _)
      have htake : (drawn.1.zip weights).take n_splits = drawn.1.zip weights :=
        List.take_of_length_le (by rw [List.length_zip]; omega)
      refine ⟨sampled, drawn.1.zip weights, ?_⟩
      rw [DocumentFlowJeGenerator.split_je_expense_lines, hpriors, split_drawn, hsplittable]
      dsimp only
      split
      · rfl
      · rw [htake, List.map_fst_zip hlen.ge, List.map_snd_zip hlen.le]
        simp only [floatShares, ← split_amounts_eq]
        split
        · rfl
        · split <;> rfl

end Refinement

section Preservation

def accountAmounts (line : FlowLine) : String × ℚ × ℚ :=
  (line.gl_account, line.debit_amount, line.credit_amount)

/-- A part of a line, with an amount on the line's side. -/
def part (line : FlowLine) (gl_account : String) (amount : ℚ) : String × ℚ × ℚ :=
  if 0 < line.debit_amount then (gl_account, amount, 0) else (gl_account, 0, amount)

def otherSide (line : FlowLine) : ℚ :=
  if 0 < line.debit_amount then line.credit_amount else line.debit_amount

/-- One line is replaced by parts of positive amounts; the other ones keep their accounts and
amounts, and all are numbered. -/
def Replaced (lines lines' : List FlowLine) : Prop :=
  ∃ (idx : ℕ) (line : FlowLine) (parts : List (String × ℚ)), lines[idx]? = some line ∧
    lines'.map accountAmounts = (lines.take idx).map accountAmounts ++
      parts.map (fun e => part line e.1 e.2) ++ (lines.drop (idx + 1)).map accountAmounts ∧
    (∀ e ∈ parts, 0 < e.2) ∧ ∀ i l, lines'[i]? = some l → l.line_number = i + 1

structure Preserved (entry entry' : FlowEntry) : Prop where
  header : entry'.header = entry.header
  total_debit : entry'.total_debit = entry.total_debit
  total_credit : entry'.total_credit = entry.total_credit
  lines : entry'.lines = entry.lines ∨ Replaced entry.lines entry'.lines

theorem Preserved.refl (entry : FlowEntry) : Preserved entry entry :=
  ⟨rfl, rfl, rfl, .inl rfl⟩

/-- The shares of a line are given up, or they add up and leave nothing of the line behind. -/
def Fits (line : FlowLine) (total : ℚ) (shares : List ℚ) : Prop :=
  0 ∈ keptShares total shares ∨
    otherSide line = 0 ∧ (shares.dropLast.sum < total ∨ shares.getLastD 0 = 0)

instance (line : FlowLine) (total : ℚ) (shares : List ℚ) : Decidable (Fits line total shares) :=
  inferInstanceAs (Decidable (_ ∨ _))

theorem map_accountAmounts_split_lines (document_id : Uuid) (lines : List FlowLine) (idx : ℕ)
    (line : FlowLine) (gl_accounts : List String) (amounts : List ℚ) :
    (DocumentFlowJeGenerator.split_lines document_id lines idx line gl_accounts amounts).map
        accountAmounts =
      (lines.take idx).map accountAmounts ++
        (gl_accounts.zip amounts).map (fun e => part line e.1 e.2) ++
          (lines.drop (idx + 1)).map accountAmounts := by
  have hrenumber : ∀ l : List FlowLine,
      (DocumentFlowJeGenerator.renumber l).map accountAmounts = l.map accountAmounts := by
    intro l
    rw [DocumentFlowJeGenerator.renumber, List.map_map]
    show (l.zipIdx.map (accountAmounts ∘ Prod.fst)) = _
    rw [← List.map_map, List.zipIdx_map_fst]
  have hparts : ((gl_accounts.zip amounts).zipIdx.map fun e =>
      DocumentFlowJeGenerator.split_line document_id line e.2 e.1.1 e.1.2).map accountAmounts =
        (gl_accounts.zip amounts).map fun e => part line e.1 e.2 := by
    have hpart : (fun e : (String × ℚ) × ℕ => accountAmounts
        (DocumentFlowJeGenerator.split_line document_id line e.2 e.1.1 e.1.2)) =
          (fun e => part line e.1 e.2) ∘ Prod.fst := by
      funext e
      simp only [DocumentFlowJeGenerator.split_line, Function.comp_apply, part]
      split <;> rfl
    rw [List.map_map, Function.comp_def, hpart, ← List.map_map, List.zipIdx_map_fst]
  rw [DocumentFlowJeGenerator.split_lines, hrenumber, List.map_append, List.map_append, hparts]

theorem line_number_split_lines (document_id : Uuid) (lines : List FlowLine) (idx : ℕ)
    (line : FlowLine) (gl_accounts : List String) (amounts : List ℚ) {i : ℕ} {l : FlowLine}
    (hl : (DocumentFlowJeGenerator.split_lines document_id lines idx line gl_accounts
      amounts)[i]? = some l) : l.line_number = i + 1 := by
  rw [DocumentFlowJeGenerator.split_lines, DocumentFlowJeGenerator.renumber, List.getElem?_map,
    List.getElem?_zipIdx] at hl
  obtain ⟨e, he, rfl⟩ := Option.map_eq_some_iff.mp hl
  obtain ⟨l', -, rfl⟩ := Option.map_eq_some_iff.mp he
  simp

variable {lines : List FlowLine} {idx : ℕ} {line : FlowLine}

/-- What a side loses with the line and gains by its parts. -/
theorem sum_split_lines (gl_accounts : List String) (amounts : List ℚ)
    (side : String × ℚ × ℚ → ℚ) (document_id : Uuid)
    (hline : lines[idx]? = some line) :
    ((DocumentFlowJeGenerator.split_lines document_id lines idx line gl_accounts amounts).map
        fun l => side (accountAmounts l)).sum + side (accountAmounts line) =
      (lines.map fun l => side (accountAmounts l)).sum +
        ((gl_accounts.zip amounts).map fun e => side (part line e.1 e.2)).sum := by
  have hlines : lines = lines.take idx ++ line :: lines.drop (idx + 1) := by
    obtain ⟨hlt, rfl⟩ := List.getElem?_eq_some_iff.mp hline
    rw [List.getElem_cons_drop, List.take_append_drop]
  have hsplit := congrArg (fun l => (l.map side).sum)
    (map_accountAmounts_split_lines document_id lines idx line gl_accounts amounts)
  simp only [List.map_append, List.map_map, List.sum_append] at hsplit
  have hwhole := congrArg (fun l => (l.map fun l => side (accountAmounts l)).sum) hlines
  simp only [List.map_append, List.map_cons, List.sum_append, List.sum_cons] at hwhole
  simp only [Function.comp_def] at hsplit
  linarith

theorem totals_split_lines (gl_accounts : List String) (amounts : List ℚ) (document_id : Uuid)
    (hline : lines[idx]? = some line)
    (hlen : amounts.length = gl_accounts.length) :
    ((DocumentFlowJeGenerator.split_lines document_id lines idx line gl_accounts amounts).map
          (·.debit_amount)).sum = (lines.map (·.debit_amount)).sum ∧
        ((DocumentFlowJeGenerator.split_lines document_id lines idx line gl_accounts amounts).map
          (·.credit_amount)).sum = (lines.map (·.credit_amount)).sum ↔
      amounts.sum = (DocumentFlowJeGenerator.split_side line).2 ∧ otherSide line = 0 := by
  have hamounts : ((gl_accounts.zip amounts).map fun e => e.2).sum = amounts.sum :=
    congrArg List.sum (List.map_snd_zip hlen.le)
  have hnothing : ((gl_accounts.zip amounts).map fun _ => (0 : ℚ)).sum = 0 := by simp
  have hdebit := sum_split_lines gl_accounts amounts (fun e => e.2.1) document_id hline
  have hcredit := sum_split_lines gl_accounts amounts (fun e => e.2.2) document_id hline
  simp only [accountAmounts] at hdebit hcredit
  rw [DocumentFlowJeGenerator.split_side, otherSide]
  by_cases hside : 0 < line.debit_amount
  · simp only [part, if_pos hside, hamounts, hnothing] at hdebit hcredit ⊢
    constructor
    · rintro ⟨hd, hc⟩
      constructor <;> linarith
    · rintro ⟨hd, hc⟩
      constructor <;> linarith
  · simp only [part, if_neg hside, hamounts, hnothing] at hdebit hcredit ⊢
    constructor
    · rintro ⟨hd, hc⟩
      constructor <;> linarith
    · rintro ⟨hd, hc⟩
      constructor <;> linarith

variable {ρ : Type} (g : DocumentFlowJeGenerator ρ)

theorem amount_pos_of_splittable_idx (h : g.splittable_idx lines = some idx)
    (hline : lines[idx]? = some line) : 0 < (DocumentFlowJeGenerator.split_side line).2 := by
  rw [DocumentFlowJeGenerator.split_side]
  split
  · assumption
  · rename_i hside
    rcases Option.or_eq_some_iff.mp h with h | ⟨-, h⟩
    · obtain ⟨line', hline', hpos⟩ := exists_of_largest h
      cases hline.symm.trans hline'
      dsimp only at hpos
      split at hpos
      · exact absurd hpos (lt_irrefl 0)
      · exact absurd hpos hside
    · obtain ⟨line', hline', hpos⟩ := exists_of_largest h
      cases hline.symm.trans hline'
      dsimp only at hpos
      split at hpos
      · exact absurd hpos (lt_irrefl 0)
      · exact hpos

variable (shares : ℚ → List ℚ → List ℚ) {sampled : ℕ} {draws drawn : List (String × ℚ)}
  {entry : FlowEntry}

theorem split_drawn_of_not_attempted (h : attempted g sampled draws entry = none) :
    split_drawn g shares sampled draws entry = entry := by
  rw [attempted] at h
  rw [split_drawn]
  split at h
  · rename_i hearly
    dsimp only
    split
    · rfl
    · rename_i hmore
      split
      · rfl
      · rw [if_pos (by rw [List.length_map]; exact hearly.resolve_left hmore)]
  · rw [Option.map_eq_none_iff] at h
    rw [h]
    dsimp only
    split <;> rfl

theorem split_drawn_of_attempted (h : attempted g sampled draws entry = some (idx, line, drawn)) :
    entry.lines[idx]? = some line ∧ 0 < (DocumentFlowJeGenerator.split_side line).2 ∧
      2 ≤ drawn.length ∧ drawn ⊆ draws ∧
      split_drawn g shares sampled draws entry =
        let total := (DocumentFlowJeGenerator.split_side line).2
        let amounts := corrected total (shares total (drawn.map Prod.snd))
        if ∃ amount ∈ amounts, amount ≤ 0 then entry
        else { entry with
          lines := DocumentFlowJeGenerator.split_lines entry.header.document_id entry.lines idx
            line (drawn.map Prod.fst) amounts } := by
  rw [attempted] at h
  split at h
  · cases h
  · rename_i hearly
    obtain ⟨found, hfound, heq⟩ := Option.map_eq_some_iff.mp h
    cases heq
    obtain ⟨hmore, htwo⟩ := not_or.mp hearly
    obtain ⟨i, hi, hline⟩ := Option.bind_eq_some_iff.mp hfound
    obtain ⟨line', hline', hpair⟩ := Option.map_eq_some_iff.mp hline
    cases hpair
    refine ⟨hline', amount_pos_of_splittable_idx g hi hline', not_lt.mp htwo,
      List.take_subset _ _, ?_⟩
    rw [split_drawn, hfound, if_neg hmore]
    dsimp only
    rw [if_neg (by rw [List.length_map]; exact htwo)]

/-- The totals are kept by every attempt at a split, just if its shares fit. -/
theorem preserved_iff_of_attempted
    (hlength : ∀ total ws, (shares total ws).length = ws.length)
    (hshares : ∀ total ws, 0 < total → (∀ w ∈ ws, 0 < w) → ∀ x ∈ shares total ws, 0 ≤ x)
    (hdraws : ∀ d ∈ draws, 0 < d.2)
    (h : attempted g sampled draws entry = some (idx, line, drawn)) :
    Preserved entry (split_drawn g shares sampled draws entry) ↔
      Fits line (DocumentFlowJeGenerator.split_side line).2
        (shares (DocumentFlowJeGenerator.split_side line).2 (drawn.map Prod.snd)) := by
  obtain ⟨hline, htotal, htwo, hsub, hsplit⟩ := split_drawn_of_attempted g shares h
  have hweights : ∀ w ∈ drawn.map Prod.snd, 0 < w := by
    intro w hw
    obtain ⟨d, hd, rfl⟩ := List.mem_map.mp hw
    exact hdraws d (hsub hd)
  have hnonneg := hshares _ _ htotal hweights
  have hcount : (shares (DocumentFlowJeGenerator.split_side line).2
      (drawn.map Prod.snd)).length = drawn.length := by rw [hlength, List.length_map]
  rw [hsplit, Fits]
  dsimp only
  split
  · rename_i habandoned
    refine iff_of_true (.refl entry) (.inl ?_)
    by_contra hkept
    obtain ⟨x, hx, hle⟩ := habandoned
    exact hle.not_gt ((corrected_pos_iff (htwo.trans_eq hcount.symm) hnonneg).mpr hkept x hx)
  · rename_i hall
    have hpos : ∀ x ∈ corrected (DocumentFlowJeGenerator.split_side line).2
        (shares (DocumentFlowJeGenerator.split_side line).2 (drawn.map Prod.snd)), 0 < x :=
      fun x hx => not_le.mp fun hle => hall ⟨x, hx, hle⟩
    have hkept := (corrected_pos_iff (htwo.trans_eq hcount.symm) hnonneg).mp hpos
    rw [or_iff_right hkept, and_comm, ← sum_corrected_iff (htwo.trans_eq hcount.symm) hnonneg hkept,
      ← totals_split_lines (drawn.map Prod.fst) _ entry.header.document_id hline
        (by rw [length_corrected, hcount, List.length_map])]
    constructor
    · intro h
      exact ⟨h.total_debit, h.total_credit⟩
    · rintro ⟨hdebit, hcredit⟩
      refine ⟨rfl, hdebit, hcredit, .inr ⟨idx, line, _, hline,
        map_accountAmounts_split_lines _ _ _ _ _ _, ?_, fun i l hl =>
          line_number_split_lines _ _ _ _ _ _ hl⟩⟩
      intro e he
      exact hpos e.2 (List.of_mem_zip he).2

/-- The totals, the other lines and the numbers are kept, just if no line is split or the shares
of the split line fit. -/
theorem preserved_iff
    (hlength : ∀ total ws, (shares total ws).length = ws.length)
    (hshares : ∀ total ws, 0 < total → (∀ w ∈ ws, 0 < w) → ∀ x ∈ shares total ws, 0 ≤ x)
    (hdraws : ∀ d ∈ draws, 0 < d.2) :
    Preserved entry (split_drawn g shares sampled draws entry) ↔
      ∀ a ∈ attempted g sampled draws entry, Fits a.2.1
        (DocumentFlowJeGenerator.split_side a.2.1).2
        (shares (DocumentFlowJeGenerator.split_side a.2.1).2 (a.2.2.map Prod.snd)) := by
  cases h : attempted g sampled draws entry with
  | none =>
      rw [split_drawn_of_not_attempted g shares h]
      exact iff_of_true (.refl entry) (by rintro _ ⟨⟩)
  | some a =>
      obtain ⟨idx, line, drawn⟩ := a
      rw [preserved_iff_of_attempted g shares hlength hshares hdraws h]
      simp only [Option.mem_some_iff, forall_eq']

end Preservation

section Result

variable {ρ : Type} (g : DocumentFlowJeGenerator ρ)

theorem exactShare_nonneg {total weight_sum weight : ℚ} (htotal : 0 ≤ total)
    (hsum : 0 ≤ weight_sum) (hweight : 0 ≤ weight) : 0 ≤ exactShare total weight_sum weight := by
  have hcents : 0 ≤ weight / weight_sum * total * 100 := by positivity
  have hround : (0 : ℤ) ≤ roundAway (weight / weight_sum * total * 100) := by
    rw [roundAway, if_neg hcents.not_gt]
    positivity
  have hwhole : (roundAway (weight / weight_sum * total * 100) : ℚ) / 100 * 100 =
      roundAway (weight / weight_sum * total * 100) := by ring
  have hbounded : (0 : ℤ) ≤
      (F64.finite ((roundAway (weight / weight_sum * total * 100) : ℚ) / 100 * 100)).toI64 := by
    rw [hwhole, F64.toI64]
    simp only [Rat.num_intCast, Rat.den_intCast, Nat.cast_one, Int.tdiv_one]
    omega
  rw [exactShare]
  positivity

theorem preserved_split_drawn_iff (sampled : ℕ) {draws : List (String × ℚ)}
    (hdraws : ∀ d ∈ draws, 0 < d.2) (entry : FlowEntry) :
    Preserved entry (split_drawn g exactShares sampled draws entry) ↔
      ∀ a ∈ attempted g sampled draws entry, Fits a.2.1
        (DocumentFlowJeGenerator.split_side a.2.1).2
        (exactShares (DocumentFlowJeGenerator.split_side a.2.1).2 (a.2.2.map Prod.snd)) := by
  refine preserved_iff g exactShares (fun _ _ => List.length_map _) ?_ hdraws
  intro total ws htotal hws x hx
  obtain ⟨w, hw, rfl⟩ := List.mem_map.mp hx
  exact exactShare_nonneg htotal.le (List.sum_nonneg fun w hw => (hws w hw).le) (hws w hw).le

def sampleGenerator : DocumentFlowJeGenerator (List ℚ) :=
  .with_config_and_seed .default 0 []

/-- An invoice of an amount, to be split over eight accounts of equal weights. -/
def sampleEntry (amount : ℚ) : FlowEntry where
  header := .with_deterministic_id "1000" ⟨738900⟩
    ⟨List.replicate 16 0, Uuid.length_zeros⟩
  lines := [.debit ⟨List.replicate 16 0, Uuid.length_zeros⟩ 1 "6000" amount,
    .credit ⟨List.replicate 16 0, Uuid.length_zeros⟩ 2 "2000" amount]

def sampleDraws : List (String × ℚ) :=
  ["6100", "6200", "6300", "6400", "6500", "6600", "6700", "6800"].map fun gl => (gl, 1)

theorem preserved_split_drawn_hundred :
    Preserved (sampleEntry 100) (split_drawn sampleGenerator exactShares 10 sampleDraws
      (sampleEntry 100)) :=
  (preserved_split_drawn_iff sampleGenerator 10 (by decide +kernel) (sampleEntry 100)).mpr
    (by decide +kernel)

/-- Four cents become eight, one for each account. -/
theorem four_cents_split_into_eight :
    (sampleEntry (1 / 25)).total_debit = (sampleEntry (1 / 25)).total_credit ∧
      ¬Preserved (sampleEntry (1 / 25)) (split_drawn sampleGenerator exactShares 10 sampleDraws
        (sampleEntry (1 / 25))) := by
  refine ⟨by decide +kernel, ?_⟩
  intro h
  have hkept := h.total_debit
  have hdoubled : (split_drawn sampleGenerator exactShares 10 sampleDraws
      (sampleEntry (1 / 25))).total_debit = 2 / 25 := by decide +kernel
  rw [hdoubled] at hkept
  exact absurd hkept (by decide +kernel)

end Result

end Datasynth.Generators.ExpenseSplits
