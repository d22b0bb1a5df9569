import Mathlib

/-!
Marked places on the line of the integers: how many there are in a stretch, and walks that go
from place to place until they have met a number of marks.
-/

namespace Datasynth.Lib.MarkedLine

section Counting

variable (p : ℤ → Bool) {a b c : ℤ}

/-- The marks behind `a`, up to `b`. -/
noncomputable def marks (a b : ℤ) : ℕ := ((Finset.Ioc a b).filter fun k => p k = true).card

theorem marks_self (a : ℤ) : marks p a a = 0 := by
  rw [marks, Finset.Ioc_self, Finset.filter_empty, Finset.card_empty]

theorem marks_add (hab : a ≤ b) (hbc : b ≤ c) : marks p a c = marks p a b + marks p b c := by
  rw [marks, marks, marks, ← Finset.Ioc_union_Ioc_eq_Ioc hab hbc, Finset.filter_union]
  apply Finset.card_union_of_disjoint
  apply Finset.disjoint_filter_filter
  rw [Finset.disjoint_left]
  intro k hk hk'
  rw [Finset.mem_Ioc] at hk hk'
  omega

theorem marks_step (a : ℤ) : marks p a (a + 1) = if p (a + 1) then 1 else 0 := by
  have hstep : Finset.Ioc a (a + 1) = {a + 1} := by
    ext k
    rw [Finset.mem_Ioc, Finset.mem_singleton]
    omega
  rw [marks, hstep, Finset.filter_singleton]
  split
  · rw [Finset.card_singleton]
  · rw [Finset.card_empty]

theorem marks_pos (hab : a < b) (hb : p b = true) : 0 < marks p a b := by
  rw [marks, Finset.card_pos]
  exact ⟨b, Finset.mem_filter.mpr ⟨Finset.mem_Ioc.mpr ⟨hab, le_rfl⟩, hb⟩⟩

variable {p} in
theorem exists_mark (h : 0 < marks p a b) : ∃ k, a < k ∧ k ≤ b ∧ p k = true := by
  obtain ⟨k, hk⟩ := Finset.card_pos.mp h
  rw [Finset.mem_filter, Finset.mem_Ioc] at hk
  exact ⟨k, hk.1.1, hk.1.2, hk.2⟩

theorem marks_eq_zero_iff : marks p a b = 0 ↔ ∀ k, a < k → k ≤ b → ¬ p k = true := by
  rw [marks, Finset.card_eq_zero, Finset.filter_eq_empty_iff]
  simp only [Finset.mem_Ioc, and_imp]

/-- The marks from `a` on, if `a` is one. -/
theorem marks_pred_left (hab : a ≤ b) (ha : p a = true) :
    marks p (a - 1) b = marks p a b + 1 := by
  have hfirst := marks_step p (a - 1)
  rw [sub_add_cancel, if_pos ha] at hfirst
  rw [marks_add p (a := a - 1) (b := a) (by omega) hab, hfirst, add_comm]

/-- The last mark up to a place. -/
theorem exists_last_mark (hab : a ≤ b) (ha : p a = true) :
    ∃ e, a ≤ e ∧ e ≤ b ∧ p e = true ∧ ∀ k, e < k → k ≤ b → ¬ p k = true := by
  induction b, hab using Int.leInduction with
  | base => exact ⟨a, le_rfl, le_rfl, ha, fun k hk hka => by omega⟩
  | succ b hab ih =>
      by_cases hb : p (b + 1) = true
      · exact ⟨b + 1, by omega, le_rfl, hb, fun k hk hkb => by omega⟩
      · obtain ⟨e, hae, heb, he, hlast⟩ := ih
        refine ⟨e, hae, by omega, he, fun k hk hkb => ?_⟩
        rcases eq_or_lt_of_le hkb with rfl | hlt
        · exact hb
        · exact hlast k hk (by omega)

/-- The marks of the mirrored line, counted from the other end. -/
theorem marks_neg (a b : ℤ) : marks (fun k => p (-k)) a b = marks p (-b - 1) (-a - 1) := by
  rw [marks, marks]
  refine Finset.card_bij (fun k _ => -k) ?_ ?_ ?_
  · intro k hk
    rw [Finset.mem_filter, Finset.mem_Ioc] at hk ⊢
    exact ⟨by omega, hk.2⟩
  · intro k _ k' _ h
    exact neg_injective h
  · intro k hk
    rw [Finset.mem_filter, Finset.mem_Ioc] at hk
    refine ⟨-k, ?_, neg_neg k⟩
    rw [Finset.mem_filter, Finset.mem_Ioc, neg_neg]
    exact ⟨by omega, hk.2⟩

/-- The marks without the last place, and without the place before the first. -/
theorem marks_pred (hab : a < b) (ha : p a = true) (hb : p b = true) :
    marks p (a - 1) (b - 1) = marks p a b := by
  have hlast := marks_step p (b - 1)
  rw [sub_add_cancel, if_pos hb] at hlast
  have hsplit := marks_add p (a := a) (b := b - 1) (c := b) (by omega) (by omega)
  rw [marks_pred_left p (by omega) ha, hsplit, hlast]

end Counting

section Walks

variable (p inRange : ℤ → Bool)

/-- Goes on by `stride` until `n` marks are met, at most `fuel` times, and never out of range. -/
def walk (stride : ℤ) : ℕ → ℕ → ℤ → Option ℤ
  | _, 0, x => some x
  | 0, _ + 1, _ => none
  | fuel + 1, n + 1, x =>
      if inRange (x + stride) then
        walk stride fuel (if p (x + stride) then n else n + 1) (x + stride)
      else none

theorem walk_neg (fuel n : ℕ) (x : ℤ) :
    walk p inRange (-1) fuel n x =
      (walk (fun k => p (-k)) (fun k => inRange (-k)) 1 fuel n (-x)).map (-·) := by
  induction fuel generalizing n x with
  | zero =>
      cases n with
      | zero => rw [walk, walk, Option.map_some, neg_neg]
      | succ n => rfl
  | succ fuel ih =>
      cases n with
      | zero => rw [walk, walk, Option.map_some, neg_neg]
      | succ n =>
          have hneg : -(-x + 1) = x + -1 := by omega
          have hneg' : -(x + -1) = -x + 1 := by omega
          rw [walk, walk, hneg]
          split
          · rw [ih, hneg']
          · rfl

/-- A walk ends at the mark that makes up the number, if it is in reach. -/
theorem walk_eq_some_iff {fuel n : ℕ} {x e : ℤ} :
    walk p inRange 1 fuel (n + 1) x = some e ↔
      x < e ∧ e ≤ x + fuel ∧ (∀ k, x < k → k ≤ e → inRange k = true) ∧ p e = true ∧
        marks p x e = n + 1 := by
  induction fuel generalizing n x with
  | zero =>
      rw [walk]
      constructor
      · intro h
        cases h
      · rintro ⟨hlt, hle, -⟩
        omega
  | succ fuel ih =>
      rw [walk]
      have hstep := marks_step p x
      constructor
      · intro h
        split at h
        · rename_i hrange
          have hreach : ∀ e, x + 1 ≤ e → (∀ k, x + 1 < k → k ≤ e → inRange k = true) →
              ∀ k, x < k → k ≤ e → inRange k = true := by
            intro e _ hrest k hk hke
            rcases eq_or_lt_of_le (Int.add_one_le_of_lt hk) with rfl | hlt
            · exact hrange
            · exact hrest k hlt hke
          split at h
          · rename_i hmark
            rw [if_pos hmark] at hstep
            cases n with
            | zero =>
                rw [walk, Option.some.injEq] at h
                subst h
                exact ⟨by omega, by omega, hreach _ le_rfl (fun k hk hke => by omega), hmark, hstep⟩
            | succ n =>
                obtain ⟨hlt, hle, hrest, he, hmarks⟩ := ih.mp h
                refine ⟨by omega, by omega, hreach e (by omega) hrest, he, ?_⟩
                rw [marks_add p (b := x + 1) (by omega) (by omega), hstep, hmarks, add_comm]
          · rename_i hmark
            rw [if_neg hmark] at hstep
            obtain ⟨hlt, hle, hrest, he, hmarks⟩ := ih.mp h
            refine ⟨by omega, by omega, hreach e (by omega) hrest, he, ?_⟩
            rw [marks_add p (b := x + 1) (by omega) (by omega), hstep, hmarks, zero_add]
        · cases h
      · rintro ⟨hlt, hle, hrange, he, hmarks⟩
        rw [if_pos (hrange (x + 1) (by omega) (by omega))]
        rcases eq_or_lt_of_le (Int.add_one_le_of_lt hlt) with rfl | hfurther
        · rw [hstep, if_pos he] at hmarks
          obtain rfl : n = 0 := by omega
          rw [if_pos he, walk]
        · have hrest : ∀ k, x + 1 < k → k ≤ e → inRange k = true :=
            fun k hk hke => hrange k (by omega) hke
          rw [marks_add p (b := x + 1) (by omega) (by omega), hstep] at hmarks
          split
          · rename_i hmark
            rw [if_pos hmark] at hmarks
            have hpos := marks_pos p hfurther he
            obtain ⟨m, rfl⟩ := Nat.exists_eq_succ_of_ne_zero (show n ≠ 0 by omega)
            exact ih.mpr ⟨hfurther, by omega, hrest, he, by omega⟩
          · rename_i hmark
            rw [if_neg hmark] at hmarks
            exact ih.mpr ⟨hfurther, by omega, hrest, he, by omega⟩

/-- A walk back meets the marks from the other end. -/
theorem walk_back_eq_some_iff {fuel n : ℕ} {x e : ℤ} :
    walk p inRange (-1) fuel (n + 1) x = some e ↔
      e < x ∧ x ≤ e + fuel ∧ (∀ k, e ≤ k → k < x → inRange k = true) ∧ p e = true ∧
        marks p (e - 1) (x - 1) = n + 1 := by
  rw [walk_neg, Option.map_eq_some_iff]
  have hmarks : marks (fun k => p (-k)) (-x) (-e) = marks p (e - 1) (x - 1) := by
    rw [marks_neg, neg_neg, neg_neg]
  constructor
  · rintro ⟨e', hwalk, rfl⟩
    obtain ⟨hlt, hle, hrange, he, hcount⟩ := (walk_eq_some_iff _ _).mp hwalk
    rw [neg_neg] at hmarks
    refine ⟨by omega, by omega, fun k hk hkx => ?_, he, hmarks.symm.trans hcount⟩
    have hk' := hrange (-k) (by omega) (by omega)
    rwa [neg_neg] at hk'
  · rintro ⟨hlt, hle, hrange, he, hcount⟩
    refine ⟨-e, (walk_eq_some_iff _ _).mpr ⟨by omega, by omega, fun k hk hke => ?_, ?_, ?_⟩,
      neg_neg e⟩
    · exact hrange (-k) (by omega) (by omega)
    · rwa [neg_neg]
    · rw [hmarks, hcount]

end Walks

section Order

variable {p : ℤ → Bool} {x x' e e' : ℤ} {n : ℕ}

/-- The first place with enough marks behind the start comes no earlier for a later start. -/
theorem le_of_marks_eq (hx : x ≤ x') (hxe' : x' < e') (he : p e = true)
    (hcount : marks p x e = n) (hcount' : marks p x' e' = n) : e ≤ e' := by
  by_contra hlt
  rw [not_le] at hlt
  have hfirst := marks_add p hx hxe'.le
  have hrest := marks_add p (hx.trans hxe'.le) hlt.le
  have hmore := marks_pos p hlt he
  omega

/-- As many marks as there are can be met. -/
theorem exists_marks_eq {b : ℤ} (hn : 0 < n) (h : n ≤ marks p x b) :
    ∃ e, x < e ∧ e ≤ b ∧ p e = true ∧ marks p x e = n := by
  obtain ⟨_, hxk, hkb, -⟩ := exists_mark (hn.trans_le h)
  have hxb : x ≤ b := hxk.le.trans hkb
  clear hxk hkb
  induction b, hxb using Int.leInduction with
  | base =>
      rw [marks_self] at h
      omega
  | succ b hxb ih =>
      by_cases hearlier : n ≤ marks p x b
      · obtain ⟨e, hxe, heb, he, hcount⟩ := ih hearlier
        exact ⟨e, hxe, by omega, he, hcount⟩
      · have hstep := marks_step p b
        have hsplit := marks_add p hxb (show b ≤ b + 1 by omega)
        rw [hstep] at hsplit
        split at hsplit
        · rename_i hmark
          exact ⟨b + 1, by omega, le_rfl, hmark, by omega⟩
        · omega

end Order

end Datasynth.Lib.MarkedLine
