import Mathlib.Data.Nat.ModEq
import Mathlib.Data.Nat.Prime.Basic
import Mathlib.Tactic.Ring

/-!
Hashes that mix in one word after the other by an exclusive or and a multiplication with an
odd number.  The low bits of the result depend on the low bits only, and determine them.
-/

namespace Datasynth.Lib.MixedHashes

variable {w : ℕ} {p x y a b : BitVec w}

def mix (p hash word : BitVec w) : BitVec w := (hash ^^^ word) * p

/-- An odd factor can be taken back. -/
theorem mul_left_inj_of_odd (hp : p.toNat % 2 = 1) : x * p = y * p ↔ x = y := by
  refine ⟨fun h => ?_, fun h => by rw [h]⟩
  have hcoprime : Nat.gcd (2 ^ w) p.toNat = 1 :=
    Nat.Coprime.pow_left w ((Nat.coprime_two_left).mpr (Nat.odd_iff.mpr hp))
  have hmod : x.toNat * p.toNat ≡ y.toNat * p.toNat [MOD 2 ^ w] := by
    have := congrArg BitVec.toNat h
    rwa [BitVec.toNat_mul, BitVec.toNat_mul] at this
  have hcancel := Nat.ModEq.cancel_right_of_coprime hcoprime hmod
  apply BitVec.eq_of_toNat_eq
  rwa [Nat.ModEq, Nat.mod_eq_of_lt x.isLt, Nat.mod_eq_of_lt y.isLt] at hcancel

theorem mix_eq_mix_iff (hp : p.toNat % 2 = 1) : mix p x a = mix p y b ↔ x ^^^ a = y ^^^ b := by
  rw [mix, mix, mul_left_inj_of_odd hp]

theorem mix_left_inj (hp : p.toNat % 2 = 1) : mix p x a = mix p y a ↔ x = y := by
  rw [mix_eq_mix_iff hp, BitVec.xor_left_inj]

/-- The low bits of a mixed hash are the mixed low bits. -/
theorem setWidth_mix {k : ℕ} (hk : k ≤ w) (p x a : BitVec w) :
    (mix p x a).setWidth k = mix (p.setWidth k) (x.setWidth k) (a.setWidth k) := by
  rw [mix, mix, BitVec.setWidth_mul _ _ hk, BitVec.setWidth_xor]

/-- Mixing in the same words keeps different hashes apart. -/
theorem foldl_mix_inj (hp : p.toNat % 2 = 1) (words : List (BitVec w)) :
    words.foldl (mix p) x = words.foldl (mix p) y ↔ x = y := by
  induction words generalizing x y with
  | nil => rfl
  | cons word words ih => rw [List.foldl_cons, List.foldl_cons, ih, mix_left_inj hp]

/-- Two numbers that agree above the low `k` bits are multiplied far apart. -/
theorem eq_of_mul_div_eq {k : ℕ} (hlow : 2 ^ k ≤ p.toNat)
    (hhigh : p.toNat * (2 ^ k - 1) + 2 ^ k ≤ 2 ^ w) (hxy : x.toNat / 2 ^ k = y.toNat / 2 ^ k)
    (hmul : (x * p).toNat / 2 ^ k = (y * p).toNat / 2 ^ k) : x = y := by
  have hle : ∀ {x y : BitVec w}, x.toNat / 2 ^ k = y.toNat / 2 ^ k →
      (x * p).toNat / 2 ^ k = (y * p).toNat / 2 ^ k → x.toNat ≤ y.toNat := by
    intro x y hxy hmul
    by_contra hlt
    obtain ⟨d, hd⟩ := Nat.exists_eq_add_of_lt (not_le.mp hlt)
    have hpos : 0 < 2 ^ k := Nat.two_pow_pos k
    have hsmall : d + 1 ≤ 2 ^ k - 1 := by
      have hx := Nat.div_add_mod x.toNat (2 ^ k)
      have hy := Nat.div_add_mod y.toNat (2 ^ k)
      have := Nat.mod_lt x.toNat hpos
      rw [hxy] at hx
      omega
    have hproduct : x.toNat * p.toNat = y.toNat * p.toNat + (d + 1) * p.toNat := by
      rw [hd]
      ring
    have hupper : (d + 1) * p.toNat + 2 ^ k ≤ 2 ^ w := by
      calc (d + 1) * p.toNat + 2 ^ k ≤ (2 ^ k - 1) * p.toNat + 2 ^ k := by gcongr
        _ = p.toNat * (2 ^ k - 1) + 2 ^ k := by rw [mul_comm]
        _ ≤ 2 ^ w := hhigh
    have hlower : 2 ^ k ≤ (d + 1) * p.toNat :=
      hlow.trans (Nat.le_mul_of_pos_left _ (Nat.succ_pos d))
    -- The product is larger by less than a whole turn, and by more than the low bits show.
    rw [BitVec.toNat_mul, BitVec.toNat_mul, hproduct, ← Nat.mod_add_mod] at hmul
    have hrest := Nat.mod_lt (y.toNat * p.toNat) (Nat.two_pow_pos w)
    generalize y.toNat * p.toNat % 2 ^ w = rest at hmul hrest
    generalize (d + 1) * p.toNat = step at hupper hlower hmul
    have hdiv := Nat.div_add_mod rest (2 ^ k)
    have hmod := Nat.mod_lt rest hpos
    have hdiv' := Nat.div_add_mod ((rest + step) % 2 ^ w) (2 ^ k)
    have hmod' := Nat.mod_lt ((rest + step) % 2 ^ w) hpos
    rw [hmul] at hdiv'
    rcases lt_or_ge (rest + step) (2 ^ w) with hfits | hturns
    · rw [Nat.mod_eq_of_lt hfits] at hdiv' hmod'
      omega
    · have hturned : (rest + step) % 2 ^ w = rest + step - 2 ^ w := by
        rw [Nat.mod_eq_sub_mod hturns, Nat.mod_eq_of_lt (by omega)]
      rw [hturned] at hdiv' hmod'
      omega
  exact BitVec.eq_of_toNat_eq (le_antisymm (hle hxy hmul) (hle hxy.symm hmul.symm))

end Datasynth.Lib.MixedHashes
