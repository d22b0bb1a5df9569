import Datasynth.Lib.ByteEncoding
import Datasynth.Lib.CivilCalendar
import Datasynth.Lib.CsvFormat
import Mathlib.Data.Rat.Cast.Order
import Mathlib.Data.Rat.Floor
import Mathlib.Tactic.FieldSimp
import Mathlib.Tactic.Ring

/-!
Decimal text: zero-padded numbers, terminating decimal fractions and dates.
-/

namespace Datasynth.Lib.DecimalText

open Datasynth.Lib.CivilCalendar

/-- The decimal digits of `n`, zero-padded to `width`. -/
def paddedDigits (width n : ℕ) : List Char :=
  List.replicate (width - (Nat.toDigits 10 n).length) '0' ++ Nat.toDigits 10 n

def padded (width n : ℕ) : String := String.ofList (paddedDigits width n)

theorem ofDigitChars_paddedDigits (width n : ℕ) :
    Nat.ofDigitChars 10 (paddedDigits width n) 0 = n := by
  rw [paddedDigits, Nat.ofDigitChars_append, Nat.ofDigitChars_replicate_zero, Nat.mul_zero,
    Nat.ofDigitChars_ten_toDigits]

theorem paddedDigits_injective (width : ℕ) : Function.Injective (paddedDigits width) := by
  intro m n h
  rw [← ofDigitChars_paddedDigits width m, h, ofDigitChars_paddedDigits]

theorem padded_injective (width : ℕ) : Function.Injective (padded width) :=
  fun _ _ h => paddedDigits_injective width (String.ofList_injective h)

/-- The digits of the text of an integer are those of its absolute value. -/
theorem ofDigitChars_filter_repr (a : ℤ) :
    Nat.ofDigitChars 10 (a.repr.toList.filter Char.isDigit) 0 = a.natAbs := by
  have hdigits : ∀ n : ℕ, n.repr.toList.filter Char.isDigit = Nat.toDigits 10 n := by
    intro n
    rw [Nat.toList_repr, List.filter_eq_self]
    intro c hc
    exact Nat.isDigit_of_mem_toDigits (by decide) (by decide) hc
  rw [Int.repr_eq_if]
  split
  · rw [hdigits, Nat.ofDigitChars_ten_toDigits]
    omega
  · rw [String.toList_append, List.filter_append, hdigits]
    show Nat.ofDigitChars 10 ([] ++ _) 0 = _
    rw [List.nil_append, Nat.ofDigitChars_ten_toDigits]
    omega

theorem nonneg_iff_repr (a : ℤ) : 0 ≤ a ↔ '-' ∉ a.repr.toList := by
  rw [Int.repr_eq_if]
  split
  · rename_i h
    refine iff_of_true h ?_
    rw [Nat.toList_repr]
    intro hmem
    exact absurd (Nat.isDigit_of_mem_toDigits (by decide) (by decide) hmem) (by decide)
  · rename_i h
    apply iff_of_false h
    simp

theorem repr_injective : Function.Injective Int.repr := by
  intro a b h
  have habs := ofDigitChars_filter_repr a
  have hnonneg := nonneg_iff_repr a
  rw [h, ofDigitChars_filter_repr] at habs
  rw [h, ← nonneg_iff_repr] at hnonneg
  omega

/-- The digits after the point of a fraction in `[0, 1)`, as many as it has up to `fuel`. -/
def fractionDigits : ℕ → ℚ → List Char
  | 0, _ => []
  | fuel + 1, r =>
      if r = 0 then []
      else Nat.digitChar ⌊10 * r⌋.toNat :: fractionDigits fuel (Int.fract (10 * r))

/-- A decimal without trailing zeros; 28 places are all the source's decimals have. -/
def decimalText (x : ℚ) : String :=
  let magnitude := |x|
  let whole := Nat.toDigits 10 ⌊magnitude⌋.toNat
  let fraction := fractionDigits 28 (Int.fract magnitude)
  String.ofList <|
    (if x < 0 then ['-'] else []) ++ whole ++
      (if fraction = [] then [] else '.' :: fraction)

/-- ISO 8601 text of a date; years outside four digits carry a sign. -/
def dateText (d : Date) : String :=
  let (year, month, day) := d.toYmd
  let yearText :=
    if 0 ≤ year ∧ year ≤ 9999 then padded 4 year.toNat
    else (if year < 0 then "-" else "+") ++ padded 4 year.natAbs
  yearText ++ "-" ++ padded 2 month ++ "-" ++ padded 2 day

example : dateText (Date.ofYmd 2024 2 29) = "2024-02-29" := by decide

end Datasynth.Lib.DecimalText

/-!
Texts that need no quotes in a file of comma-separated values: numbers, decimals with a fixed
number of places, dates and times, bytes in hexadecimal.
-/

namespace Datasynth.Lib.BareTexts

open Datasynth.Lib.ByteEncoding
open Datasynth.Lib.CivilCalendar
open Datasynth.Lib.CsvFormat
open Datasynth.Lib.DecimalText

/-- A text of which no character ends a field or opens one. -/
structure BareText where
  chars : List Char
  bare : ∀ c ∈ chars, isBare c = true

namespace BareText

def empty : BareText := ⟨[], fun _ h => absurd h List.not_mem_nil⟩

def append (a b : BareText) : BareText :=
  ⟨a.chars ++ b.chars, fun c hc => (List.mem_append.mp hc).elim (a.bare c) (b.bare c)⟩

instance : Append BareText := ⟨append⟩

def ofOption (text? : Option BareText) : BareText := text?.getD empty

end BareText

section Numbers

theorem isBare_of_isDigit {c : Char} (h : c.isDigit = true) : isBare c = true := by
  by_contra hc
  have hcases : c = ',' ∨ c = quoteChar ∨ c = '\n' ∨ c = '\r' := by
    by_contra hne
    simp only [not_or] at hne
    exact hc (decide_eq_true hne)
  obtain rfl | rfl | rfl | rfl := hcases
  · exact absurd h (by decide)
  · exact absurd h (by decide)
  · exact absurd h (by decide)
  · exact absurd h (by decide)

theorem isDigit_of_mem_paddedDigits {width n : ℕ} {c : Char} (h : c ∈ paddedDigits width n) :
    c.isDigit = true := by
  rw [paddedDigits, List.mem_append] at h
  obtain h | h := h
  · rw [List.eq_of_mem_replicate h]
    rfl
  · exact Nat.isDigit_of_mem_toDigits (Nat.succ_pos 9) (Nat.le_refl 10) h

def natText (n : ℕ) : BareText where
  chars := Nat.toDigits 10 n
  bare _ h := isBare_of_isDigit (Nat.isDigit_of_mem_toDigits (Nat.succ_pos 9) (Nat.le_refl 10) h)

def paddedText (width n : ℕ) : BareText where
  chars := paddedDigits width n
  bare _ h := isBare_of_isDigit (isDigit_of_mem_paddedDigits h)

/-- A decimal with `scale` digits behind its point, as a sign and a coefficient. -/
structure ScaledDecimal where
  negative : Bool
  coefficient : ℕ
  scale : ℕ
deriving DecidableEq

def minusText : BareText := ⟨['-'], List.all_eq_true.mp (by decide)⟩

def plusText : BareText := ⟨['+'], List.all_eq_true.mp (by decide)⟩

def pointText : BareText := ⟨['.'], List.all_eq_true.mp (by decide)⟩

def colonText : BareText := ⟨[':'], List.all_eq_true.mp (by decide)⟩

def spaceText : BareText := ⟨[' '], List.all_eq_true.mp (by decide)⟩

def ScaledDecimal.magnitudeText (d : ScaledDecimal) : BareText :=
  natText (d.coefficient / 10 ^ d.scale) ++
    if d.scale = 0 then BareText.empty
    else pointText ++ paddedText d.scale (d.coefficient % 10 ^ d.scale)

def ScaledDecimal.toText (d : ScaledDecimal) : BareText :=
  if d.negative then minusText ++ d.magnitudeText else d.magnitudeText

end Numbers

section Dates

def yearText (year : ℤ) : BareText :=
  if 0 ≤ year ∧ year ≤ 9999 then paddedText 4 year.toNat
  else (if year < 0 then minusText else plusText) ++ paddedText 4 year.natAbs

def isoDateText (d : Date) : BareText :=
  yearText d.year ++ minusText ++ paddedText 2 d.month ++ minusText ++ paddedText 2 d.day

/-- A point in time of the UTC calendar, to the nanosecond.  In a leap second the nanoseconds
are a full second or more. -/
structure UtcTime where
  date : Date
  secondOfDay : ℕ
  nanosecond : ℕ

/-- The digits behind the seconds: none, or three, six or nine of them. -/
def fractionText (nanosecond : ℕ) : BareText :=
  if nanosecond = 0 then BareText.empty
  else if nanosecond % 1000000 = 0 then pointText ++ paddedText 3 (nanosecond / 1000000)
  else if nanosecond % 1000 = 0 then pointText ++ paddedText 6 (nanosecond / 1000)
  else pointText ++ paddedText 9 nanosecond

def utcText : BareText := ⟨" UTC".toList, List.all_eq_true.mp (by decide)⟩

def UtcTime.toText (t : UtcTime) : BareText :=
  isoDateText t.date ++ spaceText ++ paddedText 2 (t.secondOfDay / 3600) ++ colonText ++
    paddedText 2 (t.secondOfDay / 60 % 60) ++ colonText ++
    paddedText 2 (t.secondOfDay % 60 + t.nanosecond / 10 ^ 9) ++
    fractionText (t.nanosecond % 10 ^ 9) ++ utcText

end Dates

section Bytes

theorem isBare_hexDigit : ∀ n < 16, isBare (hexDigit n) = true := by decide

theorem isBare_of_mem_hexEncode {bytes : List Byte} {c : Char} (h : c ∈ hexEncode bytes) :
    isBare c = true := by
  rw [hexEncode, List.mem_flatMap] at h
  obtain ⟨b, -, hc⟩ := h
  have hb := b.isLt
  rw [List.mem_cons, List.mem_singleton] at hc
  obtain rfl | rfl := hc
  · exact isBare_hexDigit _ (by omega)
  · exact isBare_hexDigit _ (by omega)

def hexText (bytes : List Byte) : BareText :=
  ⟨hexEncode bytes, fun _ => isBare_of_mem_hexEncode⟩

/-- Sixteen bytes in groups of 4, 2, 2, 2 and 6. -/
def uuidText (bytes : List Byte) : BareText :=
  hexText (bytes.take 4) ++ minusText ++ hexText ((bytes.drop 4).take 2) ++ minusText ++
    hexText ((bytes.drop 6).take 2) ++ minusText ++ hexText ((bytes.drop 8).take 2) ++
    minusText ++ hexText (bytes.drop 10)

end Bytes

end Datasynth.Lib.BareTexts

/-!
Amounts as texts of two decimal places, and what such a text stands for.
-/

namespace Datasynth.Lib.AmountText

open Datasynth.Lib.BareTexts
open Datasynth.Lib.DecimalText

/-- The number a decimal stands for. -/
def value (d : ScaledDecimal) : ℚ :=
  let magnitude := (d.coefficient : ℚ) / ((10 ^ d.scale : ℕ) : ℚ)
  if d.negative then -magnitude else magnitude

/-- The hundredths of a decimal; what is behind them is cut off. -/
def hundredths (d : ScaledDecimal) : ℕ := d.coefficient * 100 / 10 ^ d.scale

/-- `{:.2}` -/
def twoPlaces (d : ScaledDecimal) : List Char :=
  (if d.negative then ['-'] else []) ++
    (Nat.toDigits 10 (hundredths d / 100) ++ '.' :: paddedDigits 2 (hundredths d % 100))

/-- Nothing of the decimal is behind its hundredths. -/
def AtMostTwoDecimals (d : ScaledDecimal) : Prop := 10 ^ d.scale ∣ d.coefficient * 100

/-- Digits, and a point and more digits or not. -/
def readMagnitude (text : List Char) : Option ℚ :=
  let whole := text.takeWhile Char.isDigit
  if whole = [] then none
  else
    match text.dropWhile Char.isDigit with
    | [] => some (Nat.ofDigitChars 10 whole 0 : ℕ)
    | '.' :: fraction =>
        if fraction.all Char.isDigit then
          some (Nat.ofDigitChars 10 whole 0 +
            Nat.ofDigitChars 10 fraction 0 / ((10 ^ fraction.length : ℕ) : ℚ))
        else none
    | _ => none

/-- The number a text stands for, with a sign before it or not. -/
def readAmount (text : List Char) : Option ℚ :=
  if text.head? = some '-' then (readMagnitude text.tail).map fun x => -x
  else readMagnitude text

theorem isDigit_of_mem_toDigits {n : ℕ} {c : Char} (h : c ∈ Nat.toDigits 10 n) :
    c.isDigit = true :=
  Nat.isDigit_of_mem_toDigits (Nat.succ_pos 9) (Nat.le_refl 10) h

theorem toDigits_ne_nil (n : ℕ) : Nat.toDigits 10 n ≠ [] :=
  List.ne_nil_of_length_pos Nat.length_toDigits_pos

theorem takeWhile_toDigits (n : ℕ) (rest : List Char)
    (hrest : ∀ c ∈ rest.head?, c.isDigit = false) :
    (Nat.toDigits 10 n ++ rest).takeWhile Char.isDigit = Nat.toDigits 10 n ∧
      (Nat.toDigits 10 n ++ rest).dropWhile Char.isDigit = rest := by
  have hdigits : ∀ c ∈ Nat.toDigits 10 n, c.isDigit = true := fun c => isDigit_of_mem_toDigits
  rw [List.takeWhile_append_of_pos hdigits, List.dropWhile_append_of_pos hdigits]
  cases rest with
  | nil => exact ⟨List.append_nil _, rfl⟩
  | cons c rest =>
      have hc : c.isDigit = false := hrest c rfl
      rw [List.takeWhile_cons_of_neg (by simp [hc]), List.dropWhile_cons_of_neg (by simp [hc])]
      exact ⟨List.append_nil _, rfl⟩

theorem readMagnitude_whole (whole : ℕ) :
    readMagnitude (Nat.toDigits 10 whole) = some (whole : ℚ) := by
  obtain ⟨htake, hdrop⟩ := takeWhile_toDigits whole [] (fun _ h => by cases h)
  rw [List.append_nil] at htake hdrop
  rw [readMagnitude, htake, hdrop, if_neg (toDigits_ne_nil whole), Nat.ofDigitChars_ten_toDigits]

theorem readMagnitude_digits (whole : ℕ) {fraction : List Char}
    (hfraction : ∀ c ∈ fraction, c.isDigit = true) :
    readMagnitude (Nat.toDigits 10 whole ++ '.' :: fraction) =
      some (whole + Nat.ofDigitChars 10 fraction 0 / ((10 ^ fraction.length : ℕ) : ℚ)) := by
  have hpoint : ∀ c ∈ ('.' :: fraction).head?, c.isDigit = false := by
    intro c hc
    cases hc
    decide
  obtain ⟨htake, hdrop⟩ := takeWhile_toDigits whole _ hpoint
  rw [readMagnitude, htake, hdrop, if_neg (toDigits_ne_nil whole), Nat.ofDigitChars_ten_toDigits]
  exact if_pos (List.all_eq_true.mpr hfraction)

theorem length_paddedDigits {width n : ℕ} (hwidth : 0 < width) (hn : n < 10 ^ width) :
    (paddedDigits width n).length = width := by
  have hlength : (Nat.toDigits 10 n).length ≤ width :=
    (Nat.length_toDigits_le_iff (by decide) hwidth).mpr hn
  rw [paddedDigits, List.length_append, List.length_replicate]
  omega

/-- The digits of a coefficient before and behind its point. -/
theorem readMagnitude_scaled (scale : ℕ) (hscale : 0 < scale) (n : ℕ) :
    readMagnitude (Nat.toDigits 10 (n / 10 ^ scale) ++
        '.' :: paddedDigits scale (n % 10 ^ scale)) =
      some ((n : ℚ) / ((10 ^ scale : ℕ) : ℚ)) := by
  have hlt : n % 10 ^ scale < 10 ^ scale := Nat.mod_lt n (by positivity)
  have hpos : ((10 ^ scale : ℕ) : ℚ) ≠ 0 := Nat.cast_ne_zero.mpr (by positivity)
  have hsplit : (n : ℚ) =
      ((10 ^ scale : ℕ) : ℚ) * ((n / 10 ^ scale : ℕ) : ℚ) + ((n % 10 ^ scale : ℕ) : ℚ) := by
    exact_mod_cast (Nat.div_add_mod n (10 ^ scale)).symm
  rw [readMagnitude_digits _ fun c hc => isDigit_of_mem_paddedDigits hc,
    ofDigitChars_paddedDigits, length_paddedDigits hscale hlt]
  congr 1
  rw [eq_div_iff hpos, add_mul, div_mul_cancel₀ _ hpos, hsplit]
  ring

theorem head?_ne_of_readMagnitude {text : List Char} {x : ℚ} (h : readMagnitude text = some x) :
    text.head? ≠ some '-' := by
  intro hminus
  cases text with
  | nil => cases hminus
  | cons c text =>
      obtain rfl : c = '-' := Option.some.inj hminus
      rw [readMagnitude, List.takeWhile_cons_of_neg (by decide)] at h
      cases h

theorem readAmount_signed (negative : Bool) {text : List Char} {x : ℚ}
    (h : readMagnitude text = some x) :
    readAmount ((if negative then ['-'] else []) ++ text) =
      some (if negative then -x else x) := by
  rw [readAmount]
  cases negative with
  | false =>
      rw [if_neg Bool.false_ne_true, List.nil_append, if_neg (head?_ne_of_readMagnitude h), h]
      rfl
  | true =>
      rw [if_pos rfl, List.singleton_append, if_pos (List.head?_cons ..), List.tail_cons, h]
      rfl

/-- An amount with at most two decimals is read back from its text. -/
theorem readAmount_twoPlaces {d : ScaledDecimal} (h : AtMostTwoDecimals d) :
    readAmount (twoPlaces d) = some (value d) := by
  have hexact : (hundredths d : ℚ) / ((10 ^ 2 : ℕ) : ℚ) =
      d.coefficient / ((10 ^ d.scale : ℕ) : ℚ) := by
    have hpos : ((10 ^ d.scale : ℕ) : ℚ) ≠ 0 := Nat.cast_ne_zero.mpr (by positivity)
    have hdiv : hundredths d * 10 ^ d.scale = d.coefficient * 100 := Nat.div_mul_cancel h
    rw [div_eq_div_iff (by norm_num) hpos]
    exact_mod_cast hdiv
  have hread := readMagnitude_scaled 2 (by decide) (hundredths d)
  rw [hexact] at hread
  exact readAmount_signed d.negative hread

/-- Every decimal is read back from its text with all its places. -/
theorem readAmount_toText (d : ScaledDecimal) : readAmount d.toText.chars = some (value d) := by
  have hmagnitude : readMagnitude d.magnitudeText.chars =
      some ((d.coefficient : ℚ) / ((10 ^ d.scale : ℕ) : ℚ)) := by
    cases hscale : d.scale with
    | zero =>
        have hchars : d.magnitudeText.chars = Nat.toDigits 10 d.coefficient := by
          rw [ScaledDecimal.magnitudeText, hscale, if_pos rfl, pow_zero, Nat.div_one]
          exact List.append_nil _
        rw [hchars, readMagnitude_whole, pow_zero, Nat.cast_one, div_one]
    | succ scale =>
        have hchars : d.magnitudeText.chars = Nat.toDigits 10 (d.coefficient / 10 ^ (scale + 1)) ++
            '.' :: paddedDigits (scale + 1) (d.coefficient % 10 ^ (scale + 1)) := by
          rw [ScaledDecimal.magnitudeText, hscale, if_neg (Nat.succ_ne_zero scale)]
          rfl
        rw [hchars, readMagnitude_scaled (scale + 1) (Nat.succ_pos scale)]
  have hchars : d.toText.chars =
      (if d.negative then ['-'] else []) ++ d.magnitudeText.chars := by
    rw [ScaledDecimal.toText]
    split <;> rfl
  rw [hchars]
  exact readAmount_signed d.negative hmagnitude

end Datasynth.Lib.AmountText

/-!
Sums of decimals at the larger of their scales, and what they stand for.
-/

namespace Datasynth.Lib.ScaledSums

open Datasynth.Lib.AmountText
open Datasynth.Lib.BareTexts

def zero : ScaledDecimal := ⟨false, 0, 0⟩

/-- The coefficient with its sign, at a scale no smaller than that of the decimal. -/
def numeratorAt (scale : ℕ) (d : ScaledDecimal) : ℤ :=
  let coefficient := (d.coefficient : ℤ) * 10 ^ (scale - d.scale)
  if d.negative then -coefficient else coefficient

def ofNumerator (scale : ℕ) (n : ℤ) : ScaledDecimal := ⟨n < 0, n.natAbs, scale⟩

/-- A zero leaves the other decimal as it is. -/
def add (a b : ScaledDecimal) : ScaledDecimal :=
  if a.coefficient = 0 then b
  else if b.coefficient = 0 then a
  else
    let scale := max a.scale b.scale
    ofNumerator scale (numeratorAt scale a + numeratorAt scale b)

theorem value_eq_numeratorAt {scale : ℕ} {d : ScaledDecimal} (h : d.scale ≤ scale) :
    value d = (numeratorAt scale d : ℚ) / 10 ^ scale := by
  have hpow : (10 : ℚ) ^ scale = 10 ^ (scale - d.scale) * 10 ^ d.scale := by
    rw [← pow_add, Nat.sub_add_cancel h]
  have hmagnitude : (d.coefficient : ℚ) / ((10 ^ d.scale : ℕ) : ℚ) =
      (d.coefficient * 10 ^ (scale - d.scale)) / 10 ^ scale := by
    rw [hpow, mul_comm ((10 : ℚ) ^ (scale - d.scale)), mul_div_mul_right _ _ (by positivity)]
    push_cast
    rfl
  rw [value, numeratorAt, hmagnitude]
  cases d.negative with
  | false => simp
  | true =>
      simp only [if_true]
      push_cast
      ring

theorem value_ofNumerator (scale : ℕ) (n : ℤ) : value (ofNumerator scale n) = n / 10 ^ scale := by
  rw [value_eq_numeratorAt (Nat.le_refl _), ofNumerator, numeratorAt]
  simp only [decide_eq_true_eq, Nat.sub_self, pow_zero, mul_one]
  congr 2
  split <;> omega

theorem value_of_coefficient_eq_zero {d : ScaledDecimal} (h : d.coefficient = 0) : value d = 0 := by
  simp [value, h]

theorem value_add (a b : ScaledDecimal) : value (add a b) = value a + value b := by
  rw [add]
  split_ifs with ha hb
  · rw [value_of_coefficient_eq_zero ha, zero_add]
  · rw [value_of_coefficient_eq_zero hb, add_zero]
  · rw [value_ofNumerator, value_eq_numeratorAt (Nat.le_max_left a.scale b.scale),
      value_eq_numeratorAt (Nat.le_max_right a.scale b.scale)]
    push_cast
    ring

/-- A sum that is run up from zero stands for the sum of what its terms stand for. -/
theorem value_foldl_add {α : Type*} (amount : α → ScaledDecimal) (xs : List α)
    (total : ScaledDecimal) :
    value (xs.foldl (fun total x => add total (amount x)) total) =
      value total + (xs.map fun x => value (amount x)).sum := by
  induction xs generalizing total with
  | nil => simp
  | cons x xs ih => rw [List.foldl_cons, ih, value_add, List.map_cons, List.sum_cons, add_assoc]

end Datasynth.Lib.ScaledSums
