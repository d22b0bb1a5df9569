import Datasynth.Lib.JsonTexts
import Mathlib.Algebra.Group.Nat.Defs

/-!
Picking a JSON value out of the text around it by counting brackets.  The count also takes in the
brackets that stand in strings, so that the value found need not be the one that is there.
-/

namespace Datasynth.Core.JsonFragments

open Datasynth.Lib.JsonTexts

/-- The loop over the characters, up to the closing one that takes the depth to zero. -/
def balancedLoop (opening closing : Char) : Int32 → ℕ → List Char → Option ℕ
  | _, _, [] => none
  | depth, i, ch :: rest =>
      if ch = opening then balancedLoop opening closing (depth + 1) (i + 1) rest
      else if ch = closing then
        if depth - 1 = 0 then some i else balancedLoop opening closing (depth - 1) (i + 1) rest
      else balancedLoop opening closing depth (i + 1) rest

def extract_balanced (content : List Char) (opening closing : Char) : Option (List Char) :=
  match content.dropWhile (· ≠ opening) with
  | [] => none
  | start :: rest =>
      (balancedLoop opening closing 0 0 (start :: rest)).map fun i => (start :: rest).take (i + 1)

def extract_json_object (content : List Char) : Option (List Char) :=
  extract_balanced content '{' '}'

def extract_json_array (content : List Char) : Option (List Char) :=
  extract_balanced content '[' ']'

section Counting

variable (opening closing : Char)

/-- What a character does to the depth. -/
def change (c : Char) : ℤ := if c = opening then 1 else if c = closing then -1 else 0

/-- The depth is zero, as far as the machine counts. -/
def IsZero (depth : ℤ) : Prop := (2 ^ 32 : ℤ) ∣ depth

instance decidableIsZero : DecidablePred IsZero := fun depth =>
  inferInstanceAs (Decidable ((2 ^ 32 : ℤ) ∣ depth))

theorem ofInt_eq_zero_iff (depth : ℤ) : Int32.ofInt depth = 0 ↔ IsZero depth := by
  rw [← Int32.toInt_inj, Int32.toInt_ofInt, IsZero]
  exact Int.dvd_iff_bmod_eq_zero.symm

/-- The text ends with a closing bracket at depth zero. -/
def Closes (depth : ℤ) (t : List Char) : Prop :=
  t.getLast? = some closing ∧ IsZero (depth + total (change opening closing) t)

variable {opening closing} {depth : ℤ} {c : Char} {o t : List Char} {i j : ℕ}

theorem not_closes_nil : ¬ Closes opening closing depth [] := by
  rintro ⟨hlast, -⟩
  cases hlast

theorem closes_singleton : Closes opening closing depth [c] ↔
    c = closing ∧ IsZero (depth + change opening closing c) := by
  rw [Closes, total, total, add_zero, List.getLast?_singleton, Option.some.injEq]

theorem closes_cons (ho : o ≠ []) : Closes opening closing depth (c :: o) ↔
    Closes opening closing (depth + change opening closing c) o := by
  obtain ⟨d, o, rfl⟩ := List.exists_cons_of_ne_nil ho
  rw [Closes, Closes, total, add_assoc, List.getLast?_cons_cons]

theorem balancedLoop_cons (hne : opening ≠ closing) :
    balancedLoop opening closing (Int32.ofInt depth) i (c :: t) =
      if c = closing ∧ IsZero (depth + change opening closing c) then some i
      else balancedLoop opening closing (Int32.ofInt (depth + change opening closing c))
        (i + 1) t := by
  rw [balancedLoop, change]
  by_cases hopen : c = opening
  · have hclose : ¬ c = closing := fun h => hne (hopen.symm.trans h)
    rw [if_pos hopen, if_pos hopen, if_neg (fun h => hclose h.1), Int32.ofInt_add]
    rfl
  · rw [if_neg hopen, if_neg hopen]
    by_cases hclose : c = closing
    · have hdepth : Int32.ofInt depth - 1 = Int32.ofInt (depth + -1) := by
        rw [← sub_eq_add_neg, Int32.ofInt_sub]
        rfl
      rw [if_pos hclose, if_pos hclose, hdepth]
      simp only [ofInt_eq_zero_iff, hclose, true_and]
    · rw [if_neg hclose, if_neg hclose, if_neg (fun h => hclose h.1), add_zero]

/-- The loop stops at the first closing bracket that takes the depth to zero. -/
theorem balancedLoop_eq_some_iff (hne : opening ≠ closing) :
    balancedLoop opening closing (Int32.ofInt depth) i t = some j ↔
      ∃ o rest, t = o ++ rest ∧ j + 1 = i + o.length ∧ Closes opening closing depth o ∧
        ∀ u v, o = u ++ v → v ≠ [] → ¬ Closes opening closing depth u := by
  induction t generalizing depth i with
  | nil =>
      constructor
      · intro h
        cases h
      · rintro ⟨o, rest, h, -, hclose, -⟩
        rw [(List.append_eq_nil_iff.mp h.symm).1] at hclose
        exact absurd hclose not_closes_nil
  | cons c t ih =>
      rw [balancedLoop_cons hne]
      by_cases hnow : c = closing ∧ IsZero (depth + change opening closing c)
      · rw [if_pos hnow, Option.some.injEq]
        have hsingle := closes_singleton.mpr hnow
        constructor
        · rintro rfl
          refine ⟨[c], t, rfl, rfl, hsingle, fun u v h hv => ?_⟩
          cases u with
          | nil => exact not_closes_nil
          | cons d u =>
              rw [List.cons_append, List.cons.injEq] at h
              exact absurd (List.append_eq_nil_iff.mp h.2.symm).2 hv
        · rintro ⟨o, rest, h, hlength, hclose, hfirst⟩
          cases o with
          | nil => exact absurd hclose not_closes_nil
          | cons d o =>
              rw [List.cons_append, List.cons.injEq] at h
              obtain ⟨rfl, -⟩ := h
              have ho : o = [] := by
                by_contra ho
                exact hfirst [c] o rfl ho hsingle
              rw [ho, List.length_singleton] at hlength
              omega
      · rw [if_neg hnow, ih]
        constructor
        · rintro ⟨o, rest, rfl, hlength, hclose, hfirst⟩
          have ho : o ≠ [] := by
            rintro rfl
            exact not_closes_nil hclose
          refine ⟨c :: o, rest, rfl, ?_, (closes_cons ho).mpr hclose, fun u v h hv => ?_⟩
          · rw [List.length_cons]
            omega
          · cases u with
            | nil => exact not_closes_nil
            | cons d u =>
                rw [List.cons_append, List.cons.injEq] at h
                obtain ⟨rfl, h⟩ := h
                by_cases hu : u = []
                · rw [hu, closes_singleton]
                  exact hnow
                · rw [closes_cons hu]
                  exact hfirst u v h hv
        · rintro ⟨o, rest, h, hlength, hclose, hfirst⟩
          cases o with
          | nil => exact absurd hclose not_closes_nil
          | cons d o =>
              rw [List.cons_append, List.cons.injEq] at h
              obtain ⟨rfl, h⟩ := h
              have ho : o ≠ [] := by
                rintro rfl
                exact hnow (closes_singleton.mp hclose)
              rw [List.length_cons] at hlength
              refine ⟨o, rest, h, by omega, (closes_cons ho).mp hclose, fun u v huv hv => ?_⟩
              by_cases hu : u = []
              · rw [hu]
                exact not_closes_nil
              · rw [← closes_cons hu]
                exact hfirst (c :: u) v (congrArg (c :: ·) huv) hv

end Counting

section Extracting

variable {opening closing : Char} {before o after : List Char}

theorem extract_balanced_eq_some_iff (hne : opening ≠ closing) (hbefore : opening ∉ before)
    (ho : o.head? = some opening) :
    extract_balanced (before ++ o ++ after) opening closing = some o ↔
      Closes opening closing 0 o ∧
        ∀ u v, o = u ++ v → v ≠ [] → ¬ Closes opening closing 0 u := by
  obtain ⟨rest, rfl⟩ := List.head?_eq_some_iff.mp ho
  have hstart : (before ++ opening :: rest ++ after).dropWhile (· ≠ opening) =
      opening :: (rest ++ after) := by
    rw [List.append_assoc, List.dropWhile_append_of_pos]
    · exact List.dropWhile_cons_of_neg (by simp)
    · intro c hc
      rw [decide_eq_true_eq]
      rintro rfl
      exact hbefore hc
  have hloop : ∀ i, balancedLoop opening closing (Int32.ofInt 0) 0
      (opening :: (rest ++ after)) = some i ↔ _ := fun i => balancedLoop_eq_some_iff hne
  rw [extract_balanced, hstart]
  dsimp only
  rw [Option.map_eq_some_iff]
  constructor
  · rintro ⟨i, hi, htake⟩
    obtain ⟨o, tail, hsplit, hlength, hclose, hfirst⟩ := (hloop i).mp hi
    rw [hlength, Nat.zero_add, hsplit, List.take_left] at htake
    rw [← htake]
    exact ⟨hclose, hfirst⟩
  · rintro ⟨hclose, hfirst⟩
    refine ⟨rest.length, (hloop rest.length).mpr ⟨opening :: rest, after, rfl, ?_, hclose,
      hfirst⟩, ?_⟩
    · rw [List.length_cons, Nat.zero_add]
    · show (opening :: rest ++ after).take (opening :: rest).length = opening :: rest
      exact List.take_left

/-- The brackets in strings do not get in the way: there are as many closing as opening ones,
and no closing bracket before the last makes up for all the opening ones before it. -/
structure StringsKeepDepth (opening closing : Char) (o : List Char) : Prop where
  even : IsZero (inStrings (change opening closing) .outside o)
  deep : ∀ u v, o = u ++ v → v ≠ [] → u.getLast? = some closing →
    ¬ IsZero (nesting (change opening closing) .outside u +
      inStrings (change opening closing) .outside u)

theorem closes_iff_stringsKeepDepth (hlast : o.getLast? = some closing)
    (hnested : nesting (change opening closing) .outside o = 0) :
    (Closes opening closing 0 o ∧ ∀ u v, o = u ++ v → v ≠ [] → ¬ Closes opening closing 0 u) ↔
      StringsKeepDepth opening closing o := by
  have hcount : ∀ u, Closes opening closing 0 u ↔ u.getLast? = some closing ∧
      IsZero (nesting (change opening closing) .outside u +
        inStrings (change opening closing) .outside u) := by
    intro u
    rw [Closes, zero_add, nesting_add_inStrings]
  have hwhole := hcount o
  rw [hnested, zero_add] at hwhole
  simp only [hwhole, hcount]
  constructor
  · rintro ⟨⟨-, heven⟩, hdeep⟩
    exact ⟨heven, fun u v h hv hu hzero => hdeep u v h hv ⟨hu, hzero⟩⟩
  · rintro ⟨heven, hdeep⟩
    exact ⟨⟨hlast, heven⟩, fun u v h hv hu => hdeep u v h hv hu.1 hu.2⟩

theorem bracketWeight_object : BracketWeight (change '{' '}') where
  brace := by decide
  brace_close := by decide
  bracket := by decide
  bracket_close := by decide
  other c hopen hclose _ _ := by rw [change, if_neg hopen, if_neg hclose]

theorem bracketWeight_array : BracketWeight (change '[' ']') where
  brace := by decide
  brace_close := by decide
  bracket := by decide
  bracket_close := by decide
  other c _ _ hopen hclose := by rw [change, if_neg hopen, if_neg hclose]

theorem extract_json_object_iff (ho : Derives .object o) (hbefore : '{' ∉ before) :
    extract_json_object (before ++ o ++ after) = some o ↔ StringsKeepDepth '{' '}' o := by
  have hnested := (ho.nested bracketWeight_object).nesting_eq
  obtain ⟨inner, rfl, -⟩ := ho.object_inner bracketWeight_object
  rw [extract_json_object, extract_balanced_eq_some_iff (by decide) hbefore rfl,
    closes_iff_stringsKeepDepth (by rw [← List.cons_append, List.getLast?_concat]) hnested]

theorem extract_json_array_iff (ho : Derives .array o) (hbefore : '[' ∉ before) :
    extract_json_array (before ++ o ++ after) = some o ↔ StringsKeepDepth '[' ']' o := by
  have hnested := (ho.nested bracketWeight_array).nesting_eq
  obtain ⟨inner, rfl, -⟩ := ho.array_inner bracketWeight_array
  rw [extract_json_array, extract_balanced_eq_some_iff (by decide) hbefore rfl,
    closes_iff_stringsKeepDepth (by rw [← List.cons_append, List.getLast?_concat]) hnested]

/-- The fragments are found in every text around them exactly if their strings keep the depth. -/
structure FragmentsFound (o : List Char) : Prop where
  object : Derives .object o → ∀ before after, '{' ∉ before →
    (extract_json_object (before ++ o ++ after) = some o ↔ StringsKeepDepth '{' '}' o)
  array : Derives .array o → ∀ before after, '[' ∉ before →
    (extract_json_array (before ++ o ++ after) = some o ↔ StringsKeepDepth '[' ']' o)

theorem fragments_found (o : List Char) : FragmentsFound o where
  object ho _ _ hbefore := extract_json_object_iff ho hbefore
  array ho _ _ hbefore := extract_json_array_iff ho hbefore

end Extracting

/-- An object whose only string member is a closing brace. -/
def braceInString : List Char := ['{', '\x22', 'a', '\x22', ':', '\x22', '}', '\x22', '}']

theorem braceInString_derives : Derives .object braceInString := by
  have hspaces : IsSpaces [] := fun c hc => absurd hc List.not_mem_nil
  have hkey : IsString ['\x22', 'a', '\x22'] :=
    .quoted (.char (by decide) (by decide) (by decide) .nil)
  have htext : IsString ['\x22', '}', '\x22'] :=
    .quoted (.char (by decide) (by decide) (by decide) .nil)
  exact .membersObject (.lastMember
    (.member hspaces hkey hspaces (.element hspaces (.string htext) hspaces)))

theorem brace_in_string_ends_object :
    ¬ ∀ o, Derives .object o → ∀ before after, '{' ∉ before →
      extract_json_object (before ++ o ++ after) = some o := by
  intro h
  have hwhole := h braceInString braceInString_derives [] [] List.not_mem_nil
  exact absurd hwhole (by decide)

end Datasynth.Core.JsonFragments
